import Stencil.Bytes

/-! Patterns that texts are matched with: the wildcards of a shell and basic regular expressions. -/
namespace Stencil.Shell

/-- A set of bytes, by ranges. -/
structure ByteSet where
  negated : Bool := false
  ranges : List (UInt8 × UInt8)
  deriving DecidableEq, Repr

namespace ByteSet

def contains (s : ByteSet) (c : UInt8) : Bool :=
  s.negated != s.ranges.any fun (lo, hi) => lo ≤ c && c ≤ hi

/-- The ranges of a named class. -/
def named? (name : Bytes) : Option (List (UInt8 × UInt8)) :=
  ([("upper", [(0x41, 0x5A)]), ("lower", [(0x61, 0x7A)]), ("digit", [(0x30, 0x39)]),
    ("alpha", [(0x41, 0x5A), (0x61, 0x7A)]), ("alnum", [(0x30, 0x39), (0x41, 0x5A), (0x61, 0x7A)]),
    ("space", [(0x09, 0x0D), (0x20, 0x20)]), ("blank", [(0x09, 0x09), (0x20, 0x20)]),
    ("punct", [(0x21, 0x2F), (0x3A, 0x40), (0x5B, 0x60), (0x7B, 0x7E)]),
    ("cntrl", [(0x00, 0x1F), (0x7F, 0x7F)]), ("print", [(0x20, 0x7E)]), ("graph", [(0x21, 0x7E)]),
    ("xdigit", [(0x30, 0x39), (0x41, 0x46), (0x61, 0x66)])].map
    fun (n, r) => (Bytes.ofString n, r)).lookup name

/-- Reads the members of a set up to its closing bracket. The fuel bounds their number. -/
def members : (fuel : Nat) → (first : Bool) → Bytes → Option (List (UInt8 × UInt8) × Bytes)
  | 0, _, _ => none
  | _ + 1, _, [] => none
  | fuel + 1, first, c :: rest =>
    if c == 0x5D && !first then some ([], rest)
    else if c == 0x5B && rest.head? == some 0x3A then do
      let (name, rest) ← Bytes.cut? ":]" rest.tail
      let (more, rest) ← members fuel false rest
      return ((← named? name) ++ more, rest)
    else match rest with
      | 0x2D :: d :: after =>
        if d == 0x5D then (members fuel false rest).map fun (more, rest) => ((c, c) :: more, rest)
        else (members fuel false after).map fun (more, rest) => ((c, d) :: more, rest)
      | _ => (members fuel false rest).map fun (more, rest) => ((c, c) :: more, rest)

/-- Reads a set from after its opening bracket. -/
def read (b : Bytes) : Option (ByteSet × Bytes) :=
  let (negated, b) := match b with
    | 0x5E :: rest | 0x21 :: rest => (true, rest)
    | _ => (false, b)
  (members (b.length + 1) true b).map fun (ranges, rest) => (⟨negated, ranges⟩, rest)

end ByteSet

/-- One element of a pattern with wildcards. -/
inductive Wildcard where
  | byte (c : UInt8)
  | one
  | many
  | set (s : ByteSet)
  deriving DecidableEq, Repr

namespace Wildcard

/-- A pattern from bytes and the flags that tell which of them are quoted. The fuel bounds the
length. -/
def compile : (fuel : Nat) → List (UInt8 × Bool) → List Wildcard
  | 0, _ => []
  | _ + 1, [] => []
  | fuel + 1, (c, quoted) :: rest =>
    if quoted then .byte c :: compile fuel rest
    else if c == 0x2A then .many :: compile fuel rest
    else if c == 0x3F then .one :: compile fuel rest
    else if c == 0x5B then
      match ByteSet.read (rest.map (·.1)) with
      | some (s, after) => .set s :: compile fuel (rest.drop (rest.length - after.length))
      | none => .byte c :: compile fuel rest
    else .byte c :: compile fuel rest

/-- Whether a text matches as a whole. -/
def isMatch : List Wildcard → Bytes → Bool
  | [], text => text.isEmpty
  | .byte c :: rest, text => text.head? == some c && isMatch rest text.tail
  | .one :: rest, text => !text.isEmpty && isMatch rest text.tail
  | .set s :: rest, text => text.head?.any s.contains && isMatch rest text.tail
  | .many :: rest, text =>
    (List.range (text.length + 1)).any fun n => isMatch rest (text.drop n)

end Wildcard

/-- What one byte of a text has to be. -/
inductive OneByte where
  | byte (c : UInt8)
  | any
  | set (s : ByteSet)
  deriving DecidableEq, Repr

def OneByte.matches : OneByte → UInt8 → Bool
  | .byte c, d => c == d
  | .any, d => d != 0x0A
  | .set s, d => s.contains d

/-- One element of a basic regular expression. -/
inductive RegexItem where
  /-- A byte, repeated from `least` to `most` times. -/
  | unit (u : OneByte) (least : Nat) (most : Option Nat)
  | opening (group : Nat)
  | closing (group : Nat)
  | reference (group : Nat)
  | lineStart
  | lineEnd
  deriving DecidableEq, Repr

/-- A match: what follows it, and the texts of the groups. -/
structure RegexMatch where
  rest : Bytes
  groups : List (Nat × Bytes)
  deriving DecidableEq, Repr

namespace RegexItem

/-- Reads a repetition after a unit. -/
def readCount (b : Bytes) : Nat × Option Nat × Bytes :=
  match b with
  | 0x2A :: rest => (0, none, rest)
  | 0x5C :: 0x2B :: rest => (1, none, rest)
  | 0x5C :: 0x3F :: rest => (0, some 1, rest)
  | _ => (1, some 1, b)

/-- One byte with the count after it, in front of the items that `next` reads from the rest. -/
def item (next : Bytes → Option (List RegexItem)) (u : OneByte) (rest : Bytes) :
    Option (List RegexItem) := do
  let (least, most, rest) := readCount rest
  return .unit u least most :: (← next rest)

/-- Reads a basic regular expression. The fuel bounds its length. -/
def read : (fuel : Nat) → (first : Bool) → (groups : Nat) → (stack : List Nat) → Bytes →
    Option (List RegexItem)
  | 0, _, _, _, _ => none
  | _ + 1, _, _, stack, [] => if stack.isEmpty then some [] else none
  | fuel + 1, first, groups, stack, b => do
    let next := read fuel false groups stack
    match b with
    | 0x5C :: 0x28 :: rest =>
      return .opening (groups + 1) :: (← read fuel true (groups + 1) ((groups + 1) :: stack) rest)
    | 0x5C :: 0x29 :: rest =>
      match stack with
      | [] => none
      | g :: stack => return .closing g :: (← read fuel false groups stack rest)
    | 0x5E :: rest =>
      if first then return .lineStart :: (← read fuel true groups stack rest)
      else item next (.byte 0x5E) rest
    | [0x24] => return .lineEnd :: (← next [])
    | 0x2E :: rest => item next .any rest
    | 0x5B :: rest =>
      let (s, rest) ← ByteSet.read rest
      item next (.set s) rest
    | 0x5C :: c :: rest =>
      if 0x31 ≤ c && c ≤ 0x39 then
        return .reference (c.toNat - 48) :: (← next rest)
      else if c == 0x6E then item next (.byte 0x0A) rest
      else item next (.byte c) rest
    | c :: rest => item next (.byte c) rest
    | [] => none

/-- Matches at the start of `text`, taking as much as possible. -/
def matchHere (whole : Bytes) : List RegexItem → (text : Bytes) → (opened : List (Nat × Bytes)) →
    (groups : List (Nat × Bytes)) → Option RegexMatch
  | [], text, _, groups => some ⟨text, groups⟩
  | .opening g :: rest, text, opened, groups => matchHere whole rest text ((g, text) :: opened) groups
  | .closing g :: rest, text, opened, groups =>
    let start := (opened.lookup g).getD []
    matchHere whole rest text opened ((g, start.take (start.length - text.length)) :: groups)
  | .reference g :: rest, text, opened, groups =>
    match Bytes.stripPrefix? ((groups.lookup g).getD []) text with
    | some after => matchHere whole rest after opened groups
    | none => none
  | .lineStart :: rest, text, opened, groups =>
    if text.length == whole.length then matchHere whole rest text opened groups else none
  | .lineEnd :: rest, text, opened, groups =>
    if text.isEmpty then matchHere whole rest text opened groups else none
  | .unit u least most :: rest, text, opened, groups =>
    let longest := (text.takeWhile u.matches).length
    let longest := match most with
      | some n => min n longest
      | none => longest
    if longest < least then none
    else
      (List.range (longest - least + 1)).findSome? fun i =>
        matchHere whole rest (text.drop (longest - i)) opened groups

/-- The leftmost match in `text`, which ends `whole`, with the text before it. -/
def find? (items : List RegexItem) (whole : Bytes) : (text : Bytes) → Option (Bytes × RegexMatch)
  | [] => (matchHere whole items [] [] []).map ([], ·)
  | c :: rest =>
    match matchHere whole items (c :: rest) [] [] with
    | some m => some ([], m)
    | none => (find? items whole rest).map fun (before, m) => (c :: before, m)

end RegexItem

/-- The bytes that are operators with a backslash in one dialect, and without in the other. -/
def isSwappedOperator (c : UInt8) : Bool :=
  c == 0x28 || c == 0x29 || c == 0x2B || c == 0x3F || c == 0x7B || c == 0x7C || c == 0x7D

/-- An extended regular expression as a basic one; in a set nothing changes. -/
def swapEscapes (inSet : Bool) : Bytes → Bytes
  | [] => []
  | 0x5C :: c :: rest =>
    if inSet || !isSwappedOperator c then 0x5C :: c :: swapEscapes inSet rest
    else c :: swapEscapes inSet rest
  | c :: rest =>
    if inSet then c :: swapEscapes (c != 0x5D) rest
    else if isSwappedOperator c then 0x5C :: c :: swapEscapes false rest
    else c :: swapEscapes (c == 0x5B) rest

/-- A basic regular expression, if the text is one. -/
def readRegex (b : Bytes) : Option (List RegexItem) := RegexItem.read (b.length + 1) true 0 [] b

end Stencil.Shell
