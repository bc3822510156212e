import Stencil.Files.FileSystem
import Stencil.Shell.Sed
import Stencil.Text.Number

/-! The programs that scripts call: each turns arguments and an input into output. -/
namespace Stencil.Shell

/-- Copies files, or its input. -/
def cat (files : FileSystem) (args : List Bytes) (input : Bytes) : Effect :=
  let names := args.filter fun (a : Bytes) => a == "-" || !(Bytes.hasPrefix "-" a)
  if names.isEmpty then .filter input
  else
    names.foldl (fun e (name : Bytes) =>
      if name == "/dev/null" then e
      else if name == "-" then
        { e with out := if e.reads then e.out else e.out ++ input, reads := true }
      else match files.node? name with
        | some (.file content) => { e with out := e.out ++ content }
        | some (.directory _) =>
          { e with err := e.err ++ "cat: " ++ name ++ ": Is a directory\n", status := 1 }
        | none =>
          { e with
            err := e.err ++ "cat: " ++ name ++ ": No such file or directory\n", status := 1 }) {}

/-- The bytes from `lo` to `hi`. -/
def byteRange (lo hi : UInt8) : Bytes :=
  (List.range (hi.toNat + 1 - lo.toNat)).map fun i => (lo.toNat + i).toUInt8

/-- One byte of a set of `tr`, which may be escaped. -/
def trByte (b : Bytes) : UInt8 × Bytes :=
  match b with
  | 0x5C :: c :: rest =>
    if isOctal c then
      let digits := ((c :: rest).take 3).takeWhile isOctal
      (octal digits, (c :: rest).drop digits.length)
    else ((letterEscapes.lookup c).getD c, rest)
  | c :: rest => (c, rest)
  | [] => (0, [])

/-- A named class at the front of a set of `tr`. -/
def trClass? (b : Bytes) : Option (Bytes × Bytes) := do
  let (name, after) ← Bytes.cut? ":]" (← Bytes.stripPrefix? "[:" b)
  return (((ByteSet.named? name).getD []).flatMap fun (lo, hi) => byteRange lo hi, after)

/-- The bytes that the first member of a set of `tr` names, and what follows it. -/
def trMember (b : Bytes) : Bytes × Bytes :=
  match trClass? b with
  | some named => named
  | none =>
    let (lo, rest) := trByte b
    match rest with
    | 0x2D :: d :: more =>
      let (hi, after) := trByte (d :: more)
      (byteRange lo hi, after)
    | _ => ([lo], rest)

/-- The bytes that a set of `tr` names, in order. The fuel bounds its length. -/
def trSet : (fuel : Nat) → Bytes → Bytes
  | 0, _ => []
  | _ + 1, [] => []
  | fuel + 1, b =>
    let (named, rest) := trMember b
    named ++ trSet fuel rest

/-- Keeps one of each run of a byte in the set. -/
def squeeze (set : Bytes) : Bytes → Bytes
  | a :: b :: rest => if a == b && List.elem a set then squeeze set (b :: rest) else a :: squeeze set (b :: rest)
  | b => b

/-- Replaces, deletes or squeezes bytes. -/
def tr (args : List Bytes) (input : Bytes) : Effect :=
  let options := args.takeWhile fun a => a.head? == some 0x2D && 1 < a.length
  let sets := args.drop options.length
  let has (c : UInt8) : Bool := options.any (List.elem c ·)
  let tooMany := sets[2]?
  let sets := sets.map fun s => trSet (s.length + 1) s
  let first := sets.head?.getD []
  let complement := has 0x63 || has 0x43
  let isIn (c : UInt8) : Bool := List.elem c first != complement
  if let some a := tooMany then
    .fail 1 ("tr: extra operand '" ++ a ++ "'\nTry 'tr --help' for more information.\n")
  else if has 0x64 then
    let kept := input.filter (!isIn ·)
    .filter (if has 0x73 then squeeze ((sets[1]?).getD []) kept else kept)
  else match sets[1]? with
    | some second =>
      let last := second.getLast?.getD 0
      let change (c : UInt8) : UInt8 :=
        if complement then if List.elem c first then c else last
        else match (first.zipIdx.reverse.find? fun (d, _) => d == c) with
          | some (_, i) => (second[i]?).getD last
          | none => c
      let changed := input.map change
      .filter (if has 0x73 then squeeze second changed else changed)
    | none =>
      if has 0x73 then .filter (squeeze first input)
      else .fail 1 "tr: missing operand\n"

/-- The number that an option such as `-n 3`, `-n3` or `-3` gives. -/
def countOption (default : Nat) : List Bytes → Nat
  | [] => default
  | a :: rest =>
    if a == "-n" || a == "-c" then (rest.head?.bind Bytes.toNat?).getD default
    else match a with
      | 0x2D :: digits =>
        let digits := digits.dropWhile fun c => c == 0x6E || c == 0x63
        (Bytes.toNat? digits).getD (countOption default rest)
      | _ => countOption default rest

def isBytewise (args : List Bytes) : Bool := args.any fun (a : Bytes) => Bytes.hasPrefix "-c" a

def head (args : List Bytes) (input : Bytes) : Effect :=
  let n := countOption 10 args
  if isBytewise args then .filter (input.take n)
  else
    let (lines, isOpen) := splitLines input
    .filter (joinLines (lines.take n) (isOpen && lines.length ≤ n))

def tail (args : List Bytes) (input : Bytes) : Effect :=
  let n := countOption 10 args
  if isBytewise args then .filter (input.drop (input.length - n))
  else
    let (lines, isOpen) := splitLines input
    .filter (joinLines (lines.drop (lines.length - n)) (isOpen && 0 < n))

def wc (args : List Bytes) (input : Bytes) : Effect :=
  let has (c : UInt8) : Bool := args.any (List.elem c ·)
  let lines := (input.filter (· == 0x0A)).length
  let n :=
    if has 0x6C then lines
    else if has 0x77 then
      ((Bytes.splitByte 0x20 (input.map fun c => if Bytes.isSpace c then 0x20 else c)).filter
        (!·.isEmpty)).length
    else input.length
  .filter (Bytes.ofNat n ++ "\n")

def grep (args : List Bytes) (input : Bytes) : Effect :=
  let (options, others) := args.partition fun a => a.head? == some 0x2D && 1 < a.length
  let has (c : UInt8) : Bool := options.any (List.elem c ·)
  match others with
  | [] => .fail 2 "Usage: grep [OPTION]... PATTERNS [FILE]...\n"
  | pattern :: _ =>
    let items := if has 0x46 then some (pattern.map fun c => .unit (.byte c) 1 (some 1)) else readRegex pattern
    match items with
    | none => .fail 2 "grep: invalid pattern\n"
    | some items =>
      let (lines, _) := splitLines input
      let kept := lines.filter fun l => (RegexItem.find? items l l).isSome != has 0x76
      let out : Bytes :=
        if has 0x71 then []
        else if has 0x63 then Bytes.ofNat kept.length ++ "\n"
        else joinLines kept false
      { out, reads := true, status := if kept.isEmpty then 1 else 0 }

/-- Compares texts, numbers and files. The arguments are those without the bracket. -/
def test (files : FileSystem) : List Bytes → Bool
  | [] => false
  | [a] => !a.isEmpty
  | [op, a] =>
    if op == "!" then a.isEmpty
    else if op == "-n" then !a.isEmpty
    else if op == "-z" then a.isEmpty
    else if op == "-e" then (files.node? a).isSome
    else if op == "-d" then (files.node? a).any (·.isDirectory)
    else if op == "-f" then (files.node? a).any (!·.isDirectory)
    else if op == "-s" then match files.node? a with
      | some (.file c) => !c.isEmpty
      | _ => false
    else false
  | [a, op, b] =>
    if a == "!" then !(test files [op, b])
    else if op == "=" || op == "==" then a == b
    else if op == "!=" then a != b
    else match Text.readInt? a, Text.readInt? b with
      | some m, some n =>
        if op == "-eq" then m == n
        else if op == "-ne" then m != n
        else if op == "-lt" then m < n
        else if op == "-le" then m ≤ n
        else if op == "-gt" then n < m
        else if op == "-ge" then n ≤ m
        else false
      | _, _ => false
  | a :: rest => a == "!" && !(test files rest)

/-- The nanoseconds that an amount of seconds, minutes or hours stands for. -/
def sleepTime (arg : Bytes) : Nat :=
  let digits := arg.takeWhile fun c => Bytes.isDigit c || c == 0x2E
  let unit : Nat := match arg.drop digits.length with
    | [0x6D] => 60
    | [0x68] => 3600
    | _ => 1
  let whole := digits.takeWhile (· != 0x2E)
  let part := (digits.drop (whole.length + 1)).take 9
  let part := part ++ List.replicate (9 - part.length) 0x30
  unit * ((Bytes.toNat? whole).getD 0 * 1000000000 + (Bytes.toNat? part).getD 0)

/-- The programs that know no long options. -/
def hasNoLongOptions (name : Bytes) : Bool :=
  ["cat", "head", "tail", "tac", "wc", "sleep"].any (Bytes.ofString · == name)

/-- The effect of a program that has understood its options, if there is one of that name. -/
def ownEffect? (files : FileSystem) (name : Bytes) (args : List Bytes) (input : Bytes) : Option Effect :=
  if name == "cat" then some (cat files args input)
  else if name == "echo" then some (echo args)
  else if name == "printf" then some (printf args)
  else if name == "true" || name == ":" then some {}
  else if name == "false" then some { status := 1 }
  else if name == "tr" then some (tr args input)
  else if name == "sed" then some (sed args input)
  else if name == "head" then some (head args input)
  else if name == "tail" then some (tail args input)
  else if name == "wc" then some (wc args input)
  else if name == "grep" then some (grep args input)
  else if name == "rev" then
    let (lines, isOpen) := splitLines input
    some (.filter (joinLines (lines.map List.reverse) isOpen))
  else if name == "tac" then
    let (lines, isOpen) := splitLines input
    some (.filter ((lines.zipIdx.map fun (l, i) =>
      if isOpen && i + 1 == lines.length then l else l ++ [0x0A]).reverse.flatten))
  else if name == "sort" then
    some (.filter (joinLines ((splitLines input).1.mergeSort Bytes.le) false))
  else if name == "sleep" then some { pause := args.foldl (fun n a => n + sleepTime a) 0 }
  else if name == "test" then some { status := if test files args then 0 else 1 }
  else if name == "[" then some { status := if test files args.dropLast then 0 else 1 }
  else none

/-- The effect of a program, if there is one of that name. -/
def utility? (files : FileSystem) (name : Bytes) (args : List Bytes) (input : Bytes) : Option Effect :=
  let options := args.takeWhile (· != Bytes.ofString "--")
  match options.find? fun (a : Bytes) => hasNoLongOptions name && Bytes.hasPrefix "--" a with
  | some a =>
    some (.fail 1 (name ++ ": unrecognized option '" ++ a ++ "'\nTry '" ++ name
      ++ " --help' for more information.\n"))
  | none => ownEffect? files name args input

end Stencil.Shell
