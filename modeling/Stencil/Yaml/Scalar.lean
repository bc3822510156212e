import Stencil.Yaml.Cursor

/-! The texts of YAML scalars: plain, quoted and block. -/
namespace Stencil.Yaml

open Stencil.Yaml.Scan (need char? isNext pass passes lineBreak)

/-- White space between two parts of a scalar. -/
structure Gap where
  /-- The blanks, unless there is a line break. -/
  blanks : List Char := []
  /-- The first line break. -/
  first : Option (List Char) := none
  /-- The further line breaks. -/
  more : List Char := []
  deriving DecidableEq, Repr

/-- What a gap stands for: one line break is a space, and of several the first is dropped. -/
def Gap.folded (g : Gap) : List Char :=
  match g.first with
  | none => g.blanks
  | some ['\n'] => if g.more.isEmpty then [' '] else g.more
  | some first => first ++ g.more

/-- Reads white space. A tab may not stand where a line of a plain scalar is indented. The fuel
bounds the number of characters. -/
def readGap (indent : Nat) : (fuel : Nat) → Gap → Scan Gap
  | 0, g => return g
  | fuel + 1, g => do
    match ← char? with
    | none => return g
    | some c =>
      if isBlank c then
        if g.first.isSome && (← get).column < indent && c == '\t' then failure
        pass
        need 1
        readGap indent fuel (if g.first.isSome then g else { g with blanks := g.blanks ++ [c] })
      else if isBreak c then
        let b ← lineBreak
        need 1
        match g.first with
        | some _ => readGap indent fuel { g with more := g.more ++ b }
        | none => readGap indent fuel { first := some b }
      else return g

/-- Whether a plain scalar ends before these characters. -/
def endsPlain (inFlow : Bool) : List Char → Bool
  | [] => true
  | c :: rest =>
    isBlankOrBreak c || (c == ':' && rest.head?.all isBlankOrBreak)
      || (inFlow && [',', '?', '[', ']', '\x7b', '\x7d'].contains c)

/-- Takes the part of a plain scalar up to white space or a mark that ends it, the last character
first. The fuel bounds its length. -/
def plainPart (inFlow : Bool) : (fuel : Nat) → (rev : List Char) → Scan (List Char)
  | 0, rev => return rev
  | fuel + 1, rev => do
    let rest := (← get).rest
    match rest with
    | [] => return rev
    | c :: _ =>
      if endsPlain inFlow rest then return rev
      pass
      need 2
      plainPart inFlow fuel (c :: rev)

/-- Reads a plain scalar on from a gap. The flag tells that the scalar ended with a line. The fuel
bounds the number of parts. -/
def plainFrom (indent : Nat) (inFlow : Bool) :
    (fuel : Nat) → (rev : List Char) → Gap → Scan (List Char × Bool)
  | 0, rev, g => return (rev.reverse, g.first.isSome)
  | fuel + 1, rev, g => do
    need 4
    if (← get).atDocumentMark || (← isNext '#') then return (rev.reverse, g.first.isSome)
    let part ← plainPart inFlow (← get).fuel []
    if part.isEmpty then return (rev.reverse, g.first.isSome)
    let rev := part ++ (g.folded.reverse ++ rev)
    if (← char?).any isBlankOrBreak then
      need 1
      let g ← readGap indent (← get).fuel {}
      if !inFlow && (← get).column < indent then return (rev.reverse, g.first.isSome)
      plainFrom indent inFlow fuel rev g
    else return (rev.reverse, false)

def plain (indent : Nat) (inFlow : Bool) : Scan (List Char × Bool) := do
  plainFrom indent inFlow (← get).fuel [] {}

def hexDigit? (c : Char) : Option Nat :=
  if c.toNat < 128 then Bytes.hexValue? c.toUInt8 else none

/-- The character with a code of exactly `width` hexadecimal digits. -/
def hexChar? (width : Nat) (cs : List Char) : Option Char := do
  let digits ← (cs.take width).mapM hexDigit?
  if digits.length < width then none
  else
    let n := digits.foldl (fun n d => 16 * n + d) 0
    if n.isValidChar then some (Char.ofNat n) else none

/-- The escapes of one letter. -/
def escapes : List (Char × Nat) :=
  [('0', 0x00), ('a', 0x07), ('b', 0x08), ('t', 0x09), ('\t', 0x09), ('n', 0x0A), ('v', 0x0B),
    ('f', 0x0C), ('r', 0x0D), ('e', 0x1B), (' ', 0x20), ('"', 0x22), ('\'', 0x27), ('\\', 0x5C),
    ('N', 0x85), ('_', 0xA0), ('L', 0x2028), ('P', 0x2029)]

/-- The escapes that a code follows, with its number of digits. -/
def codeEscapes : List (Char × Nat) := [('x', 2), ('u', 4), ('U', 8)]

/-- Reads an escape from its backslash on. -/
def escape : Scan Char := do
  pass
  match ← char? with
  | none => failure
  | some c =>
    match codeEscapes.lookup c with
    | some width =>
      pass
      need width
      let e ← (hexChar? width (← get).rest : Option Char)
      passes width
      return e
    | none =>
      match escapes.lookup c with
      | some n =>
        pass
        return Char.ofNat n
      | none => failure

/-- Reads a quoted scalar up to white space or its end, the last character first. The flag tells that
an escaped line break comes last. The fuel bounds the number of characters. -/
def quotedPart (quote : Char) : (fuel : Nat) → (rev : List Char) → Scan (List Char × Bool)
  | 0, _ => failure
  | fuel + 1, rev => do
    match (← get).rest with
    | [] => return (rev, false)
    | c :: rest =>
      if isBlankOrBreak c then return (rev, false)
      if c == quote then
        if quote == '\'' && rest.head? == some '\'' then
          passes 2
          need 2
          quotedPart quote fuel ('\'' :: rev)
        else return (rev, false)
      else if c == '\\' && quote == '"' then
        if rest.head?.any isBreak then
          need 3
          pass
          let _ ← lineBreak
          return (rev, true)
        else
          let e ← escape
          need 2
          quotedPart quote fuel (e :: rev)
      else
        pass
        need 2
        quotedPart quote fuel (c :: rev)

/-- Reads a quoted scalar from after its opening quote. The fuel bounds the number of parts. -/
def quotedFrom (quote : Char) : (fuel : Nat) → (rev : List Char) → Scan (List Char)
  | 0, _ => failure
  | fuel + 1, rev => do
    need 4
    if (← get).atDocumentMark || (← get).rest.isEmpty then failure
    let (rev, broken) ← quotedPart quote (← get).fuel rev
    need 1
    if ← isNext quote then
      pass
      return rev.reverse
    let g ← readGap 0 (← get).fuel (if broken then { first := some [] } else {})
    quotedFrom quote fuel (g.folded.reverse ++ rev)

def quoted (quote : Char) : Scan (List Char) := do
  pass
  quotedFrom quote (← get).fuel []

/-- What becomes of the line breaks at the end of a block scalar. -/
inductive Chomping where
  | strip
  | clip
  | keep
  deriving DecidableEq, Repr

/-- Takes spaces up to an indentation, which is not known yet if it is zero. The fuel bounds their
number. -/
def indentation (indent : Nat) : (fuel : Nat) → Scan Unit
  | 0 => return
  | fuel + 1 => do
    if (indent = 0 || (← get).column < indent) && (← isNext ' ') then
      pass
      need 1
      indentation indent fuel

/-- Passes over empty lines before a line of a block scalar and the indentation of that line; tells
the deepest indentation and the breaks. The fuel bounds the number of lines. -/
def blockBreaks (indent : Nat) : (fuel deepest : Nat) → (breaks : List Char) →
    Scan (Nat × List Char)
  | 0, deepest, breaks => return (deepest, breaks)
  | fuel + 1, deepest, breaks => do
    need 1
    indentation indent (← get).fuel
    let column := (← get).column
    let deepest := max deepest column
    if (indent = 0 || column < indent) && (← isNext '\t') then failure
    if (← char?).any isBreak then
      let b ← lineBreak
      blockBreaks indent fuel deepest (breaks ++ b)
    else return (deepest, breaks)

/-- The lines of a block scalar. -/
structure BlockLines where
  /-- The text so far, the last character first. -/
  rev : List Char := []
  /-- The break after the last line. -/
  first : List Char := []
  /-- The empty lines since. -/
  more : List Char := []
  /-- Whether the last line starts with white space. -/
  afterBlank : Bool := false
  deriving DecidableEq, Repr

/-- Reads the lines of a block scalar. The fuel bounds their number. -/
def blockLines (literal : Bool) (indent : Nat) : (fuel : Nat) → BlockLines → Scan BlockLines
  | 0, b => return b
  | fuel + 1, b => do
    if (← get).column != indent || (← get).rest.isEmpty then return b
    let startsBlank := (← char?).any isBlank
    let joint : List Char :=
      if !literal && b.first == ['\n'] && !b.afterBlank && !startsBlank then
        if b.more.isEmpty then [' '] else []
      else b.first
    let line ← Scan.takeFrom (!isBreak ·) 1 (← get).fuel []
    let next ← lineBreak
    let (_, breaks) ← blockBreaks indent (← get).fuel 0 []
    blockLines literal indent fuel
      { rev := line ++ (b.more.reverse ++ (joint.reverse ++ b.rev))
        first := next
        more := breaks
        afterBlank := startsBlank }

def chomping? (c : Char) : Option Chomping :=
  if c == '+' then some .keep else if c == '-' then some .strip else none

/-- Reads the mark for how the end of a block scalar is treated. -/
def chomping : Scan (Option Chomping) := do
  need 1
  match (← char?).bind chomping? with
  | some m =>
    pass
    return some m
  | none => return none

/-- Reads the digit for the indentation of a block scalar; it is zero if there is none. -/
def increment : Scan Nat := do
  need 1
  match ← char? with
  | some c =>
    if c == '0' then failure
    else if c.isDigit then
      pass
      return c.toNat - 48
    else return 0
  | none => return 0

/-- Reads the marks after `|` or `>`: how the end is treated and an indentation, in any order. -/
def blockHeader : Scan (Chomping × Nat) := do
  match ← chomping with
  | some m => return (m, ← increment)
  | none =>
    let n ← increment
    if n = 0 then return (.clip, 0)
    return ((← chomping).getD .clip, n)

/-- Reads a block scalar; `parent` is the indentation around it. -/
def block (literal : Bool) (parent : Int) : Scan (List Char) := do
  pass
  let (chomping, increment) ← blockHeader
  let _ ← Scan.takeWhile isBlank
  if ← isNext '#' then Scan.skipLine
  if (← char?).any (!isBreak ·) then failure
  if (← char?).isSome then
    let _ ← lineBreak
  let given : Nat := if increment = 0 then 0 else (max parent 0).toNat + increment
  let (deepest, breaks) ← blockBreaks given (← get).fuel 0 []
  let indent : Nat := if given = 0 then max (max deepest (parent + 1).toNat) 1 else given
  need 1
  let b ← blockLines literal indent (← get).fuel { more := breaks }
  return match chomping with
    | .strip => b.rev.reverse
    | .clip => b.rev.reverse ++ b.first
    | .keep => b.rev.reverse ++ b.first ++ b.more

end Stencil.Yaml
