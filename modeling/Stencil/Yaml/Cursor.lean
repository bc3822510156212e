import Stencil.Yaml.Source

/-! A place in a YAML text and the characters at hand there. -/
namespace Stencil.Yaml

def isBlank (c : Char) : Bool := c == ' ' || c == '\t'

def isBreak (c : Char) : Bool :=
  c == '\n' || c == '\r' || c.toNat == 0x85 || c.toNat == 0x2028 || c.toNat == 0x2029

def isBlankOrBreak (c : Char) : Bool := isBlank c || isBreak c

/-- A place in the text, with the characters from there on. -/
structure Cursor where
  rest : List Char
  line : Nat := 0
  column : Nat := 0
  index : Nat := 0
  /-- How many characters are at hand; past the end of the text there are marks in their place. -/
  loaded : Nat := 0
  /-- The sizes of the blocks still to come. -/
  pending : List Nat := []
  /-- Whether the text ends after the last block; otherwise something bad follows. -/
  intact : Bool := true
  /-- The character that was next when a block was last asked for. -/
  resumedAt : Option Char := none
  /-- The line breaks passed since the last character that is not blank. -/
  breaks : Nat := 0
  /-- A number above that of all characters, for loops that pass over one at a time. -/
  fuel : Nat
  deriving DecidableEq, Repr

namespace Cursor

def ofSource (s : Source) : Cursor :=
  { rest := s.chars, pending := s.blocks, intact := s.intact, fuel := s.chars.length + 5 }

def head? (s : Cursor) : Option Char := s.rest.head?

/-- Whether the characters from the `n`-th on start with white space or are none. -/
def isBreakableAt (s : Cursor) (n : Nat) : Bool :=
  match s.rest[n]? with
  | some c => isBlankOrBreak c
  | none => true

/-- Asks for blocks until `n` characters are at hand; at the end of the text one mark makes do. -/
def loadBlocks (n : Nat) : (blocks : List Nat) → Cursor → Option Cursor
  | [], s => if s.intact then some { s with loaded := s.loaded + 1, pending := [] } else none
  | size :: more, s =>
    let s := { s with loaded := s.loaded + size, pending := more }
    if n ≤ s.loaded then some s else loadBlocks n more s

/-- Makes sure that `n` characters are at hand. -/
def load (n : Nat) (s : Cursor) : Option Cursor :=
  if n ≤ s.loaded then some s else loadBlocks n s.pending { s with resumedAt := s.head? }

/-- Passes over one character of the line. -/
def pass (s : Cursor) : Cursor :=
  { s with
    rest := s.rest.tail
    column := s.column + 1
    index := s.index + 1
    loaded := s.loaded - 1
    breaks := if s.head?.any isBlank then s.breaks else 0 }

/-- Passes over one line break; all but two kinds of break count as a line feed. -/
def passBreak (s : Cursor) : List Char × Cursor :=
  let next (n : Nat) : Cursor :=
    { s with
      rest := s.rest.drop n
      line := s.line + 1
      column := 0
      index := s.index + n
      loaded := s.loaded - n
      breaks := s.breaks + 1 }
  match s.rest with
  | '\r' :: '\n' :: _ => (['\n'], next 2)
  | c :: _ =>
    if !isBreak c then ([], s)
    else if c.toNat == 0x2028 || c.toNat == 0x2029 then ([c], next 1)
    else (['\n'], next 1)
  | [] => ([], s)

/-- Whether a line starts here with a mark that separates documents. -/
def atDocumentMark (s : Cursor) : Bool :=
  s.column == 0 && (['-', '-', '-'].isPrefixOf s.rest || ['.', '.', '.'].isPrefixOf s.rest)
    && s.isBreakableAt 3

end Cursor

/-- Reads from a place on; there is no result if the text is malformed. -/
abbrev Scan := StateT Cursor Option

namespace Scan

/-- Makes sure that `n` characters are at hand. -/
def need (n : Nat) : Scan Unit := fun s => (s.load n).map ((), ·)

def char? : Scan (Option Char) := return (← get).head?

def isNext (c : Char) : Scan Bool := return (← char?) == some c

def pass : Scan Unit := modify Cursor.pass

/-- Passes over `n` characters of the line. -/
def passes : Nat → Scan Unit
  | 0 => return
  | n + 1 => do
    pass
    passes n

/-- Passes over a line break and tells what it stands for. -/
def lineBreak : Scan (List Char) := do
  need 2
  let (b, s) := (← get).passBreak
  set s
  return b

/-- Takes the characters of the line that satisfy `p`, the last first; `n` characters are kept at
hand. The fuel bounds their number. -/
def takeFrom (p : Char → Bool) (n : Nat) : (fuel : Nat) → (rev : List Char) → Scan (List Char)
  | 0, rev => return rev
  | fuel + 1, rev => do
    match ← char? with
    | some c =>
      if p c then
        pass
        need n
        takeFrom p n fuel (c :: rev)
      else return rev
    | none => return rev

/-- Takes the characters of the line that satisfy `p`. -/
def takeWhile (p : Char → Bool) : Scan (List Char) := do
  need 1
  return (← takeFrom p 1 (← get).fuel []).reverse

/-- Passes over the rest of the line. -/
def skipLine : Scan Unit := do
  let _ ← takeWhile (!isBreak ·)

end Scan
end Stencil.Yaml
