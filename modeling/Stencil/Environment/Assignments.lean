import Stencil.Environment
import Stencil.Text.Space

/-! Files of variable assignments, one to a line, in which a value may refer to earlier ones. -/
namespace Stencil.Environment.Assignments

/-- White space within a line; the two code points above ASCII are a next-line and a no-break
space. -/
def isBlankCode (n : Nat) : Bool :=
  n == 0x09 || n == 0x0B || n == 0x0C || n == 0x0D || n == 0x20 || n == 0x85 || n == 0xA0

def isBlankRune : Text.Rune → Bool
  | .char c => isBlankCode c.toNat
  | .stray _ => false

/-- Removes the leading characters that satisfy `p`. -/
def trimLeftRunes (p : Text.Rune → Bool) (b : Bytes) : Bytes :=
  Text.Utf8.encodeRunes ((Text.Utf8.runes b).dropWhile p)

def trimRightRunes (p : Text.Rune → Bool) (b : Bytes) : Bytes :=
  Text.Utf8.encodeRunes ((Text.Utf8.runes b).reverse.dropWhile p).reverse

def trimLeftBlank (b : Bytes) : Bytes := trimLeftRunes isBlankRune b

/-- Letters, digits and number signs among the first 256 code points, and the point and
underscore. -/
def isNameByte (c : UInt8) : Bool :=
  Bytes.isLetter c || Bytes.isDigit c || c == 0x5F || c == 0x2E
    || c == 0xAA || c == 0xB5 || c == 0xBA || (0xC0 ≤ c && c != 0xD7 && c != 0xF7)
    || c == 0xB2 || c == 0xB3 || c == 0xB9 || (0xBC ≤ c && c ≤ 0xBE)

def isMark (c : UInt8) : Bool := c == 0x3D || c == 0x3A

/-- Skips white space and comment lines. The fuel bounds their number. -/
def statementStart : (fuel : Nat) → Bytes → Bytes
  | 0, b => b
  | fuel + 1, b =>
    match trimLeftRunes Text.Rune.isSpace b with
    | 0x23 :: rest => statementStart fuel (rest.dropWhile (· != 0x0A))
    | b => b

/-- The name that a statement assigns to and what follows the mark after it. Without a mark the name
is empty and the whole rest is the value. -/
def readName (b : Bytes) : Option (Bytes × Bytes) :=
  let b := trimLeftBlank b
  let b := match Bytes.stripPrefix? "export" b with
    | some rest =>
      let trimmed := trimLeftBlank rest
      if trimmed.length < rest.length then trimmed else b
    | none => b
  let name := b.takeWhile fun c => !isMark c && (isBlankCode c.toNat || isNameByte c)
  match b.drop name.length with
  | [] => if b.isEmpty then none else some ([], trimLeftBlank b)
  | c :: rest =>
    if isMark c then some (trimRightRunes Text.Rune.isSpace name, trimLeftBlank rest) else none

def isVariableByte (c : UInt8) : Bool := Bytes.isUpper c || Bytes.isDigit c || c == 0x5F

/-- Drops one byte `c` if it comes first. -/
def dropOne (c : UInt8) (b : Bytes) : Bytes := if b.head? == some c then b.tail else b

/-- The name in a reference that starts after its dollar sign, and what follows the reference. An
opening bracket, braces and the name may each be absent. -/
def readReference (b : Bytes) : Bytes × Bytes :=
  let b := dropOne 0x7B (dropOne 0x28 b)
  (b.takeWhile isVariableByte, dropOne 0x7D (b.dropWhile isVariableByte))

/-- Replaces references by values; an escaped dollar sign only loses its backslash. The fuel bounds
the length of the text. -/
def expand (vars : Environment) : (fuel : Nat) → Bytes → Bytes
  | 0, b => b
  | _ + 1, [] => []
  | fuel + 1, 0x5C :: 0x24 :: rest =>
    let (_, after) := readReference rest
    0x24 :: rest.take (rest.length - after.length) ++ expand vars fuel after
  | fuel + 1, 0x24 :: rest =>
    let (name, after) := readReference rest
    if name.isEmpty then 0x24 :: rest.take (rest.length - after.length) ++ expand vars fuel after
    else (vars.get? name).getD [] ++ expand vars fuel after
  | fuel + 1, c :: rest => c :: expand vars fuel rest

def expandIn (vars : Environment) (b : Bytes) : Bytes := expand vars (b.length + 1) b

/-- Turns `\n` and `\r` into the characters they stand for. A backslash before anything else stays
for the next step. -/
def breakEscapes : Bytes → Bytes
  | 0x5C :: 0x6E :: rest => 0x0A :: breakEscapes rest
  | 0x5C :: 0x72 :: rest => 0x0D :: breakEscapes rest
  | 0x5C :: c :: rest => 0x5C :: c :: breakEscapes rest
  | c :: rest => c :: breakEscapes rest
  | [] => []

/-- Removes the backslash before anything but a dollar sign. -/
def plainEscapes : Bytes → Bytes
  | 0x5C :: 0x24 :: rest => 0x5C :: 0x24 :: plainEscapes rest
  | 0x5C :: c :: rest => c :: plainEscapes rest
  | c :: rest => c :: plainEscapes rest
  | [] => []

/-- The text before the comment at the end of a line: the last `#` after a blank starts it. The
line is given backwards. -/
def withoutComment (line : List Char) : List Char :=
  let rec cut : List Char → Option (List Char)
    | '#' :: c :: before => if isBlankCode c.toNat then some (c :: before) else cut (c :: before)
    | _ :: before => cut before
    | [] => none
  (cut line).getD line

/-- A value that runs to the end of its line. -/
def unquoted (vars : Environment) (b : Bytes) : Bytes × Bytes :=
  let line := b.takeWhile fun c => c != 0x0A && c != 0x0D
  let blank := fun c : Char => isBlankCode c.toNat
  let kept := ((withoutComment (Text.Utf8.chars line).reverse).dropWhile blank).reverse.dropWhile blank
  (expandIn vars (Text.Utf8.encode kept), b.drop line.length)

/-- The text before the next quote that no backslash precedes, and the text after it. -/
def closing (quote : UInt8) (previous : UInt8) : Bytes → Option (Bytes × Bytes)
  | [] => none
  | c :: rest =>
    if c == quote && previous != 0x5C then some ([], rest)
    else (closing quote c rest).map fun (inner, after) => (c :: inner, after)

/-- A value between quotes, from after the opening one. Quotes at its very ends go away too. -/
def quoted (vars : Environment) (quote : UInt8) (b : Bytes) : Option (Bytes × Bytes) :=
  (closing quote quote b).map fun (inner, after) =>
    let inner := Bytes.trim (· == quote) inner
    if quote == 0x22 then (expandIn vars (plainEscapes (breakEscapes inner)), after)
    else (inner, after)

def readValue (vars : Environment) (b : Bytes) : Option (Bytes × Bytes) :=
  match b with
  | 0x22 :: rest => quoted vars 0x22 rest
  | 0x27 :: rest => quoted vars 0x27 rest
  | _ => some (unquoted vars b)

/-- Reads statements until the text ends. What follows a closing quote is the next statement. The
fuel bounds the number of statements. -/
def readStatements : (fuel : Nat) → Environment → Bytes → Option Environment
  | 0, vars, _ => some vars
  | fuel + 1, vars, b =>
    match statementStart (b.length + 1) b with
    | [] => some vars
    | b => do
      let (name, rest) ← readName b
      let (value, rest) ← readValue vars rest
      readStatements fuel (vars.set name value) rest

/-- The variables that a text assigns, unless a statement is malformed. -/
def read (b : Bytes) : Option Environment :=
  readStatements (b.length + 1) .empty (Bytes.replaceAll "\r\n" "\n" b)

end Stencil.Environment.Assignments
