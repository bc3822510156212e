import Stencil.Text.Space

/-! Sections of keys and values, one to a line. -/
namespace Stencil.EditorConfig

/-- A named section; a repeated key keeps its place and takes the later value. -/
structure IniSection where
  name : Bytes
  keys : List (Bytes × Bytes)
  deriving DecidableEq, Repr

namespace Ini

/-- The section before any heading. -/
def preambleName : Bytes := "DEFAULT"

/-- The lines of a text with their line feeds; the last one has none and may be empty. -/
def lines : Bytes → List Bytes
  | [] => [[]]
  | c :: rest =>
    if c == 0x0A then [c] :: lines rest
    else match lines rest with
      | [] => [[c]]
      | line :: more => (c :: line) :: more

/-- Leaves out one byte order mark, in either order of two bytes or in UTF-8. -/
def dropMark : Bytes → Bytes
  | 0xFE :: 0xFF :: rest => rest
  | 0xFF :: 0xFE :: rest => rest
  | 0xEF :: 0xBB :: 0xBF :: rest => rest
  | text => text

/-- An equals sign or a colon. -/
def isDelimiter (c : UInt8) : Bool := c == 0x3D || c == 0x3A

def tripleQuote : Bytes := [0x22, 0x22, 0x22]

/-- The quote a key may start with: a quotation mark, three of them if the line has more than six
bytes, or a grave accent. -/
def keyQuote (line : Bytes) : Bytes :=
  match line with
  | 0x22 :: _ => if 6 < line.length && tripleQuote.isPrefixOf line then tripleQuote else [0x22]
  | 0x60 :: _ => [0x60]
  | _ => []

/-- The key of a line and what follows the delimiter after it. A gap between a closing quote and the
delimiter lengthens the key by as many bytes, the first of which are the quote. -/
def readKey (line : Bytes) : Option (Bytes × Bytes) :=
  match keyQuote line with
  | [] =>
    let key := line.takeWhile (!isDelimiter ·)
    if key.isEmpty then none
    else match line.drop key.length with
      | [] => none
      | _ :: rest => some (Text.trimSpace key, rest)
  | quote => do
    let (name, after) ← Bytes.cut? quote (line.drop quote.length)
    let gap := after.takeWhile (!isDelimiter ·)
    match after.drop gap.length with
    | [] => none
    | _ :: rest =>
      some (Text.trimSpace ((name ++ quote ++ gap).take (name.length + gap.length)), rest)

/-- Whether a value stands between two quotes and holds no third. -/
def isQuoted (quote : UInt8) (value : Bytes) : Bool :=
  match value with
  | q :: rest => q == quote && rest.length == (rest.takeWhile (· != quote)).length + 1
  | [] => false

def backslash : UInt8 := 0x5C

/-- Joins continued lines: a line that ends in a backslash goes on with the next. -/
def continued (value : Bytes) : List Bytes → Bytes × List Bytes
  | [] => (value, [])
  | line :: more =>
    let next := Text.trimSpace line
    if next.isEmpty then (value, more)
    else
      let value := value ++ next
      if value.getLast? = some backslash then continued value.dropLast more else (value, more)

/-- Joins the lines of a quoted value up to the one that holds the closing quote. -/
def multiline (quote value : Bytes) : List Bytes → Option (Bytes × List Bytes)
  | [] => none
  | line :: more =>
    match Bytes.cutLast? quote line with
    | some (before, _) => some (value ++ before, more)
    | none => multiline quote (value ++ line) more

/-- The quote of a value that may take more than one line. Three quotation marks need a byte after
them, which can be the line feed. -/
def longQuote (line : Bytes) : Bytes :=
  match line with
  | 0x22 :: _ => if 3 < line.length && tripleQuote.isPrefixOf line then tripleQuote else []
  | 0x60 :: _ => [0x60]
  | _ => []

/-- The value that starts on a line, and the lines after it. A `#` or `;` starts a comment, and
one pair of quotes around the value goes away. -/
def readValue (text : Bytes) (more : List Bytes) : Option (Bytes × List Bytes) :=
  let line := Text.trimSpaceLeft text
  if line.isEmpty then some ([], more)
  else match longQuote line with
    | [] =>
      let line := Text.trimSpaceRight line
      if line.getLast? = some backslash then some (continued line.dropLast more)
      else
        let value := Text.trimSpace (line.takeWhile fun c => c != 0x23 && c != 0x3B)
        if isQuoted 0x27 value || isQuoted 0x22 value then some (value.tail.dropLast, more)
        else some (value, more)
    | quote =>
      let inner := line.drop quote.length
      match Bytes.cutLast? quote inner with
      | some (value, _) => some (value, more)
      | none => multiline quote inner more

def setKey (key value : Bytes) (keys : List (Bytes × Bytes)) : List (Bytes × Bytes) :=
  if keys.any (·.1 == key) then keys.map fun (k, v) => if k = key then (k, value) else (k, v)
  else keys ++ [(key, value)]

/-- Sets a key of a section, which is added if it is new. -/
def update (name : Bytes) (f : List (Bytes × Bytes) → List (Bytes × Bytes))
    (sections : List IniSection) : List IniSection :=
  if sections.any (·.name == name) then
    sections.map fun s => if s.name = name then { s with keys := f s.keys } else s
  else sections ++ [⟨name, f []⟩]

/-- What is known after some lines. -/
structure Reading where
  sections : List IniSection
  /-- The section that keys go into. -/
  current : Bytes
  /-- The number of the next key that is written as a dash. -/
  nextNumber : Nat := 1

/-- A key that is written as a dash is named by its number under the heading. -/
def Reading.name (key : Bytes) (st : Reading) : Bytes :=
  if key == [0x2D] then 0x23 :: Bytes.ofNat st.nextNumber else key

def Reading.setKey (key value : Bytes) (st : Reading) : Reading :=
  { st with
    sections := update st.current (Ini.setKey (st.name key) value) st.sections
    nextNumber := if key == [0x2D] then st.nextNumber + 1 else st.nextNumber }

/-- Reads the lines into sections; any malformed line makes the whole text unusable. The fuel
bounds the number of lines. -/
def readLines : (fuel : Nat) → Reading → List Bytes → Option (List IniSection)
  | 0, st, _ => some st.sections
  | _ + 1, st, [] => some st.sections
  | fuel + 1, st, line :: more =>
    match Text.trimSpaceLeft line with
    | [] => readLines fuel st more
    | c :: rest =>
      if c == 0x23 || c == 0x3B then readLines fuel st more
      else if c == 0x5B then
        match Bytes.cutLast? [0x5D] rest with
        | none => none
        | some (name, _) =>
          if name.isEmpty then none
          else readLines fuel { sections := update name id st.sections, current := name } more
      else match readKey (c :: rest) with
        | none => none
        | some (key, text) =>
          if key.isEmpty then none
          else match readValue text more with
            | none => none
            | some (value, more) => readLines fuel (st.setKey key value) more

/-- Reads a text, after an optional byte order mark. -/
def read (text : Bytes) : Option (List IniSection) :=
  let all := lines (dropMark text)
  readLines (all.length + 1) { sections := [⟨preambleName, []⟩], current := preambleName } all

example : readKey "\"a\"=1" = some (Bytes.ofString "a", Bytes.ofString "1") := by decide +kernel
example : readKey "\"a\" = 1" = some (Bytes.ofString "a\"", Bytes.ofString " 1") := by
  decide +kernel

end Ini
end Stencil.EditorConfig
