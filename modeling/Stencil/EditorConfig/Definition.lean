import Stencil.EditorConfig.Ini
import Stencil.EditorConfig.Selector
import Stencil.Session
import Stencil.Text.Case

/-! What an editor configuration file says about a file. -/
namespace Stencil.EditorConfig

/-- The properties that bear on layout, as they are written. -/
structure Definition where
  indentStyle : Bytes := []
  indentSize : Bytes := []
  /-- Zero if it is not given. -/
  tabWidth : Int := 0
  maxLineLength : Option Bytes := none
  deriving DecidableEq, Repr

/-- A configuration file: whether the search for further files ends here, and what it says about
the file of a relative name that starts with a slash. -/
structure ConfigFile where
  isRoot : Bool
  definition? : Bytes → Option Definition

namespace Definition

/-- Fills what `d` leaves open from `earlier`. -/
def merge (d earlier : Definition) : Definition where
  indentStyle := if d.indentStyle.isEmpty then earlier.indentStyle else d.indentStyle
  indentSize := if d.indentSize.isEmpty then earlier.indentSize else d.indentSize
  tabWidth := if d.tabWidth ≤ 0 then earlier.tabWidth else d.tabWidth
  maxLineLength := d.maxLineLength <|> earlier.maxLineLength

/-- A positive integer. -/
def positive? (b : Bytes) : Option Int := (Text.readInt? b).filter (0 < ·)

/-- Sets what the definition gives: the indent style, the indent size or else the tab width, and
the line length. -/
def apply (d : Definition) (layout : Layout) : Layout where
  useTabs :=
    if d.indentStyle = Bytes.ofString "tab" then true
    else if d.indentStyle = Bytes.ofString "space" then false
    else layout.useTabs
  tabWidth :=
    match positive? d.indentSize with
    | some n => n
    | none => if 0 < d.tabWidth then d.tabWidth else layout.tabWidth
  printWidth := (d.maxLineLength.bind positive?).getD layout.printWidth

end Definition

/-! ## Values of keys -/

def findSection? (sections : List IniSection) (name : Bytes) : Option IniSection :=
  let name := if name.isEmpty then Ini.preambleName else name
  sections.find? (·.name == name)

/-- A key by its exact name: the name of the section that holds it, and its value. A section without
it inherits it from the section named by what stands before the last point of its own name. The fuel
bounds the number of points. -/
def inherited? (sections : List IniSection) (key : Bytes) :
    (fuel : Nat) → (name : Bytes) → Option (Bytes × Bytes)
  | 0, _ => none
  | fuel + 1, name =>
    let here := (findSection? sections name).bind fun s =>
      (s.keys.lookup key).map fun value => (s.name, value)
    match here with
    | some found => some found
    | none =>
      match Bytes.cutLast? [0x2E] name with
      | none => none
      | some (above, _) => inherited? sections key fuel above

def lookup? (sections : List IniSection) (name key : Bytes) : Option (Bytes × Bytes) :=
  inherited? sections key (name.length + 1) name

/-- How a value refers to another key. -/
def reference (key : Bytes) : Bytes := Bytes.ofString "%(" ++ key ++ Bytes.ofString ")s"

/-- The key at the front of a text that starts with a reference to it. -/
def referenceHere? (text : Bytes) : Option Bytes := do
  let inner ← Bytes.stripPrefix? "%(" text
  let key := inner.takeWhile (· != 0x29)
  if !key.isEmpty && Bytes.hasPrefix ")s" (inner.drop key.length) then some key else none

/-- The key that a value refers to first. -/
def reference? : Bytes → Option Bytes
  | [] => none
  | c :: rest => referenceHere? (c :: rest) <|> reference? rest

/-- Puts values in the place of references, one key in each round. A key is looked up in the section
`holder` of the value and then in the preamble, where a value that refers to its own `key` looks at
once. -/
def expand (sections : List IniSection) (holder key : Bytes) : (rounds : Nat) → Bytes → Bytes
  | 0, value => value
  | rounds + 1, value =>
    match reference? value with
    | none => value
    | some other =>
      let near := (lookup? sections holder other).filter fun (s, _) => s != holder || other != key
      match near <|> lookup? sections Ini.preambleName other with
      | none => value
      | some (_, text) =>
        expand sections holder key rounds (Bytes.replaceAll (reference other) text value)

/-- The value of a key with its references replaced, in at most 99 rounds. -/
def valueOf? (sections : List IniSection) (name key : Bytes) : Option Bytes :=
  (lookup? sections name key).map fun (holder, value) => expand sections holder key 99 value

/-! ## Reading a file -/

/-- A section as a definition. -/
structure Section where
  selector : Bytes
  definition : Definition

/-- A property as it is written, by its name without case. -/
def property? (s : IniSection) (name : String) : Option Bytes :=
  (s.keys.reverse.find? fun (k, _) => Text.toLower k == Bytes.ofString name).map (·.2)

def isUnset (b : Bytes) : Bool := b == Bytes.ofString "unset"

/-- A truth value is missing, unset or well formed. -/
def acceptsBool (s : IniSection) (name : String) : Bool :=
  match property? s name with
  | none => true
  | some v => isUnset v || (Text.readBool? v).isSome

/-- The definition of a section; none if a value is malformed. -/
def Definition.ofSection? (sections : List IniSection) (s : IniSection) : Option Definition := do
  guard (acceptsBool s "trim_trailing_whitespace" && acceptsBool s "insert_final_newline")
  let indentSize := (valueOf? sections s.name "indent_size").getD []
  let given ← match property? s "tab_width" with
    | none => some 0
    | some v => if isUnset v then some 0 else Text.readInt? v
  let tabWidth := if given ≤ 0 then (Text.readInt? indentSize).getD given else given
  return {
    indentStyle := Text.toLower ((property? s "indent_style").getD [])
    indentSize
    tabWidth
    maxLineLength := property? s "max_line_length" }

/-- The later of two sections that match wins, property by property. Nothing is known of any file
if a selector is malformed. -/
def mergeMatching (name : Bytes) : List Section → Option Definition
  | [] => some {}
  | s :: more => do
    let later ← mergeMatching name more
    let isMatch ← Selector.isMatch? (Text.Utf8.chars s.selector) (Text.Utf8.chars name)
    return if isMatch then later.merge s.definition else later

/-- Whether a preamble's `root` says yes. -/
def saysYes (v : Bytes) : Bool :=
  ["1", "t", "T", "true", "TRUE", "True", "YES", "yes", "Yes", "y", "ON", "on", "On"].any
    (Bytes.ofString · == v)

/-- Writes the preamble's `root` in small letters. -/
def lowerRoot (sections : List IniSection) : List IniSection :=
  let root := (lookup? sections Ini.preambleName "root").map (·.2)
  Ini.update Ini.preambleName (Ini.setKey "root" (Text.toLower (root.getD []))) sections

/-- A section whose name has more bytes is left out. -/
def nameLimit : Nat := 4096

/-- Reads a configuration file; a malformed one counts for nothing. -/
def ConfigFile.read (text : Bytes) : Option ConfigFile := do
  let sections := lowerRoot (← Ini.read text)
  let named := sections.filter fun s => s.name != Ini.preambleName && s.name.length ≤ nameLimit
  let parsed ← named.mapM fun s =>
    (Definition.ofSection? sections s).map fun d => (⟨s.name, d⟩ : Section)
  return {
    isRoot := ((valueOf? sections Ini.preambleName "root").map saysYes).getD false
    definition? := fun name => mergeMatching name parsed }

end Stencil.EditorConfig
