import Stencil.Markup.Context
import Stencil.Region

/-! The markup automaton: what kind of markup surrounds the current byte of a document. -/
namespace Stencil.Markup

/-- Where the bytes read so far have left us. -/
inductive State where
  | text
  /-- Inside a tag. `name` is the lower-case name of a start tag and empty for any other,
  `quote` the open quote, and `atValue` holds from the `=` of an attribute up to the first byte
  of its value: only there does a quote open a quoted value. -/
  | tag (name : Bytes) (quote : Option UInt8) (atValue : Bool)
  | comment
  /-- Inside the raw text element of this name. -/
  | rawText (name : Bytes)
  deriving DecidableEq, Repr

namespace State

def context : State → Context
  | .text => .standalone
  | .tag .. => .inAttribute
  | .comment | .rawText _ => .inRawText

/-- A region right after `=` is the value itself. -/
def afterRegion : State → State
  | .tag name quote _ => .tag name quote false
  | s => s

end State

/-- The text `<!--` that opens a comment. -/
def commentOpen : Bytes := [0x3C, 0x21, 0x2D, 0x2D]

/-- The text `-->` that closes a comment. -/
def commentClose : Bytes := [0x2D, 0x2D, 0x3E]

/-- Letters, digits, underscore and hyphen. -/
def isNameByte (c : UInt8) : Bool :=
  Bytes.isLetter c || Bytes.isDigit c || c == 0x5F || c == 0x2D

/-- Elements whose content is no markup. -/
def rawTextElements : List Bytes := [
  [0x73, 0x63, 0x72, 0x69, 0x70, 0x74],
  [0x73, 0x74, 0x79, 0x6C, 0x65],
  [0x74, 0x65, 0x78, 0x74, 0x61, 0x72, 0x65, 0x61],
  [0x74, 0x69, 0x74, 0x6C, 0x65]]

example : rawTextElements = ["script", "style", "textarea", "title"].map Bytes.ofString := by decide

/-- Whether a `<` opens a tag, by what follows it: a letter, `/`, `!`, `?` or a region. -/
def opensTag (after : Bytes) : Bool :=
  match after with
  | [] => false
  | c :: _ =>
    Bytes.isLetter c || c == 0x2F || c == 0x21 || c == 0x3F || Region.openerLength after > 0

/-- The lower-case name at the start of what follows a `<`. -/
def startTagName (after : Bytes) : Bytes := Bytes.toLower (after.takeWhile isNameByte)

/-- Blanks that may stand between the `/` and the `>` of a tag. -/
def isTagBlank (c : UInt8) : Bool := c == 0x20 || c == 0x09 || c == 0x0D || c == 0x0A

/-- Whether the output before a `>`, given in reverse, ends in `/` and blanks. -/
def selfClosed (outputRev : Bytes) : Bool :=
  match outputRev.dropWhile isTagBlank with
  | c :: _ => c == 0x2F
  | [] => false

/-- Whether the end tag of the raw text element `name` stands here. -/
def closesRawText (name rest : Bytes) : Bool :=
  let close := 0x3C :: 0x2F :: name
  if rest.length < close.length then false
  else if !Bytes.eqIgnoreCase (rest.take close.length) close then false
  else match rest.drop close.length with
    | [] => true
    | c :: _ =>
      c == 0x3E || c == 0x2F || c == 0x20 || c == 0x09 || c == 0x0A || c == 0x0D || c == 0x0C

/-- How one byte changes the inside of a tag. -/
def stepTag (name : Bytes) (quote : Option UInt8) (atValue : Bool) (outputRev : Bytes) (c : UInt8) :
    State :=
  match quote with
  | some q => if c == q then .tag name none atValue else .tag name quote atValue
  | none =>
    if c == 0x3D then .tag name none true
    else if Bytes.isSpace c then .tag name none atValue
    else if (c == 0x22 || c == 0x27) && atValue then .tag name (some c) false
    else if c == 0x3E then
      if rawTextElements.contains name && !selfClosed outputRev then .rawText name else .text
    else .tag name none false

/-- Reads markup at the start of a non-empty text that starts with no region: the next state and
the number of bytes read, which are copied. `outputRev` is the output so far in reverse. -/
def step (s : State) (outputRev : Bytes) (c : UInt8) (after : Bytes) : State × Nat :=
  match s with
  | .text =>
    if c == 0x3C then
      if commentOpen.isPrefixOf (c :: after) then (.comment, 4)
      else if opensTag after then (.tag (startTagName after) none false, 1)
      else (.text, 1)
    else (.text, 1)
  | .tag name quote atValue => (stepTag name quote atValue outputRev c, 1)
  | .comment => if commentClose.isPrefixOf (c :: after) then (.text, 3) else (.comment, 1)
  | .rawText name =>
    if c == 0x3C && closesRawText name (c :: after) then (.tag [] none false, 1)
    else (.rawText name, 1)

theorem step_pos (s : State) (outputRev : Bytes) (c : UInt8) (after : Bytes) :
    0 < (step s outputRev c after).2 := by
  unfold step
  repeat' split
  all_goals simp

end Stencil.Markup
