import Stencil.Bytes

/-! Where in the markup a region stands, and the token shape that is legal there. -/
namespace Stencil

/-- The place of a region in the markup. -/
inductive Context where
  /-- Outside any open tag. -/
  | standalone
  /-- Inside an open tag, before its `>`. -/
  | inAttribute
  /-- Inside a comment or the content of a raw text element. -/
  | inRawText
  deriving DecidableEq, Repr

/-- The surface form of a token. -/
inductive Shape where
  /-- A self-closing tag. -/
  | tag
  /-- A bare identifier. -/
  | attribute
  deriving DecidableEq, Repr

namespace Shape

def name : Shape → Bytes
  | .tag => "tag"
  | .attribute => "attribute"

/-- Shapes are numbered from the tag; every other number is read as an attribute. -/
def ofCode (code : Int) : Shape := if code = 0 then .tag else .attribute

end Shape

namespace Context

/-- A tag may stand only where content may. -/
def shape : Context → Shape
  | .standalone => .tag
  | .inAttribute | .inRawText => .attribute

def name : Context → Bytes
  | .standalone => "standalone"
  | .inAttribute => "attribute"
  | .inRawText => "rawtext"

def code : Context → Nat
  | .standalone => 0
  | .inAttribute => 1
  | .inRawText => 2

def ofCode? (code : Int) : Option Context :=
  if code = 0 then some .standalone
  else if code = 1 then some .inAttribute
  else if code = 2 then some .inRawText
  else none

/-- The name of a context given by number, with the number itself if it stands for none. -/
def describeCode (code : Int) : Bytes :=
  match ofCode? code with
  | some c => c.name
  | none => "ContextKind(" ++ Bytes.ofInt code ++ ")"

/-- The shape for a context given by number. -/
def shapeOfCode (code : Int) : Shape := if code = 0 then .tag else .attribute

@[simp] theorem ofCode?_code (c : Context) : ofCode? c.code = some c := by cases c <;> rfl

@[simp] theorem shapeOfCode_code (c : Context) : shapeOfCode c.code = c.shape := by
  cases c <;> rfl

end Context
end Stencil
