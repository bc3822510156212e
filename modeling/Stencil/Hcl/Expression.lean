import Stencil.Number.Floating

/-! Expressions and bodies of HCL. -/
namespace Stencil.Hcl

inductive UnaryOperator where
  | negate
  | not
  deriving DecidableEq, Repr

inductive BinaryOperator where
  | or
  | and
  | equal
  | notEqual
  | less
  | lessEqual
  | greater
  | greaterEqual
  | add
  | subtract
  | multiply
  | divide
  | modulo
  deriving DecidableEq, Repr

/-- The names that a loop binds; the key is optional. -/
structure LoopNames where
  key : Option Bytes
  value : Bytes
  deriving DecidableEq, Repr

inductive Expression where
  | null
  | bool (b : Bool)
  | number (x : Number.Floating)
  | text (b : Bytes)
  /-- Texts and values joined into one text. -/
  | template (parts : List Expression)
  /-- An expression in parentheses, or one that a text consists of. -/
  | grouped (e : Expression)
  | variable (name : Bytes)
  /-- The element that `each` is at. -/
  | item
  | attribute (e : Expression) (name : Bytes)
  | index (e key : Expression)
  /-- A value computed for each element. What is no list counts as a list of one. -/
  | each (e body : Expression)
  | call (name : Bytes) (arguments : List Expression)
  | tuple (items : List Expression)
  /-- Keys and values. A path as a key could be meant as a name or as a value, so it is none. -/
  | object (entries : List (Option Expression × Expression))
  | loop (names : LoopNames) (source body : Expression) (condition : Option Expression)
  | objectLoop (names : LoopNames) (source key body : Expression) (grouped : Bool)
      (condition : Option Expression)
  /-- The texts of a list joined into one. -/
  | concatenation (e : Expression)
  | unary (op : UnaryOperator) (e : Expression)
  | binary (op : BinaryOperator) (a b : Expression)
  | conditional (condition yes no : Expression)
  deriving Repr

namespace Expression

/-- Whether an expression in brackets is as fixed as a name after a point. -/
def isFixed : Expression → Bool
  | .null | .bool _ | .number _ | .template [.text _] => true
  | _ => false

/-- Whether an expression is a variable and fixed steps from it. -/
def isPath : Expression → Bool
  | .variable _ => true
  | .attribute e _ => e.isPath
  | .index e key => e.isPath && key.isFixed
  | _ => false

/-- What an expression before an equals sign means in an object: a bare word is its own name. -/
def asKey : Expression → Option Expression
  | .variable name => some (.text name)
  | .null => some (.text "null")
  | .bool b => some (.text (if b then "true" else "false"))
  | e => if e.isPath then none else some e

end Expression

/-- A body: attributes, and blocks with labels and bodies of their own. -/
inductive Item where
  | attribute (name : Bytes) (e : Expression)
  | block (name : Bytes) (labels : List Bytes) (body : List Item)
  deriving Repr

abbrev Body := List Item

end Stencil.Hcl
