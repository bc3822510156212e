import Stencil.Bytes

/-! Shell scripts as trees. -/
namespace Stencil.Shell

/-- What happens to the value of a parameter before it is used. -/
inductive Adjustment where
  | orDefault (evenIfEmpty : Bool)
  | ifSet (evenIfEmpty : Bool)
  | length
  | dropFront (longest : Bool)
  | dropBack (longest : Bool)
  deriving DecidableEq, Repr

/-- A part of a word; quoted parts are neither split nor patterns. -/
inductive Part where
  | text (c : UInt8) (quoted : Bool)
  | parameter (name : Bytes) (quoted : Bool)
  | adjusted (name : Bytes) (adjustment : Adjustment) (operand : List Part) (quoted : Bool)
  /-- The output of a script, given by its source. -/
  | output (script : Bytes) (quoted : Bool)
  /-- An empty pair of quotes, which makes a word of its own. -/
  | nothing
  deriving Repr

abbrev Word := List Part

inductive Direction where
  | input
  | output
  | append
  | duplicate
  deriving DecidableEq, Repr

structure Redirection where
  channel : Nat
  direction : Direction
  target : Word
  deriving Repr

inductive Command where
  | simple (assignments : List (Bytes × Word)) (words : List Word)
      (redirections : List Redirection)
  | pipe (stages : List Command)
  | negation (c : Command)
  | both (a b : Command)
  | either (a b : Command)
  | sequence (cs : List Command)
  | conditional (condition yes no : Command)
  | choice (subject : Word) (arms : List (List Word × Command))
  | loop (stopOn : Bool) (condition body : Command)
  | forEach (name : Bytes) (words : Option (List Word)) (body : Command)
  | group (body : Command) (isolated : Bool) (redirections : List Redirection)
  deriving Repr

end Stencil.Shell
