import Stencil.Pipeline

/-! Scripted formatters: a list of edits stands in for a program. -/
namespace Stencil.Script

inductive Edit where
  | replace (find replacement : Bytes)
  | append (text : Bytes)
  | prepend (text : Bytes)
  | trimNewlines
  | set (text : Bytes)
  /-- Cancels the session and goes on. -/
  | cancel
  | fail (message : Bytes)
  deriving DecidableEq, Repr

/-- An edit for one language or all, made only if the text holds `condition`. -/
structure Rule where
  language : Option Bytes
  condition : Bytes
  edit : Option Edit
  deriving DecidableEq, Repr

def Rule.applies (r : Rule) (language : Language) (text : Bytes) : Bool :=
  (r.language.all (· == language.name)) && (r.condition.isEmpty || Bytes.contains r.condition text)

def Edit.run (text : Bytes) : Edit → Session Bytes
  | .replace find replacement => return Bytes.replaceAll find replacement text
  | .append more => return text ++ more
  | .prepend more => return more ++ text
  | .trimNewlines => return Bytes.trimRight (· == 0x0A) text
  | .set new => return new
  | .cancel => do
    Session.cancel
    return text
  | .fail message => throw (.plain message)

/-- The formatter that applies the rules in order. -/
def formatter (rules : List Rule) : Formatter := fun language _ text =>
  rules.foldlM (fun text r =>
    match r.edit with
    | some e => if r.applies language text then e.run text else return text
    | none => return text) text

end Stencil.Script
