import Stencil.Bytes

/-! Environments: named texts, with at most one value to a name. -/
namespace Stencil

/-- The variables that settings can refer to, in the order they were first set. -/
structure Environment where
  entries : List (Bytes × Bytes)
  deriving DecidableEq, Repr

namespace Environment

def empty : Environment := ⟨[]⟩

def get? (e : Environment) (name : Bytes) : Option Bytes := e.entries.lookup name

/-- Sets a variable; one that is set already keeps its place. -/
def set (e : Environment) (name value : Bytes) : Environment :=
  if e.entries.any (·.1 == name) then
    ⟨e.entries.map fun (n, v) => if n = name then (n, value) else (n, v)⟩
  else ⟨e.entries ++ [(name, value)]⟩

def erase (e : Environment) (name : Bytes) : Environment := ⟨e.entries.filter (·.1 != name)⟩

/-- Gives a variable back the value it has in another environment. -/
def reset (e before : Environment) (name : Bytes) : Environment :=
  match before.get? name with
  | some value => e.set name value
  | none => e.erase name

/-- All variables of both; those of `stronger` win. -/
def override (e stronger : Environment) : Environment :=
  stronger.entries.foldl (fun e (n, v) => e.set n v) e

/-- The value of a variable that is set to something. -/
def nonempty? (e : Environment) (name : Bytes) : Option Bytes :=
  (e.get? name).filter (!·.isEmpty)

@[simp] theorem get?_empty (name : Bytes) : empty.get? name = none := rfl

end Environment
end Stencil
