import Stencil.Config.Settings
import Stencil.Hcl.Evaluate

/-! Configurations written in HCL. -/
namespace Stencil.Config.Hcl

open Stencil.Hcl (Value Item Body)

/-- An evaluated item of a body. -/
inductive Entry where
  | value (v : Value)
  | block (fields : List (Bytes × Entry))

/-- Texts may spell numbers and truth values and the other way round. A null clears a list or an open
choice and is no value for anything else. -/
def reader : ValueReader Option Entry where
  text e _ := do text? (← value? e)
  int e _ := do
    match (← value? e).asNumber with
    | .known x => x.toInt64?
    | _ => none
  bool e _ := do
    match (← value? e).asBool with
    | .known b => some b
    | _ => none
  choice e _ := do
    match (← value? e).asBool with
    | .known b => some (some b)
    | .missing => some none
    | _ => none
  texts e _ := do
    match ← (← value? e).convert? (.list .text) with
    | .null _ => return none
    | .list _ items => return some (← items.mapM text?)
    | _ => none
  block e s each :=
    match e with
    | .block fields => some <$> fields.foldlM (fun s (name, e) => each s name e) s
    | .value _ => none
  stranger := none
where
  value? (e : Entry) : Option Value :=
    match e with
    | .value v => some v
    | .block _ => none
  text? (v : Value) : Option Bytes :=
    match v.asText with
    | .known t => some t
    | _ => none

/-- Evaluates the items of a body. Blocks have no labels and occur once, and all names have to be
settings. The fuel bounds the depth of the body. -/
def fields (env : Environment) (fuel : Nat) : (depth : Nat) → (path : List Bytes) → Body →
    Option (List (Bytes × Entry))
  | 0, _, _ => none
  | depth + 1, path, items => do
    let es ← items.mapM fun
      | .attribute name e => do
        if !Vocabulary.exact.knows (path ++ [name]) then none
        let o := Stencil.Hcl.evaluate [("env", .ofEnvironment env)] fuel e
        if o.sound then some (name, Entry.value o.value) else none
      | .block name labels inner => do
        if !labels.isEmpty || !Vocabulary.exact.knows (path ++ [name]) then none
        return (name, .block (← fields env fuel depth (path ++ [name]) inner))
    let names := es.map (·.1)
    if names.eraseDups.length < names.length then none else some es

/-- Why a text is no configuration. -/
inductive Fault where
  | malformed
  | undecodable
  deriving DecidableEq, Repr

def Fault.message : Fault → Bytes
  | .malformed => "parsing HCL: malformed body"
  | .undecodable => "decoding HCL: unusable settings"

/-- The configuration that a text describes; its expressions can refer to the environment. -/
def read (env : Environment) (text : Bytes) : Except Fault Config :=
  match Stencil.Hcl.read text with
  | none => .error .malformed
  | some body =>
    match (fields env (text.length * 8 + 64) 3 [] body).bind (ofFields .exact reader) with
    | some c => .ok c
    | none => .error .undecodable

end Stencil.Config.Hcl
