import Stencil.Config.Settings
import Stencil.Toml.Reader

/-! Configurations written in TOML. -/
namespace Stencil.Config.Toml

open Stencil.Toml (Value)

/-- Every value has to be of exactly the right kind. -/
def reader : ValueReader Option Value where
  text v _ := text? v
  int v _ :=
    match v with
    | .int n => some n
    | _ => none
  bool v _ := bool? v
  choice v _ := (bool? v).map some
  texts v _ :=
    match v with
    | .array items => (items.mapM text?).map some
    | _ => none
  block v s each :=
    match v with
    | .table entries => some <$> entries.foldlM (fun s (name, v) => each s name v) s
    | _ => none
  stranger := some ()
where
  text? (v : Value) : Option Bytes :=
    match v with
    | .text b => some b
    | _ => none
  bool? (v : Value) : Option Bool :=
    match v with
    | .bool b => some b
    | _ => none

/-- Why a text is no configuration. -/
inductive Fault where
  | malformed
  | unknown (keys : List Stencil.Toml.KeyPath)
  deriving DecidableEq, Repr

def Fault.message : Fault → Bytes
  | .malformed => "parsing TOML: malformed document"
  | .unknown keys =>
    "parsing TOML: unknown keys [" ++ Bytes.joinWith " " (keys.map Stencil.Toml.renderKey) ++ "]"

/-- The keys of a document that stand for settings. -/
def knownKeys (root : Stencil.Toml.Table) : List Stencil.Toml.KeyPath :=
  root.flatMap fun (name, v) =>
    let inner : List Bytes := match v with
      | .table entries => entries.map (·.1)
      | _ => []
    ([name] :: inner.map fun sub => [name, sub]).filter Vocabulary.folded.knows

/-- The configuration that a text describes. Names stand for settings in any case; those that are no
settings are reported only if everything else is right. -/
def read (edition : Stencil.Toml.Edition) (text : Bytes) : Except Fault Config :=
  match Stencil.Toml.read edition text with
  | none => .error .malformed
  | some d =>
    match ofFields .folded reader d.root with
    | none => .error .malformed
    | some c =>
      let known := knownKeys d.root
      let unknown := d.keys.filter (!known.contains ·)
      if unknown.isEmpty then .ok c else .error (.unknown unknown)

end Stencil.Config.Toml
