import Stencil.Config.Settings
import Stencil.Yaml.Value

/-! Configurations written in YAML. -/
namespace Stencil.Config.Yaml

open Stencil.Yaml (Tree Value)

/-- How many nodes have been decoded, and how many of them by way of an alias. -/
structure Tally where
  nodes : Nat := 0
  aliased : Nat := 0
  /-- How many aliases are around the node that is being decoded. -/
  depth : Nat := 0
  deriving DecidableEq, Repr

/-- Whether a document consists of aliases for too large a part: beyond 99 of 100 nodes, and in very
large documents beyond a part that goes down to 10 of 100. -/
def Tally.isExcessive (t : Tally) : Bool :=
  let low := 400000
  let range := 3600000
  let part : Nat := 99 * range - 89 * min (t.nodes - low) range
  100 < t.aliased && 1000 < t.nodes && part * t.nodes < 100 * range * t.aliased

/-- Decodes nodes; there is no result if one is of the wrong kind. -/
abbrev Decode := StateT Tally Option

namespace Decode

/-- Counts a node. -/
def tick : Decode Unit := do
  modify fun t => { t with
    nodes := t.nodes + 1
    aliased := if t.depth = 0 then t.aliased else t.aliased + 1 }
  if (← get).isExcessive then failure

/-- Decodes what a node is or stands for. -/
def node {α : Type} (n : Tree) (decode : Tree → Decode α) : Decode α := do
  tick
  match n with
  | .alias _ (some target) =>
    modify fun t => { t with depth := t.depth + 1 }
    tick
    let a ← decode target
    modify fun t => { t with depth := t.depth - 1 }
    return a
  | .alias _ none => failure
  | n => decode n

/-- Decodes a scalar; `none` stands for a null. -/
def scalar {α : Type} (n : Tree) (decode : Value → List Char → Option α) : Decode (Option α) :=
  node n fun
    | .scalar tag text =>
      match Value.ofScalar tag text with
      | none => failure
      | some .null => return none
      | some v => some <$> (decode v text : Option α)
    | _ => failure

/-- A text is taken as it is written, whatever it stands for. -/
def text (n : Tree) : Decode (Option Bytes) :=
  scalar n fun v text =>
    match v with
    | .text b => some b
    | _ => some (Text.Utf8.encode text)

end Decode

def isMergeKey : Tree → Bool
  | .scalar tag text => text == ['<', '<'] && tag == Tree.mergeTag
  | _ => false

/-- Whether two keys are written alike. -/
def isSameKey : Tree → Tree → Bool
  | .scalar _ a, .scalar _ b => a == b
  | .alias a _, .alias b _ => a == b
  | .sequence .., .sequence .. => true
  | .mapping .., .mapping .. => true
  | _, _ => false

/-- Whether two elements are alike. -/
def hasRepeat (alike : Tree → Tree → Bool) : List Tree → Bool
  | [] => false
  | x :: xs => xs.any (alike x) || hasRepeat alike xs

/-- The name that a key gives to a value that merges into its mapping must not set. -/
def ownName (k : Tree) : Decode (Option Bytes) :=
  Decode.node k fun
    | .scalar tag text =>
      match Value.ofScalar tag text with
      | none => failure
      | some (.text b) => return some b
      | some _ => return none
    | _ => failure

/-- Goes through the entries of a mapping in order. `done` are the names it has set; `taken`, if the
mapping merges into another one, are the names that it must not set. A key that is null is passed
over with its value. -/
def entries {σ : Type} (each : σ → Bytes → Tree → Decode σ) :
    List (Tree × Tree) → (done : List Bytes) → (taken : Option (List Bytes)) → σ →
    Decode (σ × Option (List Bytes))
  | [], _, taken, s => return (s, taken)
  | (k, v) :: more, done, taken, s => do
    if isMergeKey k then entries each more done taken s
    else match ← Decode.text k with
      | none => entries each more done taken s
      | some name =>
        if (taken.getD []).contains name then entries each more done taken s
        else
          if done.contains name then failure
          let s ← each s name v
          entries each more (name :: done) (taken.map (name :: ·)) s

/-- Goes through the named values of a mapping. Those under the key `<<` come last, and only the ones
that the mapping does not name itself. The fuel bounds how deep such mappings refer to each
other. -/
def fields {σ : Type} (each : σ → Bytes → Tree → Decode σ) :
    (fuel : Nat) → (taken : Option (List Bytes)) → σ → Tree → Decode (σ × Option (List Bytes))
  | fuel + 1, taken, s, .mapping _ es => do
    if hasRepeat isSameKey (es.map (·.1)) then failure
    let (s, taken) ← entries each es [] taken s
    match es.find? fun (k, _) => isMergeKey k with
    | none => return (s, taken)
    | some (_, merged) =>
      let inner ← match taken with
        | some names => pure names
        | none => es.filterMapM fun (k, _) => ownName k
      let (s, inner) ← match merged with
        | .sequence _ items =>
          items.foldlM (fun (s, inner) n => Decode.node n (fields each fuel inner s)) (s, some inner)
        | n => Decode.node n (fields each fuel (some inner) s)
      return (s, taken.bind fun _ => inner)
  | _, _, _, _ => failure

/-- A null leaves a setting as it is, except that a list, a block and an open choice are cleared. A
number is cut to an integer. Names that are no settings are errors. -/
def reader (fuel : Nat) : ValueReader Decode Tree where
  text v old := return (← Decode.text v).getD old
  int v old := return (← Decode.scalar v fun v _ => v.toInt?).getD old
  bool v old := return (← Decode.scalar v fun v _ => v.toBool?).getD old
  choice v _ := Decode.scalar v fun v _ => v.toBool?
  texts v _ := Decode.node v fun
    | .sequence _ items => return some (← items.filterMapM Decode.text)
    | n => if isNull n then return none else failure
  block v s each := Decode.node v fun
    | .mapping tag es => do
      if tag == Tree.nullTag then failure
      return some (← fields each fuel none s (.mapping tag es)).1
    | n => if isNull n then return none else failure
  stranger := failure
where
  isNull : Tree → Bool
    | .scalar tag text => Value.ofScalar tag text == some .null
    | _ => false

/-- Decodes the root of a document; a null leaves everything open. -/
def root (fuel : Nat) (n : Tree) : Decode Config := do
  Decode.tick
  Decode.node n fun
    | .mapping tag es =>
      Prod.fst <$> fields (assignSetting .exact (reader fuel)) fuel none {} (.mapping tag es)
    | n => if reader.isNull n then return {} else failure

/-- The configuration that a text describes. Only its first document counts. -/
def read (text : Bytes) : Option Config := do
  let n ← (← Stencil.Yaml.read text)
  (root (text.length + 1) n).run' {}

end Stencil.Config.Yaml
