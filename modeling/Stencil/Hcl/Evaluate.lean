import Stencil.Hcl.Value

/-! Evaluating HCL expressions. There are no functions to call. -/
namespace Stencil.Hcl

/-- The variables in reach, the innermost first. -/
abbrev Scope := List (Bytes × Value)

/-- A value, and whether it came about without a fault. A faulty value still has a kind, which
matters where it is not chosen. -/
structure Outcome where
  value : Value
  sound : Bool := true

namespace Outcome

/-- A fault that leaves nothing known. -/
def fault : Outcome := ⟨.unknown .any, false⟩

def ofOption : Option Value → Outcome
  | some v => ⟨v, true⟩
  | none => fault

/-- Sound only if `sound` holds too. -/
def also (o : Outcome) (sound : Bool) : Outcome := { o with sound := o.sound && sound }

end Outcome

/-- The kind of the results of an operator. -/
def BinaryOperator.kind : BinaryOperator → Kind
  | .add | .subtract | .multiply | .divide | .modulo => .number
  | _ => .bool

def arithmetic (op : BinaryOperator) (a b : Number.Floating) : Option Value :=
  match op with
  | .add => (a.add? b).map .number
  | .subtract => (a.sub? b).map .number
  | .multiply => (a.mul? b).map .number
  | .divide => (a.div? b).map .number
  | .modulo => (a.mod? b).map .number
  | .less => some (.bool (a.order b == .lt))
  | .lessEqual => some (.bool (a.order b != .gt))
  | .greater => some (.bool (a.order b == .gt))
  | .greaterEqual => some (.bool (a.order b != .lt))
  | _ => none

/-- Applies an operation to what two values hold. -/
def combine {α : Type} (k : Kind) (f : α → α → Option Value) (a b : Value.Content α) : Outcome :=
  let fault : Outcome := ⟨.unknown k, false⟩
  match a, b with
  | .unsuitable, _ | .missing, _ | _, .unsuitable | _, .missing => fault
  | .unknown, _ | _, .unknown => ⟨.unknown k, true⟩
  | .known a, .known b =>
    match f a b with
    | some v => ⟨v, true⟩
    | none => fault

/-- Whether two values are equal, or not if `negated`. -/
def compareValues (negated : Bool) (a b : Value) : Outcome :=
  match a.agree? b with
  | some e => ⟨.bool (e != negated), true⟩
  | none => ⟨.unknown .bool, true⟩

def applyBinary (op : BinaryOperator) (a b : Value) : Outcome :=
  match op with
  | .equal => compareValues false a b
  | .notEqual => compareValues true a b
  | .or => combine .bool (fun a b => some (.bool (a || b))) a.asBool b.asBool
  | .and => combine .bool (fun a b => some (.bool (a && b))) a.asBool b.asBool
  | _ => combine op.kind (arithmetic op) a.asNumber b.asNumber

def applyUnary (op : UnaryOperator) (v : Value) : Outcome :=
  match op with
  | .negate => combine .number (fun x _ => some (.number x.negate)) v.asNumber v.asNumber
  | .not => combine .bool (fun b _ => some (.bool !b)) v.asBool v.asBool

/-- The variables of one round of a loop. -/
def LoopNames.bind (names : LoopNames) (key value : Value) (scope : Scope) : Scope :=
  let scope := match names.key with
    | some n => (n, key) :: scope
    | none => scope
  (names.value, value) :: scope

/-- Adds a value to the group under a name. -/
def addToGroup (name : Bytes) (v : Value) (groups : List (Bytes × Value)) : List (Bytes × Value) :=
  match groups.lookup name with
  | some (.tuple vs) => Value.insertEntry name (.tuple (vs ++ [v])) groups
  | _ => Value.insertEntry name (.tuple [v]) groups

/-- Joins the texts of some values; unknown if one of them is. -/
def joinTexts (vs : List Value) : Outcome :=
  let contents := vs.map Value.asText
  let sound := contents.all fun
    | .known _ | .unknown => true
    | .missing | .unsuitable => false
  let open? := contents.any fun
    | .unknown => true
    | _ => false
  if open? then ⟨.unknown .text, sound⟩
  else
    let texts := contents.filterMap fun
      | .known t => some t
      | _ => none
    ⟨.ofText texts.flatten, sound⟩

/-- The kind that two alternatives share, and both of them as values of it. A null of no kind takes
the other's. -/
def reconcile? (a b : Value) : Option (Kind × Option Value × Option Value) :=
  match a, b with
  | .null .any, _ => some (b.kind, a.convert? b.kind, some b)
  | _, .null .any => some (a.kind, some a, b.convert? a.kind)
  | _, _ => do
    let shared ← a.kind.common? b.kind
    if shared.forgotten then some (.any, some (.unknown .any), some (.unknown .any))
    else some (shared.kind, a.convert? shared.kind, b.convert? shared.kind)

/-- Chooses between two outcomes. A fault of the other one does no harm. -/
def choose (yes no : Outcome) (condition : Unit → Outcome) : Outcome :=
  match reconcile? yes.value no.value with
  | none => .fault
  | some (k, yesValue, noValue) =>
    let c := condition ()
    let pick (o : Outcome) (v : Option Value) : Outcome :=
      match v with
      | some v => ⟨v, o.sound && c.sound⟩
      | none => ⟨.unknown k, false⟩
    match c.value.asBool with
    | .known true => pick yes yesValue
    | .known false => pick no noValue
    | .unknown =>
      if yes.value.isNull && no.value.isNull then ⟨.null k, c.sound⟩ else ⟨.unknown k, c.sound⟩
    | _ => ⟨.unknown k, false⟩

/-- What becomes of one round of a loop. -/
inductive Round where
  | included (scope : Scope)
  | excluded
  /-- Whether the round counts is not known. -/
  | undecided

/-- Whether a round may or may not count. -/
def Round.isUndecided : Round → Bool
  | .undecided => true
  | _ => false

/-- Computes a value for each element. A null is an empty list, and any other value that is no list
is a list of itself. -/
def each (at? : Value → Outcome) (v : Value) : Outcome :=
  let kinds : List Kind → List Kind := List.map fun k => (at? (.unknown k)).value.kind
  let results (items : List Value) (faulty : Kind) (make : List Value → Value) : Outcome :=
    let os := items.map at?
    if os.all (·.sound) then ⟨make (os.map (·.value)), true⟩ else ⟨.unknown faulty, false⟩
  match v.kind with
  | .tuple ks =>
    match v with
    | .tuple items => results items (.tuple (kinds ks)) .tuple
    | .null _ => .fault
    | _ => ⟨.unknown (.tuple (kinds ks)), ks.all fun k => (at? (.unknown k)).sound⟩
  | .list k =>
    let result := (at? (.unknown k)).value.kind
    match v with
    | .list _ [] => ⟨.list result [], (at? (.unknown k)).sound⟩
    | .list _ items => results items (.list result) fun vs => .list ((vs.head?.map Value.kind).getD result) vs
    | .null _ => .fault
    | _ => ⟨.unknown (.list result), (at? (.unknown k)).sound⟩
  | k =>
    match v with
    | .null _ => ⟨.tuple [], true⟩
    | .unknown _ => ⟨.unknown .any, true⟩
    | _ => results [v] (.tuple (kinds [k])) .tuple

/-- An object of keys and values; a fault in a key leaves nothing known. -/
def object (os : List (Option Outcome × Outcome)) : Outcome :=
  let name? (k : Option Outcome) : Value.Content Bytes :=
    match k with
    | some o => if o.sound then o.value.asText else .unsuitable
    | none => .unsuitable
  let named := os.map fun (k, v) => (name? k, v.value)
  let sound := os.all (·.2.sound) && named.all fun (n, _) =>
    match n with
    | .known _ | .unknown => true
    | _ => false
  let entries := named.filterMap fun (n, v) =>
    match n with
    | .known n => some (n, v)
    | _ => none
  if entries.length < named.length then ⟨.unknown .any, sound⟩ else ⟨.ofEntries entries, sound⟩

/-- The object that the rounds of a loop make. Names may occur again only if values are grouped. -/
def keyed (grouped : Bool) (pairs : List (Outcome × Outcome)) : Outcome :=
  let named := pairs.map fun (k, v) => (k.value.asText, v.value)
  let entries := named.filterMap fun (n, v) =>
    match n with
    | .known n => some (n, v)
    | _ => none
  let names := entries.map (·.1)
  let sound := pairs.all (fun (k, v) => k.sound && v.sound)
    && (grouped || names.eraseDups.length == names.length)
    && named.all fun (n, _) =>
      match n with
      | .known _ | .unknown => true
      | _ => false
  if entries.length < named.length then ⟨.unknown .any, sound⟩
  else if grouped then ⟨.object (entries.foldl (fun gs (n, v) => addToGroup n v gs) []), sound⟩
  else ⟨.ofEntries entries, sound⟩

/-- The rounds of a loop, unless nothing is known of them, and whether there was no fault. The
condition has to hold up for unknown elements before it is asked of those there are. -/
def rounds (eval : Scope → Expression → Outcome) (scope : Scope) (names : LoopNames)
    (source : Expression) (condition : Option Expression) : Option (List Round) × Bool :=
  let o := eval scope source
  match o.value with
  | .null _ => (none, false)
  | .unknown k => (none, o.sound && (k.isAny || !k.contents.isEmpty || k == .tuple [] || k == .object []))
  | v =>
    match v.elements? with
    | none => (none, false)
    | some elements =>
      let scopes := elements.map fun (k, v) => names.bind k v scope
      match condition with
      | none => (some (scopes.map .included), o.sound)
      | some c =>
        let trial := eval (names.bind (.unknown .any) (.unknown .any) scope) c
        let usable := trial.sound && match trial.value.asBool with
          | .known _ | .unknown => true
          | _ => false
        if !usable then (none, false)
        else
          let decided := scopes.map fun inner =>
            let o := eval inner c
            match o.value.asBool with
            | .known true => (Round.included inner, o.sound)
            | .known false => (.excluded, o.sound)
            | .unknown => (.undecided, o.sound)
            | _ => (.undecided, false)
          (some (decided.map (·.1)), o.sound && decided.all (·.2))

/-- The value of an expression. The fuel bounds the depth. -/
def evaluate (scope : Scope) : (fuel : Nat) → Expression → Outcome
  | 0, _ => .fault
  | fuel + 1, e =>
    match e with
    | .null => ⟨.null .any, true⟩
    | .bool b => ⟨.bool b, true⟩
    | .number x => ⟨.number x, true⟩
    | .text t => ⟨.ofText t, true⟩
    | .template parts =>
      let os := parts.map (evaluate scope fuel)
      (joinTexts (os.map (·.value))).also (os.all (·.sound))
    | .grouped e => evaluate scope fuel e
    | .variable name => .ofOption (scope.lookup name)
    | .item => .ofOption (scope.lookup [])
    | .attribute e name =>
      let o := evaluate scope fuel e
      (Outcome.ofOption (o.value.attribute? name)).also o.sound
    | .index e key =>
      let o := evaluate scope fuel e
      let k := evaluate scope fuel key
      (Outcome.ofOption (o.value.index? k.value)).also (o.sound && k.sound)
    | .each e body =>
      let o := evaluate scope fuel e
      if !o.sound then .fault
      else each (fun item => evaluate (([], item) :: scope) fuel body) o.value
    | .call _ _ => .fault
    | .tuple items =>
      let os := items.map (evaluate scope fuel)
      ⟨.tuple (os.map (·.value)), os.all (·.sound)⟩
    | .object entries =>
      let os := entries.map fun (k, v) => (k.map (evaluate scope fuel), evaluate scope fuel v)
      object os
    | .loop names source body condition =>
      match rounds (fun scope e => evaluate scope fuel e) scope names source condition with
      | (none, sound) => ⟨.unknown .any, sound⟩
      | (some rs, sound) =>
        let os := rs.filterMap fun
          | .included inner => some (evaluate inner fuel body)
          | _ => none
        let sound := sound && os.all (·.sound)
        if rs.any (·.isUndecided) then ⟨.unknown .any, sound⟩ else ⟨.tuple (os.map (·.value)), sound⟩
    | .objectLoop names source key body grouped condition =>
      match rounds (fun scope e => evaluate scope fuel e) scope names source condition with
      | (none, sound) => ⟨.unknown .any, sound⟩
      | (some rs, sound) =>
        let pairs := rs.filterMap fun
          | .included inner => some (evaluate inner fuel key, evaluate inner fuel body)
          | _ => none
        let o := keyed grouped pairs
        if rs.any (·.isUndecided) then ⟨.unknown .any, o.sound && sound⟩ else o.also sound
    | .concatenation e =>
      let o := evaluate scope fuel e
      match o.value with
      | .tuple items => (joinTexts items).also o.sound
      | _ => ⟨.unknown .text, o.sound⟩
    | .unary op e =>
      let o := evaluate scope fuel e
      (applyUnary op o.value).also o.sound
    | .binary op a b =>
      let a := evaluate scope fuel a
      let b := evaluate scope fuel b
      if a.sound && b.sound then applyBinary op a.value b.value else ⟨.unknown op.kind, false⟩
    | .conditional condition yes no =>
      choose (evaluate scope fuel yes) (evaluate scope fuel no) fun _ => evaluate scope fuel condition

end Stencil.Hcl
