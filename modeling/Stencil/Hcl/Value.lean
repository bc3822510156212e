import Stencil.Environment
import Stencil.Hcl.Kind
import Stencil.Hcl.Reader
import Stencil.Text.Normal

/-! The values of HCL expressions and how values of one kind become values of another. -/
namespace Stencil.Hcl

/-- All texts are in normal form. -/
inductive Value where
  /-- A value of which only the kind is known. -/
  | unknown (k : Kind)
  | null (k : Kind)
  | bool (b : Bool)
  | number (x : Number.Floating)
  | text (b : Bytes)
  | list (element : Kind) (items : List Value)
  /-- Entries, in the byte order of their keys. -/
  | map (element : Kind) (entries : List (Bytes × Value))
  | tuple (items : List Value)
  /-- Attributes, in the byte order of their names. -/
  | object (fields : List (Bytes × Value))
  deriving Repr

namespace Value

def ofText (b : Bytes) : Value := .text (Text.Normal.normalize b)

mutual

def kind : Value → Kind
  | .unknown k => k
  | .null k => k
  | .bool _ => .bool
  | .number _ => .number
  | .text _ => .text
  | .list k _ => .list k
  | .map k _ => .map k
  | .tuple items => .tuple (kindItems items)
  | .object fields => .object (kindFields fields)

def kindItems : List Value → List Kind
  | [] => []
  | v :: vs => kind v :: kindItems vs

def kindFields : List (Bytes × Value) → List (Bytes × Kind)
  | [] => []
  | (n, v) :: fs => (n, kind v) :: kindFields fs

end

def isNull : Value → Bool
  | .null _ => true
  | _ => false

def isKnown : Value → Bool
  | .unknown _ => false
  | _ => true

/-- Puts an entry under a name, where it replaces one of the same name. -/
def insertEntry (name : Bytes) (v : Value) : List (Bytes × Value) → List (Bytes × Value)
  | [] => [(name, v)]
  | (n, w) :: rest =>
    if n == name then (name, v) :: rest
    else if Bytes.lt name n then (name, v) :: (n, w) :: rest
    else (n, w) :: insertEntry name v rest

def ofEntries (entries : List (Bytes × Value)) : Value :=
  .object (entries.foldl (fun es (n, v) => insertEntry n v es) [])

def readBool? (t : Bytes) : Option Bool :=
  if t == "true" || t == "1" then some true
  else if t == "false" || t == "0" then some false
  else none

/-- The value as one of another kind. Texts take in numbers and truth values and may spell them;
structures become collections of one kind. Nulls and unknown values only change their kind. The fuel
bounds the depth. -/
def convertAux : (fuel : Nat) → Value → Kind → Option Value
  | 0, _, _ => none
  | fuel + 1, v, want =>
    if v.kind == want then some v
    else if !v.kind.canBecome want then none
    else
      match v, want with
      | v, .any => some v
      | .unknown _, k => some (.unknown k)
      | .null _, k => some (.null k)
      | .number x, .text => some (.text x.toText)
      | .bool b, .text => some (.text (if b then "true" else "false"))
      | .text t, .number => (Number.Floating.read? precision t).map .number
      | .text t, .bool => (readBool? t).map .bool
      | .list _ items, .list k => do return .list k (← items.mapM (convertAux fuel · k))
      | .map _ es, .map k => do return .map k (← es.mapM fun (n, v) => do return (n, ← convertAux fuel v k))
      | .tuple items, .list k => do
        let k := Kind.elementOf (items.map kind) k
        return .list k (← items.mapM (convertAux fuel · k))
      | .object fs, .map k => do
        let k := Kind.elementOf (fs.map (·.2.kind)) k
        return .map k (← fs.mapM fun (n, v) => do return (n, ← convertAux fuel v k))
      | .tuple items, .tuple ks => do
        return .tuple (← (items.zip ks).mapM fun (v, k) => convertAux fuel v k)
      | .object fs, .object ks => do
        return .object (← ks.mapM fun (n, k) => do return (n, ← convertAux fuel (← fs.lookup n) k))
      | .map _ es, .object ks => do
        return .object (← ks.mapM fun (n, k) => do return (n, ← convertAux fuel (← es.lookup n) k))
      | _, _ => none

def convert? (v : Value) (want : Kind) : Option Value :=
  convertAux (v.kind.size + want.size + 1) v want

/-- What a value says of a condition, a number or a text. Nothing can be done with a null. -/
inductive Content (α : Type) where
  | known (a : α)
  | unknown
  | missing
  | unsuitable

def content {α : Type} (v : Value) (want : Kind) (get : Value → Option α) : Content α :=
  match v.convert? want with
  | none => .unsuitable
  | some (.unknown _) => .unknown
  | some (.null _) => .missing
  | some v =>
    match get v with
    | some a => .known a
    | none => .unsuitable

def asBool (v : Value) : Content Bool :=
  v.content .bool fun
    | .bool b => some b
    | _ => none

def asNumber (v : Value) : Content Number.Floating :=
  v.content .number fun
    | .number x => some x
    | _ => none

def asText (v : Value) : Content Bytes :=
  v.content .text fun
    | .text t => some t
    | _ => none

mutual

/-- Whether two values hold the same; `none` if that is not known. -/
def equal? : Value → Value → Option Bool
  | .unknown _, _ => none
  | _, .unknown _ => none
  | .null _, .null _ => some true
  | .null _, _ => some false
  | _, .null _ => some false
  | .bool a, .bool b => some (a == b)
  | .number a, .number b => some (a.order b == .eq)
  | .text a, .text b => some (a == b)
  | .list k as, .list l bs => if k == l then equalItems as bs else some false
  | .map k as, .map l bs => if k == l then equalFields as bs else some false
  | .tuple as, .tuple bs => equalItems as bs
  | .object as, .object bs => equalFields as bs
  | _, _ => some false

def equalItems : List Value → List Value → Option Bool
  | [], [] => some true
  | a :: as, b :: bs => do if ← equal? a b then equalItems as bs else some false
  | _, _ => some false

def equalFields : List (Bytes × Value) → List (Bytes × Value) → Option Bool
  | [], [] => some true
  | (n, a) :: as, (m, b) :: bs => do
    if n != m then some false
    else if ← equal? a b then equalFields as bs
    else some false
  | _, _ => some false

end

mutual

/-- Whether a value holds one of which not even the kind is known. -/
def isOpen : Value → Bool
  | .unknown .any => true
  | .list _ items => isOpenItems items
  | .map _ entries => isOpenFields entries
  | .tuple items => isOpenItems items
  | .object fields => isOpenFields fields
  | _ => false

def isOpenItems : List Value → Bool
  | [] => false
  | v :: vs => isOpen v || isOpenItems vs

def isOpenFields : List (Bytes × Value) → Bool
  | [] => false
  | (_, v) :: fs => isOpen v || isOpenFields fs

end

/-- Whether two values are of the same kind and equal; `none` if that is not known. Nulls of all
kinds are equal. -/
def agree? (a b : Value) : Option Bool :=
  if !a.isKnown || !b.isKnown then none
  else if a.isNull || b.isNull then some (a.isNull && b.isNull)
  else if a.isOpen || b.isOpen then none
  else if a.kind == b.kind then equal? a b
  else some false

/-- The elements of a collection or structure with their keys. -/
def elements? : Value → Option (List (Value × Value))
  | .list _ items => some (numbered items)
  | .tuple items => some (numbered items)
  | .map _ entries => some (named entries)
  | .object fields => some (named fields)
  | _ => none
where
  /-- Elements under their positions. -/
  numbered (items : List Value) : List (Value × Value) :=
    items.zipIdx.map fun (v, i) => (.number (Number.Floating.ofIndex i), v)
  /-- Elements under their names. -/
  named (entries : List (Bytes × Value)) : List (Value × Value) :=
    entries.map fun (n, v) => (.text n, v)

/-- The attribute of a name. -/
def attribute? (v : Value) (name : Bytes) : Option Value :=
  let name := Text.Normal.normalize name
  match v with
  | .object fields => fields.lookup name
  | .map _ entries => entries.lookup name
  | .unknown (.object ks) => (ks.lookup name).map .unknown
  | .unknown (.map k) => some (.unknown k)
  | .unknown .any => some v
  | _ => none

/-- The element at a position. -/
def at? (items : List Value) (x : Number.Floating) : Option Value := do
  let i ← x.toInt64?
  if 0 ≤ i then items[i.toNat]? else none

/-- The element at a position or under a name. -/
def index? (v key : Value) : Option Value :=
  if v.isNull || key.isNull then none
  else if v.kind.isAny || key.kind.isAny then some (.unknown .any)
  else
    match v.kind with
    | .tuple ks =>
      match v, key.asNumber with
      | .tuple items, .known x => at? items x
      | _, .known x => do
        let i ← x.toInt64?
        if 0 ≤ i then (ks[i.toNat]?).map .unknown else none
      | _, .unknown => some (.unknown .any)
      | _, _ => none
    | .list k =>
      match v, key.asNumber with
      | .list _ items, .known x => at? items x
      | _, .known _ => some (.unknown k)
      | _, .unknown => some (.unknown k)
      | _, _ => none
    | .map k =>
      match v, key.asText with
      | .map _ entries, .known n => entries.lookup n
      | _, .known _ => some (.unknown k)
      | _, .unknown => some (.unknown k)
      | _, _ => none
    | .object _ =>
      match v, key.asText with
      | .object fields, .known n => fields.lookup n
      | _, .known _ => some (.unknown .any)
      | _, .unknown => some (.unknown .any)
      | _, _ => none
    | _ => none

/-- The object that holds the variables of an environment. -/
def ofEnvironment (env : Environment) : Value :=
  .ofEntries (env.entries.map fun (n, v) => (Text.Normal.normalize n, ofText v))

end Value
end Stencil.Hcl
