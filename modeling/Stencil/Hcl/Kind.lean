import Stencil.Bytes

/-! The kinds of HCL values, which of them turn into which, and the kind that several share. -/
namespace Stencil.Hcl

/-- Lists and maps hold values of one kind; tuples and objects hold values of their own kinds. -/
inductive Kind where
  /-- Not known, as that of a null. -/
  | any
  | bool
  | number
  | text
  | list (element : Kind)
  | map (element : Kind)
  | tuple (items : List Kind)
  /-- Attributes, in the byte order of their names. -/
  | object (fields : List (Bytes × Kind))
  deriving Repr

namespace Kind

mutual

def same : Kind → Kind → Bool
  | .any, .any | .bool, .bool | .number, .number | .text, .text => true
  | .list a, .list b => same a b
  | .map a, .map b => same a b
  | .tuple as, .tuple bs => sameItems as bs
  | .object as, .object bs => sameFields as bs
  | _, _ => false

def sameItems : List Kind → List Kind → Bool
  | [], [] => true
  | a :: as, b :: bs => same a b && sameItems as bs
  | _, _ => false

def sameFields : List (Bytes × Kind) → List (Bytes × Kind) → Bool
  | [], [] => true
  | (n, a) :: as, (m, b) :: bs => n == m && same a b && sameFields as bs
  | _, _ => false

end

instance : BEq Kind := ⟨same⟩

mutual

/-- The number of kinds within a kind, itself included. -/
def size : Kind → Nat
  | .any | .bool | .number | .text => 1
  | .list k => size k + 1
  | .map k => size k + 1
  | .tuple ks => sizeItems ks + 1
  | .object fs => sizeFields fs + 1

def sizeItems : List Kind → Nat
  | [] => 0
  | k :: ks => size k + sizeItems ks

def sizeFields : List (Bytes × Kind) → Nat
  | [] => 0
  | (_, k) :: fs => size k + sizeFields fs

end

/-- Combines the orders of parts: they agree, or there is none. -/
def both : Ordering → Ordering → Option Ordering
  | .eq, o => some o
  | o, .eq => some o
  | a, b => if a == b then some a else none

mutual

/-- The kind that comes first takes in the other. -/
def order : Kind → Kind → Ordering
  | .any, .any => .eq
  | .any, _ => .gt
  | _, .any => .lt
  | .text, .bool | .text, .number => .lt
  | .bool, .text | .number, .text => .gt
  | .list a, .list b => order a b
  | .map a, .map b => order a b
  | .list _, .tuple _ => .lt
  | .tuple _, .list _ => .gt
  | .map _, .object _ => .lt
  | .object _, .map _ => .gt
  | .tuple as, .tuple bs => (orderItems as bs).getD .eq
  | .object as, .object bs => (orderFields as bs).getD .eq
  | _, _ => .eq

def orderItems : List Kind → List Kind → Option Ordering
  | [], [] => some .eq
  | a :: as, b :: bs => do both (order a b) (← orderItems as bs)
  | _, _ => none

def orderFields : List (Bytes × Kind) → List (Bytes × Kind) → Option Ordering
  | [], [] => some .eq
  | (n, a) :: as, (m, b) :: bs => do
    if n != m then none
    both (order a b) (← orderFields as bs)
  | _, _ => none

end

/-- Puts kinds before those they take in: what nothing else takes in comes first, in the order
given, then what only these take in, and so on. The fuel bounds the number of kinds. -/
def preference (kinds : List Kind) : List Kind :=
  go kinds.length [] kinds.zipIdx
where
  /-- Moves the kinds that none of the rest takes in. -/
  go : (fuel : Nat) → List Kind → List (Kind × Nat) → List Kind
    | 0, done, _ => done
    | fuel + 1, done, rest =>
      let free (k : Kind × Nat) : Bool := rest.all fun l => l.2 == k.2 || order l.1 k.1 != .lt
      let (next, later) := rest.partition free
      go fuel (done ++ next.map (·.1)) later

def isMap : Kind → Bool
  | .map _ => true
  | _ => false

def isList : Kind → Bool
  | .list _ => true
  | _ => false

def isObject : Kind → Bool
  | .object _ => true
  | _ => false

def isTuple : Kind → Bool
  | .tuple _ => true
  | _ => false

def isAny : Kind → Bool
  | .any => true
  | _ => false

/-- The kinds of what values of a kind hold. -/
def contents : Kind → List Kind
  | .list k => [k]
  | .map k => [k]
  | .tuple ks => ks
  | .object fs => fs.map (·.2)
  | _ => []

/-- A kind that several kinds share. Values may have to be forgotten for it: where a structure meets
a kind that is not known, nothing can be said of them. -/
structure Shared where
  kind : Kind
  forgotten : Bool := false

mutual

/-- The kind that several kinds share, if there is one. Structures of one sort are compared part by
part, else the first kind of the preferred order that all turn into wins. The fuel bounds the
depth. -/
def share? : (fuel : Nat) → List Kind → Option Shared
  | 0, _ => none
  | fuel + 1, kinds =>
    let only (p : Kind → Bool) : Bool := kinds.any p && kinds.all fun k => p k || k.isAny
    let blank : Option Shared := some ⟨.any, true⟩
    if kinds.isEmpty then none
    else if only isMap then
      if kinds.any isAny then blank else (share? fuel (kinds.flatMap contents)).map (⟨.map ·.kind, false⟩)
    else if only isList then
      if kinds.any isAny then blank else (share? fuel (kinds.flatMap contents)).map (⟨.list ·.kind, false⟩)
    else if only isObject then if kinds.any isAny then blank else shareObjects? fuel kinds
    else if only isTuple then if kinds.any isAny then blank else shareTuples? fuel kinds
    else
      let merged :=
        if kinds.any isMap && kinds.all (fun k => k.isMap || k.isObject || k.isAny) then
          shareCollections? fuel .map isObject kinds
        else if kinds.any isList && kinds.all (fun k => k.isList || k.isTuple || k.isAny) then
          shareCollections? fuel .list isTuple kinds
        else none
      match merged with
      | some k => some k
      | none =>
        if kinds.any isObject && kinds.any isTuple then none
        else
          let wanted := (preference kinds).find? fun want => kinds.all (turnsInto fuel · want)
          wanted.map (⟨·, false⟩)

/-- Objects with the same names share an object; others share a map. -/
def shareObjects? : (fuel : Nat) → List Kind → Option Shared
  | 0, _ => none
  | fuel + 1, kinds =>
    let names : Kind → List Bytes
      | .object fs => fs.map (·.1)
      | _ => []
    let first := (kinds.head?.map names).getD []
    if kinds.all (names · == first) then do
      let fields ← (List.range first.length).mapM fun i => do
        let s ← share? fuel (kinds.filterMap fun k => k.contents[i]?)
        return ((← first[i]?), s.kind)
      return ⟨.object fields, false⟩
    else do
      let s ← share? fuel (kinds.flatMap contents)
      let k := Kind.map s.kind
      if kinds.all (turnsInto fuel · k) then some ⟨k, false⟩ else none

/-- Tuples of one length share a tuple; others share a list. -/
def shareTuples? : (fuel : Nat) → List Kind → Option Shared
  | 0, _ => none
  | fuel + 1, kinds =>
    let length := (kinds.head?.map (·.contents.length)).getD 0
    if kinds.all (·.contents.length == length) then do
      let items ← (List.range length).mapM fun i => do
        return (← share? fuel (kinds.filterMap fun k => k.contents[i]?)).kind
      return ⟨.tuple items, false⟩
    else do
      let s ← share? fuel (kinds.flatMap contents)
      let k := Kind.list s.kind
      if kinds.all (turnsInto fuel · k) then some ⟨k, false⟩ else none

/-- Collections and structures among them: the structures become one collection first. -/
def shareCollections? : (fuel : Nat) → (wrap : Kind → Kind) → (isStructure : Kind → Bool) →
    List Kind → Option Shared
  | 0, _, _, _ => none
  | fuel + 1, wrap, isStructure, kinds => do
    let structures := kinds.filter isStructure
    let s ← share? fuel (structures.flatMap contents)
    let collection := wrap s.kind
    if !structures.all (turnsInto fuel · collection) then none
    let shared ← share? fuel (kinds.map fun k => if isStructure k then collection else k)
    if shared.forgotten then none else some shared

/-- Whether values of one kind can be tried as values of another. -/
def turnsInto : (fuel : Nat) → Kind → Kind → Bool
  | 0, _, _ => false
  | fuel + 1, a, b =>
    a == b || match a, b with
      | _, .any | .any, _ => true
      | .number, .text | .bool, .text | .text, .number | .text, .bool => true
      | .object fs, .object gs => gs.all fun (n, k) => (fs.lookup n).any (turnsInto fuel · k)
      | .tuple ks, .tuple ls =>
        ks.length == ls.length && (ks.zip ls).all fun (k, l) => turnsInto fuel k l
      | .list k, .list l => turnsInto fuel k l
      | .map k, .map l => turnsInto fuel k l
      | .tuple ks, .list l => allInto fuel ks l
      | .object fs, .map l => allInto fuel (fs.map (·.2)) l
      | .map k, .object gs => gs.all fun (_, l) => turnsInto fuel k l
      | _, _ => false

/-- Whether values of several kinds can all be tried as values of one, or of one they share if it is
not given. -/
def allInto : (fuel : Nat) → List Kind → Kind → Bool
  | 0, _, _ => false
  | fuel + 1, ks, l =>
    ks.isEmpty || match elementKind fuel ks l with
      | none => false
      | some .any => ks.all isAny
      | some l => ks.all (turnsInto fuel · l)

/-- The kind of the elements of a collection made of values of several kinds. -/
def elementKind : (fuel : Nat) → List Kind → Kind → Option Kind
  | 0, _, _ => none
  | fuel + 1, ks, l =>
    match l with
    | .any => if ks.isEmpty then some .any else (share? fuel ks).map (·.kind)
    | l => some l

end

/-- Depth enough for the comparison of some kinds. -/
def fuelFor (kinds : List Kind) : Nat := 8 * sizeItems kinds + 16

/-- The kind that two kinds share. -/
def common? (a b : Kind) : Option Shared := share? (fuelFor [a, b]) [a, b]

def canBecome (a b : Kind) : Bool := turnsInto (fuelFor [a, b]) a b

/-- The kind of the elements of a collection made of values of several kinds. -/
def elementOf (ks : List Kind) (l : Kind) : Kind := (elementKind (fuelFor ks) ks l).getD l

end Kind
end Stencil.Hcl
