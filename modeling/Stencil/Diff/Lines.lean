import Stencil.Bytes

/-! Line diffs by a shortest edit script: furthest-reaching paths are found for 0, 1, 2, … edits,
and the script is read back from the end. -/
namespace Stencil.Diff

/-- One line of an edit script. -/
inductive Edit where
  | keep (line : Bytes)
  | insert (line : Bytes)
  | delete (line : Bytes)
  deriving DecidableEq, Repr

/-- For each diagonal, shifted by the greatest number of edits, how many old lines the
furthest-reaching path has passed. -/
abbrev Frontier := Array Nat

/-- Follows equal lines from `x` in the old and `y` in the new text; `fuel` bounds their number. -/
def snake (old new : Array Bytes) : (fuel x y : Nat) → Nat
  | 0, x, _ => x
  | fuel + 1, x, y =>
    match old[x]?, new[y]? with
    | some a, some b => if a == b then snake old new fuel (x + 1) (y + 1) else x
    | _, _ => x

/-- A diagonal's slot. -/
def slot (shift : Nat) (diagonal : Int) : Nat := (diagonal + shift).toNat

def reach (shift : Nat) (v : Frontier) (diagonal : Int) : Nat := v.getD (slot shift diagonal) 0

/-- The furthest path with `d` edits comes from the diagonal above, by an insertion, or from the
one below, by a deletion. -/
def comesByInsertion (shift : Nat) (v : Frontier) (d : Nat) (diagonal : Int) : Bool :=
  diagonal == -d || (diagonal != d && reach shift v (diagonal - 1) < reach shift v (diagonal + 1))

/-- Extends the paths with `d` edits along the diagonals; true when one reaches the end. -/
def extend (old new : Array Bytes) (shift d : Nat) : List Int → Frontier → Frontier × Bool
  | [], v => (v, false)
  | k :: more, v =>
    let x := if comesByInsertion shift v d k then reach shift v (k + 1) else reach shift v (k - 1) + 1
    let y := (x - k).toNat
    let x := snake old new (old.size + 1) x y
    let v := v.setIfInBounds (slot shift k) x
    if old.size ≤ x && (new.size : Int) ≤ x - k then (v, true)
    else extend old new shift d more v

/-- Diagonals with `d` edits, from below. -/
def diagonals (d : Nat) : List Int := (List.range (d + 1)).map fun (i : Nat) => (2 * i : Int) - d

/-- The frontiers for 0, 1, … edits up to the first that reaches the end, in reverse. -/
def frontiers (old new : Array Bytes) (shift : Nat) :
    (fuel d : Nat) → Frontier → List Frontier → List Frontier
  | 0, _, _, acc => acc
  | fuel + 1, d, v, acc =>
    match extend old new shift d (diagonals d) v with
    | (v, true) => v :: acc
    | (v, false) => frontiers old new shift fuel (d + 1) v (v :: acc)

def keepRange (old : Array Bytes) (start stop : Nat) : List Edit :=
  (old.extract start stop).toList.map .keep

/-- Reads the script back from `x` and `y`, the last frontier first. -/
def backtrack (old new : Array Bytes) (shift : Nat) (x y : Nat) (script : List Edit) :
    List Frontier → List Edit
  | [] => script
  | [_] => keepRange old 0 x ++ script
  | v :: earlier =>
    let d := earlier.length
    let k : Int := (x : Int) - y
    let inserted := comesByInsertion shift v d k
    let k' := if inserted then k + 1 else k - 1
    let x' := reach shift v k'
    let y' := (x' - k').toNat
    let edit := if inserted then new[y']?.map .insert else old[x']?.map .delete
    let kept := keepRange old (if inserted then x' else x' + 1) x
    backtrack old new shift x' y' (edit.toList ++ kept ++ script) earlier

/-- A shortest script from the old to the new lines. -/
def script (old new : Array Bytes) : List Edit :=
  let shift := old.size + new.size
  let start : Frontier := Array.replicate (2 * shift + 1) 0
  backtrack old new shift old.size new.size [] (frontiers old new shift (shift + 1) 0 start [])

namespace Edit

/-- A mark and the line. -/
def render : Edit → Bytes
  | .keep line => 0x20 :: line
  | .insert line => 0x2B :: line
  | .delete line => 0x2D :: line

def isKeep : Edit → Bool
  | .keep _ => true
  | _ => false

end Edit

/-- The marked lines between two texts; nothing at all if the texts are equal. -/
def lines (old new : Bytes) : Bytes :=
  let edits := script (Bytes.splitByte 0x0A old).toArray (Bytes.splitByte 0x0A new).toArray
  if edits.all Edit.isKeep then []
  else Bytes.trimRight (· == 0x0A) (Bytes.joinWith [0x0A] (edits.map Edit.render))

end Stencil.Diff
