import Stencil.Bytes

/-! How far two texts are apart. -/
namespace Stencil.Text

/-- The rest of a row of distances: `left` is the distance just computed, `diagonal` the one of the
row above before `above`. -/
def distanceCells (c : UInt8) : (diagonal left : Nat) → (above : List Nat) → Bytes → List Nat
  | diagonal, left, up :: above, d :: rest =>
    let here := if c == d then diagonal else 1 + min diagonal (min up left)
    here :: distanceCells c up here above rest
  | _, _, _, _ => []

/-- The distances to all beginnings of `target`, with one more byte `c` of the source. -/
def distanceRow (target : Bytes) (row : List Nat) (c : UInt8) : List Nat :=
  match row with
  | [] => []
  | first :: above => (first + 1) :: distanceCells c first (first + 1) above target

/-- The least number of bytes to insert, delete or replace that makes one text into the other. -/
def distance (source target : Bytes) : Nat :=
  ((source.foldl (distanceRow target) (List.range (target.length + 1))).getLast?).getD 0

example : distance "kitten" "sitting" = 3 := by decide
example : distance "" "fmt" = 3 := by decide
example : distance "fmtt" "fmt" = 1 := by decide

end Stencil.Text
