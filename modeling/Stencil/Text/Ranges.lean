/-! Sets of code points as sorted arrays of closed ranges. -/
namespace Stencil.Text

/-- Ranges in increasing order, no two of which share a point. -/
abbrev Ranges := Array (Nat × Nat)

namespace Ranges

/-- Halves the window `[lo, hi)` until one range is left; `fuel` bounds the number of halvings. -/
def search (r : Ranges) (c : Nat) : (fuel lo hi : Nat) → Option (Nat × Nat)
  | 0, _, _ => none
  | fuel + 1, lo, hi =>
    if lo < hi then
      let mid := (lo + hi) / 2
      match r[mid]? with
      | none => none
      | some (first, last) =>
        if c < first then search r c fuel lo mid
        else if last < c then search r c fuel (mid + 1) hi
        else some (first, last)
    else none

/-- The range that holds a point. A window of `n` ranges is exhausted after `log₂ n + 1`
halvings. -/
def find? (r : Ranges) (c : Nat) : Option (Nat × Nat) := search r c (r.size.log2 + 2) 0 r.size

def contains (r : Ranges) (c : Nat) : Bool := (r.find? c).isSome

/-- Whether one range holds both a point and the one before it. -/
def joins (r : Ranges) (c : Nat) : Bool := (r.find? c).any (·.1 < c)

end Ranges

example : Ranges.contains #[(1, 3), (5, 5), (8, 9)] 5 = true := by decide
example : Ranges.contains #[(1, 3), (5, 5), (8, 9)] 4 = false := by decide
example : Ranges.joins #[(1, 3), (4, 5)] 4 = false := by decide
example : Ranges.joins #[(1, 3), (4, 5)] 5 = true := by decide

end Stencil.Text
