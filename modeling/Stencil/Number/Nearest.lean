/-! Rounding to numbers with a fixed count of significant bits. -/
namespace Stencil.Number

/-- The integer nearest to a quotient; a half goes to the even neighbour. -/
def roundDiv (num den : Nat) : Nat :=
  let q := num / den
  let r := num % den
  if den < 2 * r || (2 * r == den && q % 2 == 1) then q + 1 else q

/-- A power of a base with any integer exponent. -/
def power (base : Nat) : Int → Rat
  | .ofNat n => mkRat (Nat.pow base n) 1
  | .negSucc n => mkRat 1 (Nat.pow base (n + 1))

/-- The integer nearest to a number; a half goes to the even neighbour. -/
def round (q : Rat) : Int :=
  let n : Int := roundDiv q.num.natAbs q.den
  if q.num < 0 then -n else n

/-- The part before the point. -/
def truncate (q : Rat) : Int := q.num.tdiv q.den

/-- The exponent of the highest power of two not above `num / den`. -/
def binaryExponent (num den : Nat) : Int :=
  let e : Int := (num.log2 : Int) - den.log2
  if mkRat num den < power 2 e then e - 1 else e

/-- The nearest number with at most `bits` significant bits. -/
def nearest (bits : Nat) (q : Rat) : Rat :=
  if q.num = 0 then 0
  else
    let e := binaryExponent q.num.natAbs q.den
    let shift : Int := (bits : Int) - 1 - e
    mkRat (round (q * power 2 shift)) 1 * power 2 (-shift)

end Stencil.Number
