import Stencil.Number.Nearest
import Stencil.Text.Number

/-! Decimal texts and the numbers with 53 significant bits next to them. -/
namespace Stencil.Number

/-- A decimal text taken apart: its digits, and the exponent of ten of the last one. -/
structure Decimal where
  negative : Bool
  digits : Bytes
  exponent : Int
  deriving DecidableEq, Repr

namespace Decimal

/-- Reads an exponent; from five digits on no further digit counts. -/
def readExponent (digits : Bytes) : Nat :=
  digits.foldl (fun n c => if n < 10000 then 10 * n + (c.toNat - 48) else n) 0

/-- Reads a decimal with an optional sign, point and exponent. -/
def read? (b : Bytes) : Option Decimal := do
  let (negative, rest) := Text.splitSign b
  let whole := rest.takeWhile Bytes.isDigit
  let rest := rest.drop whole.length
  let (part, rest) := match rest with
    | 0x2E :: after => (after.takeWhile Bytes.isDigit, after.dropWhile Bytes.isDigit)
    | _ => ([], rest)
  if whole.isEmpty && part.isEmpty then none
  let e ← match rest with
    | [] => some 0
    | mark :: after =>
      if Bytes.lowerByte mark != 0x65 then none
      else
        let (negative, digits) := Text.splitSign after
        if digits.isEmpty || !digits.all Bytes.isDigit then none
        else some (if negative then -(readExponent digits : Int) else readExponent digits)
  return ⟨negative, whole ++ part, e - part.length⟩

/-- The number with 53 significant bits that is nearest, unless it is too large. -/
def nearest? (d : Decimal) : Option Rat :=
  let digits := d.digits.dropWhile (· == 0x30)
  let magnitude : Int := digits.length + d.exponent
  if digits.isEmpty || magnitude < -330 then some 0
  else if 310 < magnitude then none
  else
    let n : Int := ((Bytes.toNat? digits).getD 0 : Nat)
    let q := Number.nearest 53 (mkRat (if d.negative then -n else n) 1 * power 10 d.exponent)
    let bound := power 2 1024
    if q < bound && -bound < q then some q else none

end Decimal
end Stencil.Number
