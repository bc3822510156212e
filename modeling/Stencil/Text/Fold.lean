import Stencil.Text.Utf8

/-! Case-insensitive comparison with names made of ASCII characters. -/
namespace Stencil.Text

/-- Simple case folding as far as it reaches ASCII: besides the capital letters, the long s and
the Kelvin sign. -/
def foldChar (c : Char) : Char :=
  if 'A' ≤ c && c ≤ 'Z' then Char.ofNat (c.toNat + 32)
  else if c.toNat == 0x17F then 's'
  else if c.toNat == 0x212A then 'k'
  else c

/-- Whether two texts, one of them ASCII, are equal up to case. -/
def eqFold (a b : List Char) : Bool := a.map foldChar == b.map foldChar

end Stencil.Text
