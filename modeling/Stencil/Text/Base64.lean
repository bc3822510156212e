import Stencil.Bytes

/-! Bytes written in base 64. -/
namespace Stencil.Text.Base64

def digit? (c : UInt8) : Option Nat :=
  if Bytes.isUpper c then some (c.toNat - 0x41)
  else if Bytes.isLower c then some (c.toNat - 0x61 + 26)
  else if Bytes.isDigit c then some (c.toNat - 0x30 + 52)
  else if c == 0x2B then some 62
  else if c == 0x2F then some 63
  else none

/-- Reads digits in groups of four. Two or three digits that are filled up with `=` come last. -/
def groups : Bytes → Option Bytes
  | [] => some []
  | [a, b, 0x3D, 0x3D] => do
    let x := 64 * (← digit? a) + (← digit? b)
    return [(x / 16).toUInt8]
  | [a, b, c, 0x3D] => do
    let x := 64 * (64 * (← digit? a) + (← digit? b)) + (← digit? c)
    return [(x / 1024).toUInt8, (x / 4).toUInt8]
  | a :: b :: c :: d :: rest => do
    let x := 64 * (64 * (64 * (← digit? a) + (← digit? b)) + (← digit? c)) + (← digit? d)
    return (x / 65536).toUInt8 :: (x / 256).toUInt8 :: x.toUInt8 :: (← groups rest)
  | _ => none

/-- The bytes that a text stands for; line breaks in it do not count. -/
def decode? (b : Bytes) : Option Bytes := groups (b.filter fun c => c != 0x0A && c != 0x0D)

example : decode? "aGk=" = some (Bytes.ofString "hi") := by decide
example : decode? "a*==" = none := by decide

end Stencil.Text.Base64
