import Stencil.Text.Utf8

/-! White space of Unicode, and trimming by it. -/
namespace Stencil.Text

/-- The code points with property `White_Space`. -/
def isSpaceChar (c : Char) : Bool :=
  let n := c.toNat
  (0x09 ≤ n && n ≤ 0x0D) || n == 0x20 || n == 0x85 || n == 0xA0 || n == 0x1680
    || (0x2000 ≤ n && n ≤ 0x200A) || n == 0x2028 || n == 0x2029 || n == 0x202F || n == 0x205F
    || n == 0x3000

def Rune.isSpace : Rune → Bool
  | .char c => isSpaceChar c
  | .stray _ => false

/-- Removes white space at the start. -/
def trimSpaceLeft (b : Bytes) : Bytes :=
  Utf8.encodeRunes ((Utf8.runes b).dropWhile Rune.isSpace)

/-- Removes white space at the end. -/
def trimSpaceRight (b : Bytes) : Bytes :=
  Utf8.encodeRunes (((Utf8.runes b).reverse.dropWhile Rune.isSpace).reverse)

/-- Removes white space at both ends; a text with stray bytes keeps them. -/
def trimSpace (b : Bytes) : Bytes :=
  let inner := ((Utf8.runes b).dropWhile Rune.isSpace).reverse.dropWhile Rune.isSpace
  Utf8.encodeRunes inner.reverse

end Stencil.Text
