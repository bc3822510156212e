import Stencil.Text.Printable
import Stencil.Text.Utf8

/-! Quoted texts in messages: every character that could not be read on a terminal is escaped. -/
namespace Stencil.Text

/-- The two-character escapes. -/
def shortEscape? (n : Nat) : Option UInt8 :=
  match n with
  | 0x07 => some 0x61
  | 0x08 => some 0x62
  | 0x0C => some 0x66
  | 0x0A => some 0x6E
  | 0x0D => some 0x72
  | 0x09 => some 0x74
  | 0x0B => some 0x76
  | _ => none

/-- One code point between the quotes `mark`. -/
def quoteChar (mark : UInt8) (c : Char) : Bytes :=
  let n := c.toNat
  if n == mark.toNat || n == 0x5C then [0x5C, n.toUInt8]
  else if isPrintable c then Utf8.encodeChar c
  else match shortEscape? n with
    | some e => [0x5C, e]
    | none =>
      if n < 0x20 || n == 0x7F then "\\x" ++ Bytes.hex 2 n
      else if n < 0x10000 then "\\u" ++ Bytes.hex 4 n
      else "\\U" ++ Bytes.hex 8 n

def quoteRune (mark : UInt8) : Rune → Bytes
  | .char c => quoteChar mark c
  | .stray b => "\\x" ++ Bytes.hex 2 b.toNat

/-- A text in double quotes. -/
def quote (b : Bytes) : Bytes :=
  [0x22] ++ (Utf8.runes b).flatMap (quoteRune 0x22) ++ [0x22]

/-- The character with this code point, in single quotes. -/
def quoteByte (b : UInt8) : Bytes :=
  [0x27] ++ quoteChar 0x27 (Char.ofNat b.toNat) ++ [0x27]

end Stencil.Text
