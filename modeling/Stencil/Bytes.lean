/-! Byte strings, the one representation of documents, tokens, paths and messages. -/
namespace Stencil

/-- A text is its bytes; it need not be well-formed UTF-8. -/
abbrev Bytes := List UInt8

namespace Bytes

/-- The UTF-8 bytes of a string. -/
def ofString (s : String) : Bytes := s.toUTF8.data.toList

instance : Coe String Bytes := ⟨ofString⟩

/-- The string whose UTF-8 form these bytes are, if there is one. -/
def toString? (b : Bytes) : Option String := String.fromUTF8? ⟨b.toArray⟩

/-- Decimal digits of a natural number. -/
def ofNat (n : Nat) : Bytes := (Nat.toDigits 10 n).map Char.toUInt8

/-- Decimal digits of an integer, after a minus sign if it is negative. -/
def ofInt : Int → Bytes
  | .ofNat n => ofNat n
  | .negSucc n => 0x2D :: ofNat (n + 1)

def isLower (c : UInt8) : Bool := 0x61 ≤ c && c ≤ 0x7A
def isUpper (c : UInt8) : Bool := 0x41 ≤ c && c ≤ 0x5A
def isLetter (c : UInt8) : Bool := isLower c || isUpper c
def isDigit (c : UInt8) : Bool := 0x30 ≤ c && c ≤ 0x39

/-- Space, tab, line feed, carriage return, form feed and vertical tab. -/
def isSpace (c : UInt8) : Bool :=
  c == 0x20 || c == 0x09 || c == 0x0A || c == 0x0D || c == 0x0C || c == 0x0B

/-- ASCII letters go to lower case and all else stays. -/
def lowerByte (c : UInt8) : UInt8 := if isUpper c then c + 0x20 else c

def upperByte (c : UInt8) : UInt8 := if isLower c then c - 0x20 else c

def toLower (b : Bytes) : Bytes := b.map lowerByte

def toUpper (b : Bytes) : Bytes := b.map upperByte

/-- Equality up to the case of ASCII letters. -/
def eqIgnoreCase (a b : Bytes) : Bool := toLower a == toLower b

def hasPrefix (p b : Bytes) : Bool := p.isPrefixOf b

/-- What follows `p` in a text that starts with it. -/
def stripPrefix? (p b : Bytes) : Option Bytes :=
  if p.isPrefixOf b then some (b.drop p.length) else none

/-- What stands before `s` in a text that ends with it. -/
def stripSuffix? (s b : Bytes) : Option Bytes :=
  if s.isSuffixOf b then some (b.take (b.length - s.length)) else none

/-- Removes `p` from the start if it is there. -/
def trimPrefix (p b : Bytes) : Bytes := (stripPrefix? p b).getD b

/-- The text before the leftmost `sep` and the text after it. -/
def cut? (sep : Bytes) : Bytes → Option (Bytes × Bytes)
  | [] => if sep.isEmpty then some ([], []) else none
  | b :: rest =>
    if sep.isPrefixOf (b :: rest) then some ([], (b :: rest).drop sep.length)
    else (cut? sep rest).map fun (before, after) => (b :: before, after)

/-- The text before the rightmost `sep` and the text after it. -/
def cutLast? (sep b : Bytes) : Option (Bytes × Bytes) :=
  (cut? sep.reverse b.reverse).map fun (after, before) => (before.reverse, after.reverse)

def contains (part b : Bytes) : Bool := (cut? part b).isSome

/-- The pieces between the occurrences of one byte; there is always at least one. -/
def splitByte (c : UInt8) : Bytes → List Bytes
  | [] => [[]]
  | b :: rest =>
    if b == c then [] :: splitByte c rest
    else match splitByte c rest with
      | [] => [[b]]
      | piece :: more => (b :: piece) :: more

/-- Replaces the leftmost `n` disjoint occurrences of a non-empty `find`; the fuel bounds the
length of the text. -/
def replaceAux (find replace : Bytes) : (fuel n : Nat) → Bytes → Bytes
  | 0, _, b => b
  | _, 0, b => b
  | fuel + 1, n + 1, b =>
    match cut? find b with
    | none => b
    | some (before, after) => before ++ replace ++ replaceAux find replace fuel n after

def replaceFirst (n : Nat) (find replace b : Bytes) : Bytes :=
  replaceAux find replace (b.length + 1) n b

def replaceAll (find replace b : Bytes) : Bytes :=
  replaceFirst (b.length + 1) find replace b

def trimLeft (p : UInt8 → Bool) (b : Bytes) : Bytes := b.dropWhile p

def trimRight (p : UInt8 → Bool) (b : Bytes) : Bytes := (b.reverse.dropWhile p).reverse

def trim (p : UInt8 → Bool) (b : Bytes) : Bytes := trimRight p (trimLeft p b)

/-- Joins texts with a separator between neighbours. -/
def joinWith (sep : Bytes) : List Bytes → Bytes
  | [] => []
  | [b] => b
  | b :: more => b ++ sep ++ joinWith sep more

/-- Orders texts by their bytes, a proper beginning first. -/
def lt : Bytes → Bytes → Bool
  | _, [] => false
  | [], _ :: _ => true
  | a :: as, b :: bs => a < b || (a == b && lt as bs)

def le (a b : Bytes) : Bool := !lt b a

/-- Reads a non-empty run of decimal digits. -/
def toNat? (b : Bytes) : Option Nat :=
  if b.isEmpty || !b.all isDigit then none
  else some (b.foldl (fun n c => 10 * n + (c.toNat - 48)) 0)

def hexDigit (n : Nat) : UInt8 := (if n < 10 then 48 + n else 87 + n).toUInt8

/-- The `width` low hexadecimal digits of `n`. -/
def hex (width n : Nat) : Bytes :=
  (List.range width).reverse.map fun i => hexDigit (n / Nat.pow 16 i % 16)

def hexValue? (c : UInt8) : Option Nat :=
  if isDigit c then some (c.toNat - 48)
  else if 0x61 ≤ c && c ≤ 0x66 then some (c.toNat - 87)
  else if 0x41 ≤ c && c ≤ 0x46 then some (c.toNat - 55)
  else none

@[simp] theorem splitByte_nil (c : UInt8) : splitByte c [] = [[]] := rfl

theorem splitByte_ne_nil (c : UInt8) (b : Bytes) : splitByte c b ≠ [] := by
  cases b with
  | nil => simp
  | cons x rest => unfold splitByte; split <;> (try split) <;> simp

example : cut? "::" "a::b::c" = some (ofString "a", ofString "b::c") := by decide
example : splitByte 0x2F "a//b" = [ofString "a", [], ofString "b"] := by decide
example : replaceAll "aa" "b" "aaaaa" = ofString "bba" := by decide
example : hex 2 0x1F = ofString "1f" := by decide

end Bytes
end Stencil
