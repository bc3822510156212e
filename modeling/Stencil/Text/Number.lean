import Stencil.Bytes

/-! Reading 64-bit integers and truth values. -/
namespace Stencil.Text

/-- Why a text is no integer. -/
inductive NumberError where
  | malformed
  | outOfRange
  deriving DecidableEq, Repr

namespace NumberError

def message : NumberError → Bytes
  | .malformed => "invalid syntax"
  | .outOfRange => "value out of range"

end NumberError

def minInt64 : Int := -9223372036854775808
def maxInt64 : Int := 9223372036854775807

/-- The value of a digit or letter. -/
def digitValue? (c : UInt8) : Option Nat :=
  if Bytes.isDigit c then some (c.toNat - 48)
  else if Bytes.isLetter c then some ((Bytes.lowerByte c).toNat - 87)
  else none

/-- Adds digits to a magnitude. What comes first decides: a byte that is no digit, or a value of
more than 64 bits. -/
def readDigits (base : Nat) : Nat → Bytes → Except NumberError Nat
  | n, [] => .ok n
  | n, c :: rest =>
    match (digitValue? c).filter (· < base) with
    | none => .error .malformed
    | some d => if Nat.pow 2 64 ≤ n * base + d then .error .outOfRange else readDigits base (n * base + d) rest

/-- Takes a sign off. -/
def splitSign : Bytes → Bool × Bytes
  | 0x2D :: rest => (true, rest)
  | 0x2B :: rest => (false, rest)
  | b => (false, b)

/-- The integer of a sign and a magnitude, within 64 bits. -/
def signed (negative : Bool) (n : Nat) : Except NumberError Int :=
  let v : Int := if negative then -n else n
  if minInt64 ≤ v ∧ v ≤ maxInt64 then .ok v else .error .outOfRange

/-- Digits of a base after an optional sign, within 64 bits. -/
def readInBase (base : Nat) (b : Bytes) : Except NumberError Int := do
  let (negative, digits) := splitSign b
  if digits.isEmpty then throw .malformed
  signed negative (← readDigits base 0 digits)

/-- Decimal digits after an optional sign, within 64 bits. -/
def readInt (b : Bytes) : Except NumberError Int := readInBase 10 b

def readInt? (b : Bytes) : Option Int := (readInt b).toOption

/-- Takes off the mark of a base: `0x`, `0b`, `0o`, or a plain zero for octal digits. -/
def splitBase : Bytes → Nat × Bytes
  | 0x30 :: c :: d :: rest =>
    if Bytes.lowerByte c == 0x78 then (16, d :: rest)
    else if Bytes.lowerByte c == 0x62 then (2, d :: rest)
    else if Bytes.lowerByte c == 0x6F then (8, d :: rest)
    else (8, c :: d :: rest)
  | 0x30 :: rest => (8, rest)
  | b => (10, b)

/-- Whether every underscore stands between digits; `after` tells that a digit or the mark of a base
is just before. -/
def separates (isDigit : UInt8 → Bool) (after : Bool) : Bytes → Bool
  | [] => true
  | 0x5F :: rest => after && rest.head?.any isDigit && separates isDigit false rest
  | c :: rest => separates isDigit (isDigit c) rest

/-- An integer literal: a sign, the mark of a base, and digits that underscores may separate. -/
def readLiteral (b : Bytes) : Except NumberError Int := do
  let (negative, marked) := splitSign b
  if marked.isEmpty then throw .malformed
  let (base, digits) := splitBase marked
  let n ← readDigits base 0 (digits.filter (· != 0x5F))
  if !separates (fun c => (digitValue? c).isSome) (base != 10) digits then throw .malformed
  signed negative n

/-- The mark of a base and digits, without a sign, within 64 bits. -/
def readNatural (b : Bytes) : Except NumberError Nat := do
  if b.isEmpty then throw .malformed
  let (base, digits) := splitBase b
  readDigits base 0 digits

/-- One letter, a digit or the word, in small letters, capitals or with one capital. -/
def readBool? (b : Bytes) : Option Bool :=
  if ["1", "t", "T", "true", "TRUE", "True"].any (Bytes.ofString · == b) then some true
  else if ["0", "f", "F", "false", "FALSE", "False"].any (Bytes.ofString · == b) then some false
  else none

example : readInt? "+99" = some 99 := by decide
example : readInt? "1e2" = none := by decide
example : (readLiteral "-0x1_0").toOption = some (-16) := by decide
example : (readLiteral "1__0").toOption = none := by decide

end Stencil.Text
