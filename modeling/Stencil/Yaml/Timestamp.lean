import Stencil.Bytes

/-! Points in time as YAML texts write them: a date, and perhaps a time of day and a zone. -/
namespace Stencil.Yaml.Timestamp

/-- Reads one digit or two. -/
def short? : Bytes → Option (Nat × Bytes)
  | a :: b :: rest =>
    if !Bytes.isDigit a then none
    else if Bytes.isDigit b then some (10 * (a.toNat - 48) + (b.toNat - 48), rest)
    else some (a.toNat - 48, b :: rest)
  | [a] => if Bytes.isDigit a then some (a.toNat - 48, []) else none
  | [] => none

/-- Reads a number of one digit or two below a bound. -/
def below? (bound : Nat) (b : Bytes) : Option Bytes := do
  let (n, rest) ← short? b
  if n < bound then some rest else none

def byte? (c : UInt8) : Bytes → Option Bytes
  | a :: rest => if a == c then some rest else none
  | [] => none

def isLeap (year : Nat) : Bool := year % 4 == 0 && (year % 100 != 0 || year % 400 == 0)

def daysIn (year month : Nat) : Nat :=
  if month = 2 then if isLeap year then 29 else 28
  else if month = 4 || month = 6 || month = 9 || month = 11 then 30
  else 31

/-- Reads a year of four digits, a month and a day of it. -/
def date? (b : Bytes) : Option Bytes := do
  let year ← Bytes.toNat? (b.take 4)
  if (b.take 4).length < 4 then none
  let (month, rest) ← short? (← byte? 0x2D (b.drop 4))
  if month = 0 || 12 < month then none
  let (day, rest) ← short? (← byte? 0x2D rest)
  if day = 0 || daysIn year month < day then none else some rest

/-- Reads a part of a second, if there is one. -/
def fraction (b : Bytes) : Bytes :=
  match b with
  | mark :: d :: rest =>
    if (mark == 0x2E || mark == 0x2C) && Bytes.isDigit d then rest.dropWhile Bytes.isDigit else b
  | _ => b

/-- Reads hours, minutes and seconds. -/
def time? (b : Bytes) : Option Bytes := do
  let b ← byte? 0x3A (← below? 24 b)
  let b ← byte? 0x3A (← below? 60 b)
  return fraction (← below? 60 b)

/-- Whether this is a zone: `Z`, or a sign, hours and minutes. -/
def isZone : Bytes → Bool
  | [0x5A] => true
  | [sign, a, b, colon, c, d] =>
    (sign == 0x2B || sign == 0x2D) && colon == 0x3A && [a, b, c, d].all Bytes.isDigit
      && (Bytes.toNat? [a, b]).any (· ≤ 24) && (Bytes.toNat? [c, d]).any (· ≤ 60)
  | _ => false

/-- Whether a text is a date, a date and a time after blanks, or both with a `T` between them and a
zone. -/
def isValid (b : Bytes) : Bool :=
  match date? b with
  | none => false
  | some [] => true
  | some (c :: rest) =>
    if c == 0x20 then (time? (rest.dropWhile (· == 0x20))).any List.isEmpty
    else if c == 0x54 || c == 0x74 then (time? rest).any isZone
    else false

example : isValid "2001-12-14t21:59:43.10-05:00" = true := by decide
example : isValid "2001-02-29" = false := by decide

end Stencil.Yaml.Timestamp
