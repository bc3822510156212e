import Stencil.Bytes
import Stencil.Number.Nearest

/-! Durations such as `1h30m` or `1.5s`, in nanoseconds. -/
namespace Stencil.Text

/-- Why a text is no duration. -/
inductive DurationError where
  | malformed (text : Bytes)
  | missingUnit (text : Bytes)
  | unknownUnit (unit text : Bytes)
  deriving DecidableEq, Repr

namespace Duration

/-- Quotes a text: quotes and backslashes get a backslash, control and non-ASCII bytes are written
in hexadecimal. -/
def quote (b : Bytes) : Bytes :=
  "\"" ++ b.flatMap (fun c =>
    if c < 0x20 || 0x80 ≤ c then ("\\x" ++ Bytes.hex 2 c.toNat : Bytes)
    else if c == 0x22 || c == 0x5C then [0x5C, c]
    else [c]) ++ "\""

/-- Nanoseconds in a unit; both micro signs are known. -/
def unit? (u : Bytes) : Option Nat :=
  ([("ns", 1), ("us", 1000), ("µs", 1000), ("μs", 1000), ("ms", 1000000), ("s", 1000000000),
    ("m", 60000000000), ("h", 3600000000000)].map
    fun (n, v) => (Bytes.ofString n, v)).lookup u

/-- One more than the largest magnitude of a positive duration. -/
def bound : Nat := Nat.pow 2 63

/-- The digits after a point, as a number and the power of ten it is to be divided by. Digits that
no longer fit are passed over. -/
def fraction (digits : Bytes) : Nat × Nat :=
  let (value, scale, _) := digits.foldl (fun (value, scale, full) c =>
    let next := value * 10 + (c.toNat - 48)
    if full || (bound - 1) / 10 < value || bound < next then (value, scale, true)
    else (next, scale * 10, false)) (0, 1, false)
  (value, scale)

/-- The nanoseconds of a fraction of a unit, computed with 53 significant bits. -/
def fractionOf (unit value scale : Nat) : Nat :=
  let part := Number.nearest 53 (mkRat unit scale)
  (Number.truncate (Number.nearest 53 (Number.nearest 53 (mkRat value 1) * part))).toNat

def isNumeric (c : UInt8) : Bool := c == 0x2E || Bytes.isDigit c

/-- Reads amounts with units until the text ends, adding them to `total`. The fuel bounds the
number of amounts. -/
def readAmounts (text : Bytes) : (fuel total : Nat) → Bytes → Except DurationError Nat
  | 0, total, _ => .ok total
  | _ + 1, total, [] => .ok total
  | fuel + 1, total, b => do
    if !(b.head?.any isNumeric) then throw (.malformed text)
    let whole := b.takeWhile Bytes.isDigit
    let value := (Bytes.toNat? whole).getD 0
    if bound < value then throw (.malformed text)
    let rest := b.drop whole.length
    let digits := match rest with
      | 0x2E :: after => after.takeWhile Bytes.isDigit
      | _ => []
    let rest := match rest with
      | 0x2E :: after => after.dropWhile Bytes.isDigit
      | _ => rest
    if whole.isEmpty && digits.isEmpty then throw (.malformed text)
    let name := rest.takeWhile (!isNumeric ·)
    if name.isEmpty then throw (.missingUnit text)
    match unit? name with
    | none => throw (.unknownUnit name text)
    | some unit =>
      if bound / unit < value then throw (.malformed text)
      let (part, scale) := fraction digits
      let amount := value * unit + (if part = 0 then 0 else fractionOf unit part scale)
      if bound < amount || bound < total + amount then throw (.malformed text)
      readAmounts text fuel (total + amount) (rest.drop name.length)

/-- Reads a duration: an optional sign, then amounts with units, or a bare `0`. -/
def read (text : Bytes) : Except DurationError Int := do
  let (negative, b) := match text with
    | 0x2D :: rest => (true, rest)
    | 0x2B :: rest => (false, rest)
    | _ => (false, text)
  if b = [0x30] then return 0
  if b.isEmpty then throw (.malformed text)
  let total ← readAmounts text (b.length + 1) 0 b
  if negative then return -total
  else if total < bound then return total
  else throw (.malformed text)

/-- The thousandths of a second, without zeros at the end. -/
def renderFraction (thousandths : Nat) : Bytes :=
  let digits := Bytes.trimRight (· == 0x30) ((Bytes.ofNat (1000 + thousandths)).tail)
  if digits.isEmpty then [] else "." ++ digits

/-- A duration in hours, minutes and seconds, to the nearest thousandth; less than a second is given
in thousandths. -/
def render (nanoseconds : Nat) : Bytes :=
  let total := (nanoseconds + 500000) / 1000000
  if total = 0 then "0s"
  else if total < 1000 then Bytes.ofNat total ++ "ms"
  else
    let seconds := total / 1000
    let hours : Bytes := if 3600 ≤ seconds then Bytes.ofNat (seconds / 3600) ++ "h" else []
    let minutes : Bytes := if 60 ≤ seconds then Bytes.ofNat (seconds / 60 % 60) ++ "m" else []
    hours ++ minutes ++ Bytes.ofNat (seconds % 60) ++ renderFraction (total % 1000) ++ "s"

example : render 1500000000 = Bytes.ofString "1.5s" := by decide
example : render 3600000000000 = Bytes.ofString "1h0m0s" := by decide

end Duration

def DurationError.message : DurationError → Bytes
  | .malformed text => "time: invalid duration " ++ Duration.quote text
  | .missingUnit text => "time: missing unit in duration " ++ Duration.quote text
  | .unknownUnit unit text =>
    "time: unknown unit " ++ Duration.quote unit ++ " in duration " ++ Duration.quote text

end Stencil.Text
