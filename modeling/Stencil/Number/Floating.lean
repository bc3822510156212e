import Stencil.Number.Nearest
import Stencil.Text.Number

/-! Binary floating-point numbers of any precision, with signed zeros and infinities. -/
namespace Stencil.Number

/-- The size of a number: `mantissa · 2 ^ exponent`, or more than all of these. -/
inductive Magnitude where
  | finite (mantissa : Nat) (exponent : Int)
  | infinite
  deriving DecidableEq, Repr

/-- A number together with the count of significant bits that results of its operations have. -/
structure Floating where
  precision : Nat
  negative : Bool
  magnitude : Magnitude
  deriving DecidableEq, Repr

namespace Floating

/-- A number counts as infinite from this power of two on, and as zero below its inverse. -/
def exponentLimit : Int := 2147483648

/-- The exponent of the least power of two above a positive number. -/
def binaryExponent (mantissa : Nat) (exponent : Int) : Int := (mantissa.log2 : Int) + 1 + exponent

def zero (precision : Nat) (negative : Bool) : Floating := ⟨precision, negative, .finite 0 0⟩

def infinity (precision : Nat) (negative : Bool) : Floating := ⟨precision, negative, .infinite⟩

def isZero (x : Floating) : Bool :=
  match x.magnitude with
  | .finite 0 _ => true
  | _ => false

/-- Infinite if too large and zero if too small. -/
def confine (precision : Nat) (negative : Bool) (mantissa : Nat) (exponent : Int) : Floating :=
  if mantissa == 0 then zero precision negative
  else
    let e := binaryExponent mantissa exponent
    if exponentLimit ≤ e then infinity precision negative
    else if e < -exponentLimit then zero precision negative
    else ⟨precision, negative, .finite mantissa exponent⟩

/-- The nearest number of the given precision; `more` tells that a little is missing from the
mantissa. A half goes to the even neighbour. -/
def rounded (precision : Nat) (negative : Bool) (mantissa : Nat) (exponent : Int)
    (more : Bool := false) : Floating :=
  let bits := mantissa.log2 + 1
  if bits ≤ precision then confine precision negative mantissa exponent
  else
    let shift := bits - precision
    let q := mantissa >>> shift
    let r := mantissa - q <<< shift
    let half := 1 <<< (shift - 1)
    let up := half < r || (r == half && (more || q % 2 == 1))
    let n := if up then q + 1 else q
    -- A carry out of the highest bit leaves a power of two.
    if n.log2 == precision then confine precision negative (n >>> 1) (exponent + shift + 1)
    else confine precision negative n (exponent + shift)

/-- The number of an integer, to the given precision. -/
def ofInt (precision : Nat) (n : Int) : Floating := rounded precision (n < 0) n.natAbs 0

/-- A position in a list; integers carry 64 bits. -/
def ofIndex (n : Nat) : Floating := ofInt 64 n

def negate (x : Floating) : Floating := { x with negative := !x.negative }

/-- Orders the sizes of two numbers. -/
def compareSizes : Magnitude → Magnitude → Ordering
  | .infinite, .infinite => .eq
  | .infinite, _ => .gt
  | _, .infinite => .lt
  | .finite 0 _, .finite 0 _ => .eq
  | .finite 0 _, _ => .lt
  | _, .finite 0 _ => .gt
  | .finite m e, .finite n f =>
    match compare (binaryExponent m e) (binaryExponent n f) with
    | .eq => compare (m <<< (e - min e f).toNat) (n <<< (f - min e f).toNat)
    | order => order

/-- Orders two numbers; the two zeros are equal. -/
def order (x y : Floating) : Ordering :=
  if x.isZero && y.isZero then .eq
  else
    match x.negative, y.negative with
    | false, false => compareSizes x.magnitude y.magnitude
    | true, true => compareSizes y.magnitude x.magnitude
    | false, true => .gt
    | true, false => .lt

/-- The sum to the given precision; opposite infinities have none. -/
def addTo? (precision : Nat) (x y : Floating) : Option Floating :=
  match x.magnitude, y.magnitude with
  | .infinite, .infinite => if x.negative == y.negative then some { x with precision } else none
  | .infinite, _ => some { x with precision }
  | _, .infinite => some { y with precision }
  | .finite m e, .finite n f =>
    if m == 0 && n == 0 then some (zero precision (x.negative && y.negative))
    else
      let low := min e f
      let a : Int := (m <<< (e - low).toNat : Nat)
      let b : Int := (n <<< (f - low).toNat : Nat)
      let sum := (if x.negative then -a else a) + (if y.negative then -b else b)
      some (rounded precision (sum < 0) sum.natAbs low)

/-- The product to the given precision; zero and infinity have none. -/
def mulTo? (precision : Nat) (x y : Floating) : Option Floating :=
  let negative := x.negative != y.negative
  match x.magnitude, y.magnitude with
  | .finite m e, .finite n f => some (rounded precision negative (m * n) (e + f))
  | _, _ => if x.isZero || y.isZero then none else some (infinity precision negative)

/-- The quotient to the given precision; two zeros or two infinities have none. -/
def divTo? (precision : Nat) (x y : Floating) : Option Floating :=
  let negative := x.negative != y.negative
  match x.magnitude, y.magnitude with
  | .infinite, .infinite => none
  | .infinite, _ => some (infinity precision negative)
  | _, .infinite => some (zero precision negative)
  | .finite m e, .finite n f =>
    if n == 0 then if m == 0 then none else some (infinity precision negative)
    else
      -- Enough bits for the quotient to have one more than are kept.
      let shift := precision + 1 + n.log2 - m.log2
      let dividend := m <<< shift
      some (rounded precision negative (dividend / n) (e - f - shift) (dividend % n != 0))

def common (x y : Floating) : Nat := max x.precision y.precision

def add? (x y : Floating) : Option Floating := addTo? (common x y) x y

def sub? (x y : Floating) : Option Floating := addTo? (common x y) x y.negate

def mul? (x y : Floating) : Option Floating := mulTo? (common x y) x y

def div? (x y : Floating) : Option Floating := divTo? (common x y) x y

/-- The part before the point. -/
def truncate? (x : Floating) : Option Int :=
  match x.magnitude with
  | .infinite => none
  | .finite m e =>
    let n := if e < 0 then m >>> e.natAbs else m <<< e.toNat
    some (if x.negative then -(n : Int) else n)

/-- What a division leaves over: `x` less the whole part of the quotient times `y`, each step to the
precision of `x`. A division by zero leaves all. -/
def mod? (x y : Floating) : Option Floating :=
  if y.isZero then some x
  else do
    let whole := ofInt x.precision (← (← x.div? y).truncate?)
    addTo? x.precision x (← mulTo? x.precision y whole).negate

/-- The integer that a number is, if it is one of 64 bits. -/
def toInt64? (x : Floating) : Option Int :=
  match x.magnitude with
  | .infinite => none
  | .finite 0 _ => some 0
  | .finite m e =>
    if 64 < binaryExponent m e || binaryExponent m e < 1 then none
    else if e < 0 && (m >>> e.natAbs) <<< e.natAbs != m then none
    else
      let n : Int := (if e < 0 then m >>> e.natAbs else m <<< e.toNat : Nat)
      let n := if x.negative then -n else n
      if Text.minInt64 ≤ n && n ≤ Text.maxInt64 then some n else none

/-- A power of five to `precision` bits, by repeated squaring with 64 bits more. -/
def fivePower (precision n : Nat) : Floating :=
  if n ≤ 27 then ⟨precision, false, .finite (Nat.pow 5 n) 0⟩
  else
    go n ⟨precision, false, .finite (Nat.pow 5 27) 0⟩ ⟨precision + 64, false, .finite 5 0⟩ (n - 27)
where
  /-- Multiplies by the powers that the bits of `n` ask for; `n` bounds the number of its bits. -/
  go : (fuel : Nat) → (product square : Floating) → (n : Nat) → Floating
    | 0, product, _, _ => product
    | fuel + 1, product, square, n =>
      if n == 0 then product
      else
        let product := if n % 2 == 1 then
          (mulTo? precision product square).getD product else product
        go fuel product ((mulTo? (precision + 64) square square).getD square) (n / 2)

/-- Reads the exponent at the end of a number: a power of ten after `e`, a power of two after `p`. -/
def readExponent? : Bytes → Option (Int × Bool)
  | [] => some (0, false)
  | mark :: rest => do
    let binary ← match Bytes.lowerByte mark with
      | 0x65 => some false
      | 0x70 => some true
      | _ => none
    let (negative, digits) := Text.splitSign rest
    if digits.isEmpty || !digits.all Bytes.isDigit then none
    let n : Int := ((Bytes.toNat? digits).getD 0 : Nat)
    let n := if negative then -n else n
    if Text.minInt64 ≤ n && n ≤ Text.maxInt64 then some (n, binary) else none

/-- Reads a decimal number that makes up a whole text. Powers of ten are split into powers of two and
of five, and of these the latter are applied last. -/
def read? (precision : Nat) (text : Bytes) : Option Floating := do
  let (negative, rest) := Text.splitSign text
  if rest == "Inf" || rest == "inf" then return infinity precision negative
  let whole := rest.takeWhile Bytes.isDigit
  let rest := rest.drop whole.length
  let (part, rest) := match rest with
    | 0x2E :: after => (after.takeWhile Bytes.isDigit, after.dropWhile Bytes.isDigit)
    | _ => ([], rest)
  if whole.isEmpty && part.isEmpty then none
  let (exponent, binary) ← readExponent? rest
  let mantissa := (Bytes.toNat? (whole ++ part)).getD 0
  if mantissa == 0 then return zero precision negative
  let fives := (if binary then 0 else exponent) - (part.length : Int)
  let twos := exponent - (part.length : Int)
  let e := binaryExponent mantissa twos
  if e < -exponentLimit || exponentLimit ≤ e then none
  let unscaled : Floating := ⟨precision, negative, .finite mantissa twos⟩
  let scale := fivePower (precision + 64) fives.natAbs
  if fives == 0 then return rounded precision negative mantissa twos
  else if fives < 0 then divTo? precision unscaled scale
  else mulTo? precision unscaled scale

/-- Decimal digits without zeros at the end, and the number of them before the point. -/
structure Digits where
  digits : Bytes
  point : Int
  deriving DecidableEq, Repr

namespace Digits

def trim (digits : Bytes) : Bytes := (digits.reverse.dropWhile (· == 0x30)).reverse

/-- The digits of `mantissa · 2 ^ exponent`. -/
def expand (mantissa : Nat) (exponent : Int) : Digits :=
  let digits := Bytes.ofNat
    (if exponent < 0 then mantissa * Nat.pow 5 exponent.natAbs else mantissa <<< exponent.toNat)
  ⟨trim digits, digits.length + min exponent 0⟩

def roundDown (d : Digits) (n : Nat) : Digits := { d with digits := trim (d.digits.take n) }

def roundUp (d : Digits) (n : Nat) : Digits :=
  match ((d.digits.take n).reverse.dropWhile (· == 0x39)) with
  | [] => ⟨[0x31], d.point + 1⟩
  | last :: before => { d with digits := ((last + 1) :: before).reverse }

/-- Keeps `n` digits; a half goes to the even neighbour. -/
def round (d : Digits) (n : Nat) : Digits :=
  let up := match d.digits.drop n with
    | [0x35] => (d.digits.take n).getLast?.any (· % 2 == 1)
    | c :: _ => 0x35 ≤ c
    | [] => false
  if up then d.roundUp n else d.roundDown n

/-- The fewest leading digits that stay within `lower` and `upper`, bounds that count themselves if
`inclusive`. -/
def shortest (d lower upper : Digits) (inclusive : Bool) : Digits :=
  go (d.digits.length) 0
where
  /-- Tries one digit more. -/
  go : (fuel i : Nat) → Digits
    | 0, _ => d
    | fuel + 1, i =>
      let digit (x : Digits) : UInt8 := x.digits.getD i 0x30
      let m := digit d
      let l := digit lower
      let u := digit upper
      let down := l != m || (inclusive && i + 1 == lower.digits.length)
      let up := m != u && (inclusive || m + 1 < u || i + 1 < upper.digits.length)
      if i + 1 < d.digits.length then
        match down, up with
        | true, true => d.round (i + 1)
        | true, false => d.roundDown (i + 1)
        | false, true => d.roundUp (i + 1)
        | false, false => go fuel (i + 1)
      else d

/-- Writes the digits without an exponent. -/
def toText (d : Digits) : Bytes :=
  let whole := if d.point ≤ 0 then [0x30]
    else d.digits.take d.point.toNat
      ++ List.replicate (d.point.toNat - d.digits.length) 0x30
  let part := List.replicate (-d.point).toNat 0x30 ++ d.digits.drop d.point.toNat
  if part.isEmpty || d.digits.isEmpty then whole else whole ++ 0x2E :: part

end Digits

/-- The shortest decimal that lies nearer to a number than half a unit of its last bit. -/
def toText (x : Floating) : Bytes :=
  match x.magnitude with
  | .infinite => if x.negative then "-Inf" else "+Inf"
  | .finite m e =>
    let sign : Bytes := if x.negative then "-" else ""
    if m == 0 then sign ++ "0"
    else
      -- The mantissa with all its bits and one more, so that half a unit is one.
      let bits := m.log2 + 1
      let m := m <<< (x.precision - bits)
      let e := e - (x.precision - bits : Nat)
      let d := Digits.expand m e
      let lower := Digits.expand (2 * m - 1) (e - 1)
      let upper := Digits.expand (2 * m + 1) (e - 1)
      sign ++ (d.shortest lower upper (m % 2 == 0)).toText

end Floating
end Stencil.Number
