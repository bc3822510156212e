import Stencil.Markup.State
import Stencil.Text.Quoted

/-! How tokens are written: a stem, the number of the region, a separator and padding. -/
namespace Stencil.Token

/-- How tokens are rendered. -/
structure Options where
  /-- The start of every token name, before the number. -/
  stem : Bytes
  /-- Pads a token up to the width of its region. -/
  filler : UInt8
  /-- The most bytes a token may have. -/
  maxWidth : Int
  deriving DecidableEq, Repr

/-- Why tokens cannot be rendered with some options. -/
inductive OptionsError where
  | emptyStem
  | badStart (stem : Bytes)
  | badByte (stem : Bytes) (byte : UInt8)
  | badFiller (byte : UInt8)
  | tooNarrow (maxWidth : Int)
  deriving DecidableEq, Repr

/-- The minimal form of this token is wider than the options allow. -/
structure TooWide where
  number : Nat
  needed : Nat
  maxWidth : Int
  deriving DecidableEq, Repr

def OptionsError.message : OptionsError → Bytes
  | .emptyStem => "invalid placeholder options: empty prefix"
  | .badStart stem =>
    "invalid placeholder options: prefix " ++ Text.quote stem ++ " must start with a letter"
  | .badByte stem byte =>
    "invalid placeholder options: prefix " ++ Text.quote stem ++ " contains " ++ Text.quoteByte byte
  | .badFiller byte =>
    "invalid placeholder options: filler " ++ Text.quoteByte byte ++ " is not one of '_', '-', '.'"
  | .tooNarrow maxWidth =>
    "invalid placeholder options: max width " ++ Bytes.ofInt maxWidth
      ++ " cannot hold a single token"

def TooWide.message (e : TooWide) : Bytes :=
  "token exceeds max width: token " ++ Bytes.ofNat e.number ++ " needs " ++ Bytes.ofNat e.needed
    ++ " characters, max is " ++ Bytes.ofInt e.maxWidth

/-- What a token starts with. -/
def lead : Shape → Bytes
  | .tag => [0x3C]
  | .attribute => [0x5F]

/-- What a token ends with. -/
def tail : Shape → Bytes
  | .tag => [0x20, 0x2F, 0x3E]
  | .attribute => []

def isFiller (c : UInt8) : Bool := c == 0x5F || c == 0x2D || c == 0x2E

namespace Options

/-- The stem `php_`, padded with underscores to at most 80 bytes. -/
def default : Options := ⟨[0x70, 0x68, 0x70, 0x5F], 0x5F, 80⟩

example : default.stem = "php_" := by decide

/-- The first fault, in the order stem, filler, width: a token has to be a legal tag name and a
legal unquoted attribute value. -/
def validate (o : Options) : Except OptionsError Unit :=
  match o.stem with
  | [] => .error .emptyStem
  | c :: _ =>
    if !Bytes.isLetter c then .error (.badStart o.stem)
    else match o.stem.find? (fun b => !Markup.isNameByte b) with
      | some b => .error (.badByte o.stem b)
      | none =>
        if !isFiller o.filler then .error (.badFiller o.filler)
        else if o.maxWidth < ((lead .tag).length + o.stem.length + 1 + 2 + (tail .tag).length : Nat)
        then .error (.tooNarrow o.maxWidth)
        else .ok ()

/-- The name part of both shapes: stem, number and two underscores. -/
def payload (o : Options) (number : Nat) : Bytes := o.stem ++ Bytes.ofNat number ++ [0x5F, 0x5F]

/-- The number of bytes without padding. -/
def minimalWidth (o : Options) (number : Nat) (shape : Shape) : Nat :=
  (lead shape).length + (o.payload number).length + (tail shape).length

/-- The number of bytes with padding towards `width`. -/
def targetWidth (o : Options) (number : Nat) (shape : Shape) (width : Nat) : Nat :=
  max (min width o.maxWidth.toNat) (o.minimalWidth number shape)

/-- The token of a region that is `width` wide. -/
def render (o : Options) (number : Nat) (shape : Shape) (width : Nat) : Except TooWide Bytes :=
  let minimal := o.minimalWidth number shape
  if o.maxWidth < minimal then .error ⟨number, minimal, o.maxWidth⟩
  else
    .ok (lead shape ++ o.payload number
      ++ List.replicate (o.targetWidth number shape width - minimal) o.filler ++ tail shape)

/-- The options of the `n`-th retry. -/
def salted (o : Options) (n : Nat) : Options :=
  { o with stem := o.stem ++ [0x78] ++ Bytes.ofNat n ++ [0x5F] }

end Options

example : (Options.default.render 3 .tag 14).toOption = some "<php_3_____ />" := by decide
example : (Options.default.render 3 .attribute 0).toOption = some "_php_3__" := by decide

end Stencil.Token
