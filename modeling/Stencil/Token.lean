import Stencil.Span
import Stencil.Token.Options

/-! Tokens and the regions they stand for. -/
namespace Stencil

/-- One embedded region of a document. -/
structure EmbeddedRegion where
  span : Span
  context : Context
  /-- False if the document ends before the region is closed. -/
  terminated : Bool
  deriving DecidableEq, Repr

/-- The token that stands for exactly one region. -/
structure IssuedToken where
  number : Nat
  shape : Shape
  rendered : Bytes
  region : EmbeddedRegion
  deriving DecidableEq, Repr

/-- The shape, the number and the rendered text. -/
def IssuedToken.describe (t : IssuedToken) : Bytes :=
  t.shape.name ++ [0x23] ++ Bytes.ofNat t.number ++ [0x28] ++ t.rendered ++ [0x29]

end Stencil
