import Stencil.Bytes

/-! Runs of text in a document, and the lines and columns at which they lie. -/
namespace Stencil

/-- A zero-based line and a zero-based byte column. -/
structure Place where
  line : Nat
  column : Nat
  deriving DecidableEq, Repr

/-- A text together with the offset at which it stands in its document. -/
structure Span where
  offset : Int
  text : Bytes
  deriving DecidableEq, Repr

/-- The places where a span starts and where it ends. -/
structure Extent where
  start : Place
  stop : Place
  deriving DecidableEq, Repr

/-- The place reached after `b`. -/
def Place.after (b : Bytes) : Place where
  line := b.count 0x0A
  column := (b.reverse.takeWhile (· != 0x0A)).length

/-- An offset outside the document stands for its nearest end. -/
def Place.ofOffset (document : Bytes) (offset : Int) : Place :=
  .after (document.take offset.toNat)

/-- People count lines and columns from one. -/
def Place.oneBased (p : Place) : Place := ⟨p.line + 1, p.column + 1⟩

namespace Span

def length (s : Span) : Nat := s.text.length

/-- The offset just past the span. -/
def stop (s : Span) : Int := s.offset + s.length

/-- The empty span just past this one. -/
def endSpan (s : Span) : Span := ⟨s.stop, []⟩

/-- Whether two spans share a byte; an empty span also meets a span that it only touches. -/
def overlaps (a b : Span) : Bool :=
  if a.length = 0 then b.offset ≤ a.offset && a.offset ≤ b.stop
  else if b.length = 0 then a.offset ≤ b.offset && b.offset ≤ a.stop
  else b.offset < a.stop && a.offset < b.stop

def place (document : Bytes) (s : Span) : Place := .ofOffset document s.offset

def extent (document : Bytes) (s : Span) : Extent where
  start := (s.place document).oneBased
  stop := (s.endSpan.place document).oneBased

/-- The text, an at sign and the offset. -/
def describe (s : Span) : Bytes := s.text ++ [0x40] ++ Bytes.ofInt s.offset

example : overlaps ⟨0, "aa"⟩ ⟨2, "bb"⟩ = false := by decide
example : overlaps ⟨0, "aa"⟩ ⟨2, ""⟩ = true := by decide
example : (Span.mk 3 "x").place "a\nb\nc" = ⟨1, 1⟩ := by decide

end Span
end Stencil
