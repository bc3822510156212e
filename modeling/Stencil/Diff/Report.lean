import Stencil.Diff.Lines
import Stencil.Markup.Context
import Stencil.Span
import Stencil.Text.Quoted

/-! Reports on differences: of a file and its formatted form, and of two printed values. -/
namespace Stencil.Diff

/-- The difference between a file and its formatted form under a heading; empty if there is
none. -/
def document (path source formatted : Bytes) : Bytes :=
  if source == formatted then []
  else "--- " ++ path ++ "\n+++ " ++ path ++ " (formatted)\n" ++ lines source formatted ++ "\n"

/-- A value that can be printed for comparison. -/
inductive Printable where
  | text (b : Bytes)
  | texts (items : List Bytes)
  /-- No list at all is printed differently from an empty one. -/
  | contexts (items : Option (List Context))
  | span (s : Span)

/-- A list with one item on a line. -/
def printList (type : Bytes) (items : List Bytes) : Bytes :=
  if items.isEmpty then type ++ "\x7b\x7d"
  else type ++ "\x7b\n" ++ items.flatMap (fun item => ("  " ++ item ++ ",\n" : Bytes)) ++ "\x7d"

def Printable.render : Printable → Bytes
  | .text b => Text.quote b
  | .texts items => printList "[]string" (items.map Text.quote)
  | .contexts none => "[]placeholder.ContextKind(nil)"
  | .contexts (some items) =>
    printList "[]placeholder.ContextKind" (items.map fun c => Bytes.ofNat c.code)
  | .span s =>
    printList "position.Span" ["Offset: " ++ Bytes.ofInt s.offset, "Text:   " ++ Text.quote s.text]

/-- What turns the value got into the value wanted; empty if they print alike. -/
def values (want got : Printable) : Bytes :=
  match lines got.render want.render with
  | [] => []
  | diff =>
    "\n\nto convert ACTUAL ⏩️ EXPECTED:\n\nadd:    ➕\nremove: ➖\n\n"
      ++ Bytes.replaceAll "\n+" "\n➕" (Bytes.replaceAll "\n-" "\n➖" diff)

end Stencil.Diff
