import Stencil.Bytes

/-! Breaking a text into lines of limited width. Every byte counts as one column, so the text is
meant to be ASCII, as messages are. -/
namespace Stencil.Text

/-- A text on its way into lines. -/
structure Wrapping where
  /-- What has its place. -/
  placed : Bytes := []
  /-- The length of the last line. -/
  length : Nat := 0
  /-- The blanks and the word that follow. -/
  blanks : Bytes := []
  word : Bytes := []
  deriving DecidableEq, Repr

namespace Wrapping

def placeBlanks (w : Wrapping) : Wrapping :=
  { w with placed := w.placed ++ w.blanks, length := w.length + w.blanks.length, blanks := [] }

/-- A word takes the blanks before it along. -/
def placeWord (w : Wrapping) : Wrapping :=
  if w.word.isEmpty then w
  else
    let w := w.placeBlanks
    { w with placed := w.placed ++ w.word, length := w.length + w.word.length, word := [] }

/-- Starts a new line; blanks at the break are dropped. -/
def breakLine (w : Wrapping) : Wrapping :=
  { w with placed := w.placed ++ "\n", length := 0, blanks := [] }

/-- Ends a line where the text does; blanks there stay if they fit. -/
def endLine (limit : Nat) (w : Wrapping) : Wrapping :=
  if !w.word.isEmpty then w.placeWord.breakLine
  else if limit < w.length + w.blanks.length then w.breakLine
  else w.placeBlanks.breakLine

/-- One more byte. A word that no longer fits moves to a new line, unless it is too long for any. A
line may break after a hyphen, which is not counted. -/
def step (limit : Nat) (w : Wrapping) (c : UInt8) : Wrapping :=
  if c == 0x0A then w.endLine limit
  else if Bytes.isSpace c then
    let w := w.placeWord
    { w with blanks := w.blanks ++ [c] }
  else if c == 0x2D then
    let w := w.placeBlanks.placeWord
    { w with placed := w.placed ++ [c] }
  else
    let w := { w with word := w.word ++ [c] }
    if limit < w.length + w.blanks.length + w.word.length && w.word.length < limit then w.breakLine
    else w

end Wrapping

/-- The text in lines of at most `limit` columns where its words allow. -/
def wrap (limit : Nat) (b : Bytes) : Bytes :=
  (b.foldl (Wrapping.step limit) {}).placeWord.placed

/-- Puts blanks in front of every line. -/
def indent (width : Nat) (b : Bytes) : Bytes :=
  let blanks := List.replicate width 0x20
  let lines := Bytes.splitByte 0x0A b
  let last : Bytes := lines.getLast?.getD []
  lines.dropLast.flatMap (fun line => blanks ++ line ++ [0x0A])
    ++ (if last.isEmpty then [] else blanks ++ last)

example : wrap 7 "one two three" = Bytes.ofString "one two\nthree" := by decide
example : wrap 3 "a  abcd" = Bytes.ofString "a\nabcd" := by decide
example : indent 2 "a\n\nb" = Bytes.ofString "  a\n  \n  b" := by decide

end Stencil.Text
