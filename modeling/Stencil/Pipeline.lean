import Stencil.Diagnostic
import Stencil.Session

/-! Formatting one mixed document: regions become tokens, the markup is formatted, the regions are
put back, and the whole may go through the formatter of the embedded language. -/
namespace Stencil

/-- Reformats a text of some language. -/
abbrev Formatter := Language → Layout → Bytes → Session Bytes

/-- The formatter that changes nothing. -/
def Formatter.identity : Formatter := fun _ _ text => return text

/-- All that is needed to format a document. -/
structure Pipeline where
  formatter : Option Formatter
  tokens : Token.Options := .default
  /-- How wide the text of a region is. -/
  width : Bytes → Nat := Text.Grapheme.count
  html : Layout := ⟨80, 2, false⟩
  php : Layout := ⟨80, 4, false⟩
  /-- Leaves restored documents as they are. -/
  skipPhpPass : Bool := false

/-- A formatted document and how it came about. -/
structure FormattedDocument where
  formatted : Bytes
  tokenized : Tokenized
  restored : Restored
  diagnostics : Diagnostics
  deriving DecidableEq, Repr

/-- Whether formatting altered the source. -/
def FormattedDocument.isChanged (d : FormattedDocument) (source : Bytes) : Bool :=
  d.formatted != source

namespace Session

/-- Tokenizes and reports on it. -/
def tokenizing (width : Bytes → Nat) (o : Token.Options) (document : Bytes) :
    Session Tokenized := do
  match tokenizeWith width o document with
  | .ok (t, used) =>
    emitAll (Log.tokenized o document t used)
    return t
  | .error e =>
    emitAll (Log.notTokenized o e)
    throw (.ofTokenizeError e)

/-- Restores and reports on it. -/
def restoring (document : Bytes) (map : Token.Map) : Task Restored := do
  let r := restore document map
  emitAll (Log.restored map r)
  return r

/-- Hands a text to a formatter. -/
def formatting (format : Formatter) (language : Language) (layout : Layout) (text : Bytes) :
    Session Bytes := do
  recordCall ⟨language, layout, text⟩
  context ("formatting " ++ language.name) (format language layout text)

end Session

namespace Pipeline

/-- Formats a document with the given layouts. A region that the formatter lost is a diagnostic, not
a failure. A document without regions has nothing for the second pass to do. -/
def formatWith (p : Pipeline) (html php : Layout) (source : Bytes) : Session FormattedDocument := do
  match p.formatter with
  | none => throw (.plain "pipeline has no formatter")
  | some format =>
    let tokenized ← Session.tokenizing p.width p.tokens source
    let markup ← Session.formatting format .html html tokenized.placeholder
    let restored ← Session.restoring markup tokenized.map
    let formatted ←
      if p.skipPhpPass || tokenized.map.size == 0 then pure restored.text
      else Session.formatting format .php php restored.text
    let diagnostics ← MonadExcept.ofExcept (diagnoseRestored source tokenized restored)
    Session.emit (Log.event .debug "formatted document" [
      ("regions", .int tokenized.map.size),
      ("lost", .int restored.misses.length)])
    return ⟨formatted, tokenized, restored, diagnostics⟩

/-- Formats a document with the pipeline's own layouts. -/
def format (p : Pipeline) (source : Bytes) : Session FormattedDocument :=
  p.formatWith p.html p.php source

end Pipeline
end Stencil
