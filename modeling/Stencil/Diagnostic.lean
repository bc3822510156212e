import Stencil.Failure

/-! Diagnostics: what a user should look at in a document, and where. -/
namespace Stencil

/-- How serious a diagnostic is; nothing but its name tells. -/
structure Severity where
  ofName ::
  name : Bytes
  deriving DecidableEq, Repr

namespace Severity

def error : Severity := ofName "error"
def warning : Severity := ofName "warning"
def info : Severity := ofName "info"
def hint : Severity := ofName "hint"

/-- The numbers that editors have for severities. -/
def levels : List (Severity × Nat) := [(error, 1), (warning, 2), (info, 3), (hint, 4)]

/-- The number an editor gives to a severity, 0 to one that it does not know. -/
def level (s : Severity) : Nat := (levels.lookup s).getD 0

end Severity

/-- One message and the one-based places it is about. -/
structure Diagnostic where
  message : Bytes
  line : Int
  column : Int
  endLine : Int
  endColumn : Int
  severity : Severity
  deriving DecidableEq, Repr

/-- A diagnostic about a span of a document. -/
def Diagnostic.ofSpan (document : Bytes) (span : Span) (severity : Severity) (message : Bytes) :
    Diagnostic :=
  let e := span.extent document
  ⟨message, e.start.line, e.start.column, e.stop.line, e.stop.column, severity⟩

/-- The diagnostics of one document. -/
structure Diagnostics where
  errors : List Diagnostic := []
  warnings : List Diagnostic := []
  hints : List Diagnostic := []
  deriving DecidableEq, Repr

namespace Diagnostics

/-- Errors, then warnings, then hints. -/
def all (d : Diagnostics) : List Diagnostic := d.errors ++ d.warnings ++ d.hints

def size (d : Diagnostics) : Nat := d.errors.length + d.warnings.length + d.hints.length

@[simp] theorem length_all (d : Diagnostics) : d.all.length = d.size := by
  simp [all, size, Nat.add_assoc]

end Diagnostics

/-- A hint for a region that the document leaves open. -/
def openRegionHint (document : Bytes) (t : IssuedToken) : Diagnostic :=
  .ofSpan document t.region.span .hint "php region is not closed before end of file"

/-- A warning for a region whose token was lost. -/
def lostRegionWarning (document : Bytes) (t : IssuedToken) : Diagnostic :=
  .ofSpan document t.region.span .warning
    ("formatter altered placeholder " ++ t.rendered
      ++ " beyond whitespace changes; php region was dropped")

/-- The token a miss is about, if there is one with its number. -/
def tokenOfMiss (t : Tokenized) (index : Int) : Except Failure IssuedToken :=
  match (if index < 0 then none else t.tokens[index.toNat]?) with
  | some token => .ok token
  | none => .error (.plain ("restore miss " ++ Bytes.ofInt index ++ " does not belong to this document"))

/-- Diagnostics for a document, from the regions left open and the numbers of the tokens lost.
Places are places of the document itself. -/
def diagnose (document : Bytes) (t : Tokenized) (misses : List Int) : Except Failure Diagnostics := do
  let lost ← misses.mapM (tokenOfMiss t)
  return {
    warnings := lost.map (lostRegionWarning document)
    hints := (t.tokens.filter (!·.region.terminated)).map (openRegionHint document) }

/-- Diagnostics for a document that was tokenized and restored. -/
def diagnoseRestored (document : Bytes) (t : Tokenized) (r : Restored) : Except Failure Diagnostics :=
  diagnose document t (r.misses.map fun m => (m.index : Int))

end Stencil
