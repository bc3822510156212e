import Stencil.Diagnostic

/-! The forms in which diagnostics are written. -/
namespace Stencil

/-- Diagnostics of one file; a file may have none at all. -/
structure FileDiagnostics where
  path : Bytes
  diagnostics : Option Diagnostics
  deriving DecidableEq, Repr

/-- How diagnostics are written. -/
inductive DiagnosticFormat where
  /-- One line for each. -/
  | text
  /-- A flat JSON array. -/
  | json
  /-- A JSON array in the form editors read. -/
  | vscode
  deriving DecidableEq, Repr

namespace FileDiagnostics

def all (f : FileDiagnostics) : List Diagnostic := (f.diagnostics.map (·.all)).getD []

def size (f : FileDiagnostics) : Nat := (f.diagnostics.map (·.size)).getD 0

end FileDiagnostics

/-- Every diagnostic with the path of its file, file by file. -/
def flattenDiagnostics (files : List FileDiagnostics) : List (Bytes × Diagnostic) :=
  files.flatMap fun f => f.all.map fun d => (f.path, d)

/-- The 64-bit integer congruent to `n`. -/
def wrap64 (n : Int) : Int := n.bmod (Nat.pow 2 64)

namespace Diagnostic

/-- The form `path:line:column: severity: message`. -/
def toLine (path : Bytes) (d : Diagnostic) : Bytes :=
  path ++ ":" ++ Bytes.ofInt d.line ++ ":" ++ Bytes.ofInt d.column ++ ": " ++ d.severity.name ++ ": "
    ++ d.message ++ "\n"

def jsonText (b : Bytes) : Json.Value := .string (Text.Utf8.chars b)

def toJson (path : Bytes) (d : Diagnostic) : Json.Value :=
  .object [
    ("path".toList, jsonText path),
    ("severity".toList, jsonText d.severity.name),
    ("message".toList, jsonText d.message),
    ("line".toList, .ofInt d.line),
    ("column".toList, .ofInt d.column),
    ("end_line".toList, .ofInt d.endLine),
    ("end_column".toList, .ofInt d.endColumn)]

/-- Editors count lines and characters from zero. -/
def editorPosition (line column : Int) : Json.Value :=
  .object [
    ("line".toList, .ofInt (wrap64 (line - 1))),
    ("character".toList, .ofInt (wrap64 (column - 1)))]

def toEditorJson (path : Bytes) (d : Diagnostic) : Json.Value :=
  .object [
    ("severity".toList, .ofInt d.severity.level),
    ("message".toList, jsonText d.message),
    ("source".toList, jsonText path),
    ("range".toList, .object [
      ("start".toList, editorPosition d.line d.column),
      ("end".toList, editorPosition d.endLine d.endColumn)])]

end Diagnostic

namespace DiagnosticFormat

def ofName (name : Bytes) : Except Failure DiagnosticFormat :=
  if name = Bytes.ofString "text" then .ok .text
  else if name = Bytes.ofString "json" then .ok .json
  else if name = Bytes.ofString "vscode" then .ok .vscode
  else .error (.plain ("unknown diagnostic format " ++ Text.quote name))

/-- The diagnostics of several files as one document. -/
def renderFiles (format : DiagnosticFormat) (files : List FileDiagnostics) : Bytes :=
  let items := flattenDiagnostics files
  match format with
  | .text => items.flatMap fun (path, d) => d.toLine path
  | .json => Text.Utf8.encode (Json.render (.array (items.map fun (path, d) => d.toJson path)))
  | .vscode =>
    Text.Utf8.encode (Json.render (.array (items.map fun (path, d) => d.toEditorJson path)))

/-- The diagnostics of one file, which must have been diagnosed. -/
def renderFile (format : DiagnosticFormat) (path : Bytes) (diagnostics : Option Diagnostics) :
    Except Failure Bytes :=
  match diagnostics with
  | none => .error (.plain "diagnostics is nil")
  | some d => .ok (format.renderFiles [⟨path, some d⟩])

end DiagnosticFormat
end Stencil
