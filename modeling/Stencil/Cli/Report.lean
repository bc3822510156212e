import Stencil.Diagnostic.Format
import Stencil.Diff.Report
import Stencil.Pipeline.Paths
import Stencil.Text.Duration
import Stencil.Text.Wrap

/-! What a command prints. -/
namespace Stencil.Cli

/-- What a command prints, and the failure that its work amounts to. -/
structure Report where
  out : Bytes := []
  err : Bytes := []
  failure : Option Failure := none
  deriving DecidableEq, Repr

/-- The width of messages, and how far they are indented. -/
def messageWidth : Nat := 80
def messageIndent : Nat := 4

/-- A diagnostic for people: where it is and how severe, then the message. -/
def describeDiagnostic (path : Bytes) (d : Diagnostic) : Bytes :=
  path ++ ":" ++ Bytes.ofInt d.line ++ ":" ++ Bytes.ofInt d.column ++ ": " ++ d.severity.name ++ "\n"
    ++ Text.indent messageIndent (Text.wrap (messageWidth - messageIndent) d.message) ++ "\n"

/-- How results are reported: to people, or as one document of a format. -/
inductive ReportStyle where
  | people
  | document (format : DiagnosticFormat)
  deriving DecidableEq, Repr

def ReportStyle.ofName (name : Bytes) : Except Failure ReportStyle :=
  if name == "text" then .ok .people else (DiagnosticFormat.ofName name).map .document

/-- The results that did not fail. -/
def formattedResults (rs : List FileResult) : List FileResult := rs.filter (·.failure.isNone)

def changedResults (rs : List FileResult) : List FileResult := (formattedResults rs).filter (·.changed)

/-- What became of the files, in a few words. -/
def summaryLine (rs : List FileResult) (check : Bool) (elapsed : Nat) : Bytes :=
  let failed := rs.length - (formattedResults rs).length
  let lost := lostInResults rs
  Bytes.ofNat rs.length ++ " files checked, " ++ Bytes.ofNat (changedResults rs).length ++ " "
    ++ (if check then "unformatted" else "formatted")
    ++ (if 0 < failed then ", " ++ Bytes.ofNat failed ++ " failed" else [])
    ++ (if 0 < lost then ", " ++ Bytes.ofNat lost ++ " php regions lost" else [])
    ++ " (" ++ Text.Duration.render elapsed ++ ")\n"

/-- The diagnostics, the files that would change and a summary; or the diagnostics alone, as a
document. -/
def ReportStyle.render (style : ReportStyle) (rs : List FileResult) (check : Bool) (elapsed : Nat) :
    Bytes :=
  let files := (formattedResults rs).map fun r => FileDiagnostics.mk r.path r.diagnostics
  match style with
  | .document format => format.renderFiles files ++ "\n"
  | .people =>
    let diagnostics := (flattenDiagnostics files).flatMap fun (path, d) => describeDiagnostic path d
    let changes := if check then
        (changedResults rs).flatMap fun r => ("would reformat " ++ r.path ++ "\n" : Bytes)
      else []
    diagnostics ++ changes ++ summaryLine rs check elapsed

/-- The formatted documents and the diffs that were asked for, file by file. -/
def renderDocuments (stdout diff : Bool) (rs : List FileResult) : Bytes :=
  (formattedResults rs).flatMap fun r =>
    (if stdout then r.formatted else [])
      ++ (if diff && r.changed then Diff.document r.path r.source r.formatted else [])

/-- The failure of a run whose files were all handled: one of the files failed, or files would
change, or regions were lost, and the last two only if that was asked for. -/
def verdict (check strict : Bool) (rs : List FileResult) : Option Failure :=
  match failureOfResults rs with
  | some f => some f
  | none =>
    let changed := (changedResults rs).length
    let lost := lostInResults rs
    if check && 0 < changed then some ⟨.unformatted, "files are not formatted: " ++ Bytes.ofNat changed⟩
    else if strict && 0 < lost then some ⟨.lostRegions, "php regions were lost: " ++ Bytes.ofNat lost⟩
    else none

end Stencil.Cli
