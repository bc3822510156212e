import Stencil.EditorConfig.Resolve
import Stencil.Files.Collect
import Stencil.Pipeline

/-! Formatting files in place, with a result for each. -/
namespace Stencil

/-- Which files are formatted and what becomes of the results. -/
structure PathOptions where
  /-- Only tells whether files would change. -/
  check : Bool := false
  /-- Leaves files alone as well; the results are printed. -/
  stdout : Bool := false
  /-- The number of files handled at a time; what a file turns into does not depend on it. -/
  jobs : Int := 0
  selection : Selection := ⟨[], []⟩
  /-- Which texts are patterns. -/
  isPattern : Bytes → Bool := Glob.isValid
  /-- Which names a pattern matches. -/
  matchesName : Bytes → Bytes → Bool := Glob.isMatch
  /-- Adjusts the layout for each file. -/
  resolve : Option LayoutResolver := none

/-- The files that are selected at and below some paths. -/
def PathOptions.collect (o : PathOptions) (paths : List Bytes) : Session (List Bytes) :=
  Session.collectWith o.isPattern o.matchesName o.selection paths

/-- What became of one file; the empty result stands for a file that was never started. -/
structure FileResult where
  path : Bytes := []
  changed : Bool := false
  failure : Option Failure := none
  source : Bytes := []
  formatted : Bytes := []
  diagnostics : Option Diagnostics := none
  deriving DecidableEq, Repr

namespace FileResult

/-- The number of regions lost. -/
def lost (r : FileResult) : Nat := (r.diagnostics.map (·.warnings.length)).getD 0

/-- The event that reports on a file. -/
def event (r : FileResult) : Log.Event :=
  let common : List (Bytes × Log.Value) := [("file", .text r.path), ("changed", .bool r.changed)]
  match r.failure with
  | some f => .mk .error "processed file" (("error", .text f.message) :: common)
  | none =>
    if 0 < r.lost then .mk .warn "processed file" (("lost_regions", .int r.lost) :: common)
    else .mk .info "processed file" common

end FileResult

/-- The failures of all files together, each under its path. -/
def failureOfResults (rs : List FileResult) : Option Failure :=
  Failure.joined (rs.filterMap fun r => r.failure.map (·.wrap r.path))

/-- The number of regions lost in all files. -/
def lostInResults (rs : List FileResult) : Nat := rs.foldr (fun r n => r.lost + n) 0

namespace Pipeline

/-- Formats the content of a file with the layouts that its path asks for. -/
def formatContent (p : Pipeline) (o : PathOptions) (path source : Bytes) :
    Session FormattedDocument := do
  let resolve : LayoutResolver := o.resolve.getD fun _ base => return base
  let html ← resolve path p.html
  let php ← resolve path p.php
  p.formatWith html php source

/-- Writes a formatted file, unless it is only checked or printed or has not changed. -/
def store (o : PathOptions) (r : FileResult) : Task FileResult := do
  if o.check || o.stdout || !r.changed then return r
  else
    let _ ← (Session.stat r.path).run
    match ← (Session.context "writing" (Session.writeFile r.path r.formatted)).run with
    | .ok () => return r
    | .error f => return { r with failure := some f }

/-- Formats one file. Whatever goes wrong is part of the result. -/
def formatFile (p : Pipeline) (o : PathOptions) (path : Bytes) : Task FileResult := do
  match ← (Session.context "reading" (Session.readFile path)).run with
  | .error f => return { path, failure := some f }
  | .ok source =>
    match ← (p.formatContent o path source).run with
    | .error f => return { path, source, failure := some f }
    | .ok d =>
      store o {
        path, source
        changed := d.isChanged source
        formatted := d.formatted
        diagnostics := some d.diagnostics }

/-- Formats files one after another until the session is cancelled. A file that is not started any
more has the empty result. -/
def formatFiles (p : Pipeline) (o : PathOptions) : List Bytes → Task (List FileResult × Option Failure)
  | [] => return ([], none)
  | path :: more => do
    if (← getThe World).cancelled then
      return (List.replicate (more.length + 1) {}, some .canceled)
    else
      let r ← p.formatFile o path
      Session.emit r.event
      let (rs, stopped) ← formatFiles p o more
      return (r :: rs, stopped)

/-- Formats the files at and below some paths. A file that fails does not stop the others. The
failure beside the results tells that the run was cancelled. -/
def formatPaths (p : Pipeline) (paths : List Bytes) (o : PathOptions) :
    Session (List FileResult × Option Failure) := do
  Session.checkCancelled
  let files ← o.collect paths
  if files.isEmpty then throw (.plain "no source files found")
  else p.formatFiles o files

end Pipeline
end Stencil
