import Stencil.Formatter.External
import Stencil.Pipeline
import Stencil.Shell.Machine
import Stencil.Text.Space

/-! Running the command of an external formatter. -/
namespace Stencil.ExternalFormatter

/-- Why a command cannot be started: a plain name is looked up, a path has to lead to a program. -/
def startFailure (files : FileSystem) (command : Bytes) : Failure :=
  if !List.elem Path.slash command then
    .plain ("exec: " ++ Text.quote command ++ ": executable file not found in $PATH")
  else match files.lookup command with
    | .ok _ => ⟨.permission, "fork/exec " ++ command ++ ": permission denied"⟩
    | .error .missing => ⟨.notExist, "fork/exec " ++ command ++ ": no such file or directory"⟩
    | .error .notDirectory => .plain ("fork/exec " ++ command ++ ": not a directory")

/-- The failure of a run, with what the command had to say about it. -/
def runFailure (reason : Failure) (complaint : Bytes) : Failure :=
  { reason with message := reason.message ++ ": " ++ Text.trimSpace complaint }

/-- Whether a run took too long. -/
def isOverdue (f : ExternalFormatter) (elapsed : Nat) : Bool := 0 < f.timeout && f.timeout ≤ elapsed

/-- Runs the command on a text and returns what it prints. A run that was cancelled or took too long
fails for that reason alone. -/
def run (env : Environment) (f : ExternalFormatter) (language : Bytes) (layout : Layout)
    (text : Bytes) : Session Bytes := do
  let args := f.argumentsFor language layout
  let report : Task Unit := Session.emit (Log.event .debug "ran formatter" [
    ("command", .text f.command),
    ("args", .texts args),
    ("language", .text language)])
  Session.context ("running " ++ f.command ++ " for " ++ language) do
    let w ← getThe World
    if w.cancelled then
      report
      throw .canceled
    match Shell.program? env f.command with
    | none =>
      report
      throw (runFailure (startFailure w.files f.command) [])
    | some program =>
      let ending := Shell.execute program args text env w.files
      let taken := if f.isOverdue ending.elapsed then f.timeout.toNat else ending.elapsed
      modify fun w => { w with files := ending.files, elapsed := w.elapsed + taken }
      report
      if f.isOverdue ending.elapsed then throw .deadlineExceeded
      if ending.status != 0 then
        throw (runFailure (.plain ("exit status " ++ Bytes.ofNat ending.status)) ending.err)
      return ending.out

/-- The formatter that runs the command. -/
def formatter (env : Environment) (f : ExternalFormatter) : Formatter := fun language layout text =>
  f.run env language.name layout text

end Stencil.ExternalFormatter
