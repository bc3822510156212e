import Stencil.Files.FileSystem
import Stencil.Log

/-! Sessions: work on files that can be cancelled and that reports what it does. -/
namespace Stencil

/-- The languages of a mixed document. -/
inductive Language where
  | html
  | php
  deriving DecidableEq, Repr

def Language.name : Language → Bytes
  | .html => "html"
  | .php => "php"

/-- Layout settings for a formatter. -/
structure Layout where
  printWidth : Int
  tabWidth : Int
  useTabs : Bool
  deriving DecidableEq, Repr

/-- One text handed to a formatter. -/
structure FormatterCall where
  language : Language
  layout : Layout
  text : Bytes
  deriving DecidableEq, Repr

/-- What a session reads and changes. -/
structure World where
  files : FileSystem
  cancelled : Bool := false
  /-- The formatter's calls, the last first. -/
  callsRev : List FormatterCall := []
  /-- The events, the last first. -/
  logRev : List Log.Event := []
  /-- How long programs have run, in nanoseconds. -/
  elapsed : Nat := 0
  deriving DecidableEq, Repr

namespace World

def calls (w : World) : List FormatterCall := w.callsRev.reverse

def log (w : World) : List Log.Event := w.logRev.reverse

end World

/-- Work that can fail; what it did before it failed stays done. -/
abbrev Session := ExceptT Failure (StateM World)

/-- Work that cannot fail. -/
abbrev Task := StateM World

namespace Session

def emit (e : Log.Event) : Task Unit := modify fun w => { w with logRev := e :: w.logRev }

def emitAll (es : List Log.Event) : Task Unit :=
  modify fun w => { w with logRev := es.reverse ++ w.logRev }

def recordCall (c : FormatterCall) : Task Unit :=
  modify fun w => { w with callsRev := c :: w.callsRev }

def cancel : Task Unit := modify fun w => { w with cancelled := true }

/-- Fails once the session is cancelled. -/
def checkCancelled : Session Unit := do
  if (← getThe World).cancelled then throw .canceled

/-- The outcome of some work as a value. -/
def outcome {α : Type} (work : Session α) : Task (Except Failure α) := work.run

/-- Puts what was being done in front of a failure's text. -/
def context {α : Type} (doing : Bytes) (work : Session α) : Session α :=
  ExceptT.adapt (·.wrap doing) work

/-- Lets the faults of the file system act on a call. -/
def applyFaults (call : FileCall) (path : Bytes) : Session Unit := do
  match (← getThe World).files.fault? call path with
  | none => pure ()
  | some (.fail message) => throw (.plain message)
  | some .cancel => cancel

/-- What is at a path. -/
def stat (path : Bytes) : Session Node := do
  applyFaults .stat path
  let fs := (← getThe World).files
  match fs.node? path with
  | some n => return n
  | none => throw (fs.missing .stat path)

/-- Whether something is at a path. -/
def exists? (path : Bytes) : Session Bool := do
  applyFaults .stat path
  let fs := (← getThe World).files
  match fs.lookup path with
  | .ok _ => return true
  | .error .missing => return false
  | .error .notDirectory => throw (fs.missing .stat path)

/-- What is at a path that is opened for reading. -/
def openNode (path : Bytes) : Session Node := do
  applyFaults .openFile path
  let fs := (← getThe World).files
  match fs.node? path with
  | some n => return n
  | none => throw (fs.missing .openFile path)

/-- The names in a directory, in byte order. -/
def listDirectory (path : Bytes) : Session (List Bytes) := do
  let _ ← openNode path
  return (← getThe World).files.names path

/-- The content at a path. A directory is refused on disk. -/
def readFile (path : Bytes) : Session Bytes := do
  let node ← openNode path
  if node.isDirectory && (← getThe World).files.workingDirectory.isSome then
    throw (.plain ("read " ++ path ++ ": is a directory"))
  else return node.content

/-- Replaces the content of a file. From a working directory, a new file needs a directory to be
in. -/
def writeFile (path content : Bytes) : Session Unit := do
  let fs := (← getThe World).files
  let isDirectory := Failure.plain ("open " ++ path ++ ": is a directory")
  if fs.readOnly then throw ⟨.permission, "operation not permitted"⟩
  if fs.workingDirectory.isSome then
    match fs.lookup path with
    | .ok (.directory _) => throw isDirectory
    | .ok (.file _) => pure ()
    | .error .notDirectory => throw (fs.missing .openFile path)
    | .error .missing =>
      if path.isEmpty || (fs.node? (FileSystem.above path)).isNone then
        throw (fs.missing .openFile path)
      if path.getLast? = some Path.slash then throw isDirectory
  modify fun w => { w with files := w.files.put path content }

end Session
end Stencil
