import Stencil.Failure
import Stencil.Files.Path

/-! File trees: which paths hold files and which are directories. -/
namespace Stencil

/-- What can be at a path. A directory has content if it was made of a file, or written to like
one. -/
inductive Node where
  | file (content : Bytes)
  | directory (content : Bytes := [])
  deriving DecidableEq, Repr

namespace Node

def isDirectory : Node → Bool
  | .directory _ => true
  | .file _ => false

def content : Node → Bytes
  | .directory content | .file content => content

/-- The node with other content. -/
def write (content : Bytes) : Node → Node
  | .directory _ => .directory content
  | .file _ => .file content

end Node

/-- The calls that can be made to go wrong. -/
inductive FileCall where
  | openFile
  | stat
  deriving DecidableEq, Repr

/-- Why a path leads nowhere. -/
inductive Absence where
  | missing
  /-- Something on the way is a file. -/
  | notDirectory
  deriving DecidableEq, Repr

/-- What happens at a call. -/
inductive FaultEffect where
  | fail (message : Bytes)
  /-- The run is cancelled and the call goes on. -/
  | cancel
  deriving DecidableEq, Repr

/-- Something that happens whenever this call is made on exactly this path. -/
structure Fault where
  call : FileCall
  path : Bytes
  effect : FaultEffect
  deriving DecidableEq, Repr

/-- A file tree and the way it is reached. -/
structure FileSystem where
  /-- Paths in normal form; every directory but the root is listed. -/
  entries : List (Bytes × Node)
  /-- The directory that relative paths start from. Without one a relative path is a name of its
  own, and the names without a slash lie in the root. -/
  workingDirectory : Option Bytes := none
  readOnly : Bool := false
  faults : List Fault := []
  deriving DecidableEq, Repr

namespace FileSystem

/-- The normal form of a path. -/
def locate (fs : FileSystem) (path : Bytes) : Bytes :=
  match fs.workingDirectory with
  | some dir => Path.clean (if Path.isAbsolute path then path else dir ++ [Path.slash] ++ path)
  | none =>
    let p := Path.clean path
    if p = Path.dot ∨ p = Path.dotDot then [Path.slash] else p

/-- The directory that work starts in. -/
def root (fs : FileSystem) : Bytes := fs.workingDirectory.getD [Path.slash]

/-- What is at a path in normal form; the root is always there. -/
def entry? (fs : FileSystem) (p : Bytes) : Option Node :=
  fs.entries.lookup p <|> if p = [Path.slash] then some .directory else none

/-- Goes on from a path in normal form, which has to be a directory for every element to come. -/
def follow (fs : FileSystem) : Bytes → List Bytes → Except Absence Node
  | here, [] =>
    match fs.entry? here with
    | some n => .ok n
    | none => .error .missing
  | here, element :: rest =>
    match fs.entry? here with
    | none => .error .missing
    | some (.file _) => .error .notDirectory
    | some (.directory _) => fs.follow (Path.clean (here ++ [Path.slash] ++ element)) rest

/-- The elements that lead to a path; a slash at its end asks for a directory. -/
def steps (path : Bytes) : List Bytes :=
  Path.elements path ++ if path.getLast? = some Path.slash then [Path.dot] else []

/-- The path of the directory that a new file would be in, as it was written. -/
def above (path : Bytes) : Bytes :=
  let name := Bytes.trimRight (· == Path.slash) path
  let dir := (name.reverse.dropWhile (· != Path.slash)).reverse
  if dir.isEmpty then Path.dot else dir

/-- What is at a path. From a working directory the path is followed element by element. -/
def lookup (fs : FileSystem) (path : Bytes) : Except Absence Node :=
  match fs.workingDirectory with
  | some dir =>
    if path.isEmpty then .error .missing
    else fs.follow (if Path.isAbsolute path then [Path.slash] else Path.clean dir) (steps path)
  | none => fs.follow (fs.locate path) []

def node? (fs : FileSystem) (path : Bytes) : Option Node := (fs.lookup path).toOption

/-- The directory in which a path in normal form lies. -/
def parent (fs : FileSystem) (p : Bytes) : Bytes := fs.locate (Path.dir p)

/-- The names in a directory, in byte order. -/
def names (fs : FileSystem) (path : Bytes) : List Bytes :=
  let dir := fs.locate path
  let inside := fs.entries.filter fun (p, _) => p != [Path.slash] && fs.parent p == dir
  (inside.map fun (p, _) => Path.base p).mergeSort Bytes.le

/-- The files and their contents. -/
def files (fs : FileSystem) : List (Bytes × Bytes) :=
  fs.entries.filterMap fun
    | (p, .file content) => some (p, content)
    | (_, .directory _) => none

/-- Replaces what is at a path in normal form, or adds it. -/
def set (fs : FileSystem) (p : Bytes) (n : Node) : FileSystem :=
  if (fs.entries.lookup p).isSome then
    { fs with entries := fs.entries.map fun (q, m) => if q = p then (q, n) else (q, m) }
  else { fs with entries := fs.entries ++ [(p, n)] }

/-- Adds a directory that is not there yet. -/
def addDirectory (fs : FileSystem) (p : Bytes) : FileSystem :=
  if (fs.entry? p).isSome then fs else fs.set p .directory

/-- Makes a directory of what is at a path in normal form, which keeps its content. -/
def ensureDirectory (fs : FileSystem) (p : Bytes) : FileSystem :=
  match fs.entry? p with
  | some (.directory _) => fs
  | some (.file content) => fs.set p (.directory content)
  | none => fs.set p .directory

/-- Adds the directories above a path in normal form, from the inside out. The fuel bounds their
number. -/
def addParents : (fuel : Nat) → FileSystem → Bytes → FileSystem
  | 0, fs, _ => fs
  | fuel + 1, fs, p =>
    let dir := fs.parent p
    if dir = p then fs else addParents fuel (fs.ensureDirectory dir) dir

/-- Makes a directory and those above it. -/
def makeDirectory (fs : FileSystem) (path : Bytes) : FileSystem :=
  let p := fs.locate path
  (addParents (p.length + 1) fs p).addDirectory p

/-- Replaces the content of what is at a path, or adds a file. -/
def put (fs : FileSystem) (path content : Bytes) : FileSystem :=
  let p := fs.locate path
  match fs.entry? p with
  | some n => fs.set p (n.write content)
  | none => fs.set p (.file content)

/-- Adds a file and the directories above it. -/
def addFile (fs : FileSystem) (path content : Bytes) : FileSystem :=
  let p := fs.locate path
  (addParents (p.length + 1) fs p).put path content

/-- The failure of a call on a path where nothing is. A tree with a working directory reports the
path as it was given, one without in normal form. -/
def missing (fs : FileSystem) (call : FileCall) (path : Bytes) : Failure :=
  match fs.workingDirectory with
  | some _ =>
    let verb : Bytes := match call with
      | .openFile => "open "
      | .stat => "stat "
    match fs.lookup path with
    | .error .notDirectory => .plain (verb ++ path ++ ": not a directory")
    | _ => ⟨.notExist, verb ++ path ++ ": no such file or directory"⟩
  | none => ⟨.notExist, "open " ++ fs.locate path ++ ": file does not exist"⟩

/-- What is to happen at a call. -/
def fault? (fs : FileSystem) (call : FileCall) (path : Bytes) : Option FaultEffect :=
  (fs.faults.find? fun f => f.call == call && f.path == path).map (·.effect)

end FileSystem
end Stencil
