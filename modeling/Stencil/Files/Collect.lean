import Stencil.Glob
import Stencil.Session

/-! Collecting the files to work on from a list of paths. -/
namespace Stencil

/-- Which files below a directory are wanted, by patterns for their relative names. -/
structure Selection where
  includes : List Bytes
  excludes : List Bytes
  deriving DecidableEq, Repr

namespace Selection

/-- Whether one of the patterns matches. -/
def matchesAny (isMatch : Bytes → Bytes → Bool) (patterns : List Bytes) (name : Bytes) : Bool :=
  patterns.any (isMatch · name)

/-- A file is wanted if it is included and not excluded. -/
def selectsFile (isMatch : Bytes → Bytes → Bool) (s : Selection) (name : Bytes) : Bool :=
  matchesAny isMatch s.includes name && !matchesAny isMatch s.excludes name

/-- A directory is left out if an exclude matches its name, with or without a slash. -/
def prunesDirectory (isMatch : Bytes → Bytes → Bool) (s : Selection) (name : Bytes) : Bool :=
  name != Path.dot
    && (matchesAny isMatch s.excludes name || matchesAny isMatch s.excludes (name ++ [Path.slash]))

/-- The first text that is no pattern. -/
def invalidPattern? (isValid : Bytes → Bool) (s : Selection) : Option Bytes :=
  (s.includes ++ s.excludes).find? (!isValid ·)

end Selection

namespace Session

/-- The path from `root` to `path`. -/
def relativeName (root path : Bytes) : Session Bytes :=
  match Path.relative? root path with
  | some name => return name
  | none => throw (.plain ("Rel: can't make " ++ path ++ " relative to " ++ root))

/-- Visits a node and, in byte order, what is below it, and collects the wanted files. The fuel
bounds the depth of the tree. -/
def visit (isMatch : Bytes → Bytes → Bool) (s : Selection) (root : Bytes) :
    (fuel : Nat) → (path : Bytes) → Node → Session (List Bytes)
  | 0, _, _ => return []
  | fuel + 1, path, node => do
    checkCancelled
    let name ← relativeName root path
    match node with
    | .file _ => return if s.selectsFile isMatch name then [path] else []
    | .directory _ =>
      if s.prunesDirectory isMatch name then return []
      else
        let names ← listDirectory path
        let found ← names.mapM fun name => do
          let child := Path.join [path, name]
          visit isMatch s root fuel child (← stat child)
        return found.flatten

/-- More than the depth of a tree. -/
def walkFuel (fs : FileSystem) : Nat := fs.entries.length + 2

/-- The wanted files at and below a path; a path that is no directory is always wanted. -/
def collectPath (isMatch : Bytes → Bytes → Bool) (s : Selection) (root : Bytes) :
    Session (List Bytes) := do
  checkCancelled
  match ← context ("stat " ++ root) (stat root) with
  | .file _ => return [root]
  | .directory _ =>
    context ("walking " ++ root) do
      let node ← stat root
      visit isMatch s root (walkFuel (← getThe World).files) root node

/-- The wanted files of several paths in byte order, each once. -/
def collectWith (isValid : Bytes → Bool) (isMatch : Bytes → Bytes → Bool) (s : Selection)
    (paths : List Bytes) : Session (List Bytes) := do
  match s.invalidPattern? isValid with
  | some p => throw (.plain ("invalid glob pattern " ++ Text.quote p))
  | none =>
    let found ← paths.mapM (collectPath isMatch s)
    return found.flatten.eraseDups.mergeSort Bytes.le

/-- The wanted files of several paths. -/
def collect (s : Selection) (paths : List Bytes) : Session (List Bytes) :=
  collectWith Glob.isValid Glob.isMatch s paths

end Session
end Stencil
