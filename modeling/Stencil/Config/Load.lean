import Stencil.Config.Hcl
import Stencil.Config.Toml
import Stencil.Config.Yaml
import Stencil.Environment.Assignments

/-! Finding and loading the configuration of a run. -/
namespace Stencil.Config

/-- The names of configuration files, the preferred first. -/
def fileNames : List Bytes :=
  [".htmlphpfmt.hcl", ".htmlphpfmt.yaml", ".htmlphpfmt.yml", ".htmlphpfmt.toml"]

/-- The paths at which a configuration file for a directory is looked for: in the directory, then in
those above it. -/
def candidates (dir : Bytes) : List Bytes :=
  (Path.ancestors (Path.clean dir)).flatMap fun d => fileNames.map fun n => Path.join [d, n]

/-- The first of some paths at which something is. -/
def firstExisting : List Bytes → Session (Option Bytes)
  | [] => return none
  | path :: more => do
    if ← Session.context ("checking " ++ path) (Session.exists? path) then return some path
    else firstExisting more

/-- The nearest configuration file for a directory. -/
def find (dir : Bytes) : Session (Option Bytes) := firstExisting (candidates dir)

/-- The edition of TOML that a variable of the process asks for by being set. -/
def tomlEdition (process : Environment) : Stencil.Toml.Edition :=
  if (process.get? "BURNTSUSHI_TOML_110").isSome then .second else .first

/-- Reads a text in the format that the path's extension tells. The text can refer to the variables
in `env`. -/
def ofText (process env : Environment) (path text : Bytes) : Except Failure Config :=
  let extension := Bytes.toLower (Path.extension path)
  if extension == ".yaml" || extension == ".yml" then
    match Yaml.read text with
    | some c => .ok c
    | none => .error (.plain "parsing YAML: malformed document")
  else if extension == ".toml" then
    (Toml.read (tomlEdition process) text).mapError fun e => .plain e.message
  else (Hcl.read env text).mapError fun e => .plain e.message

/-- Reads a configuration file as it stands. -/
def ofFile (process env : Environment) (path : Bytes) : Session Config := do
  let text ← Session.context "reading config file" (Session.readFile path)
  MonadExcept.ofExcept (ofText process env path text)

/-- The configuration of a file, or of no file, with defaults and the overrides of the
environment. -/
def load (process env : Environment) (path : Option Bytes) : Session Config := do
  let c ← match path with
    | some p => ofFile process env p
    | none => pure {}
  MonadExcept.ofExcept (c.withDefaults.override env)

/-- The variables of the process, over those of the file `.env` in a directory. -/
def environment (process : Environment) (dir : Bytes) : Session Environment := do
  let path := Path.join [dir, ".env"]
  if ← Session.context ("checking " ++ path) (Session.exists? path) then
    let node ← Session.context ("opening " ++ path) (Session.openNode path)
    let unusable := Failure.plain "malformed assignments" |>.wrap ("parsing " ++ path)
    if node.isDirectory && (← getThe World).files.workingDirectory.isSome then throw unusable
    match Environment.Assignments.read node.content with
    | some vars => return vars.override process
    | none => throw unusable
  else return process

/-- The configuration of a run in a directory: of the file that is named, or else of the nearest
one. -/
def resolve (process : Environment) (dir : Bytes) (named : Option Bytes) : Session Config := do
  let env ← environment process dir
  let path ← match named with
    | some p => pure (some p)
    | none => find dir
  match path with
  | some p => Session.context ("loading " ++ p) (load process env (some p))
  | none => load process env none

end Stencil.Config
