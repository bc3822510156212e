import Stencil.EditorConfig.Definition

/-! Layout settings of a file, from the configuration files above it. -/
namespace Stencil

/-- Adjusts layout settings for one file. -/
abbrev LayoutResolver := Bytes → Layout → Task Layout

namespace EditorConfig

def fileName : Bytes := ".editorconfig"

/-- The configuration file of a directory; one that is missing, unreadable or malformed counts for
nothing. -/
def configOf (read : Bytes → Option ConfigFile) (directory : Bytes) : Task (Option ConfigFile) := do
  match ← (Session.readFile (Path.join [directory, fileName])).run with
  | .ok text => return read text
  | .error _ => return none

/-- The definitions for a path, the closest first, up to a file marked as root. -/
def definitions (read : Bytes → Option ConfigFile) (path : Bytes) : List Bytes → Task (List Definition)
  | [] => return []
  | directory :: above => do
    match ← configOf read directory with
    | none => definitions read path above
    | some config =>
      let here := ((Path.relative? directory path).bind fun name =>
        config.definition? (Path.slash :: name)).toList
      if config.isRoot then return here
      else return here ++ (← definitions read path above)

/-- Closer definitions override those further away. -/
def overlay (base : Layout) (closestFirst : List Definition) : Layout :=
  closestFirst.foldr Definition.apply base

/-- The layout settings for a path. -/
def resolveWith (read : Bytes → Option ConfigFile) : LayoutResolver := fun path base => do
  let fs := (← getThe World).files
  let path := if fs.workingDirectory.isSome then fs.locate path else path
  return overlay base (← definitions read path (Path.ancestors (Path.dir path)))

/-- The layout settings for a path, by the configuration files above it. -/
def resolve : LayoutResolver := resolveWith ConfigFile.read

end EditorConfig
end Stencil
