import Stencil.Bytes

/-! Where a log event comes from, as a package, a file and a line. -/
namespace Stencil.Caller

/-- Splits a qualified function name at the first point after its last slash into package and
function; a receiver in parentheses belongs to the function. -/
def splitFunction (name : Bytes) : Bytes × Bytes :=
  let (dir, base) := match Bytes.cutLast? "/" name with
    | some (dir, base) => (dir, 0x2F :: base)
    | none => ([], name)
  match Bytes.cut? "." base with
  | none => (name, [])
  | some (before, function) =>
    let package := dir ++ before
    match Bytes.cut? ".(" package with
    | none => (package, function)
    | some (package, after) =>
      let receiver := ((Bytes.cut? ".(" after).map (·.1)).getD after
      (package, "(" ++ receiver ++ "." ++ function)

/-- What follows the last slash. -/
def fileName (path : Bytes) : Bytes := ((Bytes.cutLast? "/" path).map (·.2)).getD path

/-- The form `package:file:line`, on request with the file bold, the line bold red and the colons faint. -/
def render (package path : Bytes) (line : Int) (color : Bool) : Bytes :=
  let file := fileName path
  let line := Bytes.ofInt line
  if color then
    let colon : Bytes := "\x1b[2m:\x1b[22m"
    package ++ colon ++ "\x1b[1m" ++ file ++ "\x1b[22m" ++ colon ++ "\x1b[91;1m" ++ line
      ++ "\x1b[0;22m"
  else package ++ ":" ++ file ++ ":" ++ line

end Stencil.Caller
