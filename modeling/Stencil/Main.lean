import Stencil.Cli.Run

/-! The program. It takes a picture of the files that a request can see, runs on the picture, and
writes back what has changed. -/
namespace Stencil.Program

def bytesOf (b : ByteArray) : Bytes := b.data.toList

def arrayOf (b : Bytes) : ByteArray := ⟨b.toArray⟩

/-- A path for the system; one that is no text names nothing. -/
def nameOf (path : Bytes) : String := (Bytes.toString? path).getD ""

/-- Adds a file to the picture, if it can be read. -/
def addFile (files : FileSystem) (path : String) : IO FileSystem := do
  try
    let content ← IO.FS.readBinFile path
    return files.addFile (Bytes.ofString path) (bytesOf content)
  catch _ => return files

/-- Adds what is at a place and below it. -/
def addTree (files : FileSystem) (place : IO.FS.DirEntry) : IO FileSystem := do
  if !(← place.path.isDir) then addFile files place.path.toString
  else
    let mut files := files.makeDirectory (Bytes.ofString place.path.toString)
    for path in ← place.path.walkDir do
      if ← path.isDir then files := files.makeDirectory (Bytes.ofString path.toString)
      else files ← addFile files path.toString
    return files

/-- The paths that a request reads. -/
def sources : Cli.Request → List Bytes
  | .format r => r.config :: (if r.paths.isEmpty then [Path.dot] else r.paths)
  | .tokenize r => [r.config, r.file]
  | .restore r => [r.tokens, r.file]
  | _ => []

/-- The directories that a request writes to. -/
def targets : Cli.Request → List Bytes
  | .tokenize r => [FileSystem.above (if r.tokens.isEmpty then r.file else r.tokens)]
  | _ => []

/-- The settings that may lie in a directory. -/
def settingNames : List Bytes := ".env" :: EditorConfig.fileName :: Config.fileNames

/-- The variables that settings and programs look at. -/
def variableNames : List String :=
  ["PATH", "HOME", "HTMLPHPFMT_PRETTIER", "HTMLPHPFMT_TIMEOUT", "HTMLPHPFMT_JOBS",
    "HTMLPHPFMT_PRINT_WIDTH"]

/-- The files that a request can see from a directory. -/
def picture (request : Cli.Request) : IO FileSystem := do
  let here ← IO.currentDir
  let dir := Bytes.ofString here.toString
  let start : FileSystem := { entries := [], workingDirectory := some dir }
  let mut files := start.makeDirectory Path.dot
  for source in sources request do
    if !source.isEmpty then
      files ← addTree files ⟨here, nameOf source⟩
      for above in Path.ancestors (Path.dir (files.locate source)) do
        for name in settingNames do
          files ← addFile files (nameOf (Path.join [above, name]))
  for path in Config.candidates dir do
    files ← addFile files (nameOf path)
  files ← addFile files (nameOf (Path.join [dir, ".env"]))
  for target in targets request do
    if ← (IO.FS.DirEntry.mk here (nameOf target)).path.isDir then
      files := files.makeDirectory target
  return files

def environment : IO Environment :=
  variableNames.foldlM (fun e name => do
    match ← IO.getEnv name with
    | some value => return e.set (Bytes.ofString name) (Bytes.ofString value)
    | none => return e) .empty

/-- Writes the files that differ from the picture. -/
def save (before after : FileSystem) : IO Unit :=
  for (path, content) in after.files do
    if before.files.lookup path != some content then
      IO.FS.writeBinFile (nameOf path) (arrayOf content)

/-- Whether a request reads the standard input. -/
def readsInput : Cli.Request → Bool
  | .tokenize r => r.file = Cli.standardInput
  | .restore r => r.file = Cli.standardInput
  | _ => false

/-- Runs the program on the real files. -/
def run (arguments : List Bytes) : IO Cli.Outcome := do
  let request := match Cli.CommandLine.read arguments with
    | .ok line => line.request
    | .error _ => .help
  let files ← picture request
  let input ← if readsInput request then (← IO.getStdin).readBinToEnd else pure ByteArray.empty
  let outcome := Cli.run files { arguments, input := bytesOf input, environment := ← environment }
  save files outcome.files
  return outcome

end Stencil.Program

def main (args : List String) : IO UInt32 := do
  let outcome ← Stencil.Program.run (args.map Stencil.Bytes.ofString)
  let out ← IO.getStdout
  let err ← IO.getStderr
  for event in outcome.log do
    err.write (Stencil.Program.arrayOf (event.toLine ++ "\n"))
  out.write (Stencil.Program.arrayOf outcome.out)
  err.write (Stencil.Program.arrayOf outcome.err)
  out.flush
  match outcome.failure with
  | none => return 0
  | some f =>
    err.write (Stencil.Program.arrayOf (f.message ++ "\n"))
    return 1
