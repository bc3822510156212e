import Stencil.Cli.Command
import Stencil.Cli.Report
import Stencil.Config.Load
import Stencil.Formatter.Run

/-! Running the program on a command line. -/
namespace Stencil.Cli

/-- How the program is called. -/
structure Invocation where
  arguments : List Bytes
  input : Bytes := []
  environment : Environment := .empty
  /-- How wide the text of a region is. -/
  width : Bytes → Nat := Text.Grapheme.count

/-- What the program says about its age. -/
def versionName : Bytes := "(devel)"

/-- The name under which the standard input is read. -/
def standardInput : Bytes := "-"

/-- Reads a document from a file or from the input. -/
def readDocument (input file : Bytes) : Session Bytes :=
  if file = standardInput then return input
  else Session.context ("reading " ++ file) (Session.readFile file)

/-- The configuration of the working directory, or the one that is named. -/
def configuration (env : Environment) (named : Bytes) : Session Config := do
  Config.resolve env (← getThe World).files.root (if named.isEmpty then none else some named)

/-- Prints the document with its regions replaced by tokens, and writes the token map. -/
def tokenizeFile (i : Invocation) (r : TokenizeRequest) : Session Report := do
  let config ← configuration i.environment r.config
  let tokens := config.tokens.getD {}
  let config := { config with tokens := some {
    stem := if r.stem.isEmpty then tokens.stem else r.stem
    maxWidth := if r.maxWidth = 0 then tokens.maxWidth else r.maxWidth } }
  let options ← MonadExcept.ofExcept config.tokenOptions
  let document ← readDocument i.input r.file
  let tokenized ← Session.tokenizing i.width options document
  if r.tokens.isEmpty && r.file = standardInput then
    throw (.plain "--tokens is required when reading stdin")
  let path := if r.tokens.isEmpty then r.file ++ ".tokens.json" else r.tokens
  Session.context "writing token map" (Session.writeFile path (tokenized.map.encodeIndented ++ "\n"))
  Session.emit (Log.event .info "tokenized" [
    ("file", .text r.file),
    ("regions", .int tokenized.map.size),
    ("tokens", .text path)])
  return { out := tokenized.placeholder }

/-- Prints the document with its tokens replaced by the regions of a token map. -/
def restoreFile (i : Invocation) (r : RestoreRequest) : Session Report := do
  let text ← Session.context "reading token map" (Session.readFile r.tokens)
  let map ← match Token.Map.empty.decode text with
    | (map, none) => pure map
    | (_, some e) => throw (Failure.ofDecodeError e |>.wrap ("decoding token map " ++ r.tokens))
  let document ← readDocument i.input r.file
  let restored ← Session.restoring document map
  Session.emit (Log.event .info "restored" [
    ("file", .text r.file),
    ("replaced", .int restored.replaced),
    ("missed", .int restored.misses.length)])
  return { out := restored.text, failure := if r.strict then restored.failure? else none }

/-- Formats files, or everything below the working directory. -/
def formatFiles (i : Invocation) (r : FormatRequest) : Session Report := do
  let style ← MonadExcept.ofExcept (ReportStyle.ofName r.format)
  let config ← configuration i.environment r.config
  let pipeline ← MonadExcept.ofExcept (config.pipeline (ExternalFormatter.formatter i.environment))
  let pipeline := { pipeline with
    width := i.width
    skipPhpPass := pipeline.skipPhpPass || r.noPhpPass }
  let check := r.check || r.diff
  let options := { config.pathOptions with
    check
    stdout := r.stdout
    jobs := if 0 < r.jobs then r.jobs else config.jobs
    resolve := some EditorConfig.resolve }
  let paths ← if r.paths.isEmpty then pure [(← getThe World).files.root] else pure r.paths
  Session.emit (Log.event .debug "formatting" [("paths", .texts paths), ("jobs", .int options.jobs)])
  let (results, stopped) ← pipeline.formatPaths paths options
  match stopped with
  | some f => throw f
  | none =>
    return {
      out := renderDocuments r.stdout r.diff results
      err := style.render results check (← getThe World).elapsed
      failure := verdict r.check r.strict results }

/-- How to call the program. -/
def usage : Bytes :=
  "Usage:\n"
    ++ "  " ++ programName ++ " fmt [paths...]    format html files with embedded php\n"
    ++ "  " ++ programName ++ " tokenize <file>   replace php regions with placeholders\n"
    ++ "  " ++ programName ++ " restore <file>    put php regions back in place\n"

def Request.run (i : Invocation) : Request → Session Report
  | .help => return { out := usage }
  | .version => return { out := programName ++ " version " ++ versionName ++ "\n" }
  | .rawVersion => return { err := versionName ++ "\n" }
  | .format r => formatFiles i r
  | .tokenize r => tokenizeFile i r
  | .restore r => restoreFile i r

/-- What a run of the program leaves behind. -/
structure Outcome where
  out : Bytes := []
  err : Bytes := []
  /-- The events that are shown. -/
  log : List Log.Event := []
  failure : Option Failure := none
  files : FileSystem

/-- Runs the program. What it did before it failed stays done. -/
def run (files : FileSystem) (i : Invocation) : Outcome :=
  let fail (f : Failure) : Option Failure := some (f.wrap "failed to execute command")
  match CommandLine.read i.arguments with
  | .error e => { failure := fail (.plain e.message), files }
  | .ok line =>
    let (result, w) := (line.request.run i).run.run { files }
    let log := w.log.filter (·.isShown line.debug)
    match result with
    | .error f => { log, failure := fail f, files := w.files }
    | .ok report =>
      { out := report.out, err := report.err, log
        failure := report.failure.bind fail, files := w.files }

end Stencil.Cli
