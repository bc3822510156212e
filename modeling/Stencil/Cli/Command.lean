import Stencil.Cli.Flag
import Stencil.Text.Case
import Stencil.Text.Distance

/-! The commands of the program and what a command line asks for. -/
namespace Stencil.Cli

inductive Command where
  | rawVersion
  | format
  | tokenize
  | restore
  | help
  | completion
  deriving DecidableEq, Repr

/-- The flag that every command has. -/
def helpFlag : Flag := { name := "help", type := .switch, letter := some 0x68 }

def versionFlag : Flag := { name := "version", type := .switch, letter := some 0x76 }

namespace Command

def all : List Command := [.rawVersion, .format, .tokenize, .restore, .help, .completion]

def name : Command → Bytes
  | .rawVersion => "raw-version"
  | .format => "fmt"
  | .tokenize => "tokenize"
  | .restore => "restore"
  | .help => "help"
  | .completion => "completion"

def aliases : Command → List Bytes
  | .format => ["format"]
  | _ => []

/-- Whether the command is proposed when a name is mistyped. -/
def isProposed : Command → Bool
  | .rawVersion | .help => false
  | _ => true

def flags (c : Command) : List Flag :=
  let own : List Flag := match c with
    | .format => [
        { name := "check", type := .switch }, { name := "stdout", type := .switch },
        { name := "diff", type := .switch }, { name := "strict", type := .switch },
        { name := "no-php-pass", type := .switch }, { name := "debug", type := .switch },
        { name := "format", type := .text }, { name := "config", type := .text },
        { name := "jobs", type := .number }]
    | .tokenize => [
        { name := "tokens", type := .text }, { name := "config", type := .text },
        { name := "prefix", type := .text }, { name := "max-width", type := .number },
        { name := "debug", type := .switch }]
    | .restore => [
        { name := "tokens", type := .text }, { name := "strict", type := .switch },
        { name := "debug", type := .switch }]
    | .rawVersion | .help | .completion => []
  helpFlag :: own

/-- The number of operands, where it is fixed. -/
def operandCount? : Command → Option Nat
  | .tokenize | .restore => some 1
  | _ => none

def requiredFlags : Command → List Bytes
  | .restore => ["tokens"]
  | _ => []

def find? (name : Bytes) : Option Command :=
  all.find? fun c => c.name == name || c.aliases.contains name

end Command

/-- The commands that a mistyped name may stand for: at most two bytes away, or beginning with it. -/
def similarCommands (typed : Bytes) : List Bytes :=
  let typed := Text.toLower typed
  ((Command.all.filter (·.isProposed)).map (·.name)).filter fun name =>
    Text.distance typed name ≤ 2 || Bytes.hasPrefix typed name

/-! ## Where the command is

The command stands behind flags that are not known yet. Each of them without an equals sign is taken
to have the next argument as its value. -/

def takesNext (argument : Bytes) : Bool :=
  Bytes.hasPrefix "-" argument && !List.elem 0x3D argument
    && (Bytes.hasPrefix "--" argument || argument.length == 2)

/-- The first argument that is no flag and no value of one. -/
def commandName? : List Bytes → Option Bytes
  | [] => none
  | [0x2D, 0x2D] :: _ => none
  | a :: rest =>
    if takesNext a then
      match rest with
      | _ :: next :: more => commandName? (next :: more)
      | _ => none
    else if !a.isEmpty && !Bytes.hasPrefix "-" a then some a
    else commandName? rest

/-- Leaves out the name of the command where it was found. -/
def withoutCommand (name : Bytes) : List Bytes → List Bytes
  | [] => []
  | [0x2D, 0x2D] :: rest => [0x2D, 0x2D] :: rest
  | a :: rest =>
    if takesNext a then
      match rest with
      | value :: rest => a :: value :: withoutCommand name rest
      | [] => [a]
    else if a == name then rest
    else a :: withoutCommand name rest

/-! ## Requests -/

structure FormatRequest where
  check : Bool
  stdout : Bool
  diff : Bool
  strict : Bool
  noPhpPass : Bool
  format : Bytes
  config : Bytes
  jobs : Int
  paths : List Bytes
  deriving DecidableEq, Repr

structure TokenizeRequest where
  tokens : Bytes
  config : Bytes
  stem : Bytes
  maxWidth : Int
  file : Bytes
  deriving DecidableEq, Repr

structure RestoreRequest where
  tokens : Bytes
  strict : Bool
  file : Bytes
  deriving DecidableEq, Repr

/-- What a command line asks for. -/
inductive Request where
  | help
  | version
  | rawVersion
  | format (r : FormatRequest)
  | tokenize (r : TokenizeRequest)
  | restore (r : RestoreRequest)
  deriving DecidableEq, Repr

/-- The request that usable arguments make. -/
def Command.request (c : Command) (a : Arguments) : Request :=
  let file : Bytes := a.operands.head?.getD []
  match c with
  | .help | .completion => .help
  | .rawVersion => .rawVersion
  | .format => .format {
      check := a.switch "check", stdout := a.switch "stdout", diff := a.switch "diff"
      strict := a.switch "strict", noPhpPass := a.switch "no-php-pass"
      format := a.text "format" "text", config := a.text "config"
      jobs := a.number "jobs", paths := a.operands }
  | .tokenize => .tokenize {
      tokens := a.text "tokens", config := a.text "config", stem := a.text "prefix"
      maxWidth := a.number "max-width", file }
  | .restore => .restore { tokens := a.text "tokens", strict := a.switch "strict", file }

/-- A request and whether debug events are to be shown. -/
structure CommandLine where
  request : Request
  debug : Bool := false
  deriving DecidableEq, Repr

/-- Checks the operands, then the flags that have to be given. -/
def Command.check (c : Command) (a : Arguments) : Except UsageError Unit := do
  match c.operandCount? with
  | some n => if a.operands.length != n then throw (.operandCount n a.operands.length)
  | none => pure ()
  match c.requiredFlags.find? (!a.has ·) with
  | some name => throw (.missingFlag name)
  | none => pure ()

/-- Reads the arguments of a command. -/
def Command.read (c : Command) (args : List Bytes) : Except UsageError CommandLine := do
  let a ← Arguments.read c.flags args
  if a.switch "help" then return ⟨.help, false⟩
  c.check a
  return ⟨c.request a, a.switch "debug"⟩

/-- Reads arguments without a command. -/
def readRoot (args : List Bytes) : Except UsageError CommandLine := do
  let a ← Arguments.read [helpFlag, versionFlag] args
  if a.switch "help" then return ⟨.help, false⟩
  return ⟨if a.switch "version" then .version else .help, false⟩

/-- Reads a whole command line. -/
def CommandLine.read (args : List Bytes) : Except UsageError CommandLine :=
  match commandName? args with
  | none => readRoot args
  | some name =>
    match Command.find? name with
    | some c => c.read (withoutCommand name args)
    | none => .error (.unknownCommand name (similarCommands name))

end Stencil.Cli
