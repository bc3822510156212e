import Stencil.Environment
import Stencil.Formatter.External
import Stencil.Pipeline.Paths
import Stencil.Text.Duration

/-! The configuration of a run, its defaults and what follows from it. -/
namespace Stencil

/-- Layout of one language; zero and `none` leave a setting open. -/
structure LayoutSettings where
  printWidth : Int := 0
  tabWidth : Int := 0
  useTabs : Option Bool := none
  deriving DecidableEq, Repr

/-- How tokens are written; empty and zero leave a setting open. -/
structure TokenSettings where
  stem : Bytes := []
  maxWidth : Int := 0
  deriving DecidableEq, Repr

/-- What a configuration file can set. -/
structure Config where
  command : Bytes := []
  arguments : Option (List Bytes) := none
  /-- A duration that bounds one run of the command. -/
  timeout : Bytes := []
  jobs : Int := 0
  skipPhpPass : Bool := false
  included : Option (List Bytes) := none
  excluded : Option (List Bytes) := none
  tokens : Option TokenSettings := none
  html : Option LayoutSettings := none
  php : Option LayoutSettings := none
  deriving DecidableEq, Repr

namespace LayoutSettings

def withDefaults (printWidth tabWidth : Int) (s : LayoutSettings) : LayoutSettings :=
  { s with
    printWidth := if s.printWidth = 0 then printWidth else s.printWidth
    tabWidth := if s.tabWidth = 0 then tabWidth else s.tabWidth }

def layout (s : LayoutSettings) : Layout := ⟨s.printWidth, s.tabWidth, s.useTabs.getD false⟩

end LayoutSettings

def TokenSettings.withDefaults (s : TokenSettings) : TokenSettings where
  stem := if s.stem.isEmpty then Token.Options.default.stem else s.stem
  maxWidth := if s.maxWidth = 0 then Token.Options.default.maxWidth else s.maxWidth

namespace Config

/-- Fills in what is left open. An empty list of patterns to leave out is a choice, an empty list of
patterns to take is not. -/
def withDefaults (c : Config) : Config :=
  { c with
    command := if c.command.isEmpty then ExternalFormatter.defaultCommand else c.command
    timeout := if c.timeout.isEmpty then "30s" else c.timeout
    included := if (c.included.getD []).isEmpty then some ["**/*.php"] else c.included
    excluded := some (c.excluded.getD ["**/vendor/**", "**/node_modules/**"])
    tokens := some (c.tokens.getD {}).withDefaults
    html := some ((c.html.getD {}).withDefaults 80 2)
    php := some ((c.php.getD {}).withDefaults 80 4) }

/-- The configuration of a run without a file. -/
def default : Config := withDefaults {}

/-- The layout for a language. -/
def layout (c : Config) (language : Language) : Layout :=
  let settings := match language with
    | .html => c.html
    | .php => c.php
  (settings.getD {}).layout

/-- The token options, if they are usable. -/
def tokenOptions (c : Config) : Except Failure Token.Options :=
  let s := c.tokens.getD {}
  let o : Token.Options := { Token.Options.default with
    stem := if s.stem.isEmpty then Token.Options.default.stem else s.stem
    maxWidth := if s.maxWidth = 0 then Token.Options.default.maxWidth else s.maxWidth }
  match o.validate with
  | .ok () => .ok o
  | .error e => .error (.ofOptionsError e)

/-- The limit on one run of the command, in nanoseconds. -/
def timeLimit (c : Config) : Except Failure Int :=
  if c.timeout.isEmpty then .ok 0
  else match Text.Duration.read c.timeout with
    | .ok d => .ok d
    | .error e =>
      .error (Failure.plain e.message |>.wrap ("parsing timeout " ++ Text.quote c.timeout))

/-- The command to format with. -/
def formatter (c : Config) : Except Failure ExternalFormatter := do
  return .ofCommand c.command (c.arguments.getD []) (← c.timeLimit)

/-- The pipeline that runs the command, with `run` to run it. -/
def pipeline (c : Config) (run : ExternalFormatter → Formatter) : Except Failure Pipeline := do
  let f ← c.formatter
  let tokens ← c.tokenOptions
  return {
    formatter := some (run f)
    tokens
    html := c.layout .html
    php := c.layout .php
    skipPhpPass := c.skipPhpPass }

/-- What is formatted and how, before any command-line choices. -/
def pathOptions (c : Config) : PathOptions :=
  { jobs := c.jobs, selection := ⟨c.included.getD [], c.excluded.getD []⟩ }

/-- Reads the integer in a variable that is set. -/
def variableInt (env : Environment) (name : Bytes) : Except Failure (Option Int) :=
  match env.nonempty? name with
  | none => .ok none
  | some v =>
    match Text.readInt v with
    | .ok n => .ok (some n)
    | .error e =>
      .error (.plain
        ("parsing " ++ name ++ ": strconv.Atoi: parsing " ++ Text.quote v ++ ": " ++ e.message))

/-- Lets variables override settings. A variable that is set to nothing counts as not set. -/
def override (c : Config) (env : Environment) : Except Failure Config := do
  let c := { c with
    command := (env.nonempty? "HTMLPHPFMT_PRETTIER").getD c.command
    timeout := (env.nonempty? "HTMLPHPFMT_TIMEOUT").getD c.timeout }
  let c := { c with jobs := (← variableInt env "HTMLPHPFMT_JOBS").getD c.jobs }
  match ← variableInt env "HTMLPHPFMT_PRINT_WIDTH" with
  | none => return c
  | some n =>
    return { c with
      html := some { c.html.getD {} with printWidth := n }
      php := some { c.php.getD {} with printWidth := n } }

end Config
end Stencil
