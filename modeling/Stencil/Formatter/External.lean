import Stencil.Session

/-! External formatters: a command that reads a text and writes it formatted. -/
namespace Stencil

/-- A command to run on every text. -/
structure ExternalFormatter where
  command : Bytes
  /-- Arguments before those that tell language and layout. -/
  arguments : List Bytes := []
  /-- How long one run may take, in nanoseconds; without a limit if not positive. -/
  timeout : Int := 0
  deriving DecidableEq, Repr

namespace ExternalFormatter

/-- The command that is run when none is named. -/
def defaultCommand : Bytes := "prettier"

def ofCommand (command : Bytes) (arguments : List Bytes := []) (timeout : Int := 0) :
    ExternalFormatter :=
  ⟨if command.isEmpty then defaultCommand else command, arguments, timeout⟩

/-- All arguments of a run. The embedded language needs a plugin, and sizes are left to the command
unless they are positive. -/
def argumentsFor (f : ExternalFormatter) (language : Bytes) (layout : Layout) : List Bytes :=
  let plugin : List Bytes :=
    if language = Language.php.name then ["--plugin", "@prettier/plugin-php"] else []
  let size (flag : Bytes) (n : Int) : List Bytes := if 0 < n then [flag, Bytes.ofInt n] else []
  f.arguments ++ plugin ++ [Bytes.ofString "--parser", language]
    ++ size "--print-width" layout.printWidth ++ size "--tab-width" layout.tabWidth
    ++ (if layout.useTabs then [Bytes.ofString "--use-tabs"] else [])

end ExternalFormatter
end Stencil
