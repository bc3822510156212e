import Stencil.Environment
import Stencil.Shell.Reader
import Stencil.Shell.Utility

/-! Running shell scripts. -/
namespace Stencil.Shell

/-- Where output goes. -/
inductive Sink where
  | out
  | err
  | nowhere
  | file (path : Bytes)
  deriving DecidableEq, Repr

/-- A running script. -/
structure Machine where
  environment : Environment
  /-- The name that the script goes by, and its arguments. -/
  name : Bytes
  arguments : List Bytes
  /-- What is left of the input. -/
  input : Bytes
  files : FileSystem
  out : Bytes := []
  err : Bytes := []
  outSink : Sink := .out
  errSink : Sink := .err
  status : Nat := 0
  halted : Bool := false
  /-- The time spent waiting, in nanoseconds. -/
  elapsed : Nat := 0

namespace Machine

def write (m : Machine) (sink : Sink) (b : Bytes) : Machine :=
  match sink with
  | .out => { m with out := m.out ++ b }
  | .err => { m with err := m.err ++ b }
  | .nowhere => m
  | .file path =>
    let before := match m.files.node? path with
      | some (.file content) => content
      | _ => []
    { m with files := m.files.put path (before ++ b) }

def apply (m : Machine) (e : Effect) : Machine :=
  let m := (m.write m.outSink e.out).write m.errSink e.err
  { m with
    status := e.status
    input := if e.reads then [] else m.input
    elapsed := m.elapsed + e.pause }

/-- Reports a fault of the script itself. -/
def complain (m : Machine) (status : Nat) (message : Bytes) : Machine :=
  m.apply (.fail status (m.name ++ ": 1: " ++ message ++ "\n"))

/-- The value of a parameter that is not a list. -/
def parameter? (m : Machine) (name : Bytes) : Option Bytes :=
  if name == "#" then some (Bytes.ofNat m.arguments.length)
  else if name == "?" then some (Bytes.ofNat m.status)
  else if name == "$" then some "1"
  else if name == "@" || name == "*" then
    if m.arguments.isEmpty then none else some (Bytes.joinWith " " m.arguments)
  else match Bytes.toNat? name with
    | some 0 => some m.name
    | some (n + 1) => m.arguments[n]?
    | none => m.environment.get? name

end Machine

/-- An expanded word: bytes, blanks at which it can be split, and stretches that make a word even if
they are empty. -/
inductive Atom where
  | byte (c : UInt8) (quoted : Bool)
  | gap (c : UInt8)
  | present
  deriving DecidableEq, Repr

namespace Atom

/-- The atoms of a value; an unquoted one is split at white space. -/
def ofValue (quoted : Bool) (b : Bytes) : List Atom :=
  if quoted then .present :: b.map (.byte · true)
  else b.map fun c => if c == 0x20 || c == 0x09 || c == 0x0A then .gap c else .byte c false

/-- The words that atoms make up. -/
def fields (atoms : List Atom) : List Bytes :=
  let (done, current) := atoms.foldl (fun (done, current) a =>
    match a with
    | .byte c _ => (done, some (current.getD [] ++ [c]))
    | .present => (done, some (current.getD []))
    | .gap _ => match current with
      | some w => (done ++ [w], none)
      | none => (done, none)) (([] : List Bytes), (none : Option Bytes))
  done ++ current.toList

/-- The bytes as one word. -/
def text (atoms : List Atom) : Bytes :=
  atoms.filterMap fun
    | .byte c _ => some c
    | .gap c => some c
    | .present => none

/-- The pattern that atoms make up. -/
def pattern (atoms : List Atom) : List Wildcard :=
  let bytes := atoms.filterMap fun
    | .byte c quoted => some (c, quoted)
    | .gap c => some (c, false)
    | .present => none
  Wildcard.compile (bytes.length + 1) bytes

end Atom

/-- Gives each name a word of a line, and the last name all that is left. -/
def lineFields (isBlank : UInt8 → Bool) : List Bytes → Bytes → List (Bytes × Bytes)
  | [], _ => []
  | [name], line => [(name, Bytes.trim isBlank line)]
  | name :: more, line =>
    let line := line.dropWhile isBlank
    let word := line.takeWhile (!isBlank ·)
    (name, word) :: lineFields isBlank more (line.drop word.length)

/-- The value without the shortest or longest stretch at one end that matches a pattern. -/
def dropMatch (p : List Wildcard) (front longest : Bool) (value : Bytes) : Bytes :=
  let lengths := List.range (value.length + 1)
  let lengths := if longest then lengths.reverse else lengths
  match lengths.find? fun n =>
      Wildcard.isMatch p (if front then value.take n else value.drop (value.length - n)) with
  | some n => if front then value.drop n else value.take (value.length - n)
  | none => value

abbrev Run := StateM Machine

/-- Runs some work apart from the rest: variables and arguments are restored afterwards, and so is
an early end. -/
def isolated {α : Type} (work : Run α) : Run α := do
  let before ← get
  let a ← work
  modify fun m => { m with
    environment := before.environment, arguments := before.arguments, name := before.name
    halted := before.halted, outSink := before.outSink, errSink := before.errSink }
  return a

/-- The output of some work, which does not go where output goes now. -/
def captured (work : Run Unit) : Run Bytes := do
  let before ← get
  modify fun m => { m with out := [], outSink := .out }
  isolated work
  let after ← get
  set { after with out := before.out, outSink := before.outSink }
  return after.out

/-- Carries out redirections; the flag tells that all of them could be. -/
def redirect : List (Nat × Direction × Bytes) → Run Bool
  | [] => return true
  | (channel, direction, target) :: rest => do
    let m ← get
    let put (sink : Sink) : Run Unit :=
      if channel = 2 then modify fun m => { m with errSink := sink }
      else modify fun m => { m with outSink := sink }
    let ok ← match direction with
      | .input =>
        if target == "/dev/null" then
          modify fun m => { m with input := [] }
          pure true
        else match m.files.node? target with
          | some (.file content) =>
            modify fun m => { m with input := content }
            pure true
          | _ =>
            modify (·.complain 2 ("cannot open " ++ target ++ ": No such file"))
            pure false
      | .duplicate =>
        put (if target == "1" then m.outSink else if target == "2" then m.errSink else .nowhere)
        pure true
      | .output =>
        if target == "/dev/null" then put .nowhere
        else if target == "/dev/stderr" then put m.errSink
        else if target == "/dev/stdout" then put m.outSink
        else
          modify fun m => { m with files := m.files.put target [] }
          put (.file target)
        pure true
      | .append =>
        put (if target == "/dev/null" then .nowhere else .file target)
        pure true
    if ok then redirect rest else return false

/-- The names of the shell. -/
def isShell (name : Bytes) : Bool :=
  ["sh", "/bin/sh", "dash", "bash"].any (Bytes.ofString · == name)

mutual

/-- Expands the parts of a word. The fuel bounds the depth of scripts within scripts. -/
def expand : (fuel : Nat) → Word → Run (List Atom)
  | 0, _ => return []
  | fuel + 1, parts => do
    let pieces ← parts.mapM fun p => do
      match p with
      | .text c quoted => return [Atom.byte c quoted]
      | .nothing => return [.present]
      | .parameter name quoted =>
        let m ← get
        if name == "@" || (name == "*" && !quoted) then
          let values := m.arguments.map (Atom.ofValue quoted)
          return values.intersperse [.gap 0x20] |>.flatten
        else return Atom.ofValue quoted ((m.parameter? name).getD [])
      | .adjusted name adjustment operand quoted =>
        let value := (← get).parameter? name
        let isSet (evenIfEmpty : Bool) : Bool := value.any fun v => !evenIfEmpty || !v.isEmpty
        match adjustment with
        | .length => return Atom.ofValue quoted (Bytes.ofNat (value.getD []).length)
        | .orDefault e =>
          if isSet e then return Atom.ofValue quoted (value.getD []) else expand fuel operand
        | .ifSet e => if isSet e then expand fuel operand else return []
        | .dropFront longest =>
          let p := Atom.pattern (← expand fuel operand)
          return Atom.ofValue quoted (dropMatch p true longest (value.getD []))
        | .dropBack longest =>
          let p := Atom.pattern (← expand fuel operand)
          return Atom.ofValue quoted (dropMatch p false longest (value.getD []))
      | .output script quoted =>
        match read script with
        | some c =>
          let out ← captured (run fuel c)
          return Atom.ofValue quoted (Bytes.trimRight (· == 0x0A) out)
        | none => return []
    return pieces.flatten

/-- Runs a command with redirections, which last for the command only. -/
def redirected (rs : List Redirection) (work : Run Unit) : (fuel : Nat) → Run Unit
  | 0 => return
  | fuel + 1 => do
    let before ← get
    let targets ← rs.mapM fun r => do
      return (r.channel, r.direction, Atom.text (← expand fuel r.target))
    if ← redirect targets then work
    let ownInput := rs.any (·.direction == .input)
    modify fun m => { m with
      outSink := before.outSink, errSink := before.errSink
      input := if ownInput then before.input else m.input }

/-- Runs a program or a command of the shell itself. -/
def call (name : Bytes) (args : List Bytes) : (fuel : Nat) → Run Unit
  | 0 => return
  | fuel + 1 => do
    let m ← get
    if name == "exit" then
      let status := match args with
        | a :: _ => (Bytes.toNat? a).getD 2 % 256
        | [] => m.status
      set { m with status, halted := true }
    else if name == "exec" then
      match args with
      | n :: rest =>
        call n rest fuel
        modify fun m => { m with halted := true }
      | [] => pure ()
    else if name == "shift" then
      let n := (args.head?.bind Bytes.toNat?).getD 1
      set { m with arguments := m.arguments.drop n, status := 0 }
    else if name == "set" then
      let args := if args.head? == some (Bytes.ofString "--") then args.tail else args
      set { m with arguments := args.filter (·.head? != some 0x2D), status := 0 }
    else if name == "export" then
      let assign (e : Environment) (a : Bytes) : Environment :=
        match Bytes.cut? "=" a with
        | some (n, v) => e.set n v
        | none => e
      set { m with environment := args.foldl assign m.environment, status := 0 }
    else if name == "unset" then
      set { m with environment := args.foldl Environment.erase m.environment, status := 0 }
    else if name == "read" then
      let line := m.input.takeWhile (· != 0x0A)
      let rest := m.input.drop line.length
      let separators := (m.environment.get? "IFS").getD " \t\n"
      let values := lineFields (List.elem · separators) (args.filter (·.head? != some 0x2D)) line
      set { m with
        environment := values.foldl (fun e (n, v) => e.set n v) m.environment
        input := rest.tail, status := if rest.isEmpty then 1 else 0 }
    else if name == "eval" then
      match read (Bytes.joinWith " " args) with
      | some c => run fuel c
      | none => modify (·.complain 2 "Syntax error")
    else if isShell name then
      match args with
      | option :: script :: rest =>
        if option == "-c" && !Bytes.hasPrefix "--" script then
          isolated do
            modify fun m => { m with name := rest.head?.getD "sh", arguments := rest.tail }
            match read script with
            | some c => run fuel c
            | none => modify (·.complain 2 "Syntax error")
        else modify (·.apply (.fail 2 "sh: 0: Illegal option --\n"))
      | _ => modify (·.apply (.fail 2 "sh: 0: Illegal option --\n"))
    else
      match utility? m.files name args m.input with
      | some e => set (m.apply e)
      | none => modify (·.complain 127 (name ++ ": not found"))

/-- Runs a command. Nothing happens once the script has ended. The fuel bounds the depth and the
number of rounds of loops. -/
def run : (fuel : Nat) → Command → Run Unit
  | 0, _ => return
  | fuel + 1, c => do
    if (← get).halted then return
    match c with
    | .simple assignments words redirections =>
      let values ← assignments.mapM fun (n, w) => do return (n, Atom.text (← expand fuel w))
      let atoms ← words.mapM fun w => expand fuel w
      let fields := atoms.flatMap Atom.fields
      let bind : Run Unit := modify fun m =>
        { m with environment := values.foldl (fun e (n, v) => e.set n v) m.environment }
      match fields with
      | [] =>
        bind
        modify fun m => { m with status := 0 }
        redirected redirections (pure ()) fuel
      | name :: args =>
        let before := (← get).environment
        bind
        redirected redirections (call name args fuel) fuel
        modify fun m =>
          { m with environment := values.foldl (fun e (n, _) => e.reset before n) m.environment }
    | .pipe stages => pipe fuel stages
    | .negation c =>
      run fuel c
      modify fun m => { m with status := if m.status = 0 then 1 else 0 }
    | .both a b =>
      run fuel a
      if (← get).status = 0 then run fuel b
    | .either a b =>
      run fuel a
      if (← get).status != 0 then run fuel b
    | .sequence cs =>
      let _ ← cs.mapM fun c => run fuel c
    | .conditional condition yes no =>
      run fuel condition
      if (← get).status = 0 then run fuel yes
      else
        modify fun m => { m with status := 0 }
        run fuel no
    | .choice subject arms =>
      let value := Atom.text (← expand fuel subject)
      modify fun m => { m with status := 0 }
      choose fuel value arms
    | .loop stopOn condition body =>
      run fuel condition
      if ((← get).status != 0) == stopOn then
        run fuel body
        run fuel (.loop stopOn condition body)
      else modify fun m => { m with status := 0 }
    | .forEach name words body =>
      let values ← match words with
        | some ws => do
          let atoms ← ws.mapM fun w => expand fuel w
          pure (atoms.flatMap Atom.fields)
        | none => do pure (← get).arguments
      let _ ← values.mapM fun v => do
        if !(← get).halted then
          modify fun m => { m with environment := m.environment.set name v }
          run fuel body
    | .group body apart redirections =>
      redirected redirections (if apart then isolated (run fuel body) else run fuel body) fuel

/-- Runs the stages of a pipeline, each on the output of the one before. -/
def pipe : (fuel : Nat) → List Command → Run Unit
  | 0, _ => return
  | _ + 1, [] => return
  | fuel + 1, [c] => isolated (run fuel c)
  | fuel + 1, c :: rest => do
    let out ← captured (run fuel c)
    let before := (← get).input
    modify fun m => { m with input := out }
    pipe fuel rest
    modify fun m => { m with input := before }

/-- Runs the first arm with a pattern that matches. -/
def choose : (fuel : Nat) → Bytes → List (List Word × Command) → Run Unit
  | 0, _, _ => return
  | _ + 1, _, [] => return
  | fuel + 1, value, (patterns, body) :: rest => do
    let ps ← patterns.mapM fun w => do return Atom.pattern (← expand fuel w)
    if ps.any (Wildcard.isMatch · value) then run fuel body else choose fuel value rest

end

/-- How a program ended. -/
structure Ending where
  out : Bytes
  err : Bytes
  status : Nat
  elapsed : Nat
  files : FileSystem

/-- How many commands deep, and how many rounds long, a script may run. -/
def depthLimit : Nat := 4000

/-- The directories that hold programs. -/
def programDirectories : List Bytes := ["/usr/bin", "/bin"]

/-- The directories that commands are looked up in. -/
def searchPath (env : Environment) : List Bytes :=
  Bytes.splitByte 0x3A ((env.get? "PATH").getD [])

/-- The programs that can be run by name. -/
def programs : List Bytes :=
  ["sh", "dash", "bash", "cat", "echo", "printf", "true", "false", "tr", "sed", "head", "tail", "wc", "grep", "rev",
    "tac", "sort", "sleep", "test", "["]

/-- The program that a command names: by a path, or by a name that is looked up. -/
def program? (env : Environment) (command : Bytes) : Option Bytes :=
  let name := Path.base command
  let directories := if List.elem 0x2F command then [Path.dir command] else searchPath env
  if programs.contains name && directories.any (programDirectories.contains ·) then some name
  else none

/-- Runs a program. -/
def execute (program : Bytes) (args : List Bytes) (input : Bytes) (env : Environment)
    (files : FileSystem) : Ending :=
  let start : Machine := { environment := env, name := "sh", arguments := [], input, files }
  let (_, m) := (call program args depthLimit).run start
  ⟨m.out, m.err, m.status, m.elapsed, m.files⟩

end Stencil.Shell
