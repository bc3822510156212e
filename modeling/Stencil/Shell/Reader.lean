import Stencil.Shell.Syntax

/-! Reading shell scripts. -/
namespace Stencil.Shell

/-- Reads off the front of a script, whose bytes count as characters. -/
abbrev Reader := StateT (List Char) Option

namespace Reader

def toBytes (cs : List Char) : Bytes := cs.map fun c => c.toNat.toUInt8

def ofBytes (b : Bytes) : List Char := b.map fun c => Char.ofNat c.toNat

def peek : Reader (Option Char) := return (← get).head?

def skip (n : Nat := 1) : Reader Unit := modify (·.drop n)

def startsWith (cs : List Char) : Reader Bool := return cs.isPrefixOf (← get)

def accept (cs : List Char) : Reader Bool := do
  if ← startsWith cs then
    skip cs.length
    return true
  else return false

def expect (cs : List Char) : Reader Unit := do
  if !(← accept cs) then failure

def takeWhile (p : Char → Bool) : Reader (List Char) := do
  let taken := (← get).takeWhile p
  skip taken.length
  return taken

/-- The characters that end an unquoted word. -/
def isMeta (c : Char) : Bool :=
  [' ', '\t', '\n', ';', '&', '|', '<', '>', '(', ')'].contains c

def isNameStart (c : Char) : Bool := c.isAlpha || c == '_'

def isNamePart (c : Char) : Bool := c.isAlphanum || c == '_'

/-- Passes over blanks, joined lines and a comment. The fuel bounds their number. -/
def blanks : (fuel : Nat) → Reader Unit
  | 0 => return
  | fuel + 1 => do
    let _ ← takeWhile fun c => c == ' ' || c == '\t'
    if ← accept ['\\', '\n'] then blanks fuel
    else if (← peek) == some '#' then
      let _ ← takeWhile (· != '\n')

def ws : Reader Unit := do blanks ((← get).length + 1)

/-- Passes over blanks and line breaks. The fuel bounds their number. -/
def lines : (fuel : Nat) → Reader Unit
  | 0 => return
  | fuel + 1 => do
    ws
    if ← accept ['\n'] then lines fuel

def newlines : Reader Unit := do lines ((← get).length + 1)

/-- The unquoted word that comes next, for telling keywords. -/
def keyword : Reader (List Char) := return (← get).takeWhile (!isMeta ·)

def acceptKeyword (s : String) : Reader Bool := do
  if (← keyword) == s.toList then
    skip s.length
    return true
  else return false

def expectKeyword (s : String) : Reader Unit := do
  newlines
  if !(← acceptKeyword s) then failure

/-- The text up to the bracket that closes a substitution, and what follows it. The fuel bounds the
length. -/
def untilClose : (fuel depth : Nat) → List Char → Option (List Char × List Char)
  | 0, _, _ => none
  | _ + 1, _, [] => none
  | fuel + 1, depth, '\\' :: c :: rest => do
    let (inner, after) ← untilClose fuel depth rest
    return ('\\' :: c :: inner, after)
  | fuel + 1, depth, '\'' :: rest => do
    let text := rest.takeWhile (· != '\'')
    let (inner, after) ← untilClose fuel depth (rest.drop (text.length + 1))
    return ('\'' :: text ++ '\'' :: inner, after)
  | fuel + 1, depth, c :: rest => do
    if c == ')' then
      match depth with
      | 0 => return ([], rest)
      | depth + 1 =>
        let (inner, after) ← untilClose fuel depth rest
        return (c :: inner, after)
    else
      let (inner, after) ← untilClose fuel (if c == '(' then depth + 1 else depth) rest
      return (c :: inner, after)

/-- The adjustments by their marks. -/
def adjustments : List (String × Adjustment) :=
  [(":-", .orDefault true), ("-", .orDefault false), (":+", .ifSet true), ("+", .ifSet false),
    ("##", .dropFront true), ("#", .dropFront false), ("%%", .dropBack true), ("%", .dropBack false)]

/-- The name of a parameter: letters and digits, one digit or one sign. -/
def parameterName : Reader (Option Bytes) := do
  match ← peek with
  | some c =>
    if isNameStart c then return some (toBytes (← takeWhile isNamePart))
    else if c.isDigit || ['@', '*', '#', '?', '$', '!', '-'].contains c then
      skip
      return some (toBytes [c])
    else return none
  | none => return none

mutual

/-- Reads what follows a dollar sign. The fuel bounds the depth and length. -/
def dollar (quoted : Bool) : (fuel : Nat) → Reader Part
  | 0 => failure
  | fuel + 1 => do
    if ← accept ['('] then
      let rest ← get
      let (inner, after) ← untilClose (rest.length + 1) 0 rest
      set after
      return .output (toBytes inner) quoted
    else if ← accept ['\x7b'] then
      if (← startsWith ['#']) && !(← startsWith ['#', '\x7d']) then
        skip
        let some name ← parameterName | failure
        expect ['\x7d']
        return .adjusted name .length [] quoted
      else
        let digits ← takeWhile Char.isDigit
        let name ← if digits.isEmpty then parameterName else pure (some (toBytes digits))
        let some name := name | failure
        if ← accept ['\x7d'] then return .parameter name quoted
        else
          let rest ← get
          match adjustments.find? fun (s, _) => s.toList.isPrefixOf rest with
          | some (s, a) =>
            skip s.length
            let operand ← operandParts quoted fuel
            return .adjusted name a operand quoted
          | none => failure
    else match ← parameterName with
      | some name => return .parameter name quoted
      | none => return .text 0x24 quoted

/-- Reads the operand of an adjustment up to its brace. -/
def operandParts (quoted : Bool) : (fuel : Nat) → Reader Word
  | 0 => failure
  | fuel + 1 => do
    match ← peek with
    | none => failure
    | some c =>
      if c == '\x7d' then
        skip
        return []
      else
        let parts ← part quoted fuel
        return parts ++ (← operandParts quoted fuel)

/-- Reads one part of a word: a quoted stretch, a substitution or a character. -/
def part (quoted : Bool) : (fuel : Nat) → Reader Word
  | 0 => failure
  | fuel + 1 => do
    let some c ← peek | failure
    skip
    if c == '$' then return [← dollar quoted fuel]
    else if c == Char.ofNat 0x60 then
      let script ← takeWhile (· != c)
      expect [c]
      return [.output (toBytes script) quoted]
    else if c == '\\' then
      let some d ← peek | return [.text 0x5C true]
      skip
      if d == '\n' then return []
      else return [.text d.toNat.toUInt8 true]
    else if c == '\'' && !quoted then
      let text ← takeWhile (· != '\'')
      expect ['\'']
      if text.isEmpty then return [.nothing]
      return (toBytes text).map fun c => .text c true
    else if c == '"' && !quoted then
      let parts ← doubleQuoted fuel
      return if parts.isEmpty then [.nothing] else parts
    else return [.text c.toNat.toUInt8 quoted]

/-- Reads a stretch in double quotes up to the closing one. A backslash counts before few
characters only. -/
def doubleQuoted : (fuel : Nat) → Reader Word
  | 0 => failure
  | fuel + 1 => do
    match ← get with
    | [] => failure
    | '"' :: _ =>
      skip
      return []
    | '\\' :: '\n' :: _ =>
      skip 2
      doubleQuoted fuel
    | '\\' :: c :: _ =>
      if ['$', '"', '\\', Char.ofNat 0x60].contains c then
        skip 2
        return .text c.toNat.toUInt8 true :: (← doubleQuoted fuel)
      else
        skip
        return .text 0x5C true :: (← doubleQuoted fuel)
    | _ =>
      let parts ← part true fuel
      return parts ++ (← doubleQuoted fuel)

end

/-- Reads a word, if one comes next. The fuel bounds its length. -/
def wordParts : (fuel : Nat) → Reader Word
  | 0 => return []
  | fuel + 1 => do
    match ← peek with
    | none => return []
    | some c =>
      if isMeta c then return []
      else
        let parts ← part false fuel
        return parts ++ (← wordParts fuel)

def word : Reader Word := do wordParts ((← get).length + 1)

/-- Reads a redirection, if one comes next. -/
def redirection : Reader (Option Redirection) := do
  let before ← get
  let digits := before.takeWhile Char.isDigit
  match before.drop digits.length with
  | '<' :: '<' :: _ => failure
  | c :: _ =>
    if c == '<' || c == '>' then
      skip digits.length
      let (direction, channel) ←
        if ← accept ['>', '>'] then pure (Direction.append, 1)
        else if ← accept ['>', '&'] then pure (.duplicate, 1)
        else if ← accept ['<', '&'] then pure (.duplicate, 0)
        else if ← accept ['>', '|'] then pure (.output, 1)
        else if ← accept ['>'] then pure (.output, 1)
        else do
          skip
          pure (.input, 0)
      ws
      let target ← word
      if target.isEmpty then failure
      let channel := if digits.isEmpty then channel else ((Bytes.toNat? (toBytes digits)).getD 0)
      return some ⟨channel, direction, target⟩
    else return none
  | [] => return none

/-- Reads redirections as long as they come. The fuel bounds their number. -/
def redirections : (fuel : Nat) → Reader (List Redirection)
  | 0 => return []
  | fuel + 1 => do
    ws
    match ← redirection with
    | some r => return r :: (← redirections fuel)
    | none => return []

/-- The name and the rest of a word that assigns. -/
def assignment? : Reader (Option Bytes) := do
  let rest ← get
  let name := rest.takeWhile isNamePart
  if name.head?.any isNameStart && (rest.drop name.length).head? == some '=' then
    skip (name.length + 1)
    return some (toBytes name)
  else return none

/-- Reads the words of a simple command. The fuel bounds their number. -/
def simple : (fuel : Nat) → (assignments : List (Bytes × Word)) → (words : List Word) →
    (rs : List Redirection) → Reader Command
  | 0, _, _, _ => failure
  | fuel + 1, assignments, words, rs => do
    ws
    match ← redirection with
    | some r => simple fuel assignments words (rs ++ [r])
    | none =>
      let name ← if words.isEmpty then assignment? else pure none
      match name with
      | some n => simple fuel (assignments ++ [(n, ← word)]) words rs
      | none =>
        let w ← word
        if w.isEmpty then
          if assignments.isEmpty && words.isEmpty && rs.isEmpty then failure
          else return .simple assignments words rs
        else simple fuel assignments (words ++ [w]) rs

/-- The words that end a list of commands. -/
def closers : List String := ["then", "else", "elif", "fi", "do", "done", "esac", "\x7d"]

mutual

/-- Reads commands up to something that ends them. The fuel bounds the depth and the number of
commands. -/
def list : (fuel : Nat) → Reader (List Command)
  | 0 => failure
  | fuel + 1 => do
    newlines
    let rest ← get
    let word := String.ofList (← keyword)
    if rest.isEmpty || rest.head? == some ')' || [';', ';'].isPrefixOf rest
        || closers.contains word then return []
    else
      let c ← connected fuel
      ws
      if !(← startsWith [';', ';']) then
        let _ ← accept [';']
      return c :: (← list fuel)

def sequence : (fuel : Nat) → Reader Command
  | 0 => failure
  | fuel + 1 => do
    let cs ← list fuel
    if cs.isEmpty then failure
    return .sequence cs

/-- Reads commands joined by `&&` and `||`, which bind alike and from the left. -/
def connected : (fuel : Nat) → Reader Command
  | 0 => failure
  | fuel + 1 => do
    let c ← pipeline fuel
    connectedRest c fuel

def connectedRest (c : Command) : (fuel : Nat) → Reader Command
  | 0 => failure
  | fuel + 1 => do
    ws
    if ← accept ['&', '&'] then
      newlines
      let d ← pipeline fuel
      connectedRest (.both c d) fuel
    else if ← accept ['|', '|'] then
      newlines
      let d ← pipeline fuel
      connectedRest (.either c d) fuel
    else return c

def pipeline : (fuel : Nat) → Reader Command
  | 0 => failure
  | fuel + 1 => do
    ws
    if ← acceptKeyword "!" then return .negation (← pipeline fuel)
    else
      let cs ← stages fuel
      match cs with
      | [c] => return c
      | _ => return .pipe cs

def stages : (fuel : Nat) → Reader (List Command)
  | 0 => failure
  | fuel + 1 => do
    let c ← command fuel
    ws
    if (← startsWith ['|']) && !(← startsWith ['|', '|']) then
      skip
      newlines
      return c :: (← stages fuel)
    else return [c]

def command : (fuel : Nat) → Reader Command
  | 0 => failure
  | fuel + 1 => do
    ws
    if ← acceptKeyword "if" then
      let c ← conditional fuel
      decorated c fuel
    else if ← acceptKeyword "case" then
      ws
      let subject ← word
      expectKeyword "in"
      let arms ← arms fuel
      decorated (.choice subject arms) fuel
    else if ← acceptKeyword "while" then loop false fuel
    else if ← acceptKeyword "until" then loop true fuel
    else if ← acceptKeyword "for" then
      ws
      let name := toBytes (← takeWhile isNamePart)
      newlines
      let words ←
        if ← acceptKeyword "in" then
          let ws ← forWords fuel
          pure (some ws)
        else pure none
      ws
      let _ ← accept [';']
      expectKeyword "do"
      let body ← sequence fuel
      expectKeyword "done"
      decorated (.forEach name words body) fuel
    else if ← acceptKeyword "\x7b" then
      let body ← sequence fuel
      expectKeyword "\x7d"
      return .group body false (← redirections fuel)
    else if ← accept ['('] then
      let body ← sequence fuel
      newlines
      expect [')']
      return .group body true (← redirections fuel)
    else simple ((← get).length + 2) [] [] []

/-- Reads redirections after a compound command. -/
def decorated (c : Command) : (fuel : Nat) → Reader Command
  | 0 => failure
  | fuel + 1 => do
    let rs ← redirections fuel
    return if rs.isEmpty then c else .group c false rs

def loop (stopOn : Bool) : (fuel : Nat) → Reader Command
  | 0 => failure
  | fuel + 1 => do
    let c ← sequence fuel
    expectKeyword "do"
    let body ← sequence fuel
    expectKeyword "done"
    decorated (.loop stopOn c body) fuel

def forWords : (fuel : Nat) → Reader (List Word)
  | 0 => failure
  | fuel + 1 => do
    ws
    let w ← word
    if w.isEmpty then return [] else return w :: (← forWords fuel)

/-- Reads a conditional from after its `if` or `elif`. -/
def conditional : (fuel : Nat) → Reader Command
  | 0 => failure
  | fuel + 1 => do
    let c ← sequence fuel
    expectKeyword "then"
    let yes ← sequence fuel
    newlines
    if ← acceptKeyword "elif" then return .conditional c yes (← conditional fuel)
    else if ← acceptKeyword "else" then
      let no ← sequence fuel
      expectKeyword "fi"
      return .conditional c yes no
    else
      expectKeyword "fi"
      return .conditional c yes (.sequence [])

/-- Reads the arms of a choice up to `esac`. -/
def arms : (fuel : Nat) → Reader (List (List Word × Command))
  | 0 => failure
  | fuel + 1 => do
    newlines
    if ← acceptKeyword "esac" then return []
    else
      let _ ← accept ['(']
      let patterns ← patterns fuel
      expect [')']
      let body ← list fuel
      newlines
      let more ← if ← accept [';', ';'] then arms fuel else do
        expectKeyword "esac"
        pure []
      return (patterns, .sequence body) :: more

def patterns : (fuel : Nat) → Reader (List Word)
  | 0 => failure
  | fuel + 1 => do
    ws
    let w ← word
    ws
    if ← accept ['|'] then return w :: (← patterns fuel) else return [w]

end

end Reader

/-- The commands of a script, if it is well-formed. -/
def read (script : Bytes) : Option Command := do
  let cs := Reader.ofBytes script
  let (commands, rest) ← (Reader.list (8 * cs.length + 16)).run cs
  if rest.isEmpty then some (.sequence commands) else none

end Stencil.Shell
