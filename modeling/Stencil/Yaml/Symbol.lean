import Stencil.Yaml.Scalar

/-! The symbols of a YAML stream: marks, scalars, and where collections start and end. -/
namespace Stencil.Yaml

inductive Symbol where
  | streamEnd
  | documentStart
  | documentEnd
  | version (major minor : Nat)
  | handle (name stem : List Char)
  | blockSequenceStart
  | blockMappingStart
  | blockEnd
  | flowSequenceStart
  | flowSequenceEnd
  | flowMappingStart
  | flowMappingEnd
  | blockEntry
  | flowEntry
  | key
  | value
  | alias (name : List Char)
  | anchor (name : List Char)
  | tag (handle suffix : List Char)
  | scalar (text : List Char) (isPlain : Bool)
  deriving DecidableEq, Repr

/-- A symbol that turns out to start a key if a `:` follows on its line. -/
structure PossibleKey where
  possible : Bool := false
  /-- Nothing but a key can stand at this indentation. -/
  required : Bool := false
  /-- The number of symbols before it. -/
  number : Nat := 0
  line : Nat := 0
  column : Nat := 0
  index : Nat := 0
  deriving DecidableEq, Repr

/-- How far a stream has been read. -/
structure Scanner where
  cursor : Cursor
  /-- The symbols that are read and not yet taken. -/
  queue : List Symbol := []
  /-- The number of symbols that are taken. -/
  taken : Nat := 0
  /-- The indentation of the innermost block collection, and of those around it. -/
  indent : Int := -1
  outer : List Int := []
  /-- Whether a key may start here. -/
  keyAllowed : Bool := true
  /-- The possible key of the current level, and of the flow levels around it. -/
  possibleKey : PossibleKey := {}
  around : List PossibleKey := []
  /-- For numbers of symbols that may start keys, the levels of these keys. -/
  levels : List (Nat × Nat) := []
  deriving DecidableEq, Repr

/-- Reads symbols; there is no result if the stream is malformed. -/
abbrev Scanning := StateT Scanner Option

namespace Scanner

def inFlow (s : Scanner) : Bool := !s.around.isEmpty

/-- The number of the next symbol. -/
def number (s : Scanner) : Nat := s.taken + s.queue.length

def emit (s : Scanner) (x : Symbol) : Scanner := { s with queue := s.queue ++ [x] }

/-- Puts a symbol before the one with a number. -/
def insert (s : Scanner) (number : Nat) (x : Symbol) : Scanner :=
  let before := number - s.taken
  { s with queue := s.queue.take before ++ x :: s.queue.drop before }

def forget (s : Scanner) (number : Nat) : Scanner :=
  { s with levels := s.levels.filter (·.1 != number) }

/-- The possible key of a level; the outermost level is zero. -/
def keyAt? (s : Scanner) (level : Nat) : Option PossibleKey :=
  (s.possibleKey :: s.around).reverse[level]?

/-- Gives up on the possible key of a level. -/
def giveUp (s : Scanner) (level : Nat) : Scanner :=
  match (s.possibleKey :: s.around).reverse.modify level (fun k => { k with possible := false }) |>.reverse with
  | k :: more => { s with possibleKey := k, around := more }
  | [] => s

/-- Closes the block collections that are deeper than a column. -/
def closeBlocks (column : Int) (s : Scanner) : Scanner :=
  if s.inFlow then s
  else
    let rec close : List Int → Scanner → Scanner
      | [], s => s
      | i :: is, s =>
        if column < s.indent then close is { s.emit .blockEnd with indent := i, outer := is } else s
    close s.outer s

end Scanner

namespace Scanning

open Stencil.Yaml.Scan (need char? isNext pass passes lineBreak)

/-- Reads characters on from where the symbols end. -/
def onCursor {α : Type} (x : Scan α) : Scanning α := fun s =>
  (x s.cursor).map fun (a, c) => (a, { s with cursor := c })

def emit (x : Symbol) : Scanning Unit := modify (·.emit x)

def allowKey (b : Bool) : Scanning Unit := modify fun s => { s with keyAllowed := b }

/-- The deepest nesting of collections. -/
def maxDepth : Nat := 10000

/-- Gives up on the possible key, unless a key is required. -/
def dropKey : Scanning Unit := do
  let s ← get
  let k := s.possibleKey
  if k.possible then
    if k.required then failure
    set { s.forget k.number with possibleKey := { k with possible := false } }

/-- Notes that a key may start at the next symbol. -/
def saveKey : Scanning Unit := do
  let s ← get
  if s.keyAllowed then
    dropKey
    let c := s.cursor
    modify fun t =>
      let t := t.forget s.number
      { t with
        possibleKey :=
          { possible := true
            required := !s.inFlow && s.indent == (c.column : Int)
            number := s.number, line := c.line, column := c.column, index := c.index }
        levels := (s.number, t.around.length) :: t.levels }

/-- Whether a `:` here still makes the possible key of a level one: it is on the same line and not
too far away. -/
def isLive (level : Nat) : Scanning Bool := do
  let s ← get
  match s.keyAt? level with
  | none => return false
  | some k =>
    if !k.possible then return false
    if k.line < s.cursor.line || k.index + 1024 < s.cursor.index then
      if k.required then failure
      set (s.giveUp level)
      return false
    return true

/-- Opens a block collection, before the symbol with a number, if the column is deeper than the
present one. -/
def openBlock (column number : Nat) (x : Symbol) : Scanning Unit := do
  let s ← get
  if !s.inFlow && s.indent < (column : Int) then
    if maxDepth ≤ s.outer.length then failure
    set { s.insert number x with indent := column, outer := s.indent :: s.outer }

/-- The distance, at most `fuel`, to a comment with nothing but characters in `gap` before it. -/
def commentAfter (gap : List Char) : (fuel distance : Nat) → Scan (Option Nat)
  | 0, _ => return none
  | fuel + 1, distance => do
    need (distance + 1)
    match (← get).rest[distance]? with
    | none => return none
    | some c =>
      if c == '#' then return some distance
      else if gap.contains c then commentAfter gap fuel (distance + 1)
      else return none

/-- Passes over white space up to an index. The fuel bounds the number of characters. -/
def passTo (index : Nat) : (fuel : Nat) → Scan Unit
  | 0 => return
  | fuel + 1 => do
    need 1
    if index ≤ (← get).index then return
    if (← char?).any isBreak then
      let _ ← lineBreak
    else pass
    passTo index fuel

/-- Passes over a comment and over those in the lines below, with the white space between them. The
fuel bounds their number. -/
def comments : (fuel : Nat) → Scan Unit
  | 0 => return
  | fuel + 1 => do
    Scan.skipLine
    let gap : List Char :=
      if (← char?).any fun c => c == '\n' || c == '\r' then [' ', '\t', '\n', '\r'] else []
    match ← commentAfter gap 511 1 with
    | some distance =>
      if gap.isEmpty then return
      passTo ((← get).index + distance) (← get).fuel
      comments fuel
    | none => return

/-- Passes over a comment at the end of a line that holds something else. -/
def lineComment : Scan Unit := do
  if (← get).breaks = 0 then
    match ← commentAfter [' ', '\t'] 512 0 with
    | some distance =>
      passes distance
      Scan.skipLine
    | none => return

/-- Passes over white space, comments and line breaks. Tabs do not count where a key may start. A
byte order mark at which a block of the text was asked for makes every line lose its first
character. The fuel bounds the number of lines. -/
def skipSpace : (fuel : Nat) → Scanning Unit
  | 0 => return
  | fuel + 1 => do
    let s ← get
    onCursor do
      need 1
      if (← get).column == 0 && (← get).resumedAt.any (·.toNat == 0xFEFF) then pass
      let _ ← Scan.takeWhile fun c => c == ' ' || ((s.inFlow || !s.keyAllowed) && c == '\t')
      if ← isNext '#' then comments (← get).fuel
    if (← onCursor char?).any isBreak then
      let _ ← onCursor lineBreak
      if !s.inFlow then allowKey true
      skipSpace fuel

def isWordChar (c : Char) : Bool := c.isAlphanum || c == '_' || c == '-'

/-- The characters of a tag. -/
def isTagChar (c : Char) : Bool :=
  isWordChar c || [';', '/', '?', ':', '@', '&', '=', '+', '$', ',', '.', '!', '~', '*', '\'', '(',
    ')', '[', ']', '%'].contains c

/-- Reads an alias or anchor from its mark on. -/
def name (make : List Char → Symbol) : Scanning Unit := do
  saveKey
  allowKey false
  let word ← onCursor do
    pass
    let word ← Scan.takeWhile isWordChar
    let c ← get
    let ends := c.isBreakableAt 0
      || c.head?.any fun x => ['?', ':', ',', ']', '\x7d', '%', '@', Char.ofNat 0x60].contains x
    if word.isEmpty || !ends then failure
    return word
  emit (make word)

/-- Reads one byte that is written with a percent sign and two digits. -/
def escapedByte : Scan UInt8 := do
  need 3
  match (← get).rest with
  | '%' :: a :: b :: _ =>
    match hexDigit? a, hexDigit? b with
    | some x, some y =>
      passes 3
      return (16 * x + y).toUInt8
    | _, _ => failure
  | _ => failure

/-- Reads `n` further bytes of a character. -/
def escapedBytes : Nat → Scan (List UInt8)
  | 0 => return []
  | n + 1 => do
    let b ← escapedByte
    if !Text.Utf8.isContinuation b then failure
    return b :: (← escapedBytes n)

/-- Reads a character in escaped bytes; the result has one character for each byte. -/
def escapedChar : Scan (List Char) := do
  let a ← escapedByte
  match Lead.width? a with
  | none => failure
  | some w => return (a :: (← escapedBytes (w - 1))).map fun b => Char.ofNat b.toNat

/-- Reads the characters of a tag, the last first. The fuel bounds their number. -/
def tagChars : (fuel : Nat) → (rev : List Char) → Scan (List Char)
  | 0, _ => failure
  | fuel + 1, rev => do
    need 1
    match ← char? with
    | some c =>
      if c == '%' then tagChars fuel ((← escapedChar).reverse ++ rev)
      else if isTagChar c then
        pass
        tagChars fuel (c :: rev)
      else return rev
    | none => return rev

/-- Reads the rest of a tag that starts with `head`; there has to be something. -/
def tagUri (head : List Char) : Scan (List Char) := do
  let more ← tagChars (← get).fuel []
  if head.isEmpty && more.isEmpty then failure
  return head.tail ++ more.reverse

/-- Reads the handle of a tag: a word in exclamation marks, of which the last may be missing. -/
def tagHandle : Scan (List Char) := do
  need 1
  if !(← isNext '!') then failure
  pass
  let word ← Scan.takeWhile isWordChar
  if ← isNext '!' then
    pass
    return '!' :: word ++ ['!']
  else return '!' :: word

/-- Reads a tag: `!<…>`, or a handle and a suffix. -/
def tag : Scanning Unit := do
  saveKey
  allowKey false
  let (handle, suffix) ← onCursor do
    need 2
    let (handle, suffix) ←
      match (← get).rest with
      | '!' :: '<' :: _ =>
        passes 2
        let uri ← tagUri []
        if !(← isNext '>') then failure
        pass
        pure ([], uri)
      | _ =>
        let handle ← tagHandle
        if 1 < handle.length && handle.getLast? == some '!' then pure (handle, ← tagUri [])
        else
          let suffix ← tagUri handle
          pure (if suffix.isEmpty then ([], ['!']) else (['!'], suffix))
    need 1
    if !(← get).isBreakableAt 0 then failure
    return (handle, suffix)
  emit (.tag handle suffix)

/-- Reads one of the two numbers of a version. -/
def versionNumber : Scan Nat := do
  let digits ← Scan.takeWhile Char.isDigit
  if digits.isEmpty || 2 < digits.length then failure
  return digits.foldl (fun n c => 10 * n + (c.toNat - 48)) 0

/-- Reads what a directive says after its name. -/
def directiveValue (word : List Char) : Scan Symbol := do
  if word = ['Y', 'A', 'M', 'L'] then
    let _ ← Scan.takeWhile isBlank
    let major ← versionNumber
    if !(← isNext '.') then failure
    pass
    return .version major (← versionNumber)
  else if word = ['T', 'A', 'G'] then
    let _ ← Scan.takeWhile isBlank
    let handle ← tagHandle
    if handle != ['!'] && (handle.length < 2 || handle.getLast? != some '!') then failure
    let blanks ← Scan.takeWhile isBlank
    if blanks.isEmpty then failure
    let uri ← tagUri []
    need 1
    if !(← get).isBreakableAt 0 then failure
    return .handle handle uri
  else failure

/-- Reads a directive line. -/
def directive : Scanning Unit := do
  modify (·.closeBlocks (-1))
  dropKey
  allowKey false
  let x ← onCursor do
    pass
    let word ← Scan.takeWhile isWordChar
    if word.isEmpty || !(← get).isBreakableAt 0 then failure
    let x ← directiveValue word
    let _ ← Scan.takeWhile isBlank
    if ← isNext '#' then Scan.skipLine
    match ← char? with
    | some c =>
      if !isBreak c then failure
      let _ ← lineBreak
    | none => pure ()
    return x
  emit x

def documentMark (x : Symbol) : Scanning Unit := do
  modify (·.closeBlocks (-1))
  dropKey
  allowKey false
  onCursor (passes 3)
  emit x

/-- The end of the text closes everything. -/
def streamEnd : Scanning Unit := do
  modify fun s =>
    let c := s.cursor
    let c := if c.column = 0 then c else { c with column := 0, line := c.line + 1 }
    { s with cursor := c }.closeBlocks (-1)
  dropKey
  allowKey false
  emit .streamEnd

def openFlow (x : Symbol) : Scanning Unit := do
  saveKey
  let s ← get
  if maxDepth ≤ s.around.length then failure
  set { s with
    possibleKey := { number := s.number }
    around := s.possibleKey :: s.around
    keyAllowed := true }
  onCursor pass
  emit x

def closeFlow (x : Symbol) : Scanning Unit := do
  dropKey
  modify fun s =>
    match s.around with
    | k :: more => { s.forget s.possibleKey.number with possibleKey := k, around := more }
    | [] => s
  allowKey false
  onCursor pass
  emit x

def flowEntry : Scanning Unit := do
  dropKey
  allowKey true
  onCursor pass
  emit .flowEntry

/-- Opens a block collection at this column, if a collection may start here. -/
def openBlockHere (x : Symbol) : Scanning Unit := do
  let s ← get
  if !s.inFlow then
    if !s.keyAllowed then failure
    openBlock s.cursor.column s.number x

def blockEntry : Scanning Unit := do
  openBlockHere .blockSequenceStart
  dropKey
  allowKey true
  onCursor pass
  emit .blockEntry

def explicitKey : Scanning Unit := do
  openBlockHere .blockMappingStart
  dropKey
  allowKey (!(← get).inFlow)
  onCursor pass
  emit .key

def value : Scanning Unit := do
  if ← isLive (← get).around.length then
    let k := (← get).possibleKey
    modify (·.insert k.number .key)
    openBlock k.column k.number .blockMappingStart
    modify fun s => { s.forget k.number with possibleKey := { k with possible := false } }
    allowKey false
  else
    openBlockHere .blockMappingStart
    allowKey (!(← get).inFlow)
  onCursor pass
  emit .value

def quotedScalar (quote : Char) : Scanning Unit := do
  saveKey
  allowKey false
  emit (.scalar (← onCursor (quoted quote)) false)

def blockScalar (literal : Bool) : Scanning Unit := do
  dropKey
  allowKey true
  emit (.scalar (← onCursor (block literal (← get).indent)) false)

def plainScalar : Scanning Unit := do
  saveKey
  let s ← get
  let (text, broken) ← onCursor (plain (s.indent + 1).toNat s.inFlow)
  allowKey broken
  emit (.scalar text true)

/-- The characters that have a meaning of their own and start no plain scalar. -/
def isIndicator (c : Char) : Bool :=
  ['-', '?', ':', ',', '[', ']', '\x7b', '\x7d', '#', '&', '*', '!', '|', '>', '\'', '"', '%', '@',
    Char.ofNat 0x60].contains c

/-- Reads the symbol within a document that starts with `c`. -/
def content (c : Char) : Scanning Unit := do
  let s ← get
  let followed := !s.cursor.isBreakableAt 1
  if c == '[' then openFlow .flowSequenceStart
  else if c == '\x7b' then openFlow .flowMappingStart
  else if c == ']' then closeFlow .flowSequenceEnd
  else if c == '\x7d' then closeFlow .flowMappingEnd
  else if c == ',' then flowEntry
  else if c == '-' && !followed then blockEntry
  else if c == '?' && (s.inFlow || !followed) then explicitKey
  else if c == ':' && (s.inFlow || !followed) then value
  else if c == '*' then name .alias
  else if c == '&' then name .anchor
  else if c == '!' then tag
  else if c == '|' && !s.inFlow then blockScalar true
  else if c == '>' && !s.inFlow then blockScalar false
  else if c == '\'' || c == '"' then quotedScalar c
  else if !(isBlankOrBreak c || isIndicator c) || (c == '-' && followed)
      || (!s.inFlow && (c == '?' || c == ':') && followed) then plainScalar
  else failure

/-- Reads the next symbol, and what goes before it: the ends of collections, and the marks of a
mapping that it turns out to be in. -/
def symbol : Scanning Unit := do
  onCursor (need 1)
  skipSpace (← get).cursor.fuel
  modify fun s => s.closeBlocks s.cursor.column
  onCursor (need 4)
  let c := (← get).cursor
  match c.head? with
  | none => streamEnd
  | some x =>
    if c.column == 0 && x == '%' then directive
    else if c.atDocumentMark then
      documentMark (if x == '-' then .documentStart else .documentEnd)
    else
      content x
      if (← get).queue.getLast? != some .blockEntry then onCursor lineComment

/-- Reads symbols until three are at hand and it is clear whether the first one starts a key. The
fuel bounds their number. -/
def fill : (fuel : Nat) → Scanning Unit
  | 0 => failure
  | fuel + 1 => do
    let s ← get
    let enough ←
      if 2 < s.queue.length then
        match s.levels.lookup s.taken with
        | none => pure true
        | some level => Bool.not <$> isLive level
      else pure false
    if !enough then
      symbol
      fill fuel

end Scanning
end Stencil.Yaml
