import Stencil.Number.Decimal
import Stencil.Text.Utf8
import Stencil.Toml.Document

/-! Reading TOML. -/
namespace Stencil.Toml

/-- Which edition of the format a text is written in. -/
inductive Edition where
  | first
  /-- Allows more escapes, letters in bare keys, times without seconds, and line breaks and a last
  comma in tables in braces. -/
  | second
  deriving DecidableEq, Repr

/-- What is still to be read, and the document so far. -/
structure Reading where
  rest : List Char
  edition : Edition
  document : Document := {}

/-- Reads off the front of a text. -/
abbrev Reader := StateT Reading Option

namespace Reader

def rest : Reader (List Char) := return (← get).rest

def isSecond : Reader Bool := return (← get).edition == .second

def peek : Reader (Option Char) := return (← rest).head?

def skip (n : Nat := 1) : Reader Unit := modify fun r => { r with rest := r.rest.drop n }

/-- Changes the document, unless that is impossible. -/
def onDocument (f : Document → Option Document) : Reader Unit := do
  match f (← get).document with
  | some document => modify fun r => { r with document }
  | none => failure

def takeWhile (p : Char → Bool) : Reader (List Char) := do
  let taken := (← rest).takeWhile p
  skip taken.length
  return taken

def isBlank (c : Char) : Bool := c == ' ' || c == '\t'

def blanks : Reader Unit := do
  let _ ← takeWhile isBlank

def startsWith (cs : List Char) : Reader Bool := return cs.isPrefixOf (← rest)

def expect (c : Char) : Reader Unit := do
  if (← peek) == some c then skip else failure

/-- Passes over a line break. -/
def newline : Reader Bool := do
  if ← startsWith ['\n'] then
    skip
    return true
  else if ← startsWith ['\r', '\n'] then
    skip 2
    return true
  else return false

/-- Passes over a comment. -/
def comment : Reader Unit := do
  if (← peek) == some '#' then
    let _ ← takeWhile fun c => c != '\n' && c != '\r'

/-- Passes over blanks, comments and line breaks. The fuel bounds the number of lines. -/
def space : (fuel : Nat) → Reader Unit
  | 0 => return
  | fuel + 1 => do
    blanks
    comment
    if ← newline then space fuel

/-- Passes over what may stand between the parts of a table in braces. -/
def gap : Reader Unit := do
  if ← isSecond then space ((← rest).length + 1) else blanks

/-- What has to come after a value or heading: the end of the line. -/
def lineEnd : Reader Unit := do
  blanks
  comment
  if (← rest).isEmpty then return
  else if !(← newline) then failure

/-- Reads a code of `width` hexadecimal digits. -/
def hexCode (width : Nat) (cs : List Char) : Option (Char × List Char) := do
  let digits ← (cs.take width).mapM fun c =>
    if c.toNat < 128 then Bytes.hexValue? c.toUInt8 else none
  let n := digits.foldl (fun n d => 16 * n + d) 0
  if digits.length < width || !n.isValidChar then none
  return (Char.ofNat n, cs.drop width)

/-- Reads what follows a backslash. -/
def escape? (edition : Edition) : List Char → Option (Char × List Char)
  | [] => none
  | c :: rest =>
    match c with
    | 'b' => some ('\x08', rest)
    | 't' => some ('\t', rest)
    | 'n' => some ('\n', rest)
    | 'f' => some ('\x0c', rest)
    | 'r' => some ('\r', rest)
    | '"' => some ('"', rest)
    | '\\' => some ('\\', rest)
    | 'u' => hexCode 4 rest
    | 'U' => hexCode 8 rest
    | 'e' => if edition == .second then some ('\x1b', rest) else none
    | 'x' => if edition == .second then hexCode 2 rest else none
    | _ => none

/-- Works out the escapes in a string. In one over several lines a backslash at the end of a line
drops the white space after it. The fuel bounds the length. -/
def unescape (edition : Edition) (overLines : Bool) : (fuel : Nat) → (rev : List Char) →
    List Char → Option (List Char)
  | 0, _, _ => none
  | _ + 1, rev, [] => some rev.reverse
  | fuel + 1, rev, c :: rest =>
    if c != '\\' then unescape edition overLines fuel (c :: rev) rest
    else if overLines && (rest.dropWhile fun c => isBlank c || c == '\r').head? == some '\n' then
      unescape edition overLines fuel rev
        (rest.dropWhile fun c => isBlank c || c == '\r' || c == '\n')
    else match escape? edition rest with
      | some (e, rest) => unescape edition overLines fuel (e :: rev) rest
      | none => none

/-- Takes a string on one line up to its closing quote. The fuel bounds its length. -/
def string (quote : Char) : (fuel : Nat) → (rev : List Char) → Reader (List Char)
  | 0, _ => failure
  | fuel + 1, rev => do
    match ← rest with
    | [] => failure
    | c :: more =>
      if c == '\n' || c == '\r' then failure
      else if c == quote then
        skip
        return rev.reverse
      else if c == '\\' && quote == '"' then
        match more with
        | [] => failure
        | e :: _ =>
          skip 2
          string quote fuel (e :: c :: rev)
      else
        skip
        string quote fuel (c :: rev)

/-- Whether the string before three quotes, the last character first, leaves no room for a further
quote after them. A backslash before five quotes is taken to make the first of them part of the
string. -/
def isFull (quote : Char) (rev : List Char) : Bool :=
  rev.head? == some quote && rev[1]? == some quote && !(quote == '"' && rev[2]? == some '\\')

/-- Takes a string over lines up to its closing quotes, before which further quotes may stand. The
fuel bounds its length. -/
def multiline (quote : Char) : (fuel : Nat) → (rev : List Char) → Reader (List Char)
  | 0, _ => failure
  | fuel + 1, rev => do
    match ← rest with
    | [] => failure
    | c :: more =>
      if c == quote && [quote, quote].isPrefixOf more then
        if more[2]? == some quote then
          if isFull quote rev then failure
          skip
          multiline quote fuel (c :: rev)
        else
          skip 3
          return rev.reverse
      else if c == '\\' && quote == '"' then
        match more with
        | [] => failure
        | e :: _ =>
          skip 2
          multiline quote fuel (e :: c :: rev)
      else
        skip
        multiline quote fuel (c :: rev)

/-- A string without the line break it may start with. -/
def dropFirstBreak : List Char → List Char
  | '\n' :: rest => rest
  | '\r' :: '\n' :: rest => rest
  | cs => cs

/-- Works out what a string stands for; the raw kind has no escapes. -/
def content (quote : Char) (overLines : Bool) (cs : List Char) : Reader Bytes := do
  if quote == '\'' then return Text.Utf8.encode cs
  match unescape (← get).edition overLines (cs.length + 1) [] cs with
  | some cs => return Text.Utf8.encode cs
  | none => failure

/-- Reads a string on one line. -/
def lineString (quote : Char) : Reader Bytes := do
  skip
  content quote false (← string quote ((← rest).length + 1) [])

/-- Reads a string of any kind. -/
def anyString (quote : Char) : Reader Bytes := do
  if ← startsWith [quote, quote, quote] then
    skip 3
    content quote true (dropFirstBreak (← multiline quote ((← rest).length + 1) []))
  else lineString quote

/-- The letters and digits beyond ASCII that the second edition allows in bare keys. -/
def isWideKeyChar (c : Char) : Bool :=
  [(0xB2, 0xB3), (0xB9, 0xB9), (0xBC, 0xBE), (0xC0, 0xD6), (0xD8, 0xF6), (0xF8, 0x37D),
    (0x37F, 0x1FFF), (0x200C, 0x200D), (0x203F, 0x2040), (0x2070, 0x218F), (0x2460, 0x24FF),
    (0x2C00, 0x2FEF), (0x3001, 0xD7FF), (0xF900, 0xFDCF), (0xFDF0, 0xFFFD),
    (0x10000, 0xEFFFF)].any fun (low, high) => low ≤ c.toNat && c.toNat ≤ high

def isBareKey (edition : Edition) (c : Char) : Bool :=
  c.isAlphanum || c == '_' || c == '-' || (edition == .second && isWideKeyChar c)

def keyPart : Reader Bytes := do
  match ← peek with
  | some '"' => lineString '"'
  | some '\'' => lineString '\''
  | _ =>
    let word ← takeWhile (isBareKey (← get).edition)
    if word.isEmpty then failure
    return Text.Utf8.encode word

/-- Reads a key, whose parts points divide. The fuel bounds the number of parts. -/
def key : (fuel : Nat) → Reader KeyPath
  | 0 => failure
  | fuel + 1 => do
    blanks
    let part ← keyPart
    blanks
    if (← peek) == some '.' then
      skip
      return part :: (← key fuel)
    else return [part]

/-- Digits of a base with single underscores between them. -/
def digits? (isDigit : Char → Bool) (cs : List Char) : Option (List Char) :=
  let rec go (after : Bool) : List Char → Option (List Char)
    | [] => if after then some [] else none
    | c :: rest =>
      if c == '_' then if after then go false rest else none
      else if isDigit c then (go true rest).map (c :: ·) else none
  go false cs

def natural (base : Nat) (cs : List Char) : Nat :=
  cs.foldl (fun n c => base * n + ((Bytes.hexValue? c.toUInt8).getD 0)) 0

def dropSign (cs : List Char) : Bool × List Char :=
  match cs with
  | '-' :: rest => (true, rest)
  | '+' :: rest => (false, rest)
  | _ => (false, cs)

/-- Decimal digits without a leading zero. -/
def decimal? (cs : List Char) : Option (List Char) := do
  let ds ← digits? Char.isDigit cs
  if ds.head? == some '0' && 1 < ds.length then none else some ds

def int? (cs : List Char) : Option Int := do
  let isHex (c : Char) : Bool := c.toNat < 128 && (Bytes.hexValue? c.toUInt8).isSome
  let v : Int ← match cs with
    | '0' :: 'x' :: ds => (digits? isHex ds).map fun ds => ((natural 16 ds : Nat) : Int)
    | '0' :: 'o' :: ds => (digits? (fun c => '0' ≤ c && c ≤ '7') ds).map fun ds => ((natural 8 ds : Nat) : Int)
    | '0' :: 'b' :: ds => (digits? (fun c => c == '0' || c == '1') ds).map fun ds => ((natural 2 ds : Nat) : Int)
    | _ =>
      let (negative, ds) := dropSign cs
      (decimal? ds).map fun ds => if negative then -(natural 10 ds : Int) else (natural 10 ds : Int)
  if Text.minInt64 ≤ v && v ≤ Text.maxInt64 then some v else none

def isFloat (cs : List Char) : Bool :=
  let (_, rest) := dropSign cs
  if rest == "inf".toList || rest == "nan".toList then true
  else
    let isMark (c : Char) : Bool := c == 'e' || c == 'E'
    let mantissa := rest.takeWhile (!isMark ·)
    let exponent := rest.drop mantissa.length
    let whole := mantissa.takeWhile (· != '.')
    let part := mantissa.drop whole.length
    (decimal? whole).isSome && (part.isEmpty || (digits? Char.isDigit part.tail).isSome)
      && (exponent.isEmpty || (digits? Char.isDigit (dropSign exponent.tail).2).isSome)
      && !(part.isEmpty && exponent.isEmpty)
      && ((Number.Decimal.read? (Text.Utf8.encode (cs.filter (· != '_')))).bind (·.nearest?)).isSome

/-- A number of exactly `width` digits. -/
def fixed? (width : Nat) (cs : List Char) : Option (Nat × List Char) :=
  let ds := cs.take width
  if ds.length == width && ds.all Char.isDigit then some (natural 10 ds, cs.drop width) else none

def lead? (c : Char) (cs : List Char) : Option (List Char) :=
  if cs.head? == some c then some cs.tail else none

def daysIn (year month : Nat) : Nat :=
  if month == 2 then if year % 4 == 0 && (year % 100 != 0 || year % 400 == 0) then 29 else 28
  else if [4, 6, 9, 11].contains month then 30 else 31

def date? (cs : List Char) : Option (List Char) := do
  let (year, cs) ← fixed? 4 cs
  let (month, cs) ← fixed? 2 (← lead? '-' cs)
  let (day, cs) ← fixed? 2 (← lead? '-' cs)
  if 1 ≤ month && month ≤ 12 && 1 ≤ day && day ≤ daysIn year month then some cs else none

/-- Reads a time of day; the second edition lets the seconds be left out. -/
def time? (edition : Edition) (cs : List Char) : Option (List Char) := do
  let (hour, cs) ← fixed? 2 cs
  let (minute, cs) ← fixed? 2 (← lead? ':' cs)
  if 23 < hour || 59 < minute then none
  match lead? ':' cs with
  | none => if edition == .second then some cs else none
  | some cs =>
    let (second, cs) ← fixed? 2 cs
    if 59 < second then none
    match lead? '.' cs with
    | some rest =>
      let ds := rest.takeWhile Char.isDigit
      if ds.isEmpty then none else some (rest.drop ds.length)
    | none => some cs

/-- Whether this is an offset from the standard time. -/
def isOffset (cs : List Char) : Bool :=
  match cs with
  | ['Z'] | ['z'] => true
  | sign :: zone =>
    (sign == '+' || sign == '-') && (do
      let (hour, zone) ← fixed? 2 zone
      let (minute, zone) ← fixed? 2 (← lead? ':' zone)
      if 24 < hour || 60 < minute then none else some zone) == some []
  | [] => false

/-- A date, a time or both, then with an optional offset. -/
def isMoment (edition : Edition) (cs : List Char) : Bool :=
  match date? cs with
  | some [] => true
  | some (c :: rest) =>
    (c == 'T' || c == 't' || c == ' ')
      && (time? edition rest).any fun zone => zone.isEmpty || isOffset zone
  | none => time? edition cs == some []

/-- Reads a truth value, a number, a date or a time. -/
def atom : Reader Value := do
  let isAtom (c : Char) : Bool := c.isAlphanum || ['_', '+', '-', '.', ':'].contains c
  let word ← takeWhile isAtom
  -- A space may stand between a date and a time.
  let rest ← rest
  let word ←
    if date? word == some [] && rest.head? == some ' ' && (rest.tail.head?.any Char.isDigit) then
      skip
      pure (word ++ ' ' :: (← takeWhile isAtom))
    else pure word
  if word == "true".toList then return .bool true
  else if word == "false".toList then return .bool false
  else match int? word with
    | some n => return .int n
    | none =>
      if isFloat word then return .float
      else if isMoment (← get).edition word then return .moment
      else failure

mutual

/-- Reads the value of a key of the current table. The fuel bounds the depth and the number of
parts. -/
def value (key : Bytes) (inArray : Bool) : (fuel : Nat) → Reader Value
  | 0 => failure
  | fuel + 1 => do
    match ← peek with
    | some '"' => .text <$> anyString '"'
    | some '\'' => .text <$> anyString '\''
    | some '[' =>
      skip
      onDocument fun d => some (d.setKind key true)
      .array <$> items key fuel
    | some c =>
      if c == '\x7b' then
        skip
        let outer := (← get).document.context
        let path := outer ++ [key]
        onDocument fun d =>
          let d := d.markImplicit path
          if inArray then d.enterNew path else d.enter path
        let t ← fields path true fuel []
        onDocument fun d => some { d with context := outer }
        return .table t
      else atom
    | none => failure

/-- Reads the rest of an array. -/
def items (key : Bytes) : (fuel : Nat) → Reader (List Value)
  | 0 => failure
  | fuel + 1 => do
    space ((← rest).length + 1)
    if (← peek) == some ']' then
      skip
      return []
    else
      let v ← value key true fuel
      space ((← rest).length + 1)
      if (← peek) == some ',' then
        skip
        return v :: (← items key fuel)
      else
        expect ']'
        return [v]

/-- Reads the rest of a table in braces, which stands at a path. `mayEnd` tells that no comma is just
before. -/
def fields (path : KeyPath) (mayEnd : Bool) : (fuel : Nat) → Table → Reader Table
  | 0, _ => failure
  | fuel + 1, t => do
    gap
    if (← peek) == some '\x7d' then
      if !mayEnd && !(← isSecond) then failure
      skip
      return t
    let (parts, v) ← assignment fuel
    let t ← match parts.getLast?.bind fun k => t.putAt? parts.dropLast k v with
      | some t => pure t
      | none => failure
    onDocument fun d => some { d with context := path }
    gap
    if (← peek) == some ',' then
      skip
      fields path false fuel t
    else
      expect '\x7d'
      return t

/-- Reads a key, which may be dotted, and its value, and sets it in the document. -/
def assignment : (fuel : Nat) → Reader (KeyPath × Value)
  | 0 => failure
  | fuel + 1 => do
    let parts ← key ((← rest).length + 1)
    expect '='
    blanks
    match parts.getLast? with
    | none => failure
    | some last =>
      onDocument fun d => do
        let d ← d.enterParts parts.dropLast
        return d.note (d.context ++ [last])
      let isArray := (← peek) == some '['
      let v ← value last false fuel
      onDocument fun d => do
        return (← d.set? last v).setKind last isArray
      return (parts, v)

end

/-- Reads headings and assignments until the text ends. The fuel bounds their number. -/
def statements : (fuel : Nat) → Reader Unit
  | 0 => failure
  | fuel + 1 => do
    space ((← rest).length + 1)
    let cs ← rest
    match cs with
    | [] => return
    | '[' :: '[' :: _ =>
      skip 2
      let path ← key (cs.length + 1)
      expect ']'
      expect ']'
      lineEnd
      onDocument (·.openTables path)
      statements fuel
    | '[' :: _ =>
      skip
      let path ← key (cs.length + 1)
      expect ']'
      lineEnd
      onDocument (·.openTable path)
      statements fuel
    | _ =>
      let outer := (← get).document.context
      let _ ← assignment (2 * cs.length + 2)
      onDocument fun d => some { d with context := outer }
      lineEnd
      statements fuel

end Reader

/-- Characters that may stand nowhere; a carriage return may stand only before a line feed. -/
def hasControl : List Char → Bool
  | [] => false
  | '\r' :: rest => rest.head? != some '\n' || hasControl rest
  | c :: rest =>
    (c.toNat < 0x20 && c != '\t' && c != '\n') || c.toNat == 0x7F || hasControl rest

/-- A text without the byte order mark it may start with, of whatever encoding that is. -/
def dropMark : Bytes → Bytes
  | 0xFF :: 0xFE :: rest => rest
  | 0xFE :: 0xFF :: rest => rest
  | 0xEF :: 0xBB :: 0xBF :: rest => rest
  | b => b

/-- The document that a text describes, if it is well-formed. -/
def read (edition : Edition) (text : Bytes) : Option Document := do
  let cs ← Text.Utf8.chars? (dropMark text)
  if hasControl cs then none
  let (_, r) ← (Reader.statements (cs.length + 2)).run { rest := cs, edition }
  return r.document

/-- The characters that are escaped in a quoted key. -/
def escapeKeyByte (c : UInt8) : Bytes :=
  match c with
  | 0x22 => "\\\""
  | 0x5C => "\\\\"
  | 0x08 => "\\b"
  | 0x09 => "\\t"
  | 0x0A => "\\n"
  | 0x0C => "\\f"
  | 0x0D => "\\r"
  | _ => if c < 0x20 || c == 0x7F then "\\u" ++ Bytes.hex 4 c.toNat else [c]

/-- A part of a key as it is written, in quotes if it needs them. -/
def renderKeyPart (part : Bytes) : Bytes :=
  let isBare (c : UInt8) : Bool := Bytes.isLetter c || Bytes.isDigit c || c == 0x5F || c == 0x2D
  if !part.isEmpty && part.all isBare then part
  else "\"" ++ part.flatMap escapeKeyByte ++ "\""

def renderKey (path : KeyPath) : Bytes := Bytes.joinWith "." (path.map renderKeyPart)

end Stencil.Toml
