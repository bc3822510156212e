import Stencil.Text.Letter
import Stencil.Text.Space

/-! The words that an HCL text consists of. Texts in quotes and over lines may hold code, which may
hold texts again. -/
namespace Stencil.Hcl

inductive Symbol where
  | openBracket | closeBracket | openParen | closeParen
  | dot | comma | colon | doubleColon | question | ellipsis | arrow | assign
  | star | slash | percent | plus | minus | bang
  | equal | notEqual | less | lessEqual | greater | greaterEqual | and | or
  deriving DecidableEq, Repr

inductive Token where
  | newline
  | number (text : Bytes)
  | name (text : Bytes)
  | symbol (s : Symbol)
  | openBrace
  | closeBrace
  | openQuote
  | closeQuote
  /-- The start of a text over lines; `flush` ones lose the indentation that their lines share. -/
  | openHeredoc (flush : Bool)
  | closeHeredoc
  /-- A piece of a text in quotes, with its escapes. -/
  | quoted (text : Bytes)
  /-- A piece of a text over lines. -/
  | literal (text : Bytes)
  /-- The start of a value within a text; `trim` takes the white space before it away. -/
  | interpolation (trim : Bool)
  /-- The start of a directive within a text. -/
  | directive (trim : Bool)
  /-- The end of a value or directive; `trim` takes the white space after it away. -/
  | sequenceEnd (trim : Bool)
  deriving DecidableEq, Repr

namespace Token

/-- Longer symbols come before those they start with. -/
def symbols : List (Bytes × Symbol) :=
  [("...", .ellipsis), ("==", .equal), ("!=", .notEqual), (">=", .greaterEqual), ("<=", .lessEqual),
   ("&&", .and), ("||", .or), ("::", .doubleColon), ("=>", .arrow), ("[", .openBracket),
   ("]", .closeBracket), ("(", .openParen), (")", .closeParen), (".", .dot), (",", .comma),
   ("*", .star), ("/", .slash), ("%", .percent), ("+", .plus), ("-", .minus), ("=", .assign),
   ("<", .less), (">", .greater), ("!", .bang), ("?", .question), (":", .colon)]

/-- What the text being scanned is part of. -/
inductive Frame where
  /-- Code with so many open braces. -/
  | code (depth : Nat)
  | quote
  /-- Lines up to one that holds only the marker. -/
  | heredoc (marker : Bytes) (lineStart : Bool)
  deriving DecidableEq, Repr

/-- The length of the name at the front; zero if there is none. Each character takes at least one
byte, so the length of the text is fuel enough. -/
def nameLength (b : Bytes) : Nat :=
  match Text.Utf8.decodeChar? b with
  | some (c, rest) =>
    if Text.isIdentifierStart c || c == '_' then
      let rest := more rest.length rest
      b.length - rest.length
    else 0
  | none => 0
where
  /-- What follows the rest of a name. -/
  more : (fuel : Nat) → Bytes → Bytes
    | 0, b => b
    | fuel + 1, b =>
      match Text.Utf8.decodeChar? b with
      | some (c, rest) => if Text.isIdentifierPart c || c == '-' then more fuel rest else b
      | none => b

/-- The length of the number that starts with a digit here: digits, points and exponents in any
order, but no point at the end. `length` bytes have been passed, and the number ends after `last` of
them or later. -/
def numberLength (length last : Nat) : Bytes → Nat
  | [] => last
  | c :: rest =>
    if Bytes.isDigit c then numberLength (length + 1) (length + 1) rest
    else if c == 0x2E then numberLength (length + 1) last rest
    else if Bytes.lowerByte c == 0x65 then
      match rest with
      | d :: after =>
        if Bytes.isDigit d then numberLength (length + 2) (length + 2) after
        else if d == 0x2B || d == 0x2D then
          match after with
          | e :: after =>
            if Bytes.isDigit e then numberLength (length + 3) (length + 3) after else last
          | [] => last
        else last
      | [] => last
    else last

/-- What follows the line that starts here, with the line break as its first byte. -/
def lineRest : Bytes → Bytes := List.dropWhile (· != 0x0A)

/-- The start of a text over lines: whether it is flush, its marker, and what follows. -/
def heredocStart? (b : Bytes) : Option (Bool × Bytes × Bytes) := do
  let rest ← Bytes.stripPrefix? "<<" b
  let (flush, rest) := match rest with
    | 0x2D :: rest => (true, rest)
    | rest => (false, rest)
  let length := nameLength rest
  if length == 0 then none
  match rest.drop length with
  | 0x0A :: after => some (flush, rest.take length, after)
  | 0x0D :: 0x0A :: after => some (flush, rest.take length, after)
  | _ => none

/-- A step of scanning: tokens, the frames after it, and the rest. -/
abbrev Step := List Token × List Frame × Bytes

/-- Scans code. -/
def code (depth : Nat) (outer : List Frame) (b : Bytes) : Option Step :=
  let here := Frame.code depth :: outer
  match b with
  | [] => none
  | 0x20 :: rest => some ([], here, rest)
  | 0x09 :: rest => some ([], here, rest)
  | 0x0A :: rest => some ([.newline], here, rest)
  | 0x0D :: 0x0A :: rest => some ([.newline], here, rest)
  | 0x23 :: rest => some ([], here, lineRest rest)
  | 0x2F :: 0x2F :: rest => some ([], here, lineRest rest)
  | 0x2F :: 0x2A :: rest => (Bytes.cut? "*/" rest).map fun (_, after) => ([], here, after)
  | 0x22 :: rest => some ([.openQuote], .quote :: here, rest)
  | 0x7B :: rest => some ([.openBrace], .code (depth + 1) :: outer, rest)
  | 0x7D :: rest =>
    match depth, outer with
    | 0, [] => none
    | 0, _ :: _ => some ([.sequenceEnd false], outer, rest)
    | depth + 1, _ => some ([.closeBrace], .code depth :: outer, rest)
  | 0x7E :: 0x7D :: rest =>
    if depth == 0 && !outer.isEmpty then some ([.sequenceEnd true], outer, rest) else none
  | c :: rest =>
    if Bytes.isDigit c then
      let n := numberLength 1 1 rest
      some ([.number (b.take n)], here, b.drop n)
    else
      match heredocStart? b with
      | some (flush, marker, after) =>
        some ([.openHeredoc flush], .heredoc marker true :: here, after)
      | none =>
        match symbols.find? fun (s, _) => s.isPrefixOf b with
        | some (s, kind) => some ([.symbol kind], here, b.drop s.length)
        | none =>
          let n := nameLength b
          if n == 0 then none else some ([.name (b.take n)], here, b.drop n)

/-- The start of a value or directive within a text. -/
def sequence? (b : Bytes) : Option (Token × Bytes) :=
  match b with
  | 0x24 :: 0x7B :: 0x7E :: rest => some (.interpolation true, rest)
  | 0x24 :: 0x7B :: rest => some (.interpolation false, rest)
  | 0x25 :: 0x7B :: 0x7E :: rest => some (.directive true, rest)
  | 0x25 :: 0x7B :: rest => some (.directive false, rest)
  | _ => none

/-- The length of a run of characters and escapes that a text in quotes can hold; the fuel bounds
their number. -/
def quotedLength : (fuel : Nat) → Bytes → Nat
  | 0, _ => 0
  | fuel + 1, b =>
    match b with
    | [] => 0
    | 0x5C :: rest =>
      match rest with
      | 0x0A :: _ | 0x0D :: _ => 0
      | _ =>
        match Text.Utf8.groupSize? rest with
        | some n => 1 + n + quotedLength fuel (rest.drop n)
        | none => 0
    | c :: _ =>
      if c == 0x24 || c == 0x25 || c == 0x22 || c == 0x0A || c == 0x0D then 0
      else
        match Text.Utf8.groupSize? b with
        | some n => n + quotedLength fuel (b.drop n)
        | none => 0

/-- Scans a text in quotes. A dollar or percent sign that starts nothing is a piece of its own, and
so is one that is doubled before a brace. -/
def quote (outer : List Frame) (b : Bytes) : Option Step :=
  let here := Frame.quote :: outer
  match sequence? b with
  | some (t, rest) => some ([t], .code 0 :: here, rest)
  | none =>
    match b with
    | 0x22 :: rest => some ([.closeQuote], outer, rest)
    | 0x24 :: 0x24 :: 0x7B :: rest => some ([.quoted (b.take 3)], here, rest)
    | 0x25 :: 0x25 :: 0x7B :: rest => some ([.quoted (b.take 3)], here, rest)
    | 0x24 :: rest => some ([.quoted [0x24]], here, rest)
    | 0x25 :: rest => some ([.quoted [0x25]], here, rest)
    | _ =>
      let n := quotedLength b.length b
      if n == 0 then none else some ([.quoted (b.take n)], here, b.drop n)

/-- How a piece of a line ends: with the line, or before it does. -/
inductive PieceEnd where
  | line
  | within
  deriving DecidableEq, Repr

/-- The length of the piece of a line that starts here. A dollar or percent sign takes the byte after
it along, whatever that is but a brace, and what comes next is `held`: a further sign is taken along
in the same way, while a line break, and a character of more than one byte, are left to the next
piece. The fuel bounds the number of bytes. -/
def pieceLength : (fuel : Nat) → (held : Bool) → (length : Nat) → Bytes → Option (Nat × PieceEnd)
  | 0, _, _, _ => none
  | _, _, _, [] => none
  | fuel + 1, held, length, c :: rest =>
    let sign := c == 0x24 || c == 0x25
    if held then
      if c == 0x0A then some (length, .line)
      else if c == 0x0D || (0xC0 ≤ c && c < 0xF8) then some (length, .within)
      else if 0x80 ≤ c then some (length - 1, .within)
      else pieceLength fuel sign (length + 1) rest
    else if c == 0x0A then some (length + 1, .line)
    else if c == 0x0D then if rest.head? == some 0x0A then some (length + 2, .line) else none
    else if sign then
      match rest with
      | [] => none
      | 0x7B :: _ => if length == 0 then none else some (length, .within)
      | _ :: rest => pieceLength fuel true (length + 2) rest
    else
      match Text.Utf8.groupSize? (c :: rest) with
      | some n => pieceLength fuel false (length + n) (rest.drop (n - 1))
      | none => none

/-- Scans a text over lines. -/
def heredoc (marker : Bytes) (lineStart : Bool) (outer : List Frame) (b : Bytes) : Option Step :=
  match sequence? b with
  | some (t, rest) => some ([t], .code 0 :: .heredoc marker false :: outer, rest)
  | none => do
    let (n, ending) ← pieceLength b.length false 0 b
    let piece := b.take n
    let rest := b.drop n
    if ending == .line && lineStart && Text.trimSpace piece == marker then
      return ([.closeHeredoc, .newline], outer, rest)
    else return ([.literal piece], .heredoc marker (ending == .line) :: outer, rest)

/-- Scans to the end of the text, which has to be in code that no text holds. Each step takes at
least one byte, so the number of bytes is fuel enough. -/
def scan : (fuel : Nat) → List Frame → Bytes → Option (List Token)
  | _, [.code _], [] => some []
  | 0, _, _ => none
  | fuel + 1, frames, b => do
    let (tokens, frames, rest) ← match frames with
      | .code depth :: outer => code depth outer b
      | .quote :: outer => quote outer b
      | .heredoc marker lineStart :: outer => heredoc marker lineStart outer b
      | [] => none
    return tokens ++ (← scan fuel frames rest)

/-- The tokens of a text, which may start with a byte order mark; `none` if it holds anything
else. -/
def ofText? (b : Bytes) : Option (List Token) :=
  let b := Bytes.trimPrefix [0xEF, 0xBB, 0xBF] b
  scan b.length [.code 0] b

end Token
end Stencil.Hcl
