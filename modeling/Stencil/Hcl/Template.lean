import Stencil.Hcl.Expression
import Stencil.Text.Grapheme
import Stencil.Text.Space

/-! Texts of HCL that hold values and directives. -/
namespace Stencil.Hcl.Template

/-- The character of a code point in hexadecimal. -/
def codePoint? (digits : List UInt8) : Option Bytes := do
  let values ← digits.mapM Bytes.hexValue?
  let n := values.foldl (fun n d => 16 * n + d) 0
  if n.isValidChar then some (Text.Utf8.encodeChar (Char.ofNat n)) else none

/-- Resolves the escapes of a text in quotes. -/
def unescape? : Bytes → Option Bytes
  | [] => some []
  | 0x5C :: 0x6E :: rest => (0x0A :: ·) <$> unescape? rest
  | 0x5C :: 0x72 :: rest => (0x0D :: ·) <$> unescape? rest
  | 0x5C :: 0x74 :: rest => (0x09 :: ·) <$> unescape? rest
  | 0x5C :: 0x22 :: rest => (0x22 :: ·) <$> unescape? rest
  | 0x5C :: 0x5C :: rest => (0x5C :: ·) <$> unescape? rest
  | 0x5C :: 0x75 :: a :: b :: c :: d :: rest => do
    return (← codePoint? [a, b, c, d]) ++ (← unescape? rest)
  | 0x5C :: 0x55 :: a :: b :: c :: d :: e :: f :: g :: h :: rest => do
    return (← codePoint? [a, b, c, d, e, f, g, h]) ++ (← unescape? rest)
  | 0x5C :: _ => none
  | 0x24 :: 0x24 :: 0x7B :: rest => ([0x24, 0x7B] ++ ·) <$> unescape? rest
  | 0x25 :: 0x25 :: 0x7B :: rest => ([0x25, 0x7B] ++ ·) <$> unescape? rest
  | c :: rest => (c :: ·) <$> unescape? rest

/-- Resolves the escapes of a text over lines: a sign is doubled before a brace. Signs are taken in
pairs from the left. -/
def unescapeLine : Bytes → Bytes
  | [] => []
  | 0x24 :: 0x24 :: 0x7B :: rest => 0x24 :: 0x7B :: unescapeLine rest
  | 0x25 :: 0x25 :: 0x7B :: rest => 0x25 :: 0x7B :: unescapeLine rest
  | 0x24 :: 0x24 :: rest => 0x24 :: 0x24 :: unescapeLine rest
  | 0x25 :: 0x25 :: rest => 0x25 :: 0x25 :: unescapeLine rest
  | c :: rest => c :: unescapeLine rest

/-- The parts of a template as they are written. -/
inductive Part where
  | literal (text : Bytes)
  | value (e : Expression)
  | whether (condition : Expression)
  | otherwise
  | done
  | loop (names : LoopNames) (source : Expression)
  | loopDone
  deriving Repr

/-- A part, and how far it is indented if it starts a line. Lines of white space count for
nothing. -/
structure LinePart where
  part : Part
  indent : Option Nat

/-- Measures the parts that start a line. -/
def measure (lineStart : Bool) : List Part → List LinePart
  | [] => []
  | p :: rest =>
    match p with
    | .literal text =>
      let trimmed := Text.trimSpaceLeft text
      let endsLine := text.getLast? == some 0x0A
      let indent := if lineStart && !(trimmed.isEmpty && endsLine) then
        some (Text.Grapheme.count (text.take (text.length - trimmed.length))) else none
      ⟨p, indent⟩ :: measure endsLine rest
    | _ => ⟨p, if lineStart then some 0 else none⟩ :: measure false rest

/-- Removes the indentation that all lines share. -/
def flush (parts : List Part) : List Part :=
  let measured := measure true parts
  match (measured.filterMap (·.indent)).min? with
  | none => parts
  | some n =>
    measured.map fun p =>
      match p.part, p.indent with
      | .literal text, some _ => .literal (Text.Grapheme.dropClusters n text)
      | part, _ => part

/-- Joins neighbouring literals. -/
def meld : List Part → List Part
  | [] => []
  | p :: rest =>
    match p, meld rest with
    | .literal a, .literal b :: more => .literal (a ++ b) :: more
    | _, more => p :: more

/-- Reads the parts of a body up to a part that ends it, which is returned too. The fuel bounds the
number of parts. -/
def assemble : (fuel : Nat) → List Part → Option (List Expression × Option Part × List Part)
  | 0, _ => none
  | _ + 1, [] => some ([], none, [])
  | fuel + 1, p :: rest => do
    match p with
    | .literal text =>
      let (es, stop, rest) ← assemble fuel rest
      return (.text text :: es, stop, rest)
    | .value e =>
      let (es, stop, rest) ← assemble fuel rest
      return (e :: es, stop, rest)
    | .whether condition =>
      let (yes, stop, rest) ← assemble fuel rest
      let (no, stop, rest) ← match stop with
        | some .otherwise => assemble fuel rest
        | _ => some ([], stop, rest)
      match stop with
      | some .done =>
        let (es, stop, rest) ← assemble fuel rest
        return (.conditional condition (.template yes) (.template no) :: es, stop, rest)
      | _ => none
    | .loop names source =>
      let (body, stop, rest) ← assemble fuel rest
      match stop with
      | some .loopDone =>
        let (es, stop, rest) ← assemble fuel rest
        return (.concatenation (.loop names source (.template body) none) :: es, stop, rest)
      | _ => none
    | stop => return ([], some stop, rest)

/-- The expression that a template stands for: a single value stands for itself. -/
def toExpression? (parts : List Part) : Option Expression :=
  match parts with
  | [] => some (.template [.text []])
  | [.value e] => some (.grouped e)
  | _ => do
    let parts := meld parts
    let (es, stop, _) ← assemble (parts.length + 1) parts
    if stop.isSome then none else some (.template es)

end Stencil.Hcl.Template
