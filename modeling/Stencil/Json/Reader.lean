import Stencil.Json.Value

/-! Reading JSON. Reading is strict: one document, nothing after it but blanks. -/
namespace Stencil.Json

def isBlank (c : Char) : Bool := c == ' ' || c == '\t' || c == '\n' || c == '\r'

def skipBlanks (cs : List Char) : List Char := cs.dropWhile isBlank

def hexValue? (c : Char) : Option Nat :=
  if '0' ≤ c && c ≤ '9' then some (c.toNat - 48)
  else if 'a' ≤ c && c ≤ 'f' then some (c.toNat - 87)
  else if 'A' ≤ c && c ≤ 'F' then some (c.toNat - 55)
  else none

/-- The value of four hexadecimal digits. -/
def hex4? (a b c d : Char) : Option Nat := do
  let a ← hexValue? a
  let b ← hexValue? b
  let c ← hexValue? c
  let d ← hexValue? d
  return ((a * 16 + b) * 16 + c) * 16 + d

/-- A character as it stands, or a 16-bit unit that was escaped. -/
inductive Piece where
  | char (c : Char)
  | unit (n : Nat)
  deriving DecidableEq

def isHighSurrogate (n : Nat) : Bool := 0xD800 ≤ n && n < 0xDC00
def isLowSurrogate (n : Nat) : Bool := 0xDC00 ≤ n && n < 0xE000

def replacement : Char := Char.ofNat 0xFFFD

/-- Joins surrogate pairs; an unpaired surrogate reads as U+FFFD. -/
def joinUnits : List Piece → List Char
  | [] => []
  | .char c :: rest => c :: joinUnits rest
  | .unit h :: .unit l :: rest =>
    if isHighSurrogate h && isLowSurrogate l then
      Char.ofNat (0x10000 + (h - 0xD800) * 1024 + (l - 0xDC00)) :: joinUnits rest
    else
      (if isHighSurrogate h || isLowSurrogate h then replacement else Char.ofNat h)
        :: joinUnits (.unit l :: rest)
  | .unit h :: rest =>
    (if isHighSurrogate h || isLowSurrogate h then replacement else Char.ofNat h) :: joinUnits rest

/-- Reads up to the closing quote. -/
def readPieces : List Char → Option (List Piece × List Char)
  | [] => none
  | '"' :: rest => some ([], rest)
  | '\\' :: 'u' :: a :: b :: c :: d :: rest => do
    let n ← hex4? a b c d
    let (ps, rest) ← readPieces rest
    return (.unit n :: ps, rest)
  | '\\' :: e :: rest =>
    let plain : Option Char :=
      match e with
      | '"' => some '"'
      | '\\' => some '\\'
      | '/' => some '/'
      | 'b' => some (Char.ofNat 0x08)
      | 'f' => some (Char.ofNat 0x0C)
      | 'n' => some '\n'
      | 'r' => some '\r'
      | 't' => some '\t'
      | _ => none
    match plain with
    | none => none
    | some p => (readPieces rest).map fun (ps, rest) => (.char p :: ps, rest)
  | c :: rest =>
    if c = '\\' || c.toNat < 0x20 then none
    else (readPieces rest).map fun (ps, rest) => (.char c :: ps, rest)

/-- Reads the rest of a string, after its opening quote. -/
def readString (cs : List Char) : Option (List Char × List Char) :=
  (readPieces cs).map fun (ps, rest) => (joinUnits ps, rest)

def takeDigits (cs : List Char) : List Char × List Char := cs.span Char.isDigit

/-- Reads a number literal; no leading zeros, and digits on both sides of a point. -/
def readNumber (cs : List Char) : Option (List Char × List Char) := do
  let (sign, cs) := match cs with
    | '-' :: rest => (['-'], rest)
    | _ => ([], cs)
  let (int, cs) ← match cs with
    | '0' :: rest => some (['0'], rest)
    | _ =>
      let (ds, rest) := takeDigits cs
      if ds.isEmpty then none else some (ds, rest)
  let (frac, cs) ← match cs with
    | '.' :: rest =>
      let (ds, rest) := takeDigits rest
      if ds.isEmpty then none else some ('.' :: ds, rest)
    | _ => some ([], cs)
  let (exp, cs) ← match cs with
    | e :: rest =>
      if e = 'e' || e = 'E' then
        let (sign, rest) := match rest with
          | '+' :: r => (['+'], r)
          | '-' :: r => (['-'], r)
          | _ => ([], rest)
        let (ds, rest) := takeDigits rest
        if ds.isEmpty then none else some (e :: sign ++ ds, rest)
      else some ([], cs)
    | [] => some ([], cs)
  return (sign ++ int ++ frac ++ exp, cs)

def stripLiteral? (word : String) (cs : List Char) : Option (List Char) :=
  if word.toList.isPrefixOf cs then some (cs.drop word.length) else none

mutual
/-- Reads a value that starts at the first character; the fuel bounds the number of values and
separators still to come. -/
def readValue : (fuel : Nat) → List Char → Option (Value × List Char)
  | 0, _ => none
  | _ + 1, [] => none
  | fuel + 1, c :: rest =>
    if c = '"' then (readString rest).map fun (s, rest) => (.string s, rest)
    else if c = '[' then
      match skipBlanks rest with
      | ']' :: rest => some (.array [], rest)
      | rest => (readItems fuel rest).map fun (vs, rest) => (.array vs, rest)
    else if c = '\x7b' then
      match skipBlanks rest with
      | '\x7d' :: rest => some (.object [], rest)
      | rest => (readMembers fuel rest).map fun (ms, rest) => (.object ms, rest)
    else if c = 'n' then (stripLiteral? "null" (c :: rest)).map (.null, ·)
    else if c = 't' then (stripLiteral? "true" (c :: rest)).map (.bool true, ·)
    else if c = 'f' then (stripLiteral? "false" (c :: rest)).map (.bool false, ·)
    else (readNumber (c :: rest)).map fun (n, rest) => (.number n, rest)

/-- Reads the items of an array up to its bracket. -/
def readItems : (fuel : Nat) → List Char → Option (List Value × List Char)
  | 0, _ => none
  | fuel + 1, cs => do
    let (v, rest) ← readValue fuel cs
    match skipBlanks rest with
    | ',' :: rest =>
      let (vs, rest) ← readItems fuel (skipBlanks rest)
      return (v :: vs, rest)
    | ']' :: rest => return ([v], rest)
    | _ => none

/-- Reads the members of an object up to its brace. -/
def readMembers : (fuel : Nat) → List Char → Option (List (List Char × Value) × List Char)
  | 0, _ => none
  | fuel + 1, cs =>
    match cs with
    | '"' :: rest => do
      let (k, rest) ← readString rest
      match skipBlanks rest with
      | ':' :: rest =>
        let (v, rest) ← readValue fuel (skipBlanks rest)
        match skipBlanks rest with
        | ',' :: rest =>
          let (ms, rest) ← readMembers fuel (skipBlanks rest)
          return ((k, v) :: ms, rest)
        | '\x7d' :: rest => return ([(k, v)], rest)
        | _ => none
      | _ => none
    | _ => none
end

/-- How many arrays and objects may be open at once. -/
def depthLimit : Nat := 10000

/-- Whether more than `limit` brackets are open at once, those in strings apart. -/
def nestsBeyond (limit : Nat) : (depth : Nat) → (inString : Bool) → List Char → Bool
  | _, _, [] => false
  | depth, true, '\\' :: _ :: rest => nestsBeyond limit depth true rest
  | depth, true, c :: rest => nestsBeyond limit depth (c != '"') rest
  | depth, false, c :: rest =>
    if c = '"' then nestsBeyond limit depth true rest
    else if c = '[' || c = '\x7b' then limit ≤ depth || nestsBeyond limit (depth + 1) false rest
    else if c = ']' || c = '\x7d' then nestsBeyond limit (depth - 1) false rest
    else nestsBeyond limit depth false rest

/-- Reads a whole document. -/
def read (cs : List Char) : Option Value := do
  guard (!nestsBeyond depthLimit 0 false cs)
  let (v, rest) ← readValue (cs.length + 1) (skipBlanks cs)
  guard (skipBlanks rest).isEmpty
  return v

end Stencil.Json
