import Stencil.Json.Value

/-! Writing JSON, on one line or indented. Markup characters are escaped, so that the text can
stand inside a page. -/
namespace Stencil.Json

def hexChar (n : Nat) : Char := Char.ofNat (if n < 10 then 48 + n else 87 + n)

/-- The escape of a code point below 2¹⁶. -/
def unicodeEscape (n : Nat) : List Char :=
  ['\\', 'u', hexChar (n / 4096 % 16), hexChar (n / 256 % 16), hexChar (n / 16 % 16), hexChar (n % 16)]

/-- Quote, backslash and controls are escaped, and so are `<`, `>`, `&`, U+2028 and U+2029. -/
def escapeChar (c : Char) : List Char :=
  if c = '"' then ['\\', '"']
  else if c = '\\' then ['\\', '\\']
  else if c = '\n' then ['\\', 'n']
  else if c = '\r' then ['\\', 'r']
  else if c = '\t' then ['\\', 't']
  else if c.toNat = 0x08 then ['\\', 'b']
  else if c.toNat = 0x0C then ['\\', 'f']
  else if c.toNat < 0x20 ∨ c = '<' ∨ c = '>' ∨ c = '&' ∨ c.toNat = 0x2028 ∨ c.toNat = 0x2029 then
    unicodeEscape c.toNat
  else [c]

def renderString (s : List Char) : List Char := '"' :: (s.flatMap escapeChar ++ ['"'])

/-- A string for readers other than pages: markup characters stay as they are. -/
def renderPlainString (s : List Char) : List Char :=
  '"' :: (s.flatMap (fun c => if c = '<' ∨ c = '>' ∨ c = '&' then [c] else escapeChar c) ++ ['"'])

mutual
/-- The document on one line, without blanks. -/
def render : Value → List Char
  | .null => "null".toList
  | .bool true => "true".toList
  | .bool false => "false".toList
  | .number literal => literal
  | .string s => renderString s
  | .array items => '[' :: (renderItems items ++ [']'])
  | .object members => '\x7b' :: (renderMembers members ++ ['\x7d'])

def renderItems : List Value → List Char
  | [] => []
  | [v] => render v
  | v :: more => render v ++ ',' :: renderItems more

def renderMembers : List (List Char × Value) → List Char
  | [] => []
  | [(k, v)] => renderString k ++ ':' :: render v
  | (k, v) :: more => renderString k ++ ':' :: (render v ++ ',' :: renderMembers more)
end

/-- A line break and the blanks of `depth` levels, two for each. -/
def newline (depth : Nat) : List Char := '\n' :: List.replicate (2 * depth) ' '

mutual
/-- The document with one item or member on a line; what is empty stays on one line. -/
def renderIndented (depth : Nat) : Value → List Char
  | .null => "null".toList
  | .bool true => "true".toList
  | .bool false => "false".toList
  | .number literal => literal
  | .string s => renderString s
  | .array [] => ['[', ']']
  | .array (v :: more) => '[' :: (indentedItems (depth + 1) (v :: more) ++ newline depth ++ [']'])
  | .object [] => ['\x7b', '\x7d']
  | .object (m :: more) =>
    '\x7b' :: (indentedMembers (depth + 1) (m :: more) ++ newline depth ++ ['\x7d'])

def indentedItems (depth : Nat) : List Value → List Char
  | [] => []
  | [v] => newline depth ++ renderIndented depth v
  | v :: more => newline depth ++ renderIndented depth v ++ ',' :: indentedItems depth more

def indentedMembers (depth : Nat) : List (List Char × Value) → List Char
  | [] => []
  | [(k, v)] => newline depth ++ renderString k ++ ':' :: ' ' :: renderIndented depth v
  | (k, v) :: more =>
    newline depth ++ renderString k ++ ':' :: ' ' :: (renderIndented depth v
      ++ ',' :: indentedMembers depth more)
end

end Stencil.Json
