import Stencil.Text.Number
import Stencil.Text.Regex
import Stencil.Text.Utf8

/-! Selectors: the file names a section is about. A selector is read as a regular expression. -/
namespace Stencil.EditorConfig.Selector

/-- Counts disjoint occurrences of `mark` that no backslash precedes; an occurrence takes the
character before it along. -/
def countMarks (mark : List Char) : (fuel : Nat) → (atStart : Bool) → List Char → Nat
  | 0, _, _ => 0
  | _ + 1, _, [] => 0
  | fuel + 1, atStart, c :: rest =>
    if atStart && mark.isPrefixOf (c :: rest) then
      1 + countMarks mark fuel false ((c :: rest).drop mark.length)
    else if c != '\\' && mark.isPrefixOf rest then
      1 + countMarks mark fuel false (rest.drop mark.length)
    else countMarks mark fuel false rest

/-- Whether as many braces open as close, where a doubled brace counts once more. -/
def bracesBalance (cs : List Char) : Bool :=
  let count (mark : List Char) := countMarks mark (cs.length + 1) true cs
  count ['\x7b'] + count ['\x7b', '\x7b'] == count ['\x7d'] + count ['\x7d', '\x7d']

/-- Splits at the first of the characters that no backslash precedes; `before` is the character
before the text. -/
def breakAt (stops : List Char) (before : Char) : List Char → List Char × List Char
  | [] => ([], [])
  | c :: rest =>
    if stops.contains c && before != '\\' then ([], c :: rest)
    else
      let (a, b) := breakAt stops c rest
      (c :: a, b)

/-- An integer; the nearest of 64 bits stands for one that has more. -/
def nearestInt? (b : Bytes) : Option Int :=
  let (negative, digits) := Text.splitSign b
  (Bytes.toNat? digits).map fun n =>
    if negative then max Text.minInt64 (-n) else min Text.maxInt64 n

/-- The two ends of a numeric range such as `1..3`. -/
def numericRange? (cs : List Char) : Option (Int × Int) := do
  let (low, high) ← Bytes.cut? ".." (Text.Utf8.encode cs)
  return (← nearestInt? low, ← nearestInt? high)

/-- Characters with a meaning in expressions. -/
def isMeta (c : Char) : Bool := "\\.+*?()|[]\x7b\x7d^$".toList.contains c

def literal (c : Char) : List Char := if isMeta c then ['\\', c] else [c]

/-- What the reader of a selector remembers. -/
structure Reading where
  braceLevel : Nat := 0
  escaped : Bool := false
  inClass : Bool := false
  /-- The character before the current one. -/
  before : Char := ' '

/-- The expression for a selector: `*` stays in a segment, `**` does not, a class without a slash
is a class, braces with a comma are alternatives, with a range numbers, and otherwise braces. The
fuel bounds the length. -/
def toRegex : (fuel : Nat) → (balanced : Bool) → Reading → List Char → List Char
  | 0, _, _, _ => []
  | _ + 1, _, _, [] => []
  | fuel + 1, balanced, st, c :: rest =>
    let go (st : Reading) (rest : List Char) := toRegex fuel balanced { st with before := c } rest
    if c = '*' then
      match rest with
      | '*' :: rest => ".*".toList ++ toRegex fuel balanced { st with before := '*' } rest
      | _ => "[^/]*".toList ++ go st rest
    else if c = '/' then
      match rest with
      | '*' :: '*' :: '/' :: rest =>
        "(?:/|/.*/)".toList ++ toRegex fuel balanced { st with before := '/' } rest
      | _ => '/' :: go st rest
    else if c = '?' then "[^/]".toList ++ go st rest
    else if c = '[' then
      if st.inClass then '\\' :: '[' :: go st rest
      else
        let (inside, after) := breakAt [']', '/'] '[' rest
        match after with
        | '/' :: after =>
          '\\' :: '[' :: inside ++ '/' :: toRegex fuel balanced { st with before := '/' } after
        | _ =>
          let st := { st with inClass := true }
          match rest with
          | '!' :: rest => '[' :: '^' :: toRegex fuel balanced { st with before := '!' } rest
          | '^' :: rest => '[' :: '^' :: toRegex fuel balanced { st with before := '^' } rest
          | _ => '[' :: go st rest
    else if c = ']' then
      if st.inClass && st.before = '\\' then '\\' :: ']' :: go st rest
      else ']' :: go { st with inClass := false } rest
    else if c = '\x7b' then
      let (inside, after) := breakAt ['\x7d', ','] '\x7b' rest
      match after with
      | '\x7d' :: after =>
        let st := { st with before := '\x7d' }
        match numericRange? inside with
        | some (low, high) =>
          let numbers := (List.range (high - low).toNat).map fun (i : Nat) => low + i
          let texts := (numbers ++ [high]).map fun n => (toString n).toList
          "(?:".toList ++ (List.intercalate ['|'] texts) ++ ')' :: toRegex fuel balanced st after
        | none =>
          "\\\x7b".toList ++ toRegex fuel (bracesBalance inside) {} inside ++ "\\\x7d".toList
            ++ toRegex fuel balanced st after
      | _ =>
        if balanced then "(?:".toList ++ go { st with braceLevel := st.braceLevel + 1 } rest
        else '\\' :: '\x7b' :: go st rest
    else if c = '\x7d' then
      if st.braceLevel = 0 then '\\' :: '\x7d' :: go st rest
      else if st.escaped then '\x7d' :: go { st with escaped := false } rest
      else ')' :: go { st with braceLevel := st.braceLevel - 1 } rest
    else if c = ',' then
      (if st.braceLevel = 0 || st.escaped then ',' else '|') :: go st rest
    else if c = '\\' && !st.escaped then go { st with escaped := true } rest
    else literal c ++ go { st with escaped := false } rest

/-- A selector with a slash is anchored where its file lies; one without may match anywhere. -/
def anchored (selector : List Char) : List Char :=
  if selector.head? = some '/' then selector
  else if selector.contains '/' then '/' :: selector
  else "/**/".toList ++ selector

/-- Whether a selector matches a name that starts with a slash; nothing can be said with a selector
that is not well formed. -/
def isMatch? (selector name : List Char) : Option Bool :=
  let cs := anchored selector
  let expression := toRegex (cs.length + 1) (bracesBalance cs) {} cs
  (Text.Regex.read expression).map (·.isMatch name)

end Stencil.EditorConfig.Selector
