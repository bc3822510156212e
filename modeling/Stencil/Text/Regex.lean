/-! Regular expressions, matched by their partial derivatives. -/
namespace Stencil.Text

/-- An expression over characters. -/
inductive Regex where
  /-- Matches nothing. -/
  | never
  /-- Matches the empty text. -/
  | empty
  | chars (negated : Bool) (ranges : List (Char × Char))
  | seq (a b : Regex)
  | alt (a b : Regex)
  | star (a : Regex)
  deriving DecidableEq, Repr

namespace Regex

def char (c : Char) : Regex := .chars false [(c, c)]

/-- Any character but a line feed. -/
def any : Regex := .chars true [('\n', '\n')]

/-- Any text. -/
def anything : Regex := .star (.chars true [])

def nullable : Regex → Bool
  | .never | .chars .. => false
  | .empty | .star _ => true
  | .seq a b => a.nullable && b.nullable
  | .alt a b => a.nullable || b.nullable

/-- A sequence without its empty beginning. -/
def mkSeq : Regex → Regex → Regex
  | .empty, b => b
  | a, b => .seq a b

/-- The ways to go on after `c`: what has to match then, one expression for each. -/
def steps (c : Char) : Regex → List Regex
  | .never | .empty => []
  | .chars negated ranges =>
    if (ranges.any fun (low, high) => low ≤ c && c ≤ high) != negated then [.empty] else []
  | .seq a b => (steps c a).map (mkSeq · b) ++ (if a.nullable then steps c b else [])
  | .alt a b => steps c a ++ steps c b
  | .star a => (steps c a).map (mkSeq · (.star a))

/-- Whether one of some expressions matches a whole text. An expression has no more ways to go on
than it has places, so each of them is kept once. -/
def anyMatch (rs : List Regex) : List Char → Bool
  | [] => rs.any nullable
  | c :: rest => anyMatch (rs.flatMap (steps c)).eraseDups rest

/-- Whether an expression matches a whole text. -/
def isMatch (r : Regex) (text : List Char) : Bool := anyMatch [r] text

end Regex

/-! ## Reading expressions -/

namespace Regex

/-- Members of a class by name. -/
def namedClass? (name : String) : Option (List (Char × Char)) :=
  match name with
  | "alnum" => some [('0', '9'), ('A', 'Z'), ('a', 'z')]
  | "alpha" => some [('A', 'Z'), ('a', 'z')]
  | "ascii" => some [(Char.ofNat 0, Char.ofNat 0x7F)]
  | "blank" => some [('\t', '\t'), (' ', ' ')]
  | "cntrl" => some [(Char.ofNat 0, Char.ofNat 0x1F), (Char.ofNat 0x7F, Char.ofNat 0x7F)]
  | "digit" => some [('0', '9')]
  | "graph" => some [('!', '~')]
  | "lower" => some [('a', 'z')]
  | "print" => some [(' ', '~')]
  | "upper" => some [('A', 'Z')]
  | "space" => some [('\t', '\r'), (' ', ' ')]
  | "word" => some [('0', '9'), ('A', 'Z'), ('a', 'z'), ('_', '_')]
  | "xdigit" => some [('0', '9'), ('A', 'F'), ('a', 'f')]
  | "punct" => some [('!', '/'), (':', '@'), ('[', '\x60'), ('\x7b', '~')]
  | _ => none

/-- The name of a class at the front, up to `:]`, and what follows. -/
def className? : List Char → Option (List Char × List Char)
  | [] => none
  | ':' :: ']' :: rest => some ([], rest)
  | c :: rest => (className? rest).map fun (name, rest) => (c :: name, rest)

/-- One member of a class, which `\` may escape. -/
def readMember : List Char → Option (Char × List Char)
  | '\\' :: c :: rest => if c.isAlphanum then none else some (c, rest)
  | c :: rest => if c = '\\' then none else some (c, rest)
  | [] => none

/-- Reads on after the member `low` of a class, which may start a range. `others` reads the members
that follow. -/
def readRange (others : List Char → Option (List (Char × Char) × List Char)) (low : Char)
    (rest : List Char) : Option (List (Char × Char) × List Char) := do
  let (high, rest) ← match rest with
    | '-' :: c :: more => if c = ']' then some (low, rest) else readMember (c :: more)
    | _ => some (low, rest)
  if high < low then none
  else
    let (ms, rest) ← others rest
    return ((low, high) :: ms, rest)

/-- Reads the members of a class up to its bracket. The first may be the bracket itself. The fuel
bounds the length. -/
def readMembers : (fuel : Nat) → (first : Bool) → List Char →
    Option (List (Char × Char) × List Char)
  | 0, _, _ => none
  | fuel + 1, first, cs =>
    let others := readMembers fuel false
    match cs with
    | [] => none
    | ']' :: rest => if first then readRange others ']' rest else some ([], rest)
    | '[' :: ':' :: rest =>
      match className? rest with
      | some (name, rest) => do
        let k ← namedClass? (String.ofList name)
        let (ms, rest) ← others rest
        return (k ++ ms, rest)
      | none => readRange others '[' (':' :: rest)
    | _ => do
      let (low, rest) ← readMember cs
      readRange others low rest

/-- Applies the star after an atom. -/
def readStar (r : Regex) : List Char → Regex × List Char
  | '*' :: rest => (.star r, rest)
  | rest => (r, rest)

/-- Adds to a sequence at its end. -/
def append (a b : Regex) : Regex :=
  match a with
  | .empty => b
  | a => .seq a b

def alternatives (branches : List Regex) : Regex := branches.foldr .alt .never

/-- Reads sequences of atoms between bars, up to the end or a closing parenthesis. `acc` is the
sequence under way. The fuel bounds the length. -/
def readBranches : (fuel : Nat) → (acc : Regex) → List Char → Option (List Regex × List Char)
  | 0, _, _ => none
  | fuel + 1, acc, cs =>
    let continueWith (atom : Regex) (rest : List Char) : Option (List Regex × List Char) :=
      let (atom, rest) := readStar atom rest
      readBranches fuel (append acc atom) rest
    match cs with
    | [] => some ([acc], [])
    | ')' :: rest => some ([acc], ')' :: rest)
    | '|' :: rest => do
      let (others, rest) ← readBranches fuel .empty rest
      return (acc :: others, rest)
    | '(' :: '?' :: ':' :: rest => do
      let (inner, rest) ← readBranches fuel .empty rest
      match rest with
      | ')' :: rest => continueWith (alternatives inner) rest
      | _ => none
    | '[' :: '^' :: rest => do
      let (ms, rest) ← readMembers fuel true rest
      continueWith (.chars true ms) rest
    | '[' :: rest => do
      let (ms, rest) ← readMembers fuel true rest
      continueWith (.chars false ms) rest
    | '.' :: rest => continueWith .any rest
    | '\\' :: c :: rest => if c.isAlphanum then none else continueWith (.char c) rest
    | c :: rest =>
      if c = '*' || c = '+' || c = '?' || c = '(' || c = '\\' then none
      else continueWith (.char c) rest

/-- Opens the end of every branch but the last. -/
def openEnds : List Regex → List Regex
  | [] => []
  | [last] => [last]
  | r :: more => .seq r anything :: openEnds more

/-- Opens the start of every branch but the first. -/
def openStarts : List Regex → List Regex
  | [] => []
  | first :: more => first :: more.map (.seq anything ·)

/-- Reads an expression that stands between the mark for the start of a text and the one for its
end. The marks bind closer than bars, so the first branch holds the start and the last the end. -/
def read (cs : List Char) : Option Regex :=
  match readBranches (2 * cs.length + 2) .empty cs with
  | some (branches, []) => some (alternatives (openStarts (openEnds branches)))
  | _ => none

example : (read "a|b".toList).map (·.isMatch "ax".toList) = some true := by decide +kernel
example : (read "(?:a|b)".toList).map (·.isMatch "ax".toList) = some false := by decide +kernel

end Regex
end Stencil.Text
