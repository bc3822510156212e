import Stencil.Text.Utf8

/-! Glob patterns over slash-separated names: `*`, `?`, classes, alternatives in braces, and `**`
for any number of whole segments. -/
namespace Stencil.Glob

/-- What follows the end of a class. A character after `\` is a member. -/
def afterClass? : List Char → Option (List Char)
  | [] => none
  | ']' :: rest => some rest
  | '\\' :: _ :: rest => afterClass? rest
  | _ :: rest => afterClass? rest

/-- Takes the mark of a negated class off. -/
def splitNegation : List Char → Bool × List Char
  | '^' :: rest => (true, rest)
  | '!' :: rest => (true, rest)
  | cs => (false, cs)

/-- What follows a class that has at least one member, given from after its bracket. -/
def skipClass? (cs : List Char) : Option (List Char) :=
  match (splitNegation cs).2 with
  | ']' :: _ => none
  | members => afterClass? members

/-- A member of a class, which `\` may escape. -/
def member : List Char → Char × List Char
  | '\\' :: c :: rest => (c, rest)
  | c :: rest => if c = '\\' then (Text.Utf8.replacement, rest) else (c, rest)
  | [] => (Text.Utf8.replacement, [])

/-- Looks for `c` among the members of a class: whether it is there, and the pattern from after the
member that decided or from the end of the class. `low` is the member before, from which a range may
start; the last code point starts none. The fuel bounds the length. -/
def findMember (c : Char) : (fuel : Nat) → (low : Option Char) → List Char → Bool × List Char
  | 0, _, cs => (false, cs)
  | fuel + 1, low, cs =>
    let single (cs : List Char) : Bool × List Char :=
      let (m, rest) := member cs
      if m = c then (true, rest)
      else findMember c fuel (if m.toNat = 0x10FFFF then none else some m) rest
    match low, cs with
    | _, [] => (false, [])
    | _, ']' :: _ => (false, cs)
    | some low, '-' :: d :: rest =>
      if d = ']' then single cs
      else
        let (high, rest) := member (d :: rest)
        if low ≤ c && c ≤ high then (true, rest) else findMember c fuel none rest
    | _, _ => single cs

/-- Whether classes and braces are closed and no `\` stands last. The fuel bounds the length. -/
def validFrom : (fuel depth : Nat) → List Char → Bool
  | 0, _, _ => false
  | _ + 1, depth, [] => depth == 0
  | fuel + 1, depth, c :: rest =>
    if c = '\\' then
      match rest with
      | [] => false
      | _ :: rest => validFrom fuel depth rest
    else if c = '[' then
      match skipClass? rest with
      | none => false
      | some rest => validFrom fuel depth rest
    else if c = '\x7b' then validFrom fuel (depth + 1) rest
    else if c = '\x7d' then depth != 0 && validFrom fuel (depth - 1) rest
    else validFrom fuel depth rest

def wellFormed (cs : List Char) : Bool := validFrom (cs.length + 1) 0 cs

/-- Whether a text is a pattern. -/
def isValid (pattern : Bytes) : Bool := wellFormed (Text.Utf8.chars pattern)

/-- Splits what follows an opening brace at the brace that closes it. -/
def closeBrace : (depth : Nat) → List Char → Option (List Char × List Char)
  | _, [] => none
  | depth, '\\' :: c :: rest => (closeBrace depth rest).map fun (a, b) => ('\\' :: c :: a, b)
  | depth, c :: rest =>
    if c = '\x7d' ∧ depth = 0 then some ([], rest)
    else
      let depth := if c = '\x7b' then depth + 1 else if c = '\x7d' then depth - 1 else depth
      (closeBrace depth rest).map fun (a, b) => (c :: a, b)

def consFirst (cs : List Char) : List (List Char) → List (List Char)
  | [] => [cs]
  | a :: more => (cs ++ a) :: more

/-- Splits the inside of braces at the commas that are in no inner braces. -/
def alternatives : (depth : Nat) → List Char → List (List Char)
  | _, [] => [[]]
  | depth, '\\' :: c :: rest => consFirst ['\\', c] (alternatives depth rest)
  | depth, c :: rest =>
    if c = ',' ∧ depth = 0 then [] :: alternatives depth rest
    else
      let depth := if c = '\x7b' then depth + 1 else if c = '\x7d' then depth - 1 else depth
      consFirst [c] (alternatives depth rest)

/-- The first alternative that matches or is malformed decides. -/
def decideFirst (attempt : List Char → Option Bool) (alternatives : List (List Char)) :
    Option Bool :=
  let decisive := alternatives.findSome? fun a =>
    match attempt a with
    | some false => none
    | outcome => some outcome
  decisive.getD (some false)

/-- The answer where a match fails; nothing can be said if the rest of the pattern is malformed. -/
def failAt (pattern : List Char) : Option Bool := if wellFormed pattern then some false else none

/-- Whether a pattern matches an empty rest. A trailing `**` stands for the directory itself. -/
def matchesEmpty : (fuel : Nat) → List Char → Option Bool
  | 0, _ => some false
  | fuel + 1, pattern =>
    if ["", "*", "**", "/**", "**/", "/**/"].contains (String.ofList pattern) then some true
    else match pattern with
      | '\x7b' :: rest =>
        match closeBrace 0 rest with
        | none => none
        | some (inside, after) =>
          decideFirst (fun a => matchesEmpty fuel (a ++ after)) (alternatives 0 inside)
      | _ => failAt pattern

/-- Where to go on when a match fails: the pattern after a star, and the name from where the star
may take one more step. -/
structure Retry where
  pattern : List Char
  name : List Char

/-- Puts an alternative in the place of the braces that start at `braces`, in a pattern that ends
with them. -/
def Retry.splice (braces replacement : List Char) (r : Retry) : Retry :=
  { r with pattern := r.pattern.take (r.pattern.length - braces.length) ++ replacement }

/-- The rest of a name after its next slash. -/
def afterSlash? : List Char → Option (List Char)
  | [] => none
  | c :: rest => if c = '/' then some rest else afterSlash? rest

/-- Matches a name. `atStart` holds at the start of a segment of the pattern, where `**` takes any
number of segments; elsewhere it is a star. The innermost star is retried first. Braces can cut a
class in two, and nothing is known once a malformed pattern has been met. -/
def matchFrom : (fuel : Nat) → (pattern name : List Char) → (atStart : Bool) →
    (star segments : Option Retry) → Option Bool
  | 0, _, _, _, _, _ => some false
  | fuel + 1, pattern, name, atStart, star, segments =>
    match name with
    | [] => matchesEmpty (fuel + 1) pattern
    | c :: nameRest =>
      let retrySegments (failed : List Char) : Option Bool :=
        match segments with
        | none => failAt failed
        | some r =>
          match afterSlash? r.name with
          | none => failAt failed
          | some rest => matchFrom fuel r.pattern rest true star (some { r with name := rest })
      let retry (failed : List Char) : Option Bool :=
        match star with
        | none => retrySegments failed
        | some r =>
          match r.name with
          | [] => matchFrom fuel r.pattern [] false star segments
          | d :: rest =>
            if d = '/' then retrySegments failed
            else matchFrom fuel r.pattern rest false (some { r with name := rest }) segments
      match pattern with
      | [] => retry []
      | p :: patternRest =>
        if p = '*' then
          match patternRest with
          | '*' :: after =>
            match atStart, after with
            | true, [] => some true
            | true, '/' :: after => matchFrom fuel after name true none (some ⟨after, name⟩)
            | _, _ => matchFrom fuel after name false (some ⟨after, name⟩) segments
          | after => matchFrom fuel after name false (some ⟨after, name⟩) segments
        else if p = '?' then
          if c = '/' then retry pattern else matchFrom fuel patternRest nameRest false star segments
        else if p = '[' then
          let (negated, members) := splitNegation patternRest
          if members.isEmpty || members.head? = some ']' then none
          else
            let (found, rest) := findMember c members.length none members
            if found = negated then if rest.isEmpty then none else retry rest
            else match afterClass? rest with
              | none => none
              | some after => matchFrom fuel after nameRest false star segments
        else if p = '\x7b' then
          match closeBrace 0 patternRest with
          | none => none
          | some (inside, after) =>
            decideFirst (fun a =>
              let replacement := a ++ after
              matchFrom fuel replacement name true (star.map (·.splice pattern replacement))
                (segments.map (·.splice pattern replacement))) (alternatives 0 inside)
        else if p = '\\' && patternRest.isEmpty then none
        else
          let (p, patternRest) := match p, patternRest with
            | '\\', q :: after => (q, after)
            | _, _ => (p, patternRest)
          if p = c then matchFrom fuel patternRest nameRest (p = '/') star segments
          else retry pattern

/-- Whether a pattern matches a whole name. The fuel exceeds the number of steps: each advances the
pattern or takes a star or a `**` one step further in the name. -/
def isMatch (pattern name : Bytes) : Bool :=
  let p := Text.Utf8.chars pattern
  let n := Text.Utf8.chars name
  (matchFrom ((p.length + 2) * (n.length + 2) * (n.length + 2)) p n true none none).getD false

example : isMatch "a/**/c" "a/b/c" = true := by decide +kernel
example : isMatch "\x7bx,[a-c]\x7d*" "b/c" = false := by decide +kernel
example : isMatch "\x7b[a,b]\x7d" "b]" = false := by decide +kernel

end Stencil.Glob
