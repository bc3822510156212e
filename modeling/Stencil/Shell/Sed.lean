import Stencil.Shell.Effect
import Stencil.Shell.Pattern

/-! Editing a text line by line. -/
namespace Stencil.Shell

/-- Which lines an editing command is for. -/
inductive LineAddress where
  | number (n : Nat)
  | last
  | pattern (items : List RegexItem)
  deriving DecidableEq, Repr

inductive LineEdit where
  | substitute (items : List RegexItem) (replacement : Bytes) (nth : Nat) (all print : Bool)
  | transliterate (source target : Bytes)
  | delete
  | print
  | quit
  deriving DecidableEq, Repr

structure LineCommand where
  first : Option LineAddress
  second : Option LineAddress
  negated : Bool
  edit : LineEdit
  deriving DecidableEq, Repr

namespace Sed

/-- The text up to an unescaped delimiter; the escaped delimiter loses its backslash. -/
def delimited (delimiter : UInt8) : Bytes → Option (Bytes × Bytes)
  | [] => none
  | 0x5C :: c :: rest => do
    let (text, after) ← delimited delimiter rest
    return (if c == delimiter then (c :: text, after) else (0x5C :: c :: text, after))
  | c :: rest =>
    if c == delimiter then some ([], rest)
    else (delimited delimiter rest).map fun (text, after) => (c :: text, after)

/-- The text that replaces a match. -/
def replacementText (matched : Bytes) (groups : List (Nat × Bytes)) : Bytes → Bytes
  | [] => []
  | 0x26 :: rest => matched ++ replacementText matched groups rest
  | 0x5C :: c :: rest =>
    (if 0x31 ≤ c && c ≤ 0x39 then (groups.lookup (c.toNat - 48)).getD []
      else if c == 0x6E then [0x0A] else [c]) ++ replacementText matched groups rest
  | c :: rest => c :: replacementText matched groups rest

/-- Replaces the `nth` match in `text` and, if `all`, those after it. Where a match has just ended,
there is no empty one. The fuel bounds the number of matches. -/
def substitute (items : List RegexItem) (replacement whole : Bytes) (all : Bool) :
    (fuel nth : Nat) → (justMatched : Bool) → Bytes → Option Bytes
  | 0, _, _, _ => none
  | fuel + 1, nth, justMatched, text =>
    match RegexItem.find? items whole text with
    | none => none
    | some (before, m) =>
      let matched := (text.drop before.length).take (text.length - before.length - m.rest.length)
      if matched.isEmpty && before.isEmpty && justMatched then
        match text with
        | c :: rest => (substitute items replacement whole all fuel nth false rest).map (c :: ·)
        | [] => none
      else
        let step (justMatched : Bool) (rest : Bytes) : Option Bytes :=
          if 1 < nth || all then
            substitute items replacement whole all fuel (nth - 1) justMatched rest
          else none
        let tail := if matched.isEmpty then
            match m.rest with
            | c :: rest => (step false rest).map (c :: ·)
            | [] => none
          else step true m.rest
        if 1 < nth then tail.map (before ++ matched ++ ·)
        else some (before ++ replacementText matched m.groups replacement ++ tail.getD m.rest)

def readAddress (regex : Bytes → Option (List RegexItem)) (b : Bytes) : Option (Option LineAddress × Bytes) :=
  match b with
  | 0x24 :: rest => some (some .last, rest)
  | 0x2F :: rest => do
    let (pattern, rest) ← delimited 0x2F rest
    return (some (.pattern (← regex pattern)), rest)
  | _ =>
    let digits := b.takeWhile Bytes.isDigit
    if digits.isEmpty then some (none, b)
    else some (some (.number ((Bytes.toNat? digits).getD 0)), b.drop digits.length)

def readEdit (regex : Bytes → Option (List RegexItem)) (b : Bytes) : Option (LineEdit × Bytes) :=
  match b with
  | 0x73 :: delimiter :: rest => do
    let (pattern, rest) ← delimited delimiter rest
    let (replacement, rest) ← delimited delimiter rest
    let flags := rest.takeWhile fun c => Bytes.isLetter c || Bytes.isDigit c
    let nth := (Bytes.toNat? (flags.filter Bytes.isDigit)).getD 1
    return (.substitute (← regex pattern) replacement nth (List.elem 0x67 flags)
      (List.elem 0x70 flags), rest.drop flags.length)
  | 0x79 :: delimiter :: rest => do
    let (source, rest) ← delimited delimiter rest
    let (target, rest) ← delimited delimiter rest
    return (.transliterate source target, rest)
  | 0x64 :: rest => some (.delete, rest)
  | 0x70 :: rest => some (.print, rest)
  | 0x71 :: rest => some (.quit, rest)
  | _ => none

/-- Reads the commands of a script. The fuel bounds their number. -/
def readCommands (regex : Bytes → Option (List RegexItem)) :
    (fuel : Nat) → Bytes → Option (List LineCommand)
  | 0, _ => none
  | fuel + 1, b => do
    match b.dropWhile fun c => Bytes.isSpace c || c == 0x3B with
    | [] => return []
    | b =>
      let (first, b) ← readAddress regex b
      let (second, b) ← match b with
        | 0x2C :: rest => readAddress regex rest
        | _ => some (none, b)
      let b := b.dropWhile Bytes.isSpace
      let (negated, b) := match b with
        | 0x21 :: rest => (true, rest)
        | _ => (false, b)
      let (edit, b) ← readEdit regex b
      return ⟨first, second, negated, edit⟩ :: (← readCommands regex fuel b)

def addressHolds (number total : Nat) (line : Bytes) : LineAddress → Bool
  | .number n => n == number
  | .last => number == total
  | .pattern items => (RegexItem.find? items line line).isSome

/-- Whether a command is for a line. A range of two numbers covers the lines between them. -/
def applies (c : LineCommand) (number total : Nat) (line : Bytes) : Bool :=
  let holds := match c.first, c.second with
    | none, _ => true
    | some a, none => addressHolds number total line a
    | some (.number lo), some (.number hi) => lo == number || (lo ≤ number && number ≤ hi)
    | some (.number lo), some .last => lo ≤ number
    | some a, some b => addressHolds number total line a || addressHolds number total line b
  holds != c.negated

/-- What becomes of a line: its text, what is printed early, and whether it is printed and whether
reading goes on. -/
structure LineState where
  text : Bytes
  printed : List Bytes := []
  kept : Bool := true
  stopped : Bool := false

def edit (number total : Nat) (s : LineState) (c : LineCommand) : LineState :=
  if !s.kept || s.stopped || !applies c number total s.text then s
  else match c.edit with
    | .substitute items replacement nth all print =>
      match substitute items replacement s.text all (2 * s.text.length + 2) nth false s.text with
      | some t => { s with text := t, printed := if print then s.printed ++ [t] else s.printed }
      | none => s
    | .transliterate source target =>
      { s with text := s.text.map fun c =>
          match source.zipIdx.find? fun (d, _) => d == c with
          | some (_, i) => (target[i]?).getD c
          | none => c }
    | .delete => { s with kept := false }
    | .print => { s with printed := s.printed ++ [s.text] }
    | .quit => { s with stopped := true }

/-- The lines that come out. -/
def editLines (quiet : Bool) (commands : List LineCommand) (total : Nat) :
    (number : Nat) → List Bytes → List Bytes
  | _, [] => []
  | number, line :: rest =>
    let s := commands.foldl (edit number total) { text := line }
    let out := s.printed ++ (if s.kept && !quiet then [s.text] else [])
    if s.stopped then out else out ++ editLines quiet commands total (number + 1) rest

/-- The scripts among the arguments, and the other arguments. -/
def scripts : List Bytes → List Bytes × List Bytes
  | [] => ([], [])
  | a :: rest =>
    if a == "-e" then
      match rest with
      | script :: rest =>
        let (ss, others) := scripts rest
        (script :: ss, others)
      | [] => ([], [])
    else
      let (ss, others) := scripts rest
      (ss, a :: others)

end Sed

/-- Edits its input line by line. -/
def sed (args : List Bytes) (input : Bytes) : Effect :=
  let (given, others) := Sed.scripts args
  let (options, others) := others.partition fun a => a.head? == some 0x2D && 1 < a.length
  let script := Bytes.joinWith "\n" (if given.isEmpty then others.take 1 else given)
  let isExtended := options.contains "-E" || options.contains "-r"
  let regex (b : Bytes) : Option (List RegexItem) :=
    readRegex (if isExtended then swapEscapes false b else b)
  match Sed.readCommands regex (script.length + 1) script with
  | none => .fail 1 ("sed: -e expression #1, char 0: unknown command\n")
  | some commands =>
    let (lines, isOpen) := splitLines input
    .filter (joinLines (Sed.editLines (options.contains "-n") commands lines.length 1 lines) isOpen)

end Stencil.Shell
