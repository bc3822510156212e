import Stencil.Text.Grapheme.Table
import Stencil.Text.Utf8

/-! Grapheme clusters: the units in which the width of a text is measured. -/
namespace Stencil.Text.Grapheme

/-- What a character is to the cluster rules. -/
inductive Break where
  | cr | lf | control | replacement
  | hangulL | hangulV | hangulT | hangulLV | hangulLVT
  | pictographic | zwj | flag | extender | spacingMark | prepended | other
  /-- A byte that belongs to no character. -/
  | stray
  deriving DecidableEq, Repr

/-- The classes that are given as runs of characters. -/
def tables : List (Break × Ranges) :=
  [(.hangulL, hangulLRanges), (.hangulV, hangulVRanges), (.hangulT, hangulTRanges),
   (.flag, #[(0x1F1E6, 0x1F1FF)]), (.control, controlRanges), (.extender, extendRanges),
   (.spacingMark, spacingMarkRanges), (.prepended, prependRanges),
   (.pictographic, pictographicRanges)]

/-- Syllables of two letters and of three: each of the former opens a run of 27 of the latter. -/
def syllable? (n : Nat) : Option Break :=
  if 0xAC00 ≤ n && n ≤ 0xD7A3 then
    some (if (n - 0xAC00) % 28 == 0 then .hangulLV else .hangulLVT)
  else none

def classify (n : Nat) : Break :=
  if n == 0x0D then .cr
  else if n == 0x0A then .lf
  else if n == 0x200D then .zwj
  else if n == 0xFFFD then .replacement
  else if 0x20 ≤ n && n < 0x7F then .other
  else
    match syllable? n with
    | some k => k
    | none => ((tables.find? (·.2.contains n)).map (·.1)).getD .other

/-- The class of what stands between the characters `n - 1` and `n`: a run of characters of one
class has its class in between as well. -/
def classifyBefore (n : Nat) : Break :=
  match syllable? (n - 1), syllable? n with
  | some .hangulLVT, some .hangulLVT => .hangulLVT
  | _, _ => ((tables.find? (·.2.joins n)).map (·.1)).getD .stray

/-- Where a byte string stands among the encoded characters of its length. -/
inductive Place where
  | char (n : Nat)
  /-- Before the character `n` and after all smaller ones. -/
  | before (n : Nat)
  deriving DecidableEq, Repr

/-- Reads the bytes after the lead byte, whose bits are `bits`; one that is not a continuation sorts
before or after all characters that start the same way. -/
def place (bits : Nat) : Bytes → Place
  | [] => .char bits
  | b :: rest =>
    if b < 0x80 then .before (rest.foldl (fun n _ => n * 64) (bits * 64))
    else if 0xBF < b then .before (rest.foldl (fun n _ => n * 64) ((bits + 1) * 64))
    else place (bits * 64 + b.toNat % 64) rest

/-- What a lead byte announces: how many bytes follow it, its own bits, and the least character of
that length. -/
def lead? (a : UInt8) : Option (Nat × Nat × Nat) :=
  if a < 0x80 then some (0, a.toNat, 0)
  else if a < 0xC0 then none
  else if a < 0xE0 then some (1, a.toNat % 32, 0x80)
  else if a < 0xF0 then some (2, a.toNat % 16, 0x800)
  else if a < 0xF8 then some (3, a.toNat % 8, 0x10000)
  else none

/-- A unit of a text: its class and the number of its bytes. -/
structure Mark where
  kind : Break
  size : Nat
  deriving DecidableEq, Repr

/-- The unit that starts with the byte `a`. An overlong form or a number above all characters is one
unit without a class. -/
def markAt (a : UInt8) (rest : Bytes) : Mark :=
  match lead? a with
  | none => ⟨.stray, 1⟩
  | some (more, bits, least) =>
    let tail := rest.take more
    if tail.length < more then ⟨.stray, 1⟩
    else
      match place bits tail with
      | .char n => ⟨if n < least then .other else classify n, more + 1⟩
      | .before n =>
        match if n ≤ least then .stray else classifyBefore n with
        | .stray => ⟨.stray, 1⟩
        | k => ⟨k, more + 1⟩

/-- The units of a text; each takes at least one byte, so the number of bytes is fuel enough. -/
def marksAux : (fuel : Nat) → Bytes → List Mark
  | 0, _ => []
  | _, [] => []
  | fuel + 1, a :: rest =>
    let m := markAt a rest
    m :: marksAux fuel (rest.drop (m.size - 1))

def marks (b : Bytes) : List Mark := marksAux b.length b

/-- Drops the extenders that may follow a syllable, a pictograph or a flag; a joiner takes the
pictograph after it along. -/
def dropExtension : List Mark → List Mark
  | ⟨.extender, _⟩ :: rest => dropExtension rest
  | ⟨.spacingMark, _⟩ :: rest => dropExtension rest
  | ⟨.zwj, _⟩ :: ⟨.pictographic, _⟩ :: rest => dropExtension rest
  | ⟨.zwj, _⟩ :: rest => dropExtension rest
  | rest => rest

/-- Drops the extenders that may follow any other character. -/
def dropExtenders : List Mark → List Mark :=
  List.dropWhile fun m => m.kind == .extender || m.kind == .spacingMark || m.kind == .zwj

def dropAll (k : Break) : List Mark → List Mark := List.dropWhile (·.kind == k)

/-- What is left after the Hangul syllable that starts here. -/
def dropHangul : List Mark → List Mark
  | ⟨.hangulL, _⟩ :: rest =>
    match dropAll .hangulL rest with
    | ⟨.hangulLV, _⟩ :: ⟨.hangulV, _⟩ :: rest => dropAll .hangulT (dropAll .hangulV rest)
    | ⟨.hangulLV, _⟩ :: rest => rest
    | ⟨.hangulV, _⟩ :: rest => dropAll .hangulT (dropAll .hangulV rest)
    | ⟨.hangulLVT, _⟩ :: rest => dropAll .hangulT rest
    | rest => rest
  | ⟨.hangulLV, _⟩ :: rest => dropAll .hangulT (dropAll .hangulV rest)
  | ⟨.hangulV, _⟩ :: rest => dropAll .hangulT (dropAll .hangulV rest)
  | ⟨.hangulLVT, _⟩ :: rest => dropAll .hangulT rest
  | ⟨.hangulT, _⟩ :: rest => dropAll .hangulT rest
  | rest => rest

/-- What is left after the longest cluster that starts with something other than a control or a
prepended mark; `none` if there is no such cluster here. -/
def dropCore? : List Mark → Option (List Mark)
  | [] => none
  | m :: rest =>
    match m.kind with
    | .cr | .lf | .control | .replacement | .prepended | .stray => none
    | .hangulL | .hangulV | .hangulT | .hangulLV | .hangulLVT =>
      some (dropExtension (dropHangul (m :: rest)))
    | .pictographic => some (dropExtension rest)
    | .flag => some (dropExtension (match rest with
      | ⟨.flag, _⟩ :: rest => rest
      | rest => rest))
    | .zwj | .extender | .spacingMark | .other => some (dropExtenders rest)

/-- What is left after one cluster. A line end that is no pair and a stray byte start none. -/
def dropCluster? : List Mark → Option (List Mark)
  | ⟨.cr, _⟩ :: ⟨.lf, _⟩ :: rest => some rest
  | ⟨.control, _⟩ :: rest => some rest
  | ⟨.replacement, _⟩ :: rest => some rest
  | ⟨.prepended, _⟩ :: rest =>
    let rest := dropAll .prepended rest
    some ((dropCore? rest).getD rest)
  | ms => dropCore? ms

/-- The number of clusters up to the first place where none starts, and what is left there. Each
cluster takes at least one unit, so the number of units is fuel enough. -/
def sweep : (fuel : Nat) → List Mark → Nat × List Mark
  | 0, ms => (0, ms)
  | fuel + 1, ms =>
    match dropCluster? ms with
    | none => (0, ms)
    | some rest =>
      let (n, rest) := sweep fuel rest
      (n + 1, rest)

/-- The number of clusters of a whole text, where a unit that starts none counts for one. -/
def countAll : (fuel : Nat) → List Mark → Nat
  | 0, _ => 0
  | _, [] => 0
  | fuel + 1, m :: rest => 1 + countAll fuel ((dropCluster? (m :: rest)).getD rest)

def byteSize (ms : List Mark) : Nat := ms.foldl (fun n m => n + m.size) 0

/-- The units that lie within the first `n` bytes, and the others. -/
def splitWithin (n : Nat) : List Mark → List Mark × List Mark
  | [] => ([], [])
  | m :: rest =>
    if n < m.size then ([], m :: rest)
    else
      let (inside, outside) := splitWithin (n - m.size) rest
      (m :: inside, outside)

/-- The part of a text that is at hand: bytes `start` to `stop` of a stretch of `capacity`. -/
structure Window where
  start : Nat := 0
  stop : Nat := 0
  capacity : Nat := 0
  deriving DecidableEq, Repr

namespace Window

def initialCapacity : Nat := 4096
def maxCapacity : Nat := 65536

/-- Makes room behind the bytes held: they move to the front when the end is reached or more than
half of the stretch is behind them, and a stretch that is full of them doubles, to a limit. -/
def withRoom? (w : Window) : Option Window :=
  let w := if 0 < w.start && (w.stop == w.capacity || w.capacity / 2 < w.start) then
    { w with start := 0, stop := w.stop - w.start } else w
  if w.stop < w.capacity then some w
  else if maxCapacity ≤ w.capacity then none
  else some { w with capacity := min (max initialCapacity (2 * w.capacity)) maxCapacity }

end Window

/-- Counts the clusters of a text that is taken in piece by piece: a cluster ends with the window
at the latest, and where none starts the window takes in more. Gives `none` if the window would
have to exceed its limit. Each refill takes in at least one of the `unread` bytes. -/
def countWindowed : (fuel unread : Nat) → Window → List Mark → Option Nat
  | 0, _, _, _ => none
  | fuel + 1, unread, w, ms =>
    let (inside, outside) := splitWithin (w.stop - w.start) ms
    let (n, left) := sweep inside.length inside
    let w := { w with start := w.start + (byteSize inside - byteSize left) }
    match w.withRoom? with
    | none => none
    | some w =>
      let rest := left ++ outside
      if unread == 0 then some (n + countAll rest.length rest)
      else
        let taken := min (w.capacity - w.stop) unread
        (countWindowed fuel (unread - taken) { w with stop := w.stop + taken } rest).map (n + ·)

/-- The number of grapheme clusters of a text; of characters, if a cluster would not fit the
window. -/
def count (b : Bytes) : Nat :=
  (countWindowed (b.length + 2) b.length {} (marks b)).getD (Utf8.runes b).length

/-- What follows the first `n` clusters of a text. -/
def dropClusters (n : Nat) (b : Bytes) : Bytes :=
  let ms := marks b
  let rest := go n ms
  b.drop (byteSize ms - byteSize rest)
where
  /-- Drops one cluster after another. -/
  go : Nat → List Mark → List Mark
    | 0, ms => ms
    | _, [] => []
    | n + 1, m :: rest => go n ((dropCluster? (m :: rest)).getD rest)

example : count "e\u0301a" = 2 := by decide +kernel
example : count "\r\n\n" = 2 := by decide +kernel

end Stencil.Text.Grapheme
