import Stencil.Text.Normal.Table
import Stencil.Text.Utf8

/-! The composed normal form of a text: each character is taken apart, marks are put in order, and
what can be one character becomes one. -/
namespace Stencil.Text.Normal

/-- Finds the entry of a sorted table that `place` says is neither before nor after what is sought;
`fuel` bounds the number of halvings. -/
def search {α : Type} (table : Array α) (place : α → Ordering) : (fuel lo hi : Nat) → Option α
  | 0, _, _ => none
  | fuel + 1, lo, hi =>
    if lo < hi then
      let mid := (lo + hi) / 2
      match table[mid]? with
      | none => none
      | some entry =>
        match place entry with
        | .lt => search table place fuel (mid + 1) hi
        | .gt => search table place fuel lo mid
        | .eq => some entry
    else none

def find? {α : Type} (table : Array α) (place : α → Ordering) : Option α :=
  search table place (table.size.log2 + 2) 0 table.size

/-- Zero for characters that stand by themselves. -/
def combiningClass (n : Nat) : Nat :=
  let entry := find? classTable fun (first, last, _) =>
    if last < n then .lt else if n < first then .gt else .eq
  (entry.map (·.2.2)).getD 0

/-- What a character is taken apart into, in one step. -/
def parts? (n : Nat) : Option (List Nat) :=
  if n < 0xC0 then none
  else if 0xAC00 ≤ n && n ≤ 0xD7A3 then
    let i := n - 0xAC00
    if i % 28 == 0 then some [0x1100 + i / 588, 0x1161 + i % 588 / 28]
    else some [n - i % 28, 0x11A7 + i % 28]
  else if 0xF900 ≤ n && n < 0xF900 + ideographTable.size then
    (ideographTable[n - 0xF900]?.filter (· != 0)).map ([·])
  else if 0x2F800 ≤ n then moreIdeographTable[n - 0x2F800]?.map ([·])
  else
    match find? joinedTable fun (c, _, _) => compare c n with
    | some (_, a, b) => some [a, b]
    | none =>
      match find? splitTable fun (c, _, _) => compare c n with
      | some (_, a, b) => some [a, b]
      | none => (find? singleTable fun (c, _) => compare c n).map fun (_, a) => [a]

/-- Takes a character apart until nothing can be; no character needs more than four rounds. -/
def decompose : (rounds : Nat) → Nat → List Nat
  | 0, n => [n]
  | rounds + 1, n =>
    match parts? n with
    | some ns => ns.flatMap (decompose rounds)
    | none => [n]

/-- The character that a character and a mark after it make up. -/
def join? (a b : Nat) : Option Nat :=
  if b < 0x300 then none
  else if 0x1100 ≤ a && a < 0x1113 then
    if 0x1161 ≤ b && b < 0x1176 then some (0xAC00 + ((a - 0x1100) * 21 + (b - 0x1161)) * 28) else none
  else if 0xAC00 ≤ a && a ≤ 0xD7A3 then
    if (a - 0xAC00) % 28 == 0 && 0x11A8 ≤ b && b < 0x11C3 then some (a + (b - 0x11A7)) else none
  else (joinedTable.find? fun (_, c, d) => c == a && d == b).map (·.1)

/-- Whether a character can become one with a character before it. -/
def joinsBackward (n : Nat) : Bool :=
  0x300 ≤ n && ((0x1161 ≤ n && n < 0x1176) || (0x11A8 ≤ n && n < 0x11C3)
    || joinedTable.any fun (_, _, b) => b == n)

/-- Puts each run of marks in the order of their classes. -/
def order : List (Nat × Nat) → List (Nat × Nat)
  | [] => []
  | (n, 0) :: rest => (n, 0) :: order rest
  | m :: rest =>
    let ordered := order rest
    let marks := ordered.takeWhile (·.2 != 0)
    insertMark m marks ++ ordered.drop marks.length
where
  /-- Puts a mark before the marks whose class is not smaller. -/
  insertMark (m : Nat × Nat) : List (Nat × Nat) → List (Nat × Nat)
    | [] => [m]
    | x :: rest => if x.2 < m.2 then x :: insertMark m rest else m :: x :: rest

/-- Joins to the starter what no mark of the same class, and no starter, keeps from it. `between` is
the class of the last mark that was left standing, if one was. -/
def compose (starter : Nat) (left : List Nat) (between : Option Nat) : List (Nat × Nat) → List Nat
  | [] => starter :: left.reverse
  | (n, k) :: rest =>
    let blocked := between.any fun b => b == 0 || k ≤ b
    match if blocked then none else join? starter n with
    | some joined => compose joined left between rest
    | none =>
      if k == 0 then starter :: (left.reverse ++ compose n [] none rest)
      else compose starter (n :: left) (some k) rest

def composeAll : List (Nat × Nat) → List Nat
  | [] => []
  | (n, 0) :: rest => compose n [] none rest
  | (n, _) :: rest => n :: composeAll rest

/-- A stretch of text that is put into normal form by itself: its characters, taken apart, and how
many of them at its end are marks. -/
structure Segment where
  chars : List Nat := []
  marks : Nat := 0

def Segment.finish (s : Segment) : Bytes :=
  let ns := composeAll (order (s.chars.map fun n => (n, combiningClass n)))
  Utf8.encode (ns.map Char.ofNat)

/-- A segment holds no more marks than these. -/
def maxMarks : Nat := 30

/-- Stands between segments where one has too many marks. -/
def joiner : Nat := 0x34F

def isMark (n : Nat) : Bool := combiningClass n != 0 || joinsBackward n

/-- Adds a piece of text to the segment; gives back what is finished. -/
def step (s : Segment) : Rune → Bytes × Segment
  | .stray b => (s.finish ++ [b], {})
  | .char c =>
    let ns := decompose 4 c.toNat
    let leading := (ns.takeWhile isMark).length
    if maxMarks < s.marks + leading then
      (Segment.finish { s with chars := s.chars ++ [joiner] }, ⟨ns, leading⟩)
    else if leading == 0 then (s.finish, ⟨ns, (ns.reverse.takeWhile isMark).length⟩)
    else ([], ⟨s.chars ++ ns, s.marks + leading⟩)

/-- The composed normal form. Bytes that belong to no character stay as they are, and so does text
that comes before all marks. -/
def normalize (b : Bytes) : Bytes :=
  let rs := Utf8.runes b
  let plain : Rune → Bool
    | .char c => c.toNat < 0x300
    | .stray _ => true
  if rs.all plain then b
  else
    let (done, s) := rs.foldl (fun (done, s) r =>
      let (more, s) := step s r
      (more.reverse ++ done, s)) (([], {}) : Bytes × Segment)
    done.reverse ++ s.finish

end Stencil.Text.Normal
