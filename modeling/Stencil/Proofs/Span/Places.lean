import Mathlib.Data.Prod.Lex
import Mathlib.Data.List.TakeWhile
import Mathlib.Order.Interval.Set.Defs
import Stencil.Span

/-! Places and offsets. The line and the column that stand for an offset lead back to it, and places
come in the order of their offsets. -/
namespace Stencil

/-- The offset just after the `n`-th line feed of a text, where the line with this number starts. -/
def Bytes.lineStart? : (n : Nat) → Bytes → Option Nat
  | 0, _ => some 0
  | _ + 1, [] => none
  | n + 1, c :: rest => (lineStart? (if c = 0x0A then n else n + 1) rest).map (· + 1)

/-- A line starts right after the line feed that ends the lines before it. -/
lemma Bytes.lineStart?_append {before : Bytes} (h : before = [] ∨ before.getLast? = some 0x0A)
    (rest : Bytes) : lineStart? (before.count 0x0A) (before ++ rest) = some before.length := by
  induction before with
  | nil => rw [List.count_nil, lineStart?, List.length_nil]
  | cons c before ih =>
    have hlast : (c :: before).getLast? = some 0x0A := h.resolve_left (List.cons_ne_nil _ _)
    have hbefore : before = [] ∨ before.getLast? = some 0x0A := by
      cases before with
      | nil => exact .inl rfl
      | cons d before => exact .inr (by rwa [List.getLast?_cons_cons] at hlast)
    by_cases hc : c = 0x0A
    · rw [hc, List.count_cons_self, List.cons_append, lineStart?, if_pos rfl, ih hbefore]
      rfl
    · have hmem : (0x0A : UInt8) ∈ before :=
        (List.mem_cons.mp (List.mem_of_getLast? hlast)).resolve_left (Ne.symm hc)
      obtain ⟨n,hn⟩ := Nat.exists_eq_add_one.mpr (List.count_pos_iff.mpr hmem)
      rw [List.count_cons_of_ne hc, List.cons_append, hn, lineStart?, if_neg hc, ← hn, ih hbefore]
      rfl

namespace Place

/-- The offset of a place, if the text has a line with this number and the line is long enough. -/
def offset? (document : Bytes) (p : Place) : Option Nat := do
  let start ← Bytes.lineStart? p.line document
  let offset := start + p.column
  if offset ≤ document.length ∧ 0x0A ∉ (document.take offset).drop start then some offset else none

/-- The offset of a line and a column that are both counted from one. -/
def oneBasedOffset? (document : Bytes) (line column : Int) : Option Nat :=
  if 1 ≤ line ∧ 1 ≤ column then offset? document ⟨(line - 1).toNat, (column - 1).toNat⟩ else none

/-- A place stands for the offset that lies as many bytes after the start of its line as the column
says, if the line goes on that far. -/
lemma offset?_eq_some_iff {document : Bytes} {p : Place} {k : Nat} :
    p.offset? document = some k ↔ ∃ start, Bytes.lineStart? p.line document = some start ∧
      k = start + p.column ∧ k ≤ document.length ∧ 0x0A ∉ (document.take k).drop start := by
  cases hstart : Bytes.lineStart? p.line document with
  | none => simp [offset?, hstart]
  | some start =>
    have hoffset : p.offset? document =
        if start + p.column ≤ document.length ∧
          0x0A ∉ (document.take (start + p.column)).drop start then some (start + p.column)
        else none := by
      rw [offset?, hstart]
      rfl
    rw [hoffset, Option.ite_none_right_eq_some]
    constructor
    · rintro ⟨⟨hle,hline⟩,heq⟩
      obtain rfl := Option.some.inj heq
      exact ⟨start,rfl,rfl,hle,hline⟩
    · rintro ⟨start,heq,rfl,hle,hline⟩
      obtain rfl := Option.some.inj heq
      exact ⟨⟨hle,hline⟩,rfl⟩

lemma oneBasedOffset?_oneBased (document : Bytes) (p : Place) :
    oneBasedOffset? document p.oneBased.line p.oneBased.column = p.offset? document := by
  have hline : (((p.line + 1 : Nat) : Int) - 1).toNat = p.line := by omega
  have hcolumn : (((p.column + 1 : Nat) : Int) - 1).toNat = p.column := by omega
  change oneBasedOffset? document ((p.line + 1 : Nat) : Int) ((p.column + 1 : Nat) : Int) = _
  rw [oneBasedOffset?, if_pos (by omega), hline, hcolumn]

/-- What stands before a place: whole lines, and the beginning of one that the column counts. -/
lemma exists_lines (b : Bytes) : ∃ lines line, b = lines ++ line ∧
    (lines = [] ∨ lines.getLast? = some 0x0A) ∧ 0x0A ∉ line ∧
    after b = ⟨lines.count 0x0A, line.length⟩ := by
  have hsplit := List.takeWhile_append_dropWhile (p := (· != 0x0A)) (l := b.reverse)
  have hline : (0x0A : UInt8) ∉ (b.reverse.takeWhile (· != 0x0A)).reverse := by
    intro hmem
    simpa using List.mem_takeWhile_imp (List.mem_reverse.mp hmem)
  have hb : b = (b.reverse.dropWhile (· != 0x0A)).reverse ++
      (b.reverse.takeWhile (· != 0x0A)).reverse := by
    rw [← List.reverse_append, hsplit, List.reverse_reverse]
  refine ⟨_,_,hb,?_,hline,?_⟩
  · rw [List.reverse_eq_nil_iff, List.getLast?_reverse]
    cases hrest : b.reverse.dropWhile (· != 0x0A) with
    | nil => exact .inl rfl
    | cons c rest =>
      have hc := List.head?_dropWhile_not (· != 0x0A) b.reverse
      rw [hrest] at hc
      exact .inr (by simpa using hc)
  · rw [after, List.length_reverse, mk.injEq]
    refine ⟨?_,rfl⟩
    conv_lhs => rw [hb, List.count_append, List.count_eq_zero_of_not_mem hline, Nat.add_zero]

/-- The place of an offset leads back to it. -/
theorem offset?_ofOffset {document : Bytes} {k : Nat} (h : k ≤ document.length) :
    (ofOffset document k).offset? document = some k := by
  obtain ⟨lines,line,hb,hlines,hline,hplace⟩ := exists_lines (document.take k)
  have hdocument : document = lines ++ (line ++ document.drop k) := by
    rw [← List.append_assoc, ← hb, List.take_append_drop]
  have hlength : lines.length + line.length = k := by
    rw [← List.length_append, ← hb, List.length_take, Nat.min_eq_left h]
  have hstart : Bytes.lineStart? (lines.count 0x0A) document = some lines.length := by
    conv_lhs => rw [hdocument]
    exact Bytes.lineStart?_append hlines _
  have hrest : (document.take k).drop lines.length = line := by
    rw [hb, List.drop_left]
  rw [ofOffset, Int.toNat_natCast, hplace, offset?, hstart]
  change (if lines.length + line.length ≤ document.length ∧
    0x0A ∉ (document.take (lines.length + line.length)).drop lines.length then _ else _) = _
  rw [hlength, hrest, if_pos ⟨h,hline⟩]

/-- Going on from a text moves its place on, to a later line or to a later column of the line. -/
lemma after_lt_after_append (b : Bytes) {more : Bytes} (h : more ≠ []) :
    toLex ((after b).line, (after b).column) <
      toLex ((after (b ++ more)).line, (after (b ++ more)).column) := by
  rw [Prod.Lex.toLex_lt_toLex]
  dsimp only [after]
  rw [List.count_append]
  by_cases hmem : 0x0A ∈ more
  · exact .inl (by have := List.count_pos_iff.mpr hmem; omega)
  · refine .inr ⟨by rw [List.count_eq_zero_of_not_mem hmem]; rfl,?_⟩
    have hline : ∀ c ∈ more.reverse, (c != 0x0A) = true := by
      intro c hc
      rw [bne_iff_ne]
      rintro rfl
      exact hmem (List.mem_reverse.mp hc)
    rw [List.reverse_append, List.takeWhile_append_of_pos hline, List.length_append,
      List.length_reverse]
    exact Nat.lt_add_of_pos_left (List.length_pos_iff.mpr h)

/-- Places come in the order of their offsets. -/
theorem ofOffset_lt_ofOffset {document : Bytes} {i j : Nat} (hij : i < j)
    (hj : j ≤ document.length) :
    toLex ((ofOffset document i).line, (ofOffset document i).column) <
      toLex ((ofOffset document j).line, (ofOffset document j).column) := by
  obtain ⟨n,rfl⟩ := Nat.exists_eq_add_of_le hij.le
  have hne : (document.drop i).take n ≠ [] := by
    rw [← List.length_pos_iff, List.length_take, List.length_drop]
    omega
  have h := after_lt_after_append (document.take i) hne
  rwa [← List.take_add] at h

/-- An offset outside the document has the place of the nearest one in it. -/
lemma ofOffset_nearest (document : Bytes) (offset : Int) :
    ofOffset document offset = ofOffset document (max 0 (min offset document.length)) := by
  rw [ofOffset, ofOffset, List.take_eq_take_iff.mpr]
  omega

end Place

/-- Lines and columns tell the bytes of a document apart and keep their order. A place is made of the
line feeds before an offset and the bytes since the last of them, and of two offsets the smaller one
has the smaller place; an offset outside the document counts as the nearest one in it. -/
theorem Span.places_follow_offsets {document : Bytes} {s t : Span}
    (hs : 0 ≤ s.offset ∧ s.offset ≤ document.length)
    (ht : 0 ≤ t.offset ∧ t.offset ≤ document.length) :
    (∃ start, Bytes.lineStart? (s.place document).line document = some start ∧
      s.offset = start + (s.place document).column ∧
      0x0A ∉ (document.take s.offset.toNat).drop start) ∧
    (s.offset < t.offset ↔
      toLex ((s.place document).line, (s.place document).column) <
        toLex ((t.place document).line, (t.place document).column)) ∧
    ∀ u : Span, u.place document =
      (Span.mk (max 0 (min u.offset document.length)) u.text).place document := by
  obtain ⟨i,hi⟩ := Int.eq_ofNat_of_zero_le hs.1
  obtain ⟨j,hj⟩ := Int.eq_ofNat_of_zero_le ht.1
  have hi_le : i ≤ document.length := by omega
  have hj_le : j ≤ document.length := by omega
  have hmono : StrictMonoOn (fun k : Nat => toLex ((Place.ofOffset document k).line,
      (Place.ofOffset document k).column)) (Set.Iic document.length) :=
    fun _ _ _ hb hab => Place.ofOffset_lt_ofOffset hab hb
  refine ⟨?_,?_,fun u => Place.ofOffset_nearest document u.offset⟩
  · obtain ⟨start,hstart,heq,-,hline⟩ :=
      Place.offset?_eq_some_iff.mp (Place.offset?_ofOffset hi_le)
    rw [place, hi, Int.toNat_natCast]
    exact ⟨start,hstart,by omega,hline⟩
  · rw [place, place, hi, hj, Int.ofNat_lt]
    exact (hmono.lt_iff_lt hi_le hj_le).symm

/-- The first span starts right after an empty line, the second one at the end of the document. -/
theorem Span.places_follow_sampleOffsets :
    (Span.mk 3 "b").place "a\n\nb\n" = ⟨2, 0⟩ ∧
      (Span.mk 5 "").place "a\n\nb\n" = ⟨3, 0⟩ ∧
      (∃ start, Bytes.lineStart? 2 "a\n\nb\n" = some start ∧ (3 : Int) = start + (0 : Nat)) ∧
      (Span.mk 9 "").place "a\n\nb\n" = (Span.mk 5 "").place "a\n\nb\n" := by
  obtain ⟨⟨start,hstart,heq,-⟩,-,hnearest⟩ :=
    @Span.places_follow_offsets "a\n\nb\n" ⟨3, "b"⟩ ⟨5, ""⟩ (by decide) (by decide)
  exact ⟨by decide,by decide,⟨start,hstart,heq⟩,hnearest ⟨9, ""⟩⟩

end Stencil
