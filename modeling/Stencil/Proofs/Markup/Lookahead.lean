import Stencil.Proofs.Markup.Reading

/-! How far a step looks ahead. Regions start with `<`, and tokens with `<` or an underscore. A
step that reads markup up to such a place neither reads on into it nor asks what stands there,
except where it decides whether a `<` opens a tag and how the name of that tag goes on. -/
namespace Stencil.Markup
open Grammar

namespace State

/-- What holds of the states a scan can be in. -/
def Sound : State → Prop
  | .tag _ (some q) atValue => IsQuote q ∧ atValue = false
  | .rawText name => name ∈ rawTextElements
  | _ => True

lemma sound_text : State.text.Sound := trivial

lemma sound_tag_none (name : Bytes) (atValue : Bool) : (State.tag name none atValue).Sound := trivial

lemma Sound.afterRegion {s : State} (h : s.Sound) : s.afterRegion.Sound := by
  match s, h with
  | .tag _ (some _) _, h => exact ⟨h.1,rfl⟩
  | .tag _ none _, _ => trivial
  | .text, _ => trivial
  | .comment, _ => trivial
  | .rawText _, h => exact h

lemma Sound.stepTag {name : Bytes} {quote : Option UInt8} {atValue : Bool}
    (h : (State.tag name quote atValue).Sound) (outputRev : Bytes) (c : UInt8) :
    (stepTag name quote atValue outputRev c).Sound := by
  cases quote with
  | some q =>
    simp only [Markup.stepTag]
    split
    · exact sound_tag_none name atValue
    · exact h
  | none =>
    simp only [Markup.stepTag]
    split
    · trivial
    · split
      · trivial
      · split
        · next hq =>
          simp only [Bool.and_eq_true, Bool.or_eq_true, beq_iff_eq] at hq
          exact ⟨hq.1,rfl⟩
        · split
          · split
            · next hraw =>
              simp only [Bool.and_eq_true, List.contains_iff_mem] at hraw
              exact hraw.1
            · trivial
          · trivial

lemma Sound.step {s : State} (h : s.Sound) (outputRev : Bytes) (c : UInt8) (after : Bytes) :
    (step s outputRev c after).1.Sound := by
  cases s with
  | text =>
    simp only [Markup.step]
    split
    · split
      · trivial
      · split <;> trivial
    · trivial
  | tag name quote atValue => exact h.stepTag outputRev c
  | comment =>
    simp only [Markup.step]
    split <;> trivial
  | rawText name =>
    simp only [Markup.step]
    split
    · trivial
    · exact h

end State

/-- The text is over, or goes on with `<` or an underscore. -/
def Bounded (x : Bytes) : Prop := ∀ c ∈ x.head?, c = 0x3C ∨ c = 0x5F

lemma bounded_nil : Bounded [] := by simp [Bounded]

lemma bounded_cons {c : UInt8} {x : Bytes} : Bounded (c :: x) ↔ c = 0x3C ∨ c = 0x5F := by
  simp [Bounded]

lemma exists_of_openerLength_pos {x : Bytes} (h : 0 < Region.openerLength x) : ∃ y, x = 0x3C :: y := by
  cases x with
  | nil => simp [Region.openerLength] at h
  | cons c y =>
    by_contra hne
    refine h.ne' (Region.openerLength_of_ne ?_ y)
    rintro rfl
    exact hne ⟨y,rfl⟩

lemma opensTag_of_openerLength_pos {x : Bytes} (h : 0 < Region.openerLength x) : opensTag x := by
  obtain ⟨y,rfl⟩ := exists_of_openerLength_pos h
  simp [opensTag, h]

/-- A mark without these two bytes, once begun before a bounded text, ends before it. -/
lemma Bounded.apart {p x : Bytes} (hx : Bounded x) (hlt : 0x3C ∉ p.tail) (hline : 0x5F ∉ p.tail) :
    Apart p x := by
  cases x with
  | nil =>
    intro a _ hpre
    rwa [List.append_nil] at hpre
  | cons c x =>
    obtain rfl | rfl := bounded_cons.mp hx
    · exact apart_cons hlt
    · exact apart_cons hline

/-- A mark with neither of them, if it is there at all, ends before a bounded text. -/
lemma Bounded.prefix_append_iff {p l x : Bytes} (hx : Bounded x) (hlt : 0x3C ∉ p)
    (hline : 0x5F ∉ p) : p <+: l ++ x ↔ p <+: l := by
  refine ⟨fun hpre => ?_,fun hpre => hpre.trans (List.prefix_append l x)⟩
  obtain hin | ⟨y,hy,rfl,hyx⟩ := prefix_append_cases hpre
  · exact hin
  · obtain ⟨d,y,rfl⟩ := List.exists_cons_of_ne_nil hy
    obtain ⟨x,rfl⟩ := hyx
    obtain rfl | rfl := bounded_cons.mp hx
    · exact absurd (by simp) hlt
    · exact absurd (by simp) hline

lemma Bounded.breaks {x : Bytes} (hx : Bounded x) : Breaks x := by
  intro p hp
  have htail := mem_tail_opener hp
  exact hx.apart (fun hc => absurd (htail _ hc) (by decide)) fun hc => absurd (htail _ hc) (by decide)

/-- Two texts that end a piece of markup in the same way. -/
structure SameEnd (x y : Bytes) : Prop where
  left : Bounded x
  right : Bounded y
  eq_nil_iff : x = [] ↔ y = []

lemma SameEnd.symm {x y : Bytes} (h : SameEnd x y) : SameEnd y x :=
  ⟨h.right,h.left,h.eq_nil_iff.symm⟩

lemma prefix_append_iff {p a x y : Bytes} (hx : Apart p x) (hy : Apart p y) (ha : a ≠ []) :
    p <+: a ++ x ↔ p <+: a ++ y :=
  ⟨fun h => (hx a ha h).trans (List.prefix_append a y),
    fun h => (hy a ha h).trans (List.prefix_append a x)⟩

namespace SameEnd
variable {x y : Bytes}

lemma isPrefixOf_eq (h : SameEnd x y) {p : Bytes} (hlt : 0x3C ∉ p.tail) (hline : 0x5F ∉ p.tail)
    (c : UInt8) (l : Bytes) : p.isPrefixOf (c :: (l ++ x)) = p.isPrefixOf (c :: (l ++ y)) := by
  rw [Bool.eq_iff_iff, List.isPrefixOf_iff_prefix, List.isPrefixOf_iff_prefix]
  exact prefix_append_iff (h.left.apart hlt hline) (h.right.apart hlt hline) (List.cons_ne_nil c l)

lemma openerLength_pos_iff (h : SameEnd x y) (c : UInt8) (l : Bytes) :
    0 < Region.openerLength (c :: (l ++ x)) ↔ 0 < Region.openerLength (c :: (l ++ y)) := by
  rw [Region.openerLength_pos_iff, Region.openerLength_pos_iff]
  refine exists_congr fun p => and_congr_right fun hp => ?_
  exact prefix_append_iff (h.left.breaks p hp) (h.right.breaks p hp) (List.cons_ne_nil c l)

lemma opensTag_eq (h : SameEnd x y) {l : Bytes} (hl : l ≠ []) :
    opensTag (l ++ x) = opensTag (l ++ y) := by
  obtain ⟨c,l,rfl⟩ := List.exists_cons_of_ne_nil hl
  simp only [opensTag, List.cons_append, gt_iff_lt, h.openerLength_pos_iff]

lemma endsName_of_bounded (hx : Bounded x) (hends : ∀ c ∈ x.head?, EndsName c) : x = [] := by
  cases x with
  | nil => rfl
  | cons c x =>
    have hc := hends c rfl
    obtain rfl | rfl := bounded_cons.mp hx <;> simp [EndsName] at hc

lemma lowerByte_not_mem_endTag {name : Bytes} (hname : name ∈ rawTextElements) {d : UInt8}
    (hd : d = 0x3C ∨ d = 0x5F) : Bytes.lowerByte d ∉ 0x2F :: Bytes.toLower name := by
  revert name
  obtain rfl | rfl := hd <;> decide

/-- An end tag that stands before one text stands before the other. -/
lemma closesRawText_imp (h : SameEnd x y) {name : Bytes} (hname : name ∈ rawTextElements)
    (c : UInt8) (l : Bytes) (hclose : closesRawText name (c :: (l ++ x))) :
    closesRawText name (c :: (l ++ y)) := by
  obtain ⟨close,rest,hsplit,hlower,hrest⟩ := closesRawText_iff.mp hclose
  rw [← List.cons_append] at hsplit
  obtain ⟨w,rfl,hw⟩ | ⟨w,hin,rfl⟩ := List.append_eq_append_iff.mp hsplit
  · cases w with
    | nil =>
      have hx : x = [] := endsName_of_bounded h.left (by rw [hw]; exact hrest)
      refine closesRawText_iff.mpr ⟨c :: l,y,rfl,by simpa using hlower,?_⟩
      simp [h.eq_nil_iff.mp hx]
    | cons d w =>
      -- the end tag would hold the first byte of what follows
      have hd : d = 0x3C ∨ d = 0x5F := bounded_cons.mp (hw ▸ h.left)
      have hmem : Bytes.lowerByte d ∈ 0x2F :: Bytes.toLower name := by
        rw [← (List.cons.inj hlower).2]
        exact List.mem_map_of_mem (by simp)
      exact absurd hmem (lowerByte_not_mem_endTag hname hd)
  · refine closesRawText_iff.mpr ⟨close,w ++ y,?_,hlower,?_⟩
    · rw [← List.append_assoc, ← hin]
      rfl
    · cases w with
      | nil =>
        have hx : x = [] := endsName_of_bounded h.left hrest
        simp [h.eq_nil_iff.mp hx]
      | cons d w => exact hrest

lemma closesRawText_eq (h : SameEnd x y) {name : Bytes} (hname : name ∈ rawTextElements)
    (c : UInt8) (l : Bytes) :
    closesRawText name (c :: (l ++ x)) = closesRawText name (c :: (l ++ y)) := by
  rw [Bool.eq_iff_iff]
  exact ⟨h.closesRawText_imp hname c l,h.symm.closesRawText_imp hname c l⟩

/-- Before texts that end it in the same way, markup is read in the same way, provided that the
name of a tag that starts here does not go on into them. -/
theorem step_eq (h : SameEnd x y) {s : State} (hs : s.Sound) (outputRev : Bytes) (c : UInt8)
    (l : Bytes) (htag : s = .text → c = 0x3C → opensTag (l ++ x) = opensTag (l ++ y) ∧
      (opensTag (l ++ x) → startTagName (l ++ x) = startTagName (l ++ y))) :
    step s outputRev c (l ++ x) = step s outputRev c (l ++ y) := by
  cases s with
  | text =>
    by_cases hc : c = 0x3C
    · obtain ⟨hopens,hname⟩ := htag rfl hc
      simp only [step, h.isPrefixOf_eq (p := commentOpen) (by decide) (by decide), ← hopens]
      by_cases hopen : opensTag (l ++ x)
      · rw [hname hopen]
      · simp only [hopen]
        rfl
    · simp [step, hc]
  | tag name quote atValue => rfl
  | comment => simp only [step, h.isPrefixOf_eq (p := commentClose) (by decide) (by decide)]
  | rawText name => simp only [step, h.closesRawText_eq hs c l]

end SameEnd

/-- A name ends where a byte follows that is no part of names. -/
lemma startTagName_append_eq {l x : Bytes} (hx : ∀ c ∈ x.head?, isNameByte c = false) :
    startTagName (l ++ x) = startTagName l := by
  have htake : (l ++ x).takeWhile isNameByte = l.takeWhile isNameByte := by
    induction l with
    | nil =>
      cases x with
      | nil => rfl
      | cons c x => exact List.takeWhile_cons_of_neg (by simp [hx c rfl])
    | cons c l ih => rw [List.cons_append, List.takeWhile_cons, List.takeWhile_cons, ih]
  rw [startTagName, htake, startTagName]

/-- A step reads nothing of a bounded text. -/
theorem step_le_of_bounded {x : Bytes} (hx : Bounded x) (s : State) (outputRev : Bytes) (c : UInt8)
    (l : Bytes) : (step s outputRev c (l ++ x)).2 ≤ l.length + 1 := by
  have hmark {p : Bytes} (hp : p.isPrefixOf (c :: (l ++ x))) (hlt : 0x3C ∉ p.tail)
      (hline : 0x5F ∉ p.tail) : p.length ≤ l.length + 1 := by
    have hpre := hx.apart hlt hline (c :: l) (List.cons_ne_nil c l) (List.isPrefixOf_iff_prefix.mp hp)
    exact hpre.length_le
  cases s with
  | text =>
    simp only [step]
    split
    · split
      · next hp => exact hmark hp (by decide) (by decide)
      · split <;> simp
    · simp
  | tag name quote atValue => simp [step]
  | comment =>
    simp only [step]
    split
    · next hp => exact hmark hp (by decide) (by decide)
    · simp
  | rawText name =>
    simp only [step]
    split <;> simp

end Stencil.Markup
