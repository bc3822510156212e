import Stencil.Proofs.Token.Names

/-! Where the regions of a document are. A region starts at the leftmost opener and runs through the
first closer after it; everything between regions is markup. -/
namespace Stencil.Region

/-- The texts that open a region: `<?=`, and `<?php` in any case. -/
inductive Opener : Bytes → Prop
  | echo : Opener [0x3C, 0x3F, 0x3D]
  | code {a b c : UInt8} (ha : Bytes.lowerByte a = 0x70) (hb : Bytes.lowerByte b = 0x68)
      (hc : Bytes.lowerByte c = 0x70) : Opener [0x3C, 0x3F, a, b, c]

lemma eqIgnoreCase_php (a b c : UInt8) : Bytes.eqIgnoreCase [a, b, c] "php" ↔
    Bytes.lowerByte a = 0x70 ∧ Bytes.lowerByte b = 0x68 ∧ Bytes.lowerByte c = 0x70 := by
  have hlower : Bytes.toLower "php" = [0x70, 0x68, 0x70] := by decide
  rw [Bytes.eqIgnoreCase, hlower]
  simp [Bytes.toLower]

lemma openerLength_append {p : Bytes} (hp : Opener p) (rest : Bytes) :
    openerLength (p ++ rest) = p.length := by
  cases hp with
  | echo => rfl
  | @code a b c ha hb hc =>
    have hne : a ≠ 0x3D := by
      rintro rfl
      exact absurd ha (by decide)
    have hphp := (eqIgnoreCase_php a b c).mpr ⟨ha,hb,hc⟩
    simp [openerLength, hphp]

/-- The length of the opener is positive exactly where one stands. -/
theorem openerLength_pos_iff {b : Bytes} : 0 < openerLength b ↔ ∃ p, Opener p ∧ p <+: b := by
  constructor
  · intro h
    unfold openerLength at h
    split at h
    · exact ⟨_,.echo,_,rfl⟩
    · next x y z rest _ =>
      split at h
      · next hphp =>
        obtain ⟨hx,hy,hz⟩ := (eqIgnoreCase_php x y z).mp hphp
        exact ⟨_,.code hx hy hz,_,rfl⟩
      · simp at h
    · simp at h
  · rintro ⟨p,hp,rest,rfl⟩
    rw [openerLength_append hp]
    cases hp <;> simp

/-- A longer text keeps its opener. -/
lemma openerLength_pos_of_prefix {a b : Bytes} (h : 0 < openerLength a) (hab : a <+: b) :
    0 < openerLength b := by
  obtain ⟨p,hp,hpa⟩ := openerLength_pos_iff.mp h
  exact openerLength_pos_iff.mpr ⟨p,hp,hpa.trans hab⟩

lemma openerLength_of_ne {c : UInt8} (h : c ≠ 0x3C) (rest : Bytes) :
    openerLength (c :: rest) = 0 := by
  by_contra hpos
  obtain ⟨p,hp,hpre⟩ := openerLength_pos_iff.mp (Nat.pos_of_ne_zero hpos)
  cases hp <;> exact h (List.cons_prefix_cons.mp hpre).1.symm

lemma atStart?_eq_none_iff {b : Bytes} : atStart? b = none ↔ openerLength b = 0 := by
  simp [atStart?]

lemma atStart?_eq_some_iff {b : Bytes} {r : Extracted} :
    atStart? b = some r ↔ 0 < openerLength b ∧ extract (openerLength b) b = r := by
  simp [atStart?, Nat.pos_iff_ne_zero]

lemma text_append_rest_of_atStart? {b : Bytes} {r : Extracted} (h : atStart? b = some r) :
    r.text ++ r.rest = b := by
  obtain ⟨-,rfl⟩ := atStart?_eq_some_iff.mp h
  exact text_append_rest _ b

/-- A region keeps the opener it was found by. -/
lemma openerLength_text_pos {b : Bytes} {r : Extracted} (h : atStart? b = some r) :
    0 < openerLength r.text := by
  obtain ⟨hpos,rfl⟩ := atStart?_eq_some_iff.mp h
  obtain ⟨p,hp,rest,rfl⟩ := openerLength_pos_iff.mp hpos
  refine openerLength_pos_iff.mpr ⟨p,hp,?_⟩
  rw [openerLength_append hp, extract]
  split
  · rw [List.take_left, List.append_assoc]
    exact List.prefix_append _ _
  · exact List.prefix_append _ _

/-- A document cut at its regions. -/
inductive Chunk where
  | markup (c : UInt8)
  | region (text : Bytes) (terminated : Bool)
  deriving DecidableEq, Repr

def Chunk.text : Chunk → Bytes
  | .markup c => [c]
  | .region text _ => text

/-- Cuts a document at its regions, from left to right. -/
def split (b : Bytes) : List Chunk :=
  match b with
  | [] => []
  | c :: after =>
    match h : atStart? (c :: after) with
    | some r =>
      have := atStart?_length h
      .region r.text r.terminated :: split r.rest
    | none => .markup c :: split after
termination_by b.length
decreasing_by
  · exact this
  · simp

@[simp] lemma split_nil : split [] = [] := by rw [split]

lemma split_of_atStart?_eq_none {c : UInt8} {after : Bytes} (h : atStart? (c :: after) = none) :
    split (c :: after) = .markup c :: split after := by
  rw [split]
  split
  · next r hr => simp [h] at hr
  · rfl

lemma split_of_atStart?_eq_some {b : Bytes} {r : Extracted} (h : atStart? b = some r) :
    split b = .region r.text r.terminated :: split r.rest := by
  cases b with
  | nil => simp [atStart?, openerLength] at h
  | cons c after =>
    rw [split]
    split
    · next r' hr =>
      rw [h] at hr
      rw [Option.some.inj hr]
    · next hr => simp [h] at hr

/-- Nothing is lost by cutting. -/
theorem flatMap_text_split (b : Bytes) : (split b).flatMap Chunk.text = b := by
  induction b using split.induct with
  | case1 => simp
  | case2 c after r hr _ ih =>
    rw [split_of_atStart?_eq_some hr, List.flatMap_cons, ih]
    exact text_append_rest_of_atStart? hr
  | case3 c after hr ih => rw [split_of_atStart?_eq_none hr, List.flatMap_cons, ih]; rfl

/-- No region starts at a byte of markup. -/
theorem openerLength_of_split {b : Bytes} {before after : List Chunk} {c : UInt8}
    (h : split b = before ++ .markup c :: after) :
    openerLength (c :: after.flatMap Chunk.text) = 0 := by
  induction b using split.induct generalizing before with
  | case1 => simp at h
  | case2 d rest r hr _ ih =>
    rw [split_of_atStart?_eq_some hr] at h
    obtain ⟨-,hnil⟩ | ⟨more,-,hmore⟩ := List.cons_eq_append_iff.mp h
    · simp at hnil
    · exact ih hmore
  | case3 d rest hr ih =>
    rw [split_of_atStart?_eq_none hr] at h
    obtain ⟨-,hcons⟩ | ⟨more,-,hmore⟩ := List.cons_eq_append_iff.mp h
    · obtain ⟨hc,rfl⟩ := List.cons.inj hcons
      rw [Chunk.markup.inj hc, flatMap_text_split]
      exact atStart?_eq_none_iff.mp hr
    · exact ih hmore

/-- Bytes other than `<` are cut off one by one. -/
lemma split_eq_take_append (n : Nat) {b : Bytes} (h : ∀ c ∈ b.take n, c ≠ 0x3C) :
    split b = (b.take n).map Chunk.markup ++ split (b.drop n) := by
  induction n generalizing b with
  | zero => simp
  | succ n ih =>
    cases b with
    | nil => simp
    | cons c rest =>
      have hc := atStart?_eq_none_iff.mpr (openerLength_of_ne (h c (by simp)) rest)
      rw [split_of_atStart?_eq_none hc, ih (fun d hd => h d (by simp [hd]))]
      rfl

end Stencil.Region
