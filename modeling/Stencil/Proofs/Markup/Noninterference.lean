import Stencil.Proofs.Markup.Lookahead
import Stencil.Proofs.Scan.Cutting

/-! Neither the contents of regions nor the options have a say in how regions are classified. Two
documents with the same markup between their regions are read in step: the scans are in the same
state at corresponding places. -/
namespace Stencil

namespace Region

/-- The markup before, between and after the regions. -/
def segments : List Chunk → List Bytes
  | [] => [[]]
  | .markup c :: chunks => (segments chunks).modifyHead (c :: ·)
  | .region _ _ :: chunks => [] :: segments chunks

/-- Both are regions, or the same byte of markup. -/
inductive Chunk.SameKind : Chunk → Chunk → Prop
  | markup (c : UInt8) : SameKind (.markup c) (.markup c)
  | region (a b : Bytes) (s t : Bool) : SameKind (.region a s) (.region b t)

lemma exists_segments_eq_cons (chunks : List Chunk) :
    ∃ first more, segments chunks = first :: more := by
  induction chunks with
  | nil => exact ⟨[],[],rfl⟩
  | cons chunk chunks ih =>
    obtain ⟨first,more,h⟩ := ih
    cases chunk with
    | markup c => exact ⟨c :: first,more,by rw [segments, h]; rfl⟩
    | region text terminated => exact ⟨[],_,rfl⟩

/-- Documents with the same markup between regions have their regions at the same places. -/
lemma sameKind_of_segments_eq {cs ds : List Chunk} (h : segments cs = segments ds) :
    List.Forall₂ Chunk.SameKind cs ds := by
  induction cs generalizing ds with
  | nil =>
    cases ds with
    | nil => exact .nil
    | cons d ds =>
      obtain ⟨first,more,hds⟩ := exists_segments_eq_cons ds
      cases d <;> simp [segments, hds] at h
  | cons c cs ih =>
    obtain ⟨first,more,hcs⟩ := exists_segments_eq_cons cs
    cases ds with
    | nil => cases c <;> simp [segments, hcs] at h
    | cons d ds =>
      obtain ⟨first',more',hds⟩ := exists_segments_eq_cons ds
      cases c with
      | markup c =>
        cases d with
        | markup d =>
          simp only [segments, hcs, hds, List.modifyHead_cons, List.cons.injEq] at h
          obtain ⟨⟨rfl,hfirst⟩,hmore⟩ := h
          exact .cons (.markup c) (ih (by rw [hcs, hds, hfirst, hmore]))
        | region text terminated => simp [segments, hcs] at h
      | region text terminated =>
        cases d with
        | markup d => simp [segments, hds] at h
        | region text' terminated' =>
          exact .cons (.region ..) (ih (List.cons.inj h).2)

section Split
variable {b : Bytes} {chunks : List Chunk}

lemma eq_nil_of_split (h : split b = []) : b = [] := by
  rw [← flatMap_text_split b, h]
  rfl

lemma exists_of_split_eq_markup {c : UInt8} (h : split b = .markup c :: chunks) :
    ∃ after, b = c :: after ∧ atStart? b = none ∧ split after = chunks := by
  cases b with
  | nil => simp at h
  | cons d after =>
    cases hstart : atStart? (d :: after) with
    | some r => simp [split_of_atStart?_eq_some hstart] at h
    | none =>
      rw [split_of_atStart?_eq_none hstart] at h
      obtain ⟨hc,hrest⟩ := List.cons.inj h
      exact ⟨after,by rw [Chunk.markup.inj hc],rfl,hrest⟩

lemma exists_of_split_eq_region {text : Bytes} {terminated : Bool}
    (h : split b = .region text terminated :: chunks) :
    ∃ r, atStart? b = some r ∧ split r.rest = chunks := by
  cases hstart : atStart? b with
  | some r =>
    rw [split_of_atStart?_eq_some hstart] at h
    exact ⟨r,rfl,(List.cons.inj h).2⟩
  | none =>
    cases b with
    | nil => simp at h
    | cons d after => simp [split_of_atStart?_eq_none hstart] at h

/-- Bytes other than `<` are chunks of their own. -/
lemma drop_split (n : Nat) (h : ∀ c ∈ b.take n, c ≠ 0x3C) : (split b).drop n = split (b.drop n) := by
  rw [split_eq_take_append n h]
  by_cases hn : n ≤ b.length
  · exact List.drop_left' (by simp [hn])
  · rw [List.drop_of_length_le (show b.length ≤ n by omega), split_nil, List.append_nil]
    exact List.drop_of_length_le (by rw [List.length_map]; exact List.length_take_le n b)

end Split

/-- Up to the next region the two documents are the same. -/
lemma exists_common_markup {a b : Bytes}
    (h : List.Forall₂ Chunk.SameKind (split a) (split b)) : ∃ l x y, a = l ++ x ∧ b = l ++ y ∧
      ((x = [] ∧ y = []) ∨ (0 < openerLength x ∧ 0 < openerLength y)) := by
  induction a using split.induct generalizing b with
  | case1 =>
    rw [split_nil] at h
    obtain rfl := eq_nil_of_split (List.forall₂_nil_left_iff.mp h)
    exact ⟨[],[],[],rfl,rfl,.inl ⟨rfl,rfl⟩⟩
  | case2 c after r hr _ ih =>
    rw [split_of_atStart?_eq_some hr] at h
    obtain ⟨d,ds,hd,-,hb⟩ := List.forall₂_cons_left_iff.mp h
    cases hd with
    | region _ _ _ _ =>
      obtain ⟨r',hr',-⟩ := exists_of_split_eq_region hb
      exact ⟨[],c :: after,b,rfl,rfl,.inr ⟨(atStart?_eq_some_iff.mp hr).1,
        (atStart?_eq_some_iff.mp hr').1⟩⟩
  | case3 c after hr ih =>
    rw [split_of_atStart?_eq_none hr] at h
    obtain ⟨d,ds,hd,hds,hb⟩ := List.forall₂_cons_left_iff.mp h
    cases hd with
    | markup _ =>
      obtain ⟨after',rfl,-,hafter⟩ := exists_of_split_eq_markup hb
      obtain ⟨l,x,y,rfl,rfl,hxy⟩ := ih (hafter.symm ▸ hds)
      exact ⟨c :: l,x,y,rfl,rfl,hxy⟩

end Region

namespace Markup
open Region

/-- Where both documents go on with a region, or both end, markup is read in the same way. -/
lemma step_eq_of_common {l x y : Bytes}
    (hxy : (x = [] ∧ y = []) ∨ (0 < openerLength x ∧ 0 < openerLength y)) {s : State} (hs : s.Sound)
    (outputRev : Bytes) (c : UInt8) :
    step s outputRev c (l ++ x) = step s outputRev c (l ++ y) ∧
      (step s outputRev c (l ++ x)).2 ≤ l.length + 1 := by
  obtain ⟨rfl,rfl⟩ | ⟨hx,hy⟩ := hxy
  · exact ⟨rfl,step_le_of_bounded bounded_nil s outputRev c l⟩
  · obtain ⟨x,rfl⟩ := exists_of_openerLength_pos hx
    obtain ⟨y,rfl⟩ := exists_of_openerLength_pos hy
    have hend : SameEnd (0x3C :: x) (0x3C :: y) :=
      ⟨bounded_cons.mpr (.inl rfl),bounded_cons.mpr (.inl rfl),by simp⟩
    have hname (z : Bytes) : ∀ c ∈ (0x3C :: z).head?, isNameByte c = false := by
      intro c hc
      obtain rfl : 0x3C = c := Option.some.inj hc
      decide
    refine ⟨hend.step_eq hs outputRev c l fun _ _ => ⟨?_,fun _ => ?_⟩,
      step_le_of_bounded hend.left s outputRev c l⟩
    · cases l with
      | nil =>
        rw [List.nil_append, List.nil_append, opensTag_of_openerLength_pos hx,
          opensTag_of_openerLength_pos hy]
      | cons d l => exact hend.opensTag_eq (List.cons_ne_nil d l)
    · rw [startTagName_append_eq (hname x), startTagName_append_eq (hname y)]

/-- Two scans of documents with the same markup go through the same states. -/
theorem classify_congr {s : State} (hs : s.Sound) {readRev readRev' a b : Bytes}
    (hread : selfClosed readRev = selfClosed readRev')
    (h : List.Forall₂ Chunk.SameKind (split a) (split b)) :
    (classify s readRev a).map (·.2) = (classify s readRev' b).map (·.2) := by
  induction s, readRev, a using classify.induct generalizing readRev' b with
  | case1 s readRev =>
    rw [split_nil] at h
    obtain rfl := eq_nil_of_split (List.forall₂_nil_left_iff.mp h)
    rw [classify_nil, classify_nil]
  | case2 s readRev c after r hr _ ih =>
    rw [split_of_atStart?_eq_some hr] at h
    obtain ⟨d,ds,hd,hds,hb⟩ := List.forall₂_cons_left_iff.mp h
    cases hd with
    | region _ text _ terminated =>
      obtain ⟨r',hr',hrest⟩ := exists_of_split_eq_region hb
      rw [classify_of_atStart?_eq_some hr, classify_of_atStart?_eq_some hr', List.map_cons,
        List.map_cons]
      congr 1
      rw [← hrest] at hds
      obtain hnil | hclosed := Region.selfClosed_text hr readRev
      · rw [hnil, split_nil] at hds
        rw [hnil, eq_nil_of_split (List.forall₂_nil_left_iff.mp hds), classify_nil, classify_nil]
      obtain hnil' | hclosed' := Region.selfClosed_text hr' readRev'
      · rw [hnil', split_nil] at hds
        rw [hnil', eq_nil_of_split (List.forall₂_nil_right_iff.mp hds), classify_nil, classify_nil]
      exact ih hs.afterRegion (hclosed.trans hclosed'.symm) hds
  | case3 s readRev c after hr next ih =>
    rw [split_of_atStart?_eq_none hr] at h
    obtain ⟨d,ds,hd,hds,hb⟩ := List.forall₂_cons_left_iff.mp h
    cases hd with
    | markup _ =>
      obtain ⟨after',rfl,hr',hafter⟩ := exists_of_split_eq_markup hb
      rw [← hafter] at hds
      obtain ⟨l,x,y,rfl,rfl,hxy⟩ := exists_common_markup hds
      obtain ⟨hstep,hle⟩ := step_eq_of_common hxy hs readRev c
      have htaken := ne_lt_of_mem_taken s readRev c (l ++ x)
      have htaken' := ne_lt_of_mem_taken s readRev c (l ++ y)
      rw [classify_of_atStart?_eq_none hr, classify_of_atStart?_eq_none hr', ← step_congr hread,
        ← hstep]
      rw [← hstep] at htaken'
      -- what is read lies in the common markup
      have hcopied (z : Bytes) : (c :: (l ++ z)).take (step s readRev c (l ++ x)).2 =
          (c :: l).take (step s readRev c (l ++ x)).2 := by
        rw [← List.cons_append, List.take_append_of_le_length (by simpa using hle)]
      refine ih (hs.step readRev c (l ++ x)) ?_ ?_
      · rw [hcopied, hcopied]
        exact selfClosed_append_congr hread _
      · rw [← drop_split _ htaken, ← drop_split _ htaken']
        exact List.forall₂_drop _ hds

end Markup

/-- A list of regions is given by where they are and by their contexts. -/
lemma Tokenized.regions_eq_zipWith (t : Tokenized) : t.regions =
    (t.tokens.map IssuedToken.located).zipWith (fun p context => ⟨p.1, context, p.2⟩)
      (t.tokens.map (·.region.context)) := by
  rw [List.zipWith_map, List.zipWith_self]
  rfl

section Runs
variable {width width' : Bytes → Nat} {o o' used used' : Token.Options} {a b : Bytes}
  {t t' : Tokenized}

lemma contexts_eq_classify (h : tokenizeWith width o a = .ok (t, used)) :
    t.tokens.map (·.region.context) = (Markup.classify .text [] a).map (·.2) := by
  obtain ⟨hlegal,hscan,-⟩ := tokenizeWith_eq_ok h
  rw [← classify_of_scan_eq_ok hlegal hscan, List.map_map]
  rfl

lemma shapes_eq_map_contexts (h : tokenizeWith width o a = .ok (t, used)) :
    t.tokens.map (·.shape) = (t.tokens.map (·.region.context)).map Context.shape := by
  obtain ⟨hlegal,hscan,-⟩ := tokenizeWith_eq_ok h
  rw [List.map_map]
  exact List.map_congr_left fun s hs => ((laidOut_of_scan_eq_ok hlegal hscan).series.issued s hs).shape

lemma numbers_eq_range (h : tokenizeWith width o a = .ok (t, used)) :
    t.tokens.map (·.number) = List.range (t.tokens.map (·.region.context)).length := by
  obtain ⟨hlegal,hscan,-⟩ := tokenizeWith_eq_ok h
  rw [List.length_map]
  exact (laidOut_of_scan_eq_ok hlegal hscan).series.numbers

/-- The markup between the regions alone decides on the contexts, shapes and numbers of the tokens,
whatever stands in the regions and whatever the options and widths are; and the document alone
decides on all there is to know of its regions. -/
theorem regions_noninterference (h : tokenizeWith width o a = .ok (t, used))
    (h' : tokenizeWith width' o' b = .ok (t', used')) :
    (Region.segments (Region.split a) = Region.segments (Region.split b) →
      t.regions.map (·.context) = t'.regions.map (·.context) ∧
      t.tokens.map (·.shape) = t'.tokens.map (·.shape) ∧
      t.tokens.map (·.number) = t'.tokens.map (·.number)) ∧
    (a = b → t.regions = t'.regions) := by
  constructor
  · intro hsegments
    have hcontexts : t.tokens.map (·.region.context) = t'.tokens.map (·.region.context) := by
      rw [contexts_eq_classify h, contexts_eq_classify h']
      exact Markup.classify_congr Markup.State.sound_text rfl (Region.sameKind_of_segments_eq hsegments)
    refine ⟨?_,?_,?_⟩
    · rw [Tokenized.regions, Tokenized.regions, List.map_map, List.map_map]
      exact hcontexts
    · rw [shapes_eq_map_contexts h, shapes_eq_map_contexts h', hcontexts]
    · rw [numbers_eq_range h, numbers_eq_range h', hcontexts]
  · rintro rfl
    have hlocated : t.tokens.map IssuedToken.located = t'.tokens.map IssuedToken.located :=
      (cuts_of_scan_eq_ok (tokenizeWith_eq_ok h).2.1).1.unique
        (cuts_of_scan_eq_ok (tokenizeWith_eq_ok h').2.1).1
    rw [Tokenized.regions_eq_zipWith, Tokenized.regions_eq_zipWith, hlocated,
      contexts_eq_classify h, contexts_eq_classify h']

end Runs

section Sample

/-- Hyphens as filler, and room for little more than the names. -/
def sampleHyphens : Token.Options := ⟨"x", 0x2D, 12⟩

def samplePlainRegions : Bytes := "<a b=<?= 1 ?>><!--<?= 2 ?>-->"

/-- The same markup, with marks of markup inside the regions. -/
def sampleMarkedRegions : Bytes := "<a b=<?= '>' ?>><!--<?php --> ?>-->"

def samplePlainTokenized : Tokenized where
  placeholder := "<a b=_php_0__><!--_php_1__-->"
  map := ⟨[("_php_0__", "<?= 1 ?>"), ("_php_1__", "<?= 2 ?>")]⟩
  tokens := [
    ⟨0, .attribute, "_php_0__", ⟨⟨5, "<?= 1 ?>"⟩, .inAttribute, true⟩⟩,
    ⟨1, .attribute, "_php_1__", ⟨⟨18, "<?= 2 ?>"⟩, .inRawText, true⟩⟩]

def sampleMarkedTokenized : Tokenized where
  placeholder := "<a b=_x0__-----><!--_x1__--------->"
  map := ⟨[("_x0__-----", "<?= '>' ?>"), ("_x1__-------", "<?php --> ?>")]⟩
  tokens := [
    ⟨0, .attribute, "_x0__-----", ⟨⟨5, "<?= '>' ?>"⟩, .inAttribute, true⟩⟩,
    ⟨1, .attribute, "_x1__-------", ⟨⟨20, "<?php --> ?>"⟩, .inRawText, true⟩⟩]

theorem regions_noninterference_sample :
    tokenizeWith List.length .default samplePlainRegions =
      .ok (samplePlainTokenized, Token.Options.default) ∧
    tokenizeWith List.length sampleHyphens sampleMarkedRegions =
      .ok (sampleMarkedTokenized, sampleHyphens) ∧
    Region.segments (Region.split samplePlainRegions) =
      Region.segments (Region.split sampleMarkedRegions) ∧
    samplePlainTokenized.regions.map (·.context) = sampleMarkedTokenized.regions.map (·.context) := by
  have h : tokenizeWith List.length .default samplePlainRegions =
      .ok (samplePlainTokenized, Token.Options.default) := by decide +kernel
  have h' : tokenizeWith List.length sampleHyphens sampleMarkedRegions =
      .ok (sampleMarkedTokenized, sampleHyphens) := by decide +kernel
  have hsegments : Region.segments (Region.split samplePlainRegions) =
      Region.segments (Region.split sampleMarkedRegions) := by decide +kernel
  exact ⟨h,h',hsegments,((regions_noninterference h h').1 hsegments).1⟩

end Sample
end Stencil
