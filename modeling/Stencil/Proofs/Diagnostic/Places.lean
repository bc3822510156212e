import Stencil.Proofs.Pipeline.Losses
import Stencil.Proofs.Span.Places

/-! Diagnostics point at the regions that they are about. Read back in the document, the places of a
diagnostic delimit its region, whatever a formatter made of the placeholder. -/
namespace Stencil

namespace Diagnostic
variable {document : Bytes} {s : Span}

/-- The part of a document between the two places of a diagnostic, if the document has both. -/
def span? (document : Bytes) (d : Diagnostic) : Option Span := do
  let start ← Place.oneBasedOffset? document d.line d.column
  let stop ← Place.oneBasedOffset? document d.endLine d.endColumn
  return .between document start stop

lemma oneBasedOffset?_ofOffset {i : Int} (hi : 0 ≤ i) (hle : i ≤ document.length) :
    Place.oneBasedOffset? document (Place.ofOffset document i).oneBased.line
      (Place.ofOffset document i).oneBased.column = some i.toNat := by
  obtain ⟨k,rfl⟩ := Int.eq_ofNat_of_zero_le hi
  rw [Place.oneBasedOffset?_oneBased, Int.toNat_natCast]
  exact Place.offset?_ofOffset (by omega)

/-- A diagnostic about a span of the document points at it. -/
theorem span?_ofSpan (h : s.Delimits document) (severity : Severity) (message : Bytes) :
    span? document (.ofSpan document s severity message) = some s := by
  have hoffset := h.nonneg
  have hstop := h.stop_le
  have hle : s.offset ≤ s.stop := by
    simp only [Span.stop]
    omega
  have hstart : Place.oneBasedOffset? document (s.extent document).start.line
      (s.extent document).start.column = some s.offset.toNat :=
    oneBasedOffset?_ofOffset hoffset (hle.trans hstop)
  have hend : Place.oneBasedOffset? document (s.extent document).stop.line
      (s.extent document).stop.column = some s.stop.toNat :=
    oneBasedOffset?_ofOffset (hoffset.trans hle) hstop
  simp only [span?, ofSpan, hstart, hend]
  change some (Span.between document s.offset.toNat s.stop.toNat) = some s
  rw [Span.between, h.text, Int.toNat_of_nonneg hoffset]

/-- Where a diagnostic starts, in reading order. -/
def start (d : Diagnostic) : ℤ ×ₗ ℤ := toLex (d.line, d.column)

/-- Diagnostics come in the order of the spans that they are about. -/
lemma start_ofSpan_lt {a b : Span} (ha : 0 ≤ a.offset) (hab : a.offset < b.offset)
    (hb : b.offset ≤ document.length) (severity : Severity) (m n : Bytes) :
    (ofSpan document a severity m).start < (ofSpan document b severity n).start := by
  obtain ⟨i,hi⟩ := Int.eq_ofNat_of_zero_le ha
  obtain ⟨j,hj⟩ := Int.eq_ofNat_of_zero_le (ha.trans hab.le)
  have hij : i < j := by omega
  have hj_le : j ≤ document.length := by omega
  have h := Place.ofOffset_lt_ofOffset hij hj_le
  rw [← hi, ← hj, Prod.Lex.toLex_lt_toLex] at h
  rw [start, start, Prod.Lex.toLex_lt_toLex]
  simp only [ofSpan, Span.extent, Span.place, Place.oneBased]
  omega

end Diagnostic

/-- Only the last element can pass a test that none of those before it passes. -/
lemma filter_eq_filter_getLast? {α : Type} {p : α → Bool} {l : List α}
    (h : ∀ a ∈ l.dropLast, p a = false) : l.filter p = l.getLast?.toList.filter p := by
  obtain rfl | hne := eq_or_ne l []
  · rfl
  · have hinit : l.dropLast.filter p = [] :=
      List.filter_eq_nil_iff.mpr fun a ha => by rw [h a ha]; exact Bool.false_ne_true
    conv_lhs => rw [← List.dropLast_append_getLast hne, List.filter_append, hinit, List.nil_append]
    rw [List.getLast?_eq_some_getLast hne, Option.toList_some]

namespace Tokenized
variable {width : Bytes → Nat} {o used : Token.Options} {source : Bytes} {t : Tokenized}

/-- The regions of the tokens lie in the document, one after the other. -/
lemma regions_of_tokenizeWith (h : tokenizeWith width o source = .ok (t, used)) :
    (∀ s ∈ t.tokens, s.region.span.Delimits source) ∧
      (∀ s ∈ t.tokens.dropLast, (!s.region.terminated) = false) ∧
      t.tokens.Pairwise fun a b => a.region.span.offset < b.region.span.offset := by
  obtain ⟨hregions,-⟩ := cuts_of_scan_eq_ok (tokenizeWith_eq_ok h).2.1
  have hmember : ∀ s ∈ t.tokens, Region.RegionsFrom.Member source 0 s.located :=
    fun s hs => hregions.member _ (List.mem_map_of_mem hs)
  refine ⟨fun s hs => (hmember s hs).delimits,fun s hs => ?_,?_⟩
  · have hlocated : s.located ∈ (t.tokens.map IssuedToken.located).dropLast := by
      rw [← List.map_dropLast]
      exact List.mem_map_of_mem hs
    have hterminated : s.region.terminated = true :=
      hregions.closed_of_mem_dropLast s.located hlocated
    rw [hterminated, Bool.not_true]
  · refine (List.pairwise_map.mp hregions.pairwise_stop_le).imp_of_mem fun ha _ hab => ?_
    have hpos := (hmember _ ha).length_pos
    simp only [IssuedToken.located, Span.stop] at hab hpos
    omega

end Tokenized

/-- Whatever a formatter makes of the placeholder of a document, there are diagnostics: a hint for
the last region if it is left open, and a warning for each miss in turn. Each of them points at the
region that it is about, so the warnings come in the order of their places. -/
theorem diagnostics_point_at_regions {width : Bytes → Nat} {o used : Token.Options}
    {source : Bytes} {t : Tokenized} (h : tokenizeWith width o source = .ok (t, used))
    (markup : Bytes) :
    ∃ ds, diagnoseRestored source t (restore markup t.map) = .ok ds ∧ ds.errors = [] ∧
      List.Forall₂ (fun (d : Diagnostic) (s : IssuedToken) =>
          d.severity = .hint ∧ d.span? source = some s.region.span)
        ds.hints (t.tokens.getLast?.toList.filter fun s => !s.region.terminated) ∧
      List.Forall₂ (fun (d : Diagnostic) (m : Miss) =>
          d.severity = .warning ∧ ∃ s, t.tokens[m.index]? = some s ∧ s.rendered = m.token ∧
            d.span? source = some s.region.span)
        ds.warnings (restore markup t.map).misses ∧
      ds.warnings.Pairwise fun a b => a.start < b.start := by
  obtain ⟨hlegal,hscan,-⟩ := tokenizeWith_eq_ok h
  have hlaid := laidOut_of_scan_eq_ok hlegal hscan
  obtain ⟨hdelimits,hclosed,hordered⟩ := Tokenized.regions_of_tokenizeWith h
  have hlost : (IssuedToken.Series.lost t.tokens markup).Sublist t.tokens := List.filter_sublist
  have hmisses : (restore markup t.map).misses =
      (IssuedToken.Series.lost t.tokens markup).map IssuedToken.miss := by
    rw [hlaid.map]
    exact hlaid.series.misses_restore markup
  refine ⟨_,hlaid.diagnoseRestored_eq markup,rfl,?_,?_,?_⟩
  · dsimp only
    rw [filter_eq_filter_getLast? hclosed, List.forall₂_map_left_iff, List.forall₂_same]
    intro s hs
    have hmem : s ∈ t.tokens :=
      List.mem_of_getLast? (Option.mem_toList.mp (List.mem_of_mem_filter hs))
    exact ⟨rfl,Diagnostic.span?_ofSpan (hdelimits s hmem) _ _⟩
  · dsimp only
    rw [hmisses, List.forall₂_map_left_iff, List.forall₂_map_right_iff, List.forall₂_same]
    intro s hs
    have hmem : s ∈ t.tokens := hlost.subset hs
    obtain ⟨i,hi,rfl⟩ := List.mem_iff_getElem.mp hmem
    refine ⟨rfl,t.tokens[i],?_,rfl,Diagnostic.span?_ofSpan (hdelimits _ hmem) _ _⟩
    change t.tokens[(t.tokens[i]).number]? = _
    rw [hlaid.series.number_getElem i hi, List.getElem?_eq_getElem hi]
  · refine List.pairwise_map.mpr ((hordered.sublist hlost).imp_of_mem fun ha hb hab => ?_)
    have hfirst := (hdelimits _ (hlost.subset ha)).nonneg
    have hlast := (hdelimits _ (hlost.subset hb)).stop_le
    refine Diagnostic.start_ofSpan_lt hfirst hab ?_ _ _ _
    simp only [Span.stop] at hlast
    omega

/-- The second region spans two lines, and the last one is open. -/
def sampleLines : Bytes := "<?= 1 ?>\n<b id=<?= 2\n ?>>\n<?php 3\n"

def sampleLinesTokenized : Tokenized where
  placeholder := "<php_0__ />\n<b id=_php_1___>\n<php_2__ />"
  map := ⟨[("<php_0__ />", "<?= 1 ?>"), ("_php_1___", "<?= 2\n ?>"), ("<php_2__ />", "<?php 3\n")]⟩
  tokens := [
    ⟨0, .tag, "<php_0__ />", ⟨⟨0, "<?= 1 ?>"⟩, .standalone, true⟩⟩,
    ⟨1, .attribute, "_php_1___", ⟨⟨15, "<?= 2\n ?>"⟩, .inAttribute, true⟩⟩,
    ⟨2, .tag, "<php_2__ />", ⟨⟨26, "<?php 3\n"⟩, .standalone, false⟩⟩]

/-- A formatter dropped the attribute. -/
theorem diagnostics_point_at_sampleLines :
    tokenizeWith List.length .default sampleLines =
      .ok (sampleLinesTokenized, Token.Options.default) ∧
    ∃ ds, diagnoseRestored sampleLines sampleLinesTokenized
        (restore "<php_0__ />\n<b>\n<php_2__\n/>" sampleLinesTokenized.map) = .ok ds ∧
      ds.warnings.map (·.span? sampleLines) = [some ⟨15, "<?= 2\n ?>"⟩] ∧
      ds.hints.map (·.span? sampleLines) = [some ⟨26, "<?php 3\n"⟩] := by
  have h : tokenizeWith List.length .default sampleLines =
      .ok (sampleLinesTokenized, Token.Options.default) := by decide +kernel
  have hmisses : (restore "<php_0__ />\n<b>\n<php_2__\n/>" sampleLinesTokenized.map).misses =
      [⟨1, "_php_1___", "<?= 2\n ?>"⟩] := by decide +kernel
  obtain ⟨ds,hds,-,hhints,hwarnings,-⟩ := diagnostics_point_at_regions h
    "<php_0__ />\n<b>\n<php_2__\n/>"
  rw [hmisses, List.forall₂_cons_right_iff] at hwarnings
  obtain ⟨warning,_,⟨-,s,hs,-,hwarning⟩,hnil,hwarnings⟩ := hwarnings
  obtain rfl := Option.some.inj hs
  obtain rfl := List.forall₂_nil_right_iff.mp hnil
  obtain ⟨hint,_,⟨-,hhint⟩,hnil,hhints⟩ := List.forall₂_cons_right_iff.mp hhints
  obtain rfl := List.forall₂_nil_right_iff.mp hnil
  refine ⟨h,ds,hds,?_,?_⟩
  · rw [hwarnings, List.map_singleton, hwarning]
  · rw [hhints, List.map_singleton, hhint]
    rfl

end Stencil
