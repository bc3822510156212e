import Stencil.Proofs.Pipeline.Calls
import Stencil.Proofs.Scan.Cutting

/-! No region is lost in silence. Whatever a formatter makes of a placeholder, each region of the
document is put back or reported: those that are reported have one warning each, and the others
stand in the restored text, no two of them in the same place. -/
namespace Stencil

namespace Segment
variable {segments : List Segment} {s : Segment} {k l : Nat}

/-- Where a segment starts in the text of all of them. -/
def offset (segments : List Segment) (k : Nat) : Nat := ((segments.take k).flatMap text).length

lemma flatMap_text_eq (h : segments[k]? = some s) :
    segments.flatMap text =
      (segments.take k).flatMap text ++ (s.text ++ (segments.drop (k + 1)).flatMap text) := by
  obtain ⟨hk,rfl⟩ := List.getElem?_eq_some_iff.mp h
  rw [← List.flatMap_cons, ← List.drop_eq_getElem_cons hk, ← List.flatMap_append,
    List.take_append_drop]

lemma delimits_offset (h : segments[k]? = some s) :
    (Span.mk (offset segments k) s.text).Delimits (segments.flatMap text) := by
  have htext := flatMap_text_eq h
  have hstop : (Span.mk (offset segments k) s.text).stop =
      ((segments.take k).flatMap text ++ s.text).length := by
    simp [Span.stop, Span.length, offset]
  refine ⟨by simp,?_,?_⟩
  · have hlength := congrArg List.length htext
    rw [← List.append_assoc, List.length_append] at hlength
    rw [hstop]
    omega
  · rw [hstop, htext, ← List.append_assoc, Int.toNat_natCast, Int.toNat_natCast, List.take_left,
      offset, List.drop_left]

/-- A later segment starts where an earlier one has ended. -/
lemma stop_le_offset (h : segments[k]? = some s) (hkl : k < l) :
    (Span.mk (offset segments k) s.text).stop ≤ offset segments l := by
  obtain ⟨n,rfl⟩ := Nat.exists_eq_add_of_le hkl
  have htake : segments.take (k + 1 + n) =
      segments.take k ++ (s :: (segments.drop (k + 1)).take n) := by
    obtain ⟨hk,rfl⟩ := List.getElem?_eq_some_iff.mp h
    rw [List.take_add, List.take_add_one, List.getElem?_eq_getElem hk, Option.toList_some,
      List.append_assoc, List.singleton_append]
  have hlength : offset segments (k + 1 + n) =
      offset segments k + (s.text.length +
        (((segments.drop (k + 1)).take n).flatMap text).length) := by
    rw [offset, htake, List.flatMap_append, List.flatMap_cons, List.length_append,
      List.length_append]
    rfl
  rw [hlength]
  simp only [Span.stop, Span.length]
  omega

end Segment

namespace IssuedToken.Series
variable {o : Token.Options} {ts : List IssuedToken} {document : Bytes}

/-- The parse that restoring makes of a document. -/
def parse (ts : List IssuedToken) (document : Bytes) : List Segment :=
  (MatcherIndex.build (ts.map matcher)).segments document

/-- The tokens that a document does not hold. -/
def lost (ts : List IssuedToken) (document : Bytes) : List IssuedToken :=
  ts.filter fun t => !(parse ts document).any (·.hits t.matcher)

lemma restore_eq (h : Series o ts) (document : Bytes) :
    restore document ⟨ts.map entry⟩ =
      .ofSegments (ts.map matcher) (parse ts document) := by
  rw [restore, h.ofMap_entries]
  rfl

lemma misses_restore (h : Series o ts) (document : Bytes) :
    (restore document ⟨ts.map entry⟩).misses = (lost ts document).map miss := by
  rw [h.restore_eq, Restored.ofSegments, List.filter_map, List.map_map]
  rfl

/-- A segment that counts for a token is that token's region. -/
lemma eq_hit_of_hits (h : Series o ts) {t : IssuedToken} (ht : t ∈ ts) {s : Segment}
    (hs : s ∈ parse ts document) (hits : s.hits t.matcher) : s = .hit t.matcher := by
  cases s with
  | literal b => simp [Segment.hits] at hits
  | hit m =>
    obtain ⟨t',ht',rfl⟩ := List.mem_map.mp (MatcherIndex.mem_of_hit_mem_segments hs)
    have hnumber : t'.number = t.number := by simpa [Segment.hits, matcher] using hits
    rw [h.eq_of_number_eq ht' ht hnumber]

/-- The offset at which the region of a token is first put back. -/
def place (ts : List IssuedToken) (document : Bytes) (t : IssuedToken) : Nat :=
  Segment.offset (parse ts document) ((parse ts document).findIdx (·.hits t.matcher))

/-- The region of a token as it stands in the restored text. -/
def restoredSpan (ts : List IssuedToken) (document : Bytes) (t : IssuedToken) : Span :=
  ⟨place ts document t, t.region.span.text⟩

lemma getElem?_findIdx_hits (h : Series o ts) {t : IssuedToken} (ht : t ∈ ts)
    (hkept : t ∉ lost ts document) :
    (parse ts document)[(parse ts document).findIdx (·.hits t.matcher)]? = some (.hit t.matcher) := by
  have hany : (parse ts document).any (·.hits t.matcher) := by
    simpa [lost, ht] using hkept
  have hlt := List.findIdx_lt_length_of_exists (List.any_eq_true.mp hany)
  rw [List.getElem?_eq_getElem hlt,
    h.eq_hit_of_hits ht (List.getElem_mem hlt) (by apply List.findIdx_getElem)]

/-- A region that is put back stands in the restored text. -/
theorem delimits_restoredSpan (h : Series o ts) {t : IssuedToken} (ht : t ∈ ts)
    (hkept : t ∉ lost ts document) :
    (restoredSpan ts document t).Delimits (restore document ⟨ts.map entry⟩).text := by
  rw [h.restore_eq]
  exact Segment.delimits_offset (h.getElem?_findIdx_hits ht hkept)

lemma length_restoredSpan_pos (h : Series o ts) (document : Bytes) {t : IssuedToken} (ht : t ∈ ts) :
    0 < (restoredSpan ts document t).length :=
  (h.issued t ht).opened.trans_le (Region.openerLength_le _)

/-- No two regions are put back in the same place. -/
theorem overlaps_restoredSpan (h : Series o ts) {s t : IssuedToken} (hs : s ∈ ts) (ht : t ∈ ts)
    (hskept : s ∉ lost ts document) (htkept : t ∉ lost ts document) (hne : s ≠ t) :
    (restoredSpan ts document s).overlaps (restoredSpan ts document t) = false := by
  have hsat := h.getElem?_findIdx_hits hs hskept
  have htat := h.getElem?_findIdx_hits ht htkept
  have hspos := h.length_restoredSpan_pos document hs
  have htpos := h.length_restoredSpan_pos document ht
  obtain hlt | heq | hlt := Nat.lt_trichotomy ((parse ts document).findIdx (·.hits s.matcher))
    ((parse ts document).findIdx (·.hits t.matcher))
  · exact (Span.overlaps_eq_false hspos htpos (Segment.stop_le_offset hsat hlt)).1
  · rw [heq, htat] at hsat
    have hmatcher := Segment.hit.inj (Option.some.inj hsat)
    exact absurd (h.eq_of_number_eq hs ht (congrArg Matcher.index hmatcher).symm) hne
  · exact (Span.overlaps_eq_false htpos hspos (Segment.stop_le_offset htat hlt)).2

end IssuedToken.Series

lemma mapM_eq_ok_of_forall {α β ε : Type} {f : α → Except ε β} {g : α → β} {as : List α}
    (h : ∀ a ∈ as, f a = .ok (g a)) : as.mapM f = .ok (as.map g) := by
  induction as with
  | nil => rfl
  | cons a as ih =>
    rw [List.mapM_cons, h a (List.mem_cons_self ..), ih fun b hb => h b (List.mem_cons_of_mem _ hb)]
    rfl

namespace Tokenized.LaidOut
open IssuedToken.Series
variable {o : Token.Options} {document : Bytes} {t : Tokenized}

lemma tokenOfMiss_number (h : t.LaidOut o document) {s : IssuedToken} (hs : s ∈ t.tokens) :
    tokenOfMiss t (s.number : Int) = .ok s := by
  obtain ⟨i,hi,rfl⟩ := List.mem_iff_getElem.mp hs
  rw [tokenOfMiss, h.series.number_getElem i hi, if_neg (by omega), Int.toNat_natCast,
    List.getElem?_eq_getElem hi]

/-- Every miss is about a token of the document, so there are diagnostics whatever became of the
placeholder. -/
theorem diagnoseRestored_eq (h : t.LaidOut o document) (markup : Bytes) :
    diagnoseRestored document t (restore markup t.map) = .ok {
      warnings := (lost t.tokens markup).map (lostRegionWarning document)
      hints := (t.tokens.filter (!·.region.terminated)).map (openRegionHint document) } := by
  have hmisses : (restore markup t.map).misses = (lost t.tokens markup).map IssuedToken.miss := by
    rw [h.map]
    exact h.series.misses_restore markup
  have hlost : (lost t.tokens markup).mapM (fun s => tokenOfMiss t (s.number : Int)) =
      .ok ((lost t.tokens markup).map id) :=
    mapM_eq_ok_of_forall fun s hs => h.tokenOfMiss_number (List.mem_of_mem_filter hs)
  rw [List.map_id] at hlost
  rw [diagnoseRestored, diagnose, hmisses, List.map_map, List.mapM_map]
  change (lost t.tokens markup).mapM (fun s => tokenOfMiss t (s.number : Int)) >>= _ = _
  rw [hlost]
  rfl

/-- The warnings of two tokens differ, since each names its token. -/
lemma injOn_lostRegionWarning (h : t.LaidOut o document) {a b : IssuedToken} (ha : a ∈ t.tokens)
    (hb : b ∈ t.tokens) (heq : lostRegionWarning document a = lostRegionWarning document b) :
    a = b := by
  have hmessage := congrArg Diagnostic.message heq
  have hrendered : a.rendered = b.rendered := by
    simpa [lostRegionWarning, Diagnostic.ofSpan] using hmessage
  exact List.inj_on_of_nodup_map h.series.nodup_rendered ha hb hrendered

lemma nodup_warnings (h : t.LaidOut o document) (markup : Bytes) :
    ((lost t.tokens markup).map (lostRegionWarning document)).Nodup := by
  have hnodup : t.tokens.Nodup := .of_map (·.number) (h.series.numbers ▸ List.nodup_range)
  exact (hnodup.filter _).map_on fun a ha b hb =>
    h.injOn_lostRegionWarning (List.mem_of_mem_filter ha) (List.mem_of_mem_filter hb)

lemma lostRegionWarning_mem_iff (h : t.LaidOut o document) {markup : Bytes} {s : IssuedToken}
    (hs : s ∈ t.tokens) :
    lostRegionWarning document s ∈ (lost t.tokens markup).map (lostRegionWarning document) ↔
      s ∈ lost t.tokens markup := by
  refine ⟨fun hw => ?_,List.mem_map_of_mem⟩
  obtain ⟨s',hs',heq⟩ := List.mem_map.mp hw
  exact h.injOn_lostRegionWarning (List.mem_of_mem_filter hs') hs heq ▸ hs'

end Tokenized.LaidOut

namespace Pipeline
open Session
variable {p : Pipeline} {html php : Layout} {source : Bytes}

/-- What has happened once a document is formatted: it was tokenized, something came back for its
placeholder, and the tokens in that were restored. -/
theorem formatWith_eq_ok {w w' : World} {d : FormattedDocument}
    (h : (p.formatWith html php source).run.run w = (.ok d, w')) :
    ∃ used markup, tokenizeWith p.width p.tokens source = .ok (d.tokenized, used) ∧
      d.restored = restore markup d.tokenized.map ∧
      diagnoseRestored source d.tokenized d.restored = .ok d.diagnostics ∧
      (p.skipPhpPass → d.formatted = d.restored.text) := by
  cases hf : p.formatter with
  | none =>
    rw [formatWith, hf] at h
    cases h
  | some f =>
    rw [formatWith_of_formatter _ _ _ _ hf, tokenizing_bind] at h
    cases htokenize : tokenizeWith p.width p.tokens source with
    | error e =>
      rw [htokenize] at h
      cases h
    | ok r =>
      obtain ⟨t,used⟩ := r
      rw [htokenize] at h
      obtain ⟨-,w₁,-,h⟩ := run_bind_eq_ok.mp h
      obtain ⟨markup,w₂,-,h⟩ := run_bind_eq_ok.mp h
      obtain ⟨restored,w₃,hrestored,h⟩ := run_bind_eq_ok.mp h
      obtain ⟨formatted,w₄,hformatted,h⟩ := run_bind_eq_ok.mp h
      obtain ⟨diagnostics,w₅,hdiagnose,h⟩ := run_bind_eq_ok.mp h
      obtain ⟨-,w₆,-,h⟩ := run_bind_eq_ok.mp h
      obtain rfl : restore markup t.map = restored := Except.ok.inj (congrArg Prod.fst hrestored)
      obtain rfl := Except.ok.inj (congrArg Prod.fst h)
      rw [run_ofExcept] at hdiagnose
      refine ⟨used,markup,rfl,rfl,congrArg Prod.fst hdiagnose,fun hskip => ?_⟩
      rw [secondPass, hskip, Bool.true_or, if_pos rfl] at hformatted
      exact (Except.ok.inj (congrArg Prod.fst hformatted)).symm

end Pipeline

/-- The tokens whose regions no warning is about. -/
def FormattedDocument.unreported (d : FormattedDocument) (source : Bytes) : List IssuedToken :=
  d.tokenized.tokens.filter fun t => lostRegionWarning source t ∉ d.diagnostics.warnings

open IssuedToken.Series in
/-- Diagnostics never fail, whatever a formatter made of the placeholder. Once a document is
formatted, its tokens stand for all its regions, the warnings are one for each of the tokens that
were missed, and the regions without one are all in the restored text, each at a place of its
own. -/
theorem regions_accounted (p : Pipeline) (html php : Layout) (source : Bytes) :
    (∀ t used, tokenizeWith p.width p.tokens source = .ok (t, used) →
      ∀ markup, ∃ ds, diagnoseRestored source t (restore markup t.map) = .ok ds) ∧
    ∀ w w' d, (p.formatWith html php source).run.run w = (.ok d, w') →
      Region.RegionsFrom source 0
        (d.tokenized.tokens.map fun t => (t.region.span, t.region.terminated)) ∧
      d.diagnostics.warnings.length = d.restored.misses.length ∧
      (∀ x ∈ d.diagnostics.warnings, ∃ t ∈ d.tokenized.tokens, x = lostRegionWarning source t) ∧
      (∀ t ∈ d.tokenized.tokens, t ∉ d.unreported source →
        d.diagnostics.warnings.count (lostRegionWarning source t) = 1) ∧
      (∃ place : IssuedToken → Nat,
        (∀ t ∈ d.unreported source,
          (Span.mk (place t) t.region.span.text).Delimits d.restored.text) ∧
        (d.unreported source).Pairwise fun s t =>
          (Span.mk (place s) s.region.span.text).overlaps
            (Span.mk (place t) t.region.span.text) = false) ∧
      (p.skipPhpPass → d.formatted = d.restored.text) := by
  have hlaid {t : Tokenized} {used : Token.Options}
      (ht : tokenizeWith p.width p.tokens source = .ok (t, used)) :
      t.LaidOut used source := by
    obtain ⟨hlegal,hscan,-⟩ := tokenizeWith_eq_ok ht
    exact laidOut_of_scan_eq_ok hlegal hscan
  refine ⟨fun t used ht markup => ⟨_,(hlaid ht).diagnoseRestored_eq markup⟩,fun w w' d h => ?_⟩
  obtain ⟨used,markup,ht,hrestored,hdiagnose,hskip⟩ := Pipeline.formatWith_eq_ok h
  have h := hlaid ht
  have hwarnings : d.diagnostics.warnings =
      (lost d.tokenized.tokens markup).map (lostRegionWarning source) := by
    rw [hrestored, h.diagnoseRestored_eq markup] at hdiagnose
    rw [← Except.ok.inj hdiagnose]
  have hmisses : d.restored.misses = (lost d.tokenized.tokens markup).map IssuedToken.miss := by
    rw [hrestored, h.map]
    exact h.series.misses_restore markup
  have hkept : ∀ t ∈ d.unreported source,
      t ∈ d.tokenized.tokens ∧ t ∉ lost d.tokenized.tokens markup := by
    intro t ht
    obtain ⟨htokens,hw⟩ := List.mem_filter.mp ht
    rw [decide_eq_true_eq, hwarnings, h.lostRegionWarning_mem_iff htokens] at hw
    exact ⟨htokens,hw⟩
  refine ⟨(cuts_of_scan_eq_ok (tokenizeWith_eq_ok ht).2.1).1,?_,?_,?_,
    ⟨place d.tokenized.tokens markup,?_,?_⟩,hskip⟩
  · rw [hwarnings, hmisses, List.length_map, List.length_map]
  · intro x hx
    rw [hwarnings] at hx
    obtain ⟨t,ht,rfl⟩ := List.mem_map.mp hx
    exact ⟨t,List.mem_of_mem_filter ht,rfl⟩
  · intro t htokens ht
    have hw : lostRegionWarning source t ∈ d.diagnostics.warnings := by
      simpa [FormattedDocument.unreported, htokens] using ht
    exact List.count_eq_one_of_mem (hwarnings ▸ h.nodup_warnings markup) hw
  · intro t ht
    rw [hrestored, h.map]
    exact h.series.delimits_restoredSpan (hkept t ht).1 (hkept t ht).2
  · have hnodup : d.tokenized.tokens.Nodup :=
      .of_map (·.number) (h.series.numbers ▸ List.nodup_range)
    refine (hnodup.filter _).imp_of_mem fun hs ht hne => ?_
    exact h.series.overlaps_restoredSpan (hkept _ hs).1 (hkept _ ht).1 (hkept _ hs).2 (hkept _ ht).2
      hne

/-- Its formatter gives back the second token twice and the first not at all. -/
def sampleLossy : Pipeline where
  formatter := some fun _ _ _ => return "_php_1__ _php_1__"
  skipPhpPass := true

def sampleLossySource : Bytes := "<?= 1 ?><b id=<?= 2 ?>>"

def sampleLossyTag : IssuedToken :=
  ⟨0, .tag, "<php_0__ />", ⟨⟨0, "<?= 1 ?>"⟩, .standalone, true⟩⟩

def sampleLossyAttribute : IssuedToken :=
  ⟨1, .attribute, "_php_1__", ⟨⟨14, "<?= 2 ?>"⟩, .inAttribute, true⟩⟩

def sampleLossyDocument : FormattedDocument where
  formatted := "<?= 2 ?> <?= 2 ?>"
  tokenized := {
    placeholder := "<php_0__ /><b id=_php_1__>"
    map := ⟨[sampleLossyTag.entry, sampleLossyAttribute.entry]⟩
    tokens := [sampleLossyTag, sampleLossyAttribute] }
  restored := ⟨"<?= 2 ?> <?= 2 ?>", 2, [sampleLossyTag.miss]⟩
  diagnostics := { warnings := [lostRegionWarning sampleLossySource sampleLossyTag] }

theorem regions_accounted_sampleLossy :
    ((sampleLossy.format sampleLossySource).run.run { files := { entries := [] } }).1 =
      .ok sampleLossyDocument ∧
    sampleLossyDocument.unreported sampleLossySource = [sampleLossyAttribute] ∧
    sampleLossyDocument.diagnostics.warnings.count
      (lostRegionWarning sampleLossySource sampleLossyTag) = 1 ∧
    ∃ place : Nat, (Span.mk place "<?= 2 ?>").Delimits sampleLossyDocument.restored.text := by
  have hrun : ((sampleLossy.format sampleLossySource).run.run { files := { entries := [] } }).1 =
      .ok sampleLossyDocument := by decide +kernel
  have hunreported : sampleLossyDocument.unreported sampleLossySource = [sampleLossyAttribute] := by
    decide +kernel
  obtain ⟨-,-,-,hreported,⟨place,hplace,-⟩,-⟩ :=
    (regions_accounted sampleLossy sampleLossy.html sampleLossy.php sampleLossySource).2
      _ _ _ (Prod.ext hrun rfl)
  refine ⟨hrun,hunreported,hreported _ (by decide) ?_,place sampleLossyAttribute,?_⟩
  · rw [hunreported]
    decide
  · exact hplace _ (by rw [hunreported]; exact List.mem_singleton_self _)

end Stencil
