import Stencil.Proofs.Scan.Layout
import Stencil.Proofs.Scan.Offsets

/-! Tokenizing cuts a document exactly at its regions. The scan, which reads one to four bytes of
markup at a time, finds the regions of the document and no others, and its placeholder is the
document with tokens in their places. -/
namespace Stencil

namespace IssuedToken
variable {document : Bytes}

/-- Where the region of a token stands, and whether it is closed. -/
def located (t : IssuedToken) : Span × Bool := (t.region.span, t.region.terminated)

/-- The document from an offset on, with each token in place of its region. -/
def replaceRegions (document : Bytes) (i : Nat) : List IssuedToken → Bytes
  | [] => document.drop i
  | t :: ts => (document.take t.region.span.offset.toNat).drop i ++ t.rendered
      ++ replaceRegions document t.region.span.stop.toNat ts

/-- What stands before the first region is copied. -/
lemma replaceRegions_eq_append {i k : Nat} {ts : List IssuedToken} (hik : i ≤ k)
    (hts : ∀ t ∈ ts, k ≤ t.region.span.offset) :
    replaceRegions document i ts = (document.drop i).take (k - i) ++ replaceRegions document k ts := by
  obtain ⟨n,rfl⟩ := Nat.exists_eq_add_of_le hik
  cases ts with
  | nil =>
    rw [replaceRegions, replaceRegions, Nat.add_sub_cancel_left, ← List.drop_drop,
      List.take_append_drop]
  | cons t ts =>
    have ht := hts t (List.mem_cons_self ..)
    obtain ⟨m,hm⟩ := Nat.exists_eq_add_of_le (show i + n ≤ t.region.span.offset.toNat by omega)
    rw [replaceRegions, replaceRegions, hm, Nat.add_sub_cancel_left, List.drop_take, List.drop_take,
      ← List.drop_drop, ← List.append_assoc, ← List.append_assoc]
    congr 2
    rw [show i + n + m - i = n + m by omega, show i + n + m - (i + n) = m by omega, List.take_add]

end IssuedToken

namespace Scan
open Region
variable {o : Token.Options} {width : Bytes → Nat} {document : Bytes}

/-- No region starts where a step reads markup. -/
lemma not_opens_of_step {s : Scan} {c : UInt8} {after read : Bytes}
    (hd : document = read ++ c :: after) (here : atStart? (c :: after) = none) {j : Nat}
    (hj : read.length ≤ j)
    (hlt : j < read.length + (Markup.step s.state s.outputRev c after).2) : ¬ Opens document j := by
  obtain ⟨k,rfl⟩ := Nat.exists_eq_add_of_le hj
  rw [opens_iff, hd, ← List.drop_drop, List.drop_left, Nat.pos_iff_ne_zero, not_not]
  cases k with
  | zero => exact atStart?_eq_none_iff.mp here
  | succ k =>
    rw [List.drop_succ_cons]
    cases hdrop : after.drop k with
    | nil => simp [openerLength]
    | cons d rest =>
      have hk : k < after.length := by
        by_contra hle
        rw [List.drop_of_length_le (by omega)] at hdrop
        contradiction
      have hmem : d ∈ after.take ((Markup.step s.state s.outputRev c after).2 - 1) := by
        rw [List.drop_eq_getElem_cons hk] at hdrop
        rw [← (List.cons.inj hdrop).1, List.mem_take_iff_getElem]
        exact ⟨k,by omega,rfl⟩
      exact openerLength_of_ne (Markup.ne_lt_of_mem_taken _ _ _ _ d hmem) rest

/-- What a reading adds to a scan: the tokens of the regions that follow, and the document with
these tokens in it. -/
structure Cuts (document : Bytes) (s f : Scan) (ts : List IssuedToken) : Prop where
  tokens : f.tokensRev = ts.reverse ++ s.tokensRev
  regions : RegionsFrom document s.offset (ts.map IssuedToken.located)
  output : f.outputRev = (IssuedToken.replaceRegions document s.offset ts).reverse ++ s.outputRev

lemma Cuts.le_offset {s f : Scan} {ts : List IssuedToken} (h : Cuts document s f ts) :
    ∀ t ∈ ts, (s.offset : Int) ≤ t.region.span.offset :=
  fun _ ht => (h.regions.member _ (List.mem_map_of_mem ht)).le_offset

theorem Reads.cuts {s f : Scan} {b read : Bytes} (h : Reads o width s b f)
    (hd : document = read ++ b) (hs : s.offset = read.length) : ∃ ts, Cuts document s f ts := by
  induction h generalizing read with
  | done s =>
    have hend : document.drop s.offset = [] := by rw [hd, hs, List.drop_left]
    refine ⟨[],rfl,.none fun j hj => ?_,by simp [IssuedToken.replaceRegions, hend]⟩
    rw [opens_iff, ← Nat.add_sub_of_le hj, ← List.drop_drop, hend]
    simp [openerLength]
  | @markup s f c after here rest ih =>
    have hpos := Markup.step_pos s.state s.outputRev c after
    have hno (j : Nat) := @not_opens_of_step document s c after read hd here j
    generalize hn : (Markup.step s.state s.outputRev c after).2 = n at rest ih hpos hno
    have htake : (c :: after).drop n = after.drop (n - 1) := by
      obtain ⟨m,rfl⟩ := Nat.exists_eq_succ_of_ne_zero hpos.ne'
      rfl
    have hread : document = (read ++ (c :: after).take n) ++ after.drop (n - 1) := by
      rw [List.append_assoc, ← htake, List.take_append_drop, hd]
    obtain ⟨ts,hts⟩ := ih hread (by simp [Scan.copy, hs])
    have hoffset : s.offset ≤ s.offset + ((c :: after).take n).length := by omega
    refine ⟨ts,hts.tokens,hts.regions.of_no_opens hoffset fun j hj hlt => ?_,?_⟩
    · exact hno j (by omega) (by simp only [Scan.copy, List.length_take] at hlt; omega)
    · rw [IssuedToken.replaceRegions_eq_append hoffset hts.le_offset, hts.output]
      have hcopied : (document.drop s.offset).take (s.offset + ((c :: after).take n).length - s.offset)
          = (c :: after).take n := by
        rw [hd, hs, List.drop_left, Nat.add_sub_cancel_left, List.length_take,
          ← List.take_eq_take_min]
      rw [hcopied]
      simp [Scan.copy]
  | @region s s' f b r here emitted rest ih =>
    obtain ⟨rendered,hrender,rfl⟩ := emit_eq_ok emitted
    have hread : document = (read ++ r.text) ++ r.rest := by
      rw [List.append_assoc, text_append_rest_of_atStart? here, hd]
    obtain ⟨ts,hts⟩ := ih hread (by simp [hs])
    refine ⟨s.issue rendered r.text r.terminated :: ts,by simp [hts.tokens],?_,?_⟩
    · rw [List.map_cons, hs]
      have hmore := hts.regions
      simp only [hs] at hmore
      have := RegionsFrom.of_atStart? hd here hmore
      simpa [IssuedToken.located, issue, hs] using this
    · rw [hts.output]
      have hstop : (s.offset + r.text.length : Int).toNat = s.offset + r.text.length := by omega
      simp [IssuedToken.replaceRegions, issue, Span.stop, Span.length, hstop]

end Scan

/-- A pass over a document finds its regions and puts the tokens in their places. -/
theorem cuts_of_scan_eq_ok {o : Token.Options} {width : Bytes → Nat} {document : Bytes}
    {t : Tokenized} (h : scan o width document = .ok t) :
    Region.RegionsFrom document 0 (t.tokens.map IssuedToken.located) ∧
      t.placeholder = IssuedToken.replaceRegions document 0 t.tokens := by
  obtain ⟨f,hreads,rfl⟩ := exists_reads_of_scan_eq_ok h
  obtain ⟨ts,hts⟩ := hreads.cuts (List.nil_append document).symm rfl
  have htokens : f.finish.tokens = ts := by simp [Scan.finish, hts.tokens, Scan.start]
  rw [htokens]
  exact ⟨hts.regions,by simp [Scan.finish, hts.output, Scan.start]⟩

namespace IssuedToken.Series
variable {o : Token.Options} {ts : List IssuedToken}

/-- The texts of the tokens of a scan are all different. -/
lemma nodup_rendered (h : Series o ts) : (ts.map (·.rendered)).Nodup := by
  have hnodup : ts.Nodup := .of_map (·.number) (h.numbers ▸ List.nodup_range)
  refine hnodup.map_on fun s hs t ht heq => h.eq_of_number_eq hs ht ?_
  obtain ⟨p,hp⟩ := (h.issued s hs).rendered
  obtain ⟨q,hq⟩ := (h.issued t ht).rendered
  have hps : o.name s.number s.shape p <+: s.rendered := hp ▸ List.prefix_append _ _
  have hqs : o.name t.number t.shape q <+: s.rendered := heq ▸ hq ▸ List.prefix_append _ _
  exact (Token.Options.name_prefix_unique hps hqs).1

lemma get?_entries (h : Series o ts) {t : IssuedToken} (ht : t ∈ ts) :
    (Token.Map.mk (ts.map entry)).get? t.rendered = some t.region.span.text := by
  obtain ⟨before,after,rfl⟩ := List.append_of_mem ht
  refine List.lookup_eq_some_iff.mpr ⟨before.map entry,after.map entry,by simp [entry],?_⟩
  intro e he
  obtain ⟨s,hs,rfl⟩ := List.mem_map.mp he
  have hnodup := h.nodup_rendered
  rw [List.map_append, List.map_cons, List.nodup_append] at hnodup
  have hne := hnodup.2.2 s.rendered (List.mem_map_of_mem hs) t.rendered (List.mem_cons_self ..)
  exact bne_iff_ne.mpr hne.symm

end IssuedToken.Series

/-- Tokenizing cuts the document exactly at its regions: the tokens stand for these regions in
order, each region is where its span says and no two overlap, the placeholder is the document with
the tokens in their places, and the map leads from each token back to its region. -/
theorem tokens_cut_document {width : Bytes → Nat} {o used : Token.Options} {document : Bytes}
    {t : Tokenized} (h : tokenizeWith width o document = .ok (t, used)) :
    (∀ regions, Region.RegionsFrom document 0 regions ↔
      regions = t.tokens.map fun s => (s.region.span, s.region.terminated)) ∧
    t.tokens.map (·.number) = List.range t.tokens.length ∧
    (∀ s ∈ t.tokens, s.region.span.Delimits document ∧
      ∃ opener, Region.Opener opener ∧ opener <+: s.region.span.text ∧
        (s.region.terminated = false ↔
          ¬ Region.closer <:+: document.drop (s.region.span.offset.toNat + opener.length))) ∧
    (∀ s ∈ t.tokens.dropLast, s.region.terminated = true) ∧
    (t.tokens.Pairwise fun a b => a.region.span.overlaps b.region.span = false ∧
      b.region.span.overlaps a.region.span = false) ∧
    t.placeholder = IssuedToken.replaceRegions document 0 t.tokens ∧
    t.map.keys = t.tokens.map (·.rendered) ∧ t.map.keys.Nodup ∧
    ∀ s ∈ t.tokens, t.map.get? s.rendered = some s.region.span.text := by
  obtain ⟨hlegal,hscan,-⟩ := tokenizeWith_eq_ok h
  obtain ⟨hregions,hplaceholder⟩ := cuts_of_scan_eq_ok hscan
  have hlaid := laidOut_of_scan_eq_ok hlegal hscan
  have hmember : ∀ s ∈ t.tokens, Region.RegionsFrom.Member document 0 s.located :=
    fun s hs => hregions.member _ (List.mem_map_of_mem hs)
  have hkeys : t.map.keys = t.tokens.map (·.rendered) := by
    rw [hlaid.map, Token.Map.keys, List.map_map]
    rfl
  refine ⟨fun regions => ⟨fun hr => hr.unique hregions,fun hr => hr ▸ hregions⟩,
    hlaid.series.numbers,fun s hs => ⟨(hmember s hs).delimits,(hmember s hs).opener⟩,?_,?_,
    hplaceholder,hkeys,hkeys ▸ hlaid.series.nodup_rendered,fun s hs => ?_⟩
  · intro s hs
    refine hregions.closed_of_mem_dropLast s.located ?_
    rw [← List.map_dropLast]
    exact List.mem_map_of_mem hs
  · refine (List.pairwise_map.mp hregions.pairwise_stop_le).imp_of_mem fun ha hb hab => ?_
    exact Span.overlaps_eq_false (hmember _ ha).length_pos (hmember _ hb).length_pos hab
  · rw [hlaid.map]
    exact hlaid.series.get?_entries hs

/-- The second region has no closer. -/
def sampleUnclosed : Bytes := "<i><?= 1 ?><?PHP 2"

def sampleUnclosedTokenized : Tokenized where
  placeholder := "<i><php_0__ /><php_1__ />"
  map := ⟨[("<php_0__ />", "<?= 1 ?>"), ("<php_1__ />", "<?PHP 2")]⟩
  tokens := [
    ⟨0, .tag, "<php_0__ />", ⟨⟨3, "<?= 1 ?>"⟩, .standalone, true⟩⟩,
    ⟨1, .tag, "<php_1__ />", ⟨⟨11, "<?PHP 2"⟩, .standalone, false⟩⟩]

theorem tokens_cut_sampleUnclosed :
    tokenizeWith List.length .default sampleUnclosed =
      .ok (sampleUnclosedTokenized, Token.Options.default) ∧
    Region.RegionsFrom sampleUnclosed 0 [(⟨3, "<?= 1 ?>"⟩, true), (⟨11, "<?PHP 2"⟩, false)] ∧
    sampleUnclosedTokenized.placeholder =
      IssuedToken.replaceRegions sampleUnclosed 0 sampleUnclosedTokenized.tokens := by
  have h : tokenizeWith List.length .default sampleUnclosed =
      .ok (sampleUnclosedTokenized, Token.Options.default) := by decide +kernel
  obtain ⟨hregions,-,-,-,-,hplaceholder,-⟩ := tokens_cut_document h
  exact ⟨h,(hregions _).mpr rfl,hplaceholder⟩

end Stencil
