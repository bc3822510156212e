import Stencil.Proofs.Scan.Layout

/-! Restoring undoes tokenizing. A placeholder that restores to its document holds its tokens only
where they were put, so it also restores when blanks are added inside tags; and tokens that are
moved, repeated or lost are still restored one by one. -/
namespace Stencil
open IssuedToken
variable {o used : Token.Options} {ts : List IssuedToken} {parts : List Part}

namespace Part

lemma quiet_nil (ms : List Matcher) : Quiet ms [] := by
  intro before c after h
  simp at h

lemma quiet_markup_iff {ms : List Matcher} {c : UInt8} :
    Quiet ms (.markup c :: parts) ↔
      (∀ m ∈ ms, m.matchLength (c :: parts.flatMap text) = 0) ∧ Quiet ms parts := by
  refine ⟨fun h => ⟨h [] c parts rfl,h.tail⟩,fun h before d after heq => ?_⟩
  obtain ⟨rfl,hcons⟩ | ⟨more,rfl,hmore⟩ := List.cons_eq_append_iff.mp heq
  · obtain ⟨hc,rfl⟩ := List.cons.inj hcons
    rw [markup.inj hc]
    exact h.1
  · exact h.2 more d after hmore

lemma quiet_token_iff {ms : List Matcher} {t : IssuedToken} {blanks : Bytes} :
    Quiet ms (.token t blanks :: parts) ↔ Quiet ms parts := by
  refine ⟨Quiet.tail,fun h before d after heq => ?_⟩
  obtain ⟨rfl,hcons⟩ | ⟨more,rfl,hmore⟩ := List.cons_eq_append_iff.mp heq
  · simp at hcons
  · exact h more d after hmore

instance decidableQuiet (ms : List Matcher) : (parts : List Part) → Decidable (Quiet ms parts)
  | [] => .isTrue (quiet_nil ms)
  | .markup _ :: parts =>
    have := decidableQuiet ms parts
    decidable_of_iff' _ quiet_markup_iff
  | .token _ _ :: parts =>
    have := decidableQuiet ms parts
    decidable_of_iff' _ quiet_token_iff

end Part

/-- A match at a byte of markup would put a region where the document has none. -/
theorem IssuedToken.Series.quiet_of_restored (h : Series o ts) (hfit : ∀ p ∈ parts, p.Fits ts)
    (hmarkup : ∀ before c after, parts = before ++ .markup c :: after →
      Region.openerLength (c :: after.flatMap Part.source) = 0)
    (htext : ((MatcherIndex.build (ts.map matcher)).segments
      (parts.flatMap Part.text)).flatMap Segment.text = parts.flatMap Part.source) :
    Part.Quiet (ts.map matcher) parts := by
  induction parts with
  | nil => exact Part.quiet_nil _
  | cons p parts ih =>
    have ih := ih (fun q hq => hfit q (List.mem_cons_of_mem _ hq))
      (fun before c after heq => hmarkup (p :: before) c after (by rw [heq, List.cons_append]))
    cases p with
    | markup c =>
      simp only [List.flatMap_cons, Part.text, Part.source, List.singleton_append] at htext
      cases hfind : (MatcherIndex.build (ts.map matcher)).find? (c :: parts.flatMap Part.text) with
      | none =>
        rw [MatcherIndex.segments, hfind] at htext
        have hrest := ih (List.cons.inj htext).2
        exact Part.quiet_markup_iff.mpr
          ⟨(MatcherIndex.find?_build_eq_none_iff h.name_matcher_ne_nil _).mp hfind,hrest⟩
      | some m =>
        obtain ⟨hm,hpos⟩ := MatcherIndex.find?_build_eq_some hfind
        obtain ⟨t,ht,rfl⟩ := List.mem_map.mp hm
        rw [MatcherIndex.segments_of_find?_eq_some hfind (by simp) hpos, List.flatMap_cons] at htext
        have hopen := Region.openerLength_pos_of_prefix (h.issued t ht).opened ⟨_,htext⟩
        exact absurd (hmarkup [] c parts rfl) hopen.ne'
    | token t blanks =>
      obtain ⟨ht,hb⟩ := hfit _ (List.mem_cons_self ..)
      simp only [List.flatMap_cons, Part.text, Part.source] at htext
      rw [h.segments_written ht hb, List.flatMap_cons] at htext
      exact Part.quiet_token_iff.mpr (ih (List.append_cancel_left htext))

namespace Tokenized.LaidOut
variable {document : Bytes} {t : Tokenized}

lemma fits (h : t.LaidOut o document) : ∀ p ∈ t.layout document, p.Fits t.tokens := by
  intro p hp
  cases p with
  | markup c => trivial
  | token s blanks =>
    have hb : blanks = [0x20] := h.plain _ hp
    refine ⟨?_,fun _ => hb ▸ ⟨by simp,by simp [Bytes.isSpace]⟩⟩
    rw [← h.tokens]
    exact List.mem_filterMap.mpr ⟨_,hp,rfl⟩

lemma source (h : t.LaidOut o document) :
    (t.layout document).flatMap Part.source = document := by
  rw [← Part.flatMap_text_chunk, h.chunks, Region.flatMap_text_split]

/-- The scan takes every region, so the markup it copies holds no opener. -/
lemma openerLength_markup (h : t.LaidOut o document) {before after : List Part} {c : UInt8}
    (heq : t.layout document = before ++ .markup c :: after) :
    Region.openerLength (c :: after.flatMap Part.source) = 0 := by
  have hchunks := h.chunks
  rw [heq, List.map_append, List.map_cons] at hchunks
  rw [← Part.flatMap_text_chunk]
  exact Region.openerLength_of_split hchunks.symm

/-- In a placeholder that restores to its document, tokens are found only where they were put. -/
theorem quiet (h : t.LaidOut o document)
    (hrestore : (restore t.placeholder t.map).text = document) :
    Part.Quiet (Matcher.ofMap t.map) (t.layout document) := by
  rw [h.map, h.series.ofMap_entries]
  apply h.series.quiet_of_restored h.fits (fun _ _ _ => h.openerLength_markup)
  rw [h.source, h.placeholder]
  rw [h.map, restore, h.series.ofMap_entries] at hrestore
  exact hrestore

end Tokenized.LaidOut

namespace Part

/-- Other blanks for each token, by its number. -/
def respace (blanks : Nat → Bytes) : Part → Part
  | .markup c => .markup c
  | .token t _ => .token t (blanks t.number)

@[simp] lemma source_respace (blanks : Nat → Bytes) (p : Part) :
    (p.respace blanks).source = p.source := by cases p <;> rfl

@[simp] lemma tokens_respace (blanks : Nat → Bytes) (parts : List Part) :
    tokens (parts.map (respace blanks)) = tokens parts := by
  rw [tokens, List.filterMap_map]
  exact List.filterMap_congr fun p _ => by cases p <;> rfl

end Part

/-- Only the first byte of a token can be `<`. -/
lemma IssuedToken.IssuedBy.lt_not_mem_written {t : IssuedToken} (h : t.IssuedBy o) (ho : o.Legal)
    {blanks : Bytes} (hb : t.shape = .tag → IsBlankRun blanks) : 0x3C ∉ (t.written blanks).tail := by
  obtain ⟨p,hp,-⟩ := h.name_matcher
  have hname := ho.lt_not_mem_name t.number t.shape p
  have hne := Token.Options.name_ne_nil o t.number t.shape p
  rw [h.written_eq, hp, List.tail_append_of_ne_nil hne, List.mem_append, not_or]
  refine ⟨hname,?_⟩
  match hs : t.shape with
  | .tag =>
    have hspace := (hb hs).isSpace
    simp only [List.mem_append, not_or]
    exact ⟨fun hc => absurd (hspace _ hc) (by decide),by decide⟩
  | .attribute => simp

lemma IssuedToken.IssuedBy.written_of_tag {t : IssuedToken} (h : t.IssuedBy o)
    (hs : t.shape = .tag) (blanks : Bytes) : ∃ rest, t.written blanks = 0x3C :: rest := by
  obtain ⟨p,hp,-⟩ := h.name_matcher
  rw [h.written_eq, hp, hs]
  exact ⟨_,rfl⟩

lemma prefix_append_of_prefix_append {x w a b : Bytes} (h : x <+: w ++ a)
    (hab : ∀ y, x = w ++ y → y <+: a → y <+: b) : x <+: w ++ b := by
  obtain hxw | ⟨y,rfl⟩ := List.prefix_or_prefix_of_prefix h (List.prefix_append w a)
  · exact hxw.trans (List.prefix_append w b)
  · rw [List.prefix_append_right_inj] at h ⊢
    exact hab y rfl h

/-- Text without `<` ends before the next tag, and only tags change with their blanks. -/
lemma Part.prefix_of_prefix_respace (blanks : Nat → Bytes)
    (hissued : ∀ t ∈ Part.tokens parts, t.IssuedBy o) {x : Bytes} (hx : 0x3C ∉ x)
    (h : x <+: (parts.map (Part.respace blanks)).flatMap Part.text) :
    x <+: parts.flatMap Part.text := by
  induction parts generalizing x with
  | nil => exact h
  | cons p parts ih =>
    cases p with
    | markup c =>
      apply prefix_append_of_prefix_append h
      rintro y rfl hy
      exact ih hissued (fun hc => hx (List.mem_append_right _ hc)) hy
    | token t bs =>
      have ht := hissued t (List.mem_cons_self ..)
      match hs : t.shape with
      | .tag =>
        obtain ⟨rest,hrest⟩ := ht.written_of_tag hs (blanks t.number)
        cases x with
        | nil => exact List.nil_prefix
        | cons c x =>
          simp only [List.map_cons, List.flatMap_cons, respace, text, hrest, List.cons_append] at h
          exact absurd ((List.cons_prefix_cons.mp h).1 ▸ List.mem_cons_self ..) hx
      | .attribute =>
        have hw (bs : Bytes) : t.written bs = t.rendered := by simp [written, hs]
        simp only [List.map_cons, List.flatMap_cons, respace, text, hw] at h ⊢
        apply prefix_append_of_prefix_append h
        rintro y rfl hy
        exact ih (fun s hs => hissued s (List.mem_cons_of_mem _ hs))
          (fun hc => hx (List.mem_append_right _ hc)) hy

/-- Other blanks inside the tags make no token appear in the markup. -/
theorem IssuedToken.Series.quiet_respace (h : Series o ts) (hts : ∀ t ∈ Part.tokens parts, t ∈ ts)
    (hq : Part.Quiet (ts.map matcher) parts) (blanks : Nat → Bytes) :
    Part.Quiet (ts.map matcher) (parts.map (Part.respace blanks)) := by
  induction parts with
  | nil => exact hq
  | cons p parts ih =>
    cases p with
    | token t bs =>
      exact Part.quiet_token_iff.mpr
        (ih (fun s hs => hts s (List.mem_cons_of_mem _ hs)) (Part.quiet_token_iff.mp hq))
    | markup c =>
      obtain ⟨hc,hrest⟩ := Part.quiet_markup_iff.mp hq
      refine Part.quiet_markup_iff.mpr ⟨fun m hm => ?_,ih hts hrest⟩
      obtain ⟨t,ht,rfl⟩ := List.mem_map.mp hm
      by_contra hpos
      obtain ⟨bs,hbs,hpre⟩ :=
        (h.issued t ht).written_prefix_of_matchLength_pos (Nat.pos_of_ne_zero hpos)
      have hlt := (h.issued t ht).lt_not_mem_written h.legal hbs
      -- the match starts at `c` and reaches no further tag, so it was there before
      obtain ⟨x,hx⟩ : t.written bs <+: c :: parts.flatMap Part.text := by
        cases hw : t.written bs with
        | nil => exact List.nil_prefix
        | cons d w =>
          rw [hw] at hpre hlt
          obtain ⟨hd,hw⟩ := List.cons_prefix_cons.mp hpre
          have hissued : ∀ s ∈ Part.tokens parts, s.IssuedBy o := fun s hs => h.issued s (hts s hs)
          exact List.cons_prefix_cons.mpr ⟨hd,Part.prefix_of_prefix_respace blanks hissued hlt hw⟩
      have hfound := h.matchLength_written_pos ht hbs x
      rw [hx, hc _ hm] at hfound
      exact Nat.lt_irrefl 0 hfound

/-- A document that already holds the text of a token, so that the stem is salted. -/
def sampleDocument : Bytes := "<php_0__ /><?= 1 ?><b id=<?= 2 ?>>"

def sampleTag : IssuedToken :=
  ⟨0, .tag, "<php_x1_0__ />", ⟨⟨11, "<?= 1 ?>"⟩, .standalone, true⟩⟩

def sampleAttribute : IssuedToken :=
  ⟨1, .attribute, "_php_x1_1__", ⟨⟨25, "<?= 2 ?>"⟩, .inAttribute, true⟩⟩

def sampleTokenized : Tokenized where
  placeholder := "<php_0__ /><php_x1_0__ /><b id=_php_x1_1__>"
  map := ⟨[sampleTag.entry, sampleAttribute.entry]⟩
  tokens := [sampleTag, sampleAttribute]

lemma tokenizeWith_sampleDocument : tokenizeWith List.length .default sampleDocument =
    .ok (sampleTokenized, Token.Options.default.salted 1) := by decide +kernel

section Tokenized
variable {width : Bytes → Nat} {document : Bytes} {t : Tokenized}

/-- If every token stands somewhere in a quiet document, nothing is missed. -/
lemma Tokenized.LaidOut.restore_parts (h : t.LaidOut o document) (hfit : ∀ p ∈ parts, p.Fits t.tokens)
    (hq : Part.Quiet (Matcher.ofMap t.map) parts) (htokens : Part.tokens parts = t.tokens) :
    restore (parts.flatMap Part.text) t.map =
      ⟨parts.flatMap Part.source, t.tokens.length, []⟩ := by
  rw [h.map] at hq ⊢
  rw [h.series.restore_parts hfit hq, htokens]
  congr 1
  rw [List.map_eq_nil_iff, List.filter_eq_nil_iff]
  intro s hs
  simpa using ⟨s,hs,rfl⟩

/-- What tokenizing gives restores to the document. The parse that restoring makes is the layout
of the scan: each token is read once, where it was put, and each byte of markup is left alone. -/
theorem restore_tokenized (h : tokenizeWith width o document = .ok (t, used)) :
    (t.layout document).flatMap Part.source = document ∧
    (t.layout document).flatMap Part.text = t.placeholder ∧
    Part.tokens (t.layout document) = t.tokens ∧
    (MatcherIndex.build (Matcher.ofMap t.map)).segments t.placeholder =
      (t.layout document).map Part.segment ∧
    restore t.placeholder t.map = ⟨document, t.tokens.length, []⟩ := by
  obtain ⟨hlegal,hscan,hrestore⟩ := tokenizeWith_eq_ok h
  have hlaid := laidOut_of_scan_eq_ok hlegal hscan
  have hquiet := hlaid.quiet hrestore
  have hsegments := hlaid.restore_parts hlaid.fits hquiet hlaid.tokens
  refine ⟨hlaid.source,hlaid.placeholder,hlaid.tokens,?_,?_⟩
  · rw [hlaid.map, hlaid.series.ofMap_entries] at hquiet ⊢
    rw [← hlaid.placeholder]
    exact hlaid.series.segments_parts hlaid.fits hquiet
  · rwa [hlaid.placeholder, hlaid.source] at hsegments

theorem restore_sampleTokenized :
    tokenizeWith List.length .default sampleDocument =
      .ok (sampleTokenized, Token.Options.default.salted 1) ∧
    restore sampleTokenized.placeholder sampleTokenized.map = ⟨sampleDocument, 2, []⟩ :=
  ⟨tokenizeWith_sampleDocument,(restore_tokenized tokenizeWith_sampleDocument).2.2.2.2⟩

/-- The blanks before the `/>` of each tag may be any others. -/
theorem restore_respaced (h : tokenizeWith width o document = .ok (t, used)) (blanks : Nat → Bytes)
    (hb : ∀ s ∈ t.tokens, s.shape = .tag → IsBlankRun (blanks s.number)) :
    (t.layout document).flatMap Part.text = t.placeholder ∧
    restore (((t.layout document).map (Part.respace blanks)).flatMap Part.text) t.map =
      ⟨document, t.tokens.length, []⟩ := by
  obtain ⟨hlegal,hscan,hrestore⟩ := tokenizeWith_eq_ok h
  have hlaid := laidOut_of_scan_eq_ok hlegal hscan
  refine ⟨hlaid.placeholder,?_⟩
  have hfit : ∀ p ∈ (t.layout document).map (Part.respace blanks), p.Fits t.tokens := by
    intro p hp
    obtain ⟨q,hq,rfl⟩ := List.mem_map.mp hp
    cases q with
    | markup c => trivial
    | token s bs =>
      have hs := (hlaid.fits _ hq).1
      exact ⟨hs,hb s hs⟩
  have hquiet : Part.Quiet (Matcher.ofMap t.map) ((t.layout document).map (Part.respace blanks)) := by
    have hquiet := hlaid.quiet hrestore
    rw [hlaid.map, hlaid.series.ofMap_entries] at hquiet ⊢
    exact hlaid.series.quiet_respace (fun s hs => hlaid.tokens ▸ hs) hquiet blanks
  rw [hlaid.restore_parts hfit hquiet (by rw [Part.tokens_respace, hlaid.tokens]), List.flatMap_map]
  simp only [Part.source_respace, hlaid.source]

theorem restore_sampleTokenized_respaced :
    tokenizeWith List.length .default sampleDocument =
      .ok (sampleTokenized, Token.Options.default.salted 1) ∧ IsBlankRun [0x0A, 0x09] ∧
    restore (((sampleTokenized.layout sampleDocument).map
      (Part.respace fun _ => [0x0A, 0x09])).flatMap Part.text) sampleTokenized.map =
        ⟨sampleDocument, 2, []⟩ :=
  have hb : IsBlankRun [0x0A, 0x09] := ⟨by simp,by simp [Bytes.isSpace]⟩
  ⟨tokenizeWith_sampleDocument,hb,
    (restore_respaced tokenizeWith_sampleDocument (fun _ => [0x0A, 0x09]) fun _ _ _ => hb).2⟩

/-- Whatever becomes of the tokens, restoring replaces each of those that are there by its region
and reports those that are not, in order. -/
theorem restore_rearranged (h : tokenizeWith width o document = .ok (t, used)) (parts : List Part)
    (hfit : ∀ p ∈ parts, p.Fits t.tokens) (hq : Part.Quiet (Matcher.ofMap t.map) parts) :
    t.tokens.map (·.number) = List.range t.tokens.length ∧
    restore (parts.flatMap Part.text) t.map =
      { text := parts.flatMap Part.source
        replaced := (Part.tokens parts).length
        misses := (t.tokens.filter fun s =>
          s.number ∉ (Part.tokens parts).map (·.number)).map IssuedToken.miss } := by
  obtain ⟨hlegal,hscan,-⟩ := tokenizeWith_eq_ok h
  have hlaid := laidOut_of_scan_eq_ok hlegal hscan
  refine ⟨hlaid.series.numbers,?_⟩
  rw [hlaid.map] at hq ⊢
  exact hlaid.series.restore_parts hfit hq

/-- The attribute stands twice with a byte between that could be its filler; the tag is lost. -/
def sampleParts : List Part :=
  [.token sampleAttribute [], .markup 0x5F, .token sampleAttribute []]

theorem restore_sampleParts :
    (∀ p ∈ sampleParts, p.Fits sampleTokenized.tokens) ∧
    Part.Quiet (Matcher.ofMap sampleTokenized.map) sampleParts ∧
    restore (sampleParts.flatMap Part.text) sampleTokenized.map =
      ⟨sampleParts.flatMap Part.source, 2, [sampleTag.miss]⟩ := by
  have hfit : ∀ p ∈ sampleParts, p.Fits sampleTokenized.tokens := by
    simp [sampleParts, Part.Fits, sampleTokenized, sampleAttribute]
  have hquiet : Part.Quiet (Matcher.ofMap sampleTokenized.map) sampleParts := by decide +kernel
  exact ⟨hfit,hquiet,
    (restore_rearranged tokenizeWith_sampleDocument sampleParts hfit hquiet).2⟩

end Tokenized
end Stencil
