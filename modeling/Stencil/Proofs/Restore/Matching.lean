import Stencil.Proofs.Token.Names

/-! Which token restoring finds at a place of a document. The index of matchers loses none of
them, and of the tokens of one scan at most one is found anywhere: the one that is written there. -/
namespace Stencil

namespace MatcherIndex

lemma shortestName_le {m : Matcher} {ms : List Matcher} (h : m ∈ ms) :
    shortestName ms ≤ m.name.length := by
  induction ms with
  | nil => simp at h
  | cons a more ih =>
    cases more with
    | nil => simp_all [shortestName]
    | cons b rest =>
      simp only [shortestName]
      obtain rfl | hm := List.mem_cons.mp h
      · exact Nat.min_le_left _ _
      · exact (Nat.min_le_right _ _).trans (ih hm)

lemma shortestName_pos {ms : List Matcher} (hms : ms ≠ []) (hne : ∀ m ∈ ms, m.name ≠ []) :
    0 < shortestName ms := by
  induction ms with
  | nil => contradiction
  | cons a more ih =>
    have ha := List.length_pos_iff.mpr (hne a (by simp))
    cases more with
    | nil => simpa [shortestName] using ha
    | cons b rest =>
      have hrest := ih (by simp) (fun m hm => hne m (List.mem_cons_of_mem _ hm))
      simp only [shortestName]
      omega

lemma lookup_map_key {α : Type} (keys : List Bytes) (f : Bytes → α) (key : Bytes) :
    (keys.map fun k => (k, f k)).lookup key = if key ∈ keys then some (f key) else none := by
  induction keys with
  | nil => simp
  | cons k rest ih =>
    by_cases h : key = k
    · simp [h]
    · have hb : (key == k) = false := beq_false_of_ne h
      simp [List.lookup_cons, hb, h, ih]

/-- Looking up a bucket is looking among all matchers with the same first bytes. -/
theorem find?_build (ms : List Matcher) (b : Bytes) (h : shortestName ms ≠ 0) :
    (build ms).find? b =
      ((ms.filter fun m => m.name.take (shortestName ms) == b.take (shortestName ms)).mergeSort
        Matcher.before).find? (fun m => 0 < m.matchLength b) := by
  simp only [find?, build, h, if_false, lookup_map_key, List.mem_eraseDups]
  split
  · next hl =>
    split at hl
    · contradiction
    · next hkey =>
      have hempty : (ms.filter fun m =>
          m.name.take (shortestName ms) == b.take (shortestName ms)) = [] := by
        rw [List.filter_eq_nil_iff]
        intro m hm heq
        exact hkey (List.mem_map.mpr ⟨m,hm,by simpa using heq⟩)
      simp [hempty]
  · next hl =>
    split at hl
    · rw [← Option.some.inj hl]
    · contradiction

theorem find?_build_eq_some {ms : List Matcher} {m : Matcher} {b : Bytes}
    (h : (build ms).find? b = some m) : m ∈ ms ∧ 0 < m.matchLength b := by
  by_cases hz : shortestName ms = 0
  · simp [find?, build, hz] at h
  · rw [find?_build ms b hz] at h
    have hmem := List.mem_of_find?_eq_some h
    rw [List.mem_mergeSort] at hmem
    exact ⟨(List.mem_filter.mp hmem).1,by simpa using List.find?_some h⟩

end MatcherIndex

lemma Matcher.name_prefix_of_matchLength_pos {m : Matcher} {b : Bytes}
    (h : 0 < m.matchLength b) : m.name <+: b := by
  unfold matchLength at h
  split at h
  · next hp => exact List.isPrefixOf_iff_prefix.mp hp
  · simp at h

namespace MatcherIndex

/-- A matcher that fits is in the bucket of the bytes it starts with. -/
lemma mem_bucket {ms : List Matcher} {m : Matcher} {b : Bytes} (hm : m ∈ ms)
    (h : 0 < m.matchLength b) :
    m ∈ ms.filter fun m => m.name.take (shortestName ms) == b.take (shortestName ms) := by
  obtain ⟨x,rfl⟩ := Matcher.name_prefix_of_matchLength_pos h
  have hkey : m.name.take (shortestName ms) == (m.name ++ x).take (shortestName ms) := by
    rw [List.take_append_of_le_length (shortestName_le hm), beq_self_eq_true]
  exact List.mem_filter.mpr ⟨hm,hkey⟩

theorem find?_build_eq_none_iff {ms : List Matcher} (hne : ∀ m ∈ ms, m.name ≠ []) (b : Bytes) :
    (build ms).find? b = none ↔ ∀ m ∈ ms, m.matchLength b = 0 := by
  constructor
  · intro h m hm
    by_contra hpos
    have hz := (shortestName_pos (List.ne_nil_of_mem hm) hne).ne'
    rw [find?_build ms b hz, List.find?_eq_none] at h
    have hbucket := h m (List.mem_mergeSort.mpr (mem_bucket hm (Nat.pos_of_ne_zero hpos)))
    simp at hbucket
    exact hpos hbucket
  · intro h
    by_contra hsome
    obtain ⟨m,hm⟩ := Option.ne_none_iff_exists'.mp hsome
    obtain ⟨hmem,hpos⟩ := find?_build_eq_some hm
    exact hpos.ne' (h m hmem)

/-- A token that is found is cut off whole. -/
lemma segments_of_find?_eq_some {index : MatcherIndex} {m : Matcher} {b : Bytes}
    (h : index.find? b = some m) (hb : b ≠ []) (hpos : 0 < m.matchLength b) :
    index.segments b = .hit m :: index.segments (b.drop (m.matchLength b)) := by
  obtain ⟨c,rest,rfl⟩ := List.exists_cons_of_ne_nil hb
  obtain ⟨n,hn⟩ := Nat.exists_eq_succ_of_ne_zero hpos.ne'
  rw [segments]
  simp only [h, hn, Nat.succ_eq_add_one, Nat.add_sub_cancel, List.drop_succ_cons]

lemma segments_of_find?_eq_none {index : MatcherIndex} {c : UInt8} {rest : Bytes}
    (h : index.find? (c :: rest) = none) :
    index.segments (c :: rest) = .literal c :: index.segments rest := by
  rw [segments]
  simp only [h]

/-- What a document is cut into holds only matchers of the index. -/
lemma mem_of_hit_mem_segments {ms : List Matcher} {m : Matcher} {document : Bytes}
    (h : .hit m ∈ (build ms).segments document) : m ∈ ms := by
  induction document using segments.induct (build ms) with
  | case1 => simp [segments] at h
  | case2 b rest m' hfind ih =>
    rw [segments, hfind] at h
    obtain h | h := List.mem_cons.mp h
    · exact Segment.hit.inj h ▸ (find?_build_eq_some hfind).1
    · exact ih h
  | case3 b rest hfind ih =>
    rw [segments, hfind] at h
    obtain h | h := List.mem_cons.mp h
    · simp at h
    · exact ih h

/-- One empty name is enough to leave an index without keys. -/
lemma keyLength_build_of_name_eq_nil {ms : List Matcher} {m : Matcher} (hm : m ∈ ms)
    (hname : m.name = []) : (build ms).keyLength = 0 := by
  have hle := shortestName_le hm
  rw [hname] at hle
  exact Nat.le_zero.mp hle

/-- An index without keys finds nothing. -/
lemma segments_of_keyLength_eq_zero {index : MatcherIndex} (h : index.keyLength = 0) (b : Bytes) :
    index.segments b = b.map .literal := by
  induction b with
  | nil => rw [segments, List.map_nil]
  | cons c b ih =>
    have hnone : index.find? (c :: b) = none := by rw [find?, if_pos h]
    rw [segments_of_find?_eq_none hnone, ih, List.map_cons]

end MatcherIndex

/-- Where nothing is found, the text stays as it is and every token is missed. -/
theorem restore_of_keyLength_eq_zero {map : Token.Map}
    (h : (MatcherIndex.build (Matcher.ofMap map)).keyLength = 0) (document : Bytes) :
    restore document map =
      ⟨document, 0, (Matcher.ofMap map).map fun m => ⟨m.index, m.token, m.source⟩⟩ := by
  have htext : (document.map Segment.literal).flatMap Segment.text = document := by
    rw [List.flatMap_map]
    exact List.flatMap_singleton' document
  have hcount : (document.map Segment.literal).countP Segment.isHit = 0 := by
    rw [List.countP_map]
    exact List.countP_eq_zero.mpr fun c _ => Bool.false_ne_true
  have hmissed : ((Matcher.ofMap map).filter fun m =>
      !(document.map Segment.literal).any (·.hits m)) = Matcher.ofMap map := by
    rw [List.filter_eq_self]
    intro m _
    simp [Segment.hits]
  rw [restore, MatcherIndex.segments_of_keyLength_eq_zero h, Restored.ofSegments, htext, hcount,
    hmissed]

/-- A non-empty run of white space. -/
structure IsBlankRun (b : Bytes) : Prop where
  ne_nil : b ≠ []
  isSpace : ∀ c ∈ b, Bytes.isSpace c

/-- A tag fits where its name is followed by blanks and what closes it. -/
lemma Matcher.exists_blanks_of_matchLength_pos {m : Matcher} {b : Bytes} (htag : m.isTag = true)
    (h : 0 < m.matchLength b) :
    ∃ blanks, IsBlankRun blanks ∧ m.name ++ blanks ++ [0x2F, 0x3E] <+: b := by
  obtain ⟨x,rfl⟩ := name_prefix_of_matchLength_pos h
  simp only [matchLength, htag, if_true, List.drop_left] at h
  split at h
  · split at h
    · next hblank =>
      simp only [Bool.and_eq_true, Bool.not_eq_true', List.isEmpty_eq_false_iff,
        List.isPrefixOf_iff_prefix] at hblank
      obtain ⟨hne,y,hy⟩ := hblank
      refine ⟨x.takeWhile Bytes.isSpace,⟨hne,fun c hc => List.mem_takeWhile_imp hc⟩,?_⟩
      rw [List.append_assoc, List.prefix_append_right_inj]
      refine ⟨y,?_⟩
      rw [List.append_assoc, hy, List.prefix_iff_eq_append.mp (List.takeWhile_prefix _)]
    · simp at h
  · simp at h

namespace IssuedToken

def matcher (t : IssuedToken) : Matcher := ⟨t.number, t.rendered, t.region.span.text⟩

/-- The token with these blanks in place of the one before its `/>`, if it is a tag. -/
def written (t : IssuedToken) (blanks : Bytes) : Bytes :=
  match t.shape with
  | .tag => t.rendered.take (t.rendered.length - (Token.tail .tag).length) ++ blanks ++ [0x2F, 0x3E]
  | .attribute => t.rendered

/-- What a scan with these options makes sure of for each token. -/
structure IssuedBy (o : Token.Options) (t : IssuedToken) : Prop where
  rendered : ∃ padding, t.rendered = o.name t.number t.shape padding ++ Token.tail t.shape
  shape : t.shape = t.region.context.shape
  opened : 0 < Region.openerLength t.region.span.text

namespace IssuedBy
variable {o : Token.Options} {t : IssuedToken}

lemma isTag_matcher (h : t.IssuedBy o) : t.matcher.isTag ↔ t.shape = .tag := by
  obtain ⟨p,hp⟩ := h.rendered
  match hs : t.shape with
  | .tag =>
    rw [hs] at hp
    simp only [Matcher.isTag, matcher, hp, iff_true, Bool.and_eq_true]
    refine ⟨?_,List.isSuffixOf_iff_suffix.mpr (List.suffix_append _ _)⟩
    rw [List.isPrefixOf_iff_prefix, Token.Options.name, List.append_assoc, List.append_assoc]
    exact List.prefix_append _ _
  | .attribute =>
    rw [hs] at hp
    simp [Matcher.isTag, matcher, hp, Token.Options.name, Token.lead]

/-- A matcher looks for the name of its token. -/
lemma name_matcher (h : t.IssuedBy o) :
    ∃ padding, t.matcher.name = o.name t.number t.shape padding ∧
      t.rendered = t.matcher.name ++ Token.tail t.shape := by
  obtain ⟨p,hp⟩ := h.rendered
  refine ⟨p,?_⟩
  suffices hn : t.matcher.name = o.name t.number t.shape p from ⟨hn,hn ▸ hp⟩
  have htag := h.isTag_matcher
  match hs : t.shape with
  | .tag =>
    rw [Matcher.name, if_pos (htag.mpr hs)]
    simp [matcher, hp, hs]
  | .attribute =>
    rw [Matcher.name, if_neg (by rw [htag, hs]; decide)]
    simp [matcher, hp, hs, Token.tail]

/-- A token is written as its name and what closes its shape. -/
lemma written_eq (h : t.IssuedBy o) (blanks : Bytes) :
    t.written blanks = t.matcher.name ++
      (match t.shape with | .tag => blanks ++ [0x2F, 0x3E] | .attribute => []) := by
  obtain ⟨p,-,hr⟩ := h.name_matcher
  match hs : t.shape with
  | .tag => simp [written, hs, hr]
  | .attribute => simp [written, hs, hr, Token.tail]

lemma written_blank (h : t.IssuedBy o) : t.written [0x20] = t.rendered := by
  obtain ⟨p,-,hr⟩ := h.name_matcher
  rw [h.written_eq, hr]
  cases t.shape <;> simp [Token.tail]

/-- Whatever follows a token and whatever blanks it has, it is found whole. -/
theorem matchLength_written (h : t.IssuedBy o) {blanks : Bytes}
    (hb : t.shape = .tag → IsBlankRun blanks) (rest : Bytes) :
    t.matcher.matchLength (t.written blanks ++ rest) = (t.written blanks).length := by
  have htag := h.isTag_matcher
  have hpre : t.matcher.name.isPrefixOf (t.written blanks ++ rest) := by
    rw [List.isPrefixOf_iff_prefix, h.written_eq, List.append_assoc]
    exact List.prefix_append _ _
  rw [Matcher.matchLength, if_pos hpre, h.written_eq]
  match hs : t.shape with
  | .tag =>
    obtain ⟨hne,hspace⟩ := hb hs
    have htake : (blanks ++ 0x2F :: 0x3E :: rest).takeWhile Bytes.isSpace = blanks := by
      rw [List.takeWhile_append_of_pos hspace]
      simp [show Bytes.isSpace 0x2F = false from rfl]
    simp [htag, hs, htake, hne]
    omega
  | .attribute => simp [htag, hs]

/-- What is found is the token with some blanks. -/
theorem written_prefix_of_matchLength_pos (h : t.IssuedBy o) {b : Bytes}
    (hpos : 0 < t.matcher.matchLength b) :
    ∃ blanks, (t.shape = .tag → IsBlankRun blanks) ∧ t.written blanks <+: b := by
  match hs : t.shape with
  | .tag =>
    obtain ⟨blanks,hblanks,hpre⟩ :=
      Matcher.exists_blanks_of_matchLength_pos (h.isTag_matcher.mpr hs) hpos
    refine ⟨blanks,fun _ => hblanks,?_⟩
    rwa [h.written_eq, hs, ← List.append_assoc]
  | .attribute =>
    refine ⟨[],fun hc => by simp at hc,?_⟩
    rw [h.written_eq, hs, List.append_nil]
    exact Matcher.name_prefix_of_matchLength_pos hpos

end IssuedBy

/-- The tokens of one scan, numbered in order. -/
structure Series (o : Token.Options) (ts : List IssuedToken) : Prop where
  legal : o.Legal
  issued : ∀ t ∈ ts, t.IssuedBy o
  numbers : ts.map (·.number) = List.range ts.length

namespace Series
variable {o : Token.Options} {ts : List IssuedToken} {s t : IssuedToken} {b : Bytes}

lemma eq_of_number_eq (h : Series o ts) (hs : s ∈ ts) (ht : t ∈ ts) (hn : s.number = t.number) :
    s = t :=
  List.inj_on_of_nodup_map (h.numbers ▸ List.nodup_range) hs ht hn

/-- No two tokens of a scan are found at the same place. -/
theorem eq_of_matchLength_pos (h : Series o ts) (hs : s ∈ ts) (ht : t ∈ ts)
    (hsb : 0 < s.matcher.matchLength b) (htb : 0 < t.matcher.matchLength b) : s = t := by
  obtain ⟨p,hp,-⟩ := (h.issued s hs).name_matcher
  obtain ⟨q,hq,-⟩ := (h.issued t ht).name_matcher
  have hsp := hp ▸ Matcher.name_prefix_of_matchLength_pos hsb
  have htp := hq ▸ Matcher.name_prefix_of_matchLength_pos htb
  exact h.eq_of_number_eq hs ht (Token.Options.name_prefix_unique hsp htp).1

lemma name_matcher_ne_nil (h : Series o ts) : ∀ m ∈ ts.map matcher, m.name ≠ [] := by
  intro m hm
  obtain ⟨t,ht,rfl⟩ := List.mem_map.mp hm
  obtain ⟨p,hp,-⟩ := (h.issued t ht).name_matcher
  rw [hp]
  exact Token.Options.name_ne_nil o t.number t.shape p

lemma find?_eq_none_iff (h : Series o ts) :
    (MatcherIndex.build (ts.map matcher)).find? b = none ↔
      ∀ t ∈ ts, t.matcher.matchLength b = 0 := by
  rw [MatcherIndex.find?_build_eq_none_iff h.name_matcher_ne_nil, List.forall_mem_map]

lemma matchLength_written_pos (h : Series o ts) (ht : t ∈ ts) {blanks : Bytes}
    (hb : t.shape = .tag → IsBlankRun blanks) (rest : Bytes) :
    0 < t.matcher.matchLength (t.written blanks ++ rest) := by
  have hname := List.length_pos_iff.mpr (h.name_matcher_ne_nil _ (List.mem_map_of_mem ht))
  rw [(h.issued t ht).matchLength_written hb rest, (h.issued t ht).written_eq, List.length_append]
  omega

/-- Where a token is written, that token is found. -/
theorem find?_written (h : Series o ts) (ht : t ∈ ts) {blanks : Bytes}
    (hb : t.shape = .tag → IsBlankRun blanks) (rest : Bytes) :
    (MatcherIndex.build (ts.map matcher)).find? (t.written blanks ++ rest) = some t.matcher := by
  have hpos := h.matchLength_written_pos ht hb rest
  cases hf : (MatcherIndex.build (ts.map matcher)).find? (t.written blanks ++ rest) with
  | none => exact absurd (h.find?_eq_none_iff.mp hf t ht) hpos.ne'
  | some m =>
    obtain ⟨hm,hmpos⟩ := MatcherIndex.find?_build_eq_some hf
    obtain ⟨s,hs,rfl⟩ := List.mem_map.mp hm
    rw [h.eq_of_matchLength_pos hs ht hmpos hpos]

/-- Reading a token where it is written goes on after it. -/
theorem segments_written (h : Series o ts) (ht : t ∈ ts) {blanks : Bytes}
    (hb : t.shape = .tag → IsBlankRun blanks) (rest : Bytes) :
    (MatcherIndex.build (ts.map matcher)).segments (t.written blanks ++ rest) =
      .hit t.matcher :: (MatcherIndex.build (ts.map matcher)).segments rest := by
  have hlen := (h.issued t ht).matchLength_written hb rest
  have hpos := h.matchLength_written_pos ht hb rest
  have hne : t.written blanks ++ rest ≠ [] := by
    intro hnil
    have hw : (t.written blanks).length = 0 := by simp_all
    omega
  rw [MatcherIndex.segments_of_find?_eq_some (h.find?_written ht hb rest) hne hpos, hlen,
    List.drop_left]

end Series
end IssuedToken
end Stencil
