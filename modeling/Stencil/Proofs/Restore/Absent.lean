import Stencil.Proofs.Restore.Plain
import Stencil.Proofs.Scan.Layout

/-! Tokens that a document does not hold. Each token of a map has a say in the keys of the index, as
they are as long as the shortest name; but one that fits nowhere changes nothing of what is found.
Only the empty token does: its name leaves no key, and an index without keys finds nothing. -/
namespace Stencil

namespace MatcherIndex

/-- Indices that find the same cut a document in the same way. -/
lemma segments_congr {t u : MatcherIndex} {document : Bytes}
    (h : ∀ b, b ≠ [] → b <:+ document → t.find? b = u.find? b) :
    t.segments document = u.segments document := by
  induction document using MatcherIndex.segments.induct t with
  | case1 => rw [segments, segments]
  | case2 b rest m hfind ih =>
    have hrest := ih fun x hne hx => h x hne (hx.trans ((List.drop_suffix _ rest).trans
      (List.suffix_cons b rest)))
    rw [segments, segments, ← h (b :: rest) (List.cons_ne_nil b rest) List.suffix_rfl, hfind]
    exact congrArg (_ :: ·) hrest
  | case3 b rest hfind ih =>
    have hrest := ih fun x hne hx => h x hne (hx.trans (List.suffix_cons b rest))
    rw [segments, segments, ← h (b :: rest) (List.cons_ne_nil b rest) List.suffix_rfl, hfind]
    exact congrArg (_ :: ·) hrest

variable {ms : List Matcher} {x : Matcher} {b : Bytes}

/-- A matcher with a name that does not fit is not noticed. -/
theorem find?_build_concat (hindex : (ms ++ [x]).Pairwise fun a b => a.index < b.index)
    (hname : x.name ≠ []) (habsent : x.matchLength b = 0) :
    (build (ms ++ [x])).find? b = (build ms).find? b := by
  by_cases hne : ∀ m ∈ ms, m.name ≠ []
  · have hne' : ∀ m ∈ ms ++ [x], m.name ≠ [] := by
      intro m hm
      obtain hm | hm := List.mem_append.mp hm
      · exact hne m hm
      · rwa [List.mem_singleton.mp hm]
    apply Option.ext
    intro m
    rw [find?_build_eq_some_iff hne' hindex,
      find?_build_eq_some_iff hne (List.pairwise_append.mp hindex).1]
    apply Matcher.wins_congr
    intro y hpos
    rw [List.mem_append, List.mem_singleton]
    constructor
    · rintro (hy | rfl)
      · exact hy
      · exact absurd habsent hpos.ne'
    · exact Or.inl
  · push Not at hne
    obtain ⟨m,hm,hnil⟩ := hne
    have hzero := keyLength_build_of_name_eq_nil hm hnil
    have hzero' := keyLength_build_of_name_eq_nil (List.mem_append_left [x] hm) hnil
    rw [find?, find?, if_pos hzero, if_pos hzero']

end MatcherIndex

/-- A new token has the last matcher. -/
lemma Matcher.ofMap_concat (m : Token.Map) (token source : Bytes) :
    ofMap ⟨m.entries ++ [(token, source)]⟩ = ofMap m ++ [⟨m.size, token, source⟩] := by
  rw [ofMap, List.zipIdx_append, List.map_append]
  simp [ofMap, Token.Map.size]

lemma Matcher.index_lt_of_mem_ofMap {map : Token.Map} {m : Matcher} (h : m ∈ ofMap map) :
    m.index < map.size := by
  obtain ⟨⟨⟨token,source⟩,index⟩,he,rfl⟩ := List.mem_map.mp h
  have hlt := List.snd_lt_of_mem_zipIdx he
  exact hlt

/-- No token of a map has the index of the one that is added next. -/
lemma Segment.not_hits_of_mem_segments {map : Token.Map} {document : Bytes} {s : Segment}
    (hs : s ∈ (MatcherIndex.build (Matcher.ofMap map)).segments document) (token source : Bytes) :
    s.hits ⟨map.size, token, source⟩ = false := by
  cases s with
  | literal c => rfl
  | hit m =>
    have hlt := Matcher.index_lt_of_mem_ofMap (MatcherIndex.mem_of_hit_mem_segments hs)
    exact beq_false_of_ne hlt.ne

section Add
variable {document : Bytes} {m m' : Token.Map} {token source : Bytes}

/-- With one more token the document is cut as before. -/
lemma segments_add (htoken : token ≠ [])
    (habsent : ∀ i < document.length,
      Matcher.matchLength ⟨m.size, token, source⟩ (document.drop i) = 0) :
    (MatcherIndex.build (Matcher.ofMap ⟨m.entries ++ [(token, source)]⟩)).segments document =
      (MatcherIndex.build (Matcher.ofMap m)).segments document := by
  apply MatcherIndex.segments_congr
  rintro b hne ⟨before,rfl⟩
  have hhere := habsent before.length (by simp [List.length_pos_iff.mpr hne])
  rw [List.drop_left] at hhere
  have hindex := Matcher.pairwise_index_ofMap ⟨m.entries ++ [(token, source)]⟩
  rw [Matcher.ofMap_concat] at hindex ⊢
  exact MatcherIndex.find?_build_concat hindex (Matcher.name_ne_nil htoken) hhere

/-- A token that fits nowhere in the document disturbs no other: the text and the number of tokens
replaced stay, and it is the last that is missed. The empty token is the exception, as nothing at
all is found with it in the map. -/
theorem restore_add (hadd : m.add token source = .ok m')
    (habsent : ∀ i < document.length,
      Matcher.matchLength ⟨m.size, token, source⟩ (document.drop i) = 0) :
    (token ≠ [] → restore document m' =
      { restore document m with
        misses := (restore document m).misses ++ [⟨m.size, token, source⟩] }) ∧
    (token = [] → restore document m' =
      ⟨document, 0, (Matcher.ofMap m').map fun x => ⟨x.index, x.token, x.source⟩⟩) := by
  obtain ⟨-,rfl⟩ := Token.Map.add_eq_ok hadd
  constructor
  · intro htoken
    have hmissed : (((MatcherIndex.build (Matcher.ofMap m)).segments document).any
        (·.hits ⟨m.size, token, source⟩)) = false := by
      rw [List.any_eq_false]
      intro s hs
      rw [Segment.not_hits_of_mem_segments hs]
      exact Bool.false_ne_true
    simp only [restore, segments_add htoken habsent]
    rw [Matcher.ofMap_concat, Restored.ofSegments, Restored.ofSegments, List.filter_append,
      List.map_append, List.filter_cons_of_pos (by rw [hmissed]; rfl)]
    rfl
  · rintro rfl
    apply restore_of_keyLength_eq_zero
    apply MatcherIndex.keyLength_build_of_name_eq_nil (m := ⟨m.size, [], source⟩)
    · rw [Matcher.ofMap_concat]
      exact List.mem_append_right _ (List.mem_singleton_self _)
    · rfl

end Add

/-- One attribute token, as it may be read from a file. -/
def sampleLoaded : Token.Map := ⟨[("_php_0__", "<?= 1 ?>")]⟩

def sampleLoadedShort : Token.Map := ⟨[("_php_0__", "<?= 1 ?>"), ("x", "")]⟩

def sampleLoadedEmpty : Token.Map := ⟨[("_php_0__", "<?= 1 ?>"), ("", "")]⟩

def sampleLoadedDocument : Bytes := "_php_0__"

/-- A short token that is not there changes nothing; the empty token hides the other one. -/
theorem restore_add_sampleLoaded :
    restore sampleLoadedDocument sampleLoaded = ⟨"<?= 1 ?>", 1, []⟩ ∧
    sampleLoaded.add "x" "" = .ok sampleLoadedShort ∧
    (∀ i < sampleLoadedDocument.length,
      Matcher.matchLength ⟨sampleLoaded.size, "x", ""⟩ (sampleLoadedDocument.drop i) = 0) ∧
    restore sampleLoadedDocument sampleLoadedShort = ⟨"<?= 1 ?>", 1, [⟨1, "x", ""⟩]⟩ ∧
    sampleLoaded.add "" "" = .ok sampleLoadedEmpty ∧
    (∀ i < sampleLoadedDocument.length,
      Matcher.matchLength ⟨sampleLoaded.size, "", ""⟩ (sampleLoadedDocument.drop i) = 0) ∧
    restore sampleLoadedDocument sampleLoadedEmpty =
      ⟨"_php_0__", 0, [⟨0, "_php_0__", "<?= 1 ?>"⟩, ⟨1, "", ""⟩]⟩ := by
  have hfound : restore sampleLoadedDocument sampleLoaded = ⟨"<?= 1 ?>", 1, []⟩ := by decide +kernel
  have hshort : sampleLoaded.add "x" "" = .ok sampleLoadedShort := by decide +kernel
  have hempty : sampleLoaded.add "" "" = .ok sampleLoadedEmpty := by decide +kernel
  have habsent : ∀ i < sampleLoadedDocument.length,
      Matcher.matchLength ⟨sampleLoaded.size, "x", ""⟩ (sampleLoadedDocument.drop i) = 0 := by
    decide +kernel
  have habsent' : ∀ i < sampleLoadedDocument.length,
      Matcher.matchLength ⟨sampleLoaded.size, "", ""⟩ (sampleLoadedDocument.drop i) = 0 := by
    decide +kernel
  have hkept := (restore_add hshort habsent).1 (by decide)
  have hlost := (restore_add hempty habsent').2 rfl
  rw [hfound] at hkept
  exact ⟨hfound,hshort,habsent,hkept,hempty,habsent',hlost⟩

end Stencil
