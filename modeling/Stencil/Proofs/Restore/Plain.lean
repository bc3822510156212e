import Stencil.Proofs.Restore.Matching

/-! Restoring without an index. At each place of a document every matcher is tried, the longest name
first; the index only spares those that cannot fit there. -/
namespace Stencil

namespace Matcher
variable {ms l : List Matcher} {m : Matcher} {b : Bytes}

/-! ## The order in which matchers are tried -/

/-- A longer name comes first, and of two names of one length the one that was added first. -/
def Comes (a b : Matcher) : Prop :=
  b.name.length < a.name.length ∨ b.name.length = a.name.length ∧ a.index < b.index

instance (a b : Matcher) : Decidable (a.Comes b) := inferInstanceAs (Decidable (_ ∨ _))

lemma Comes.asymm {a b : Matcher} (h : a.Comes b) : ¬b.Comes a := by
  unfold Comes at h ⊢
  omega

lemma Comes.trans {a b c : Matcher} (hab : a.Comes b) (hbc : b.Comes c) : a.Comes c := by
  unfold Comes at *
  omega

lemma Comes.length_le {a b : Matcher} (h : a.Comes b) : b.name.length ≤ a.name.length := by
  unfold Comes at h
  omega

lemma before_trans (a b c : Matcher) (hab : before a b = true) (hbc : before b c = true) :
    before a c = true := by
  simp only [before, decide_eq_true_eq] at *
  omega

lemma before_total (a b : Matcher) : (before a b || before b a) = true := by
  simp only [before, Bool.or_eq_true, decide_eq_true_eq]
  omega

lemma pairwise_index_ofMap (map : Token.Map) :
    (ofMap map).Pairwise fun a b => a.index < b.index := by
  rw [List.pairwise_iff_getElem]
  intro i j hi hj hij
  simpa [ofMap] using hij

/-- Names of one length keep their order. -/
lemma filter_mergeSort (ms : List Matcher) (n : Nat) :
    (ms.mergeSort before).filter (·.name.length == n) = ms.filter (·.name.length == n) := by
  have hsorted : (ms.filter (·.name.length == n)).Pairwise fun a b => before a b = true := by
    rw [List.pairwise_iff_forall_sublist]
    intro a b hab
    have ha := (List.mem_filter.mp (hab.subset (List.mem_cons_self ..))).2
    have hb := (List.mem_filter.mp (hab.subset (List.mem_cons_of_mem _ (List.mem_cons_self ..)))).2
    simp only [beq_iff_eq] at ha hb
    simp only [before, decide_eq_true_eq]
    omega
  have hsub := List.sublist_mergeSort before_trans before_total hsorted List.filter_sublist
  have hfilter := hsub.filter (·.name.length == n)
  rw [List.filter_filter] at hfilter
  simp only [Bool.and_self] at hfilter
  refine (hfilter.eq_of_length ?_).symm
  exact ((List.mergeSort_perm ms before).filter _).length_eq.symm

/-- Sorted by length they stand in the order in which they are to be tried. -/
theorem pairwise_comes_mergeSort (h : ms.Pairwise fun a b => a.index < b.index) :
    (ms.mergeSort before).Pairwise Comes := by
  rw [List.pairwise_iff_forall_sublist]
  intro a b hab
  have hle := List.pairwise_iff_forall_sublist.mp
    (List.pairwise_mergeSort before_trans before_total ms) hab
  simp only [before, decide_eq_true_eq] at hle
  by_cases hlt : b.name.length < a.name.length
  · exact .inl hlt
  · have heq : b.name.length = a.name.length := by omega
    have hpair := hab.filter (·.name.length == a.name.length)
    rw [filter_mergeSort] at hpair
    simp only [List.filter_cons, heq, beq_self_eq_true, if_true, List.filter_nil] at hpair
    exact .inr ⟨heq,List.pairwise_iff_forall_sublist.mp h (hpair.trans List.filter_sublist)⟩

/-- The matcher that is tried before all others that fit at the start of a text. -/
structure Wins (ms : List Matcher) (b : Bytes) (m : Matcher) : Prop where
  mem : m ∈ ms
  fits : 0 < m.matchLength b
  first : ∀ x ∈ ms, 0 < x.matchLength b → x = m ∨ m.Comes x

/-- Matchers that do not fit have no part in it. -/
lemma Wins.of_mem_iff (h : Wins ms b m) (hmem : ∀ x, 0 < x.matchLength b → (x ∈ ms ↔ x ∈ l)) :
    Wins l b m := by
  refine ⟨(hmem m h.fits).mp h.mem,h.fits,?_⟩
  intro x hx hpos
  exact h.first x ((hmem x hpos).mpr hx) hpos

lemma wins_congr (hmem : ∀ x, 0 < x.matchLength b → (x ∈ ms ↔ x ∈ l)) :
    Wins ms b m ↔ Wins l b m :=
  ⟨fun h => h.of_mem_iff hmem,fun h => h.of_mem_iff fun x hx => (hmem x hx).symm⟩

/-- It is the first that fits. -/
lemma find?_eq_some_iff (h : l.Pairwise Comes) :
    l.find? (fun m => 0 < m.matchLength b) = some m ↔ Wins l b m := by
  constructor
  · intro hfind
    obtain ⟨hfits,before,after,rfl,hnone⟩ := List.find?_eq_some_iff_append.mp hfind
    refine ⟨by simp,by simpa using hfits,fun x hx hpos => ?_⟩
    obtain hx | hx := List.mem_append.mp hx
    · have hzero := hnone x hx
      simp at hzero
      omega
    · obtain rfl | hx := List.mem_cons.mp hx
      · exact .inl rfl
      · exact .inr (List.rel_of_pairwise_cons (List.pairwise_append.mp h).2.1 hx)
  · intro hwins
    obtain ⟨before,after,rfl⟩ := List.append_of_mem hwins.mem
    refine List.find?_eq_some_iff_append.mpr ⟨by simpa using hwins.fits,before,after,rfl,?_⟩
    intro x hx
    by_contra hfits
    have hpos : 0 < x.matchLength b := by
      simp at hfits
      omega
    have hlater : x.Comes m := (List.pairwise_append.mp h).2.2 x hx m (by simp)
    obtain rfl | hcomes := hwins.first x (by simp [hx]) hpos
    · exact hlater.asymm hlater
    · exact hlater.asymm hcomes

end Matcher

namespace MatcherIndex
variable {ms : List Matcher} {m : Matcher} {b : Bytes}

/-- The index finds the matcher that wins among all. -/
theorem find?_build_eq_some_iff (hne : ∀ m ∈ ms, m.name ≠ [])
    (hindex : ms.Pairwise fun a b => a.index < b.index) :
    (build ms).find? b = some m ↔ Matcher.Wins ms b m := by
  by_cases hms : ms = []
  · subst hms
    have hnone := (find?_build_eq_none_iff hne b).mpr (List.forall_mem_nil _)
    rw [hnone]
    constructor
    · intro h
      cases h
    · intro h
      exact absurd h.mem List.not_mem_nil
  · have hsorted := Matcher.pairwise_comes_mergeSort (hindex.sublist (List.filter_sublist
      (p := fun m => m.name.take (shortestName ms) == b.take (shortestName ms))))
    rw [find?_build ms b (shortestName_pos hms hne).ne', Matcher.find?_eq_some_iff hsorted]
    apply Matcher.wins_congr
    intro x hpos
    rw [List.mem_mergeSort]
    exact ⟨fun hx => (List.mem_filter.mp hx).1,fun hx => mem_bucket hx hpos⟩

end MatcherIndex

/-! ## The plain pass -/

/-- The text that a plain pass writes, and the indices of the tokens it chose: where one of the
matchers fits, the first of them, and one byte of the document elsewhere. -/
def Matcher.pass (ms : List Matcher) (document : Bytes) : Bytes × List Nat :=
  match document with
  | [] => ([], [])
  | b :: rest =>
    match h : ms.find? fun m => 0 < m.matchLength (b :: rest) with
    | some m =>
      have : 0 < m.matchLength (b :: rest) := by simpa using List.find?_some h
      let (text, chosen) := pass ms ((b :: rest).drop (m.matchLength (b :: rest)))
      (m.source ++ text, m.index :: chosen)
    | none =>
      let (text, chosen) := pass ms rest
      (b :: text, chosen)
termination_by document.length
decreasing_by
  · simp; omega
  · simp

/-- Puts the sources of a map back with a plain pass. -/
def restorePlainly (document : Bytes) (map : Token.Map) : Restored :=
  let ms := Matcher.ofMap map
  let (text, chosen) := Matcher.pass (ms.mergeSort Matcher.before) document
  { text, replaced := chosen.length
    misses := (map.entries.zipIdx.filter fun e => e.2 ∉ chosen).map fun ((token, source), index) =>
      ⟨index, token, source⟩ }

namespace Segment

def index? : Segment → Option Nat
  | .literal _ => none
  | .hit m => some m.index

lemma any_hits (m : Matcher) (segments : List Segment) :
    segments.any (·.hits m) = decide (m.index ∈ segments.filterMap index?) := by
  induction segments with
  | nil => rfl
  | cons s segments ih =>
    rw [List.any_cons, ih]
    cases s with
    | literal b => rw [List.filterMap_cons_none rfl, hits, Bool.false_or]
    | hit m' =>
      have hindex : (hit m').index? = some m'.index := rfl
      rw [List.filterMap_cons_some hindex, hits]
      by_cases h : m'.index = m.index
      · simp [h]
      · simp [h, Ne.symm h]

end Segment

namespace Matcher
variable {ms : List Matcher} {m : Matcher} {b : UInt8} {rest : Bytes}

lemma pass_of_find?_eq_some (h : ms.find? (fun m => 0 < m.matchLength (b :: rest)) = some m) :
    pass ms (b :: rest) =
      (m.source ++ (pass ms ((b :: rest).drop (m.matchLength (b :: rest)))).1,
        m.index :: (pass ms ((b :: rest).drop (m.matchLength (b :: rest)))).2) := by
  rw [pass]
  split
  · next h' =>
    cases h'.symm.trans h
    rfl
  · next h' => cases h'.symm.trans h

lemma pass_of_find?_eq_none (h : ms.find? (fun m => 0 < m.matchLength (b :: rest)) = none) :
    pass ms (b :: rest) = (b :: (pass ms rest).1, (pass ms rest).2) := by
  rw [pass]
  split
  · next h' => cases h'.symm.trans h
  · rfl

/-- Both passes cut a document into the same parts. -/
theorem pass_eq (hne : ∀ m ∈ ms, m.name ≠ [])
    (hindex : ms.Pairwise fun a b => a.index < b.index) (document : Bytes) :
    pass (ms.mergeSort before) document =
      (((MatcherIndex.build ms).segments document).flatMap Segment.text,
        ((MatcherIndex.build ms).segments document).filterMap Segment.index?) := by
  have hfind (b : Bytes) : (MatcherIndex.build ms).find? b =
      (ms.mergeSort before).find? fun m => 0 < m.matchLength b := by
    apply Option.ext
    intro m
    rw [MatcherIndex.find?_build_eq_some_iff hne hindex,
      find?_eq_some_iff (pairwise_comes_mergeSort hindex)]
    exact wins_congr fun x _ => List.mem_mergeSort.symm
  induction document using pass.induct (ms.mergeSort before) with
  | case1 => rw [pass, MatcherIndex.segments]; rfl
  | case2 b rest m hm hpos _ _ _ ih =>
    rw [pass_of_find?_eq_some hm, ih]
    rw [← hfind] at hm
    rw [MatcherIndex.segments_of_find?_eq_some hm (List.cons_ne_nil b rest) hpos]
    rfl
  | case3 b rest hm _ _ _ ih =>
    rw [pass_of_find?_eq_none hm, ih]
    rw [← hfind] at hm
    rw [MatcherIndex.segments_of_find?_eq_none hm]
    rfl

/-- A tag has at least its bracket before what closes it. -/
lemma name_ne_nil (h : m.token ≠ []) : m.name ≠ [] := by
  rw [name]
  split
  · next htag =>
    rw [isTag, Bool.and_eq_true, List.isPrefixOf_iff_prefix, List.isSuffixOf_iff_suffix] at htag
    obtain ⟨⟨x,hx⟩,y,hy⟩ := htag
    rw [← hy, List.length_append, Nat.add_sub_cancel, List.take_left]
    rintro rfl
    cases hx.trans hy.symm
  · exact h

end Matcher

/-- Restoring with the index gives what the plain pass gives, whatever the tokens of the map are. -/
theorem restore_eq_restorePlainly (document : Bytes) (map : Token.Map)
    (h : ∀ token ∈ map.keys, token ≠ []) : restore document map = restorePlainly document map := by
  have hne : ∀ m ∈ Matcher.ofMap map, m.name ≠ [] := by
    intro m hm
    apply Matcher.name_ne_nil
    obtain ⟨⟨⟨token,source⟩,index⟩,he,rfl⟩ := List.mem_map.mp hm
    exact h token (List.mem_map_of_mem (List.fst_mem_of_mem_zipIdx he))
  have hpass := Matcher.pass_eq hne (Matcher.pairwise_index_ofMap map) document
  simp only [restore, restorePlainly, hpass, Restored.ofSegments]
  generalize (MatcherIndex.build (Matcher.ofMap map)).segments document = segments
  congr 1
  · rw [List.length_filterMap_eq_countP]
    apply List.countP_congr
    intro s _
    cases s <;> simp [Segment.isHit, Segment.index?]
  · rw [Matcher.ofMap, List.filter_map, List.map_map]
    congr 1
    apply List.filter_congr
    intro e _
    rw [Function.comp_apply, Segment.any_hits, decide_not]

/-- Tokens that start with each other, a tag and an attribute of one name, and an overlap. -/
def sampleOverlapping : Token.Map :=
  ⟨[("ab", "1"), ("<ab", "2"), ("<ab />", "3"), ("abc", "4"), ("c<", "5")]⟩

theorem restore_eq_restorePlainly_sampleOverlapping :
    (∀ token ∈ sampleOverlapping.keys, token ≠ []) ∧
    restore "abc<ab\n/>c<ab" sampleOverlapping =
      restorePlainly "abc<ab\n/>c<ab" sampleOverlapping := by
  have h : ∀ token ∈ sampleOverlapping.keys, token ≠ [] := by decide
  exact ⟨h,restore_eq_restorePlainly _ sampleOverlapping h⟩

end Stencil
