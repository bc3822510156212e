import Mathlib.Data.List.Infix
import Mathlib.Data.List.TakeWhile
import Stencil.Proofs.Files.Paths

/-! Absolute paths in normal form are lists of names. Going up drops the last name, going down adds
one, and the path from a directory to what lies below it is made of the names that are left. -/
namespace Stencil

namespace Bytes

lemma joinWith_concat (sep : Bytes) {pieces : List Bytes} (h : pieces ≠ []) (last : Bytes) :
    joinWith sep (pieces ++ [last]) = joinWith sep pieces ++ sep ++ last := by
  induction pieces with
  | nil => contradiction
  | cons p more ih =>
    cases more with
    | nil => rfl
    | cons q more =>
      change p ++ sep ++ joinWith sep (q :: more ++ [last]) =
        p ++ sep ++ joinWith sep (q :: more) ++ sep ++ last
      rw [ih (List.cons_ne_nil _ _)]
      simp only [List.append_assoc]

end Bytes

namespace Path

/-- Names of files and directories. -/
structure AreNames (es : List Bytes) : Prop where
  areElements : AreElements es
  ne_dot : dot ∉ es
  ne_dotDot : dotDot ∉ es

/-- The absolute path through some names. -/
def ofNames (es : List Bytes) : Bytes := ofElements true es

namespace AreNames
variable {es fs : List Bytes}

lemma nil : AreNames [] := ⟨by simp [AreElements],by simp,by simp⟩

lemma append (h : AreNames es) (k : AreNames fs) : AreNames (es ++ fs) :=
  ⟨h.areElements.append k.areElements,by simp [h.ne_dot, k.ne_dot],by simp [h.ne_dotDot, k.ne_dotDot]⟩

lemma mono (h : AreNames es) (hsub : fs ⊆ es) : AreNames fs :=
  ⟨fun e he => h.areElements e (hsub he),fun he => h.ne_dot (hsub he),
    fun he => h.ne_dotDot (hsub he)⟩

lemma left (h : AreNames (es ++ fs)) : AreNames es := h.mono (List.subset_append_left _ _)

lemma right (h : AreNames (es ++ fs)) : AreNames fs := h.mono (List.subset_append_right _ _)

/-- Names stay as they are when a path is worked out. -/
lemma foldl_push (h : AreNames es) (absolute : Bool) (stack : List Bytes) :
    es.foldl (push absolute) stack = es.reverse ++ stack := by
  induction es generalizing stack with
  | nil => rfl
  | cons e es ih =>
    obtain ⟨hdot,hup⟩ : e ≠ dot ∧ e ≠ dotDot :=
      ⟨fun he => h.ne_dot (he ▸ List.mem_cons_self ..),fun he => h.ne_dotDot (he ▸ List.mem_cons_self ..)⟩
    rw [List.foldl_cons, push_name _ _ hdot hup, ih (h.mono (List.subset_cons_self _ _)),
      List.reverse_cons, List.append_assoc, List.singleton_append]

lemma normal_eq (h : AreNames es) (absolute : Bool) : normal absolute es = ofElements absolute es := by
  rw [normal, h.foldl_push, List.append_nil, List.reverse_reverse]

end AreNames

variable {es fs : List Bytes} {e p : Bytes}

lemma isAbsolute_ofNames (es : List Bytes) : isAbsolute (ofNames es) = true := rfl

lemma ofNames_ne_nil (es : List Bytes) : ofNames es ≠ [] := List.cons_ne_nil _ _

lemma elements_ofNames (h : AreElements es) : elements (ofNames es) = es := by
  have hroot : elements (ofNames es) = elements (Bytes.joinWith [slash] es) :=
    elements_append [] (Bytes.joinWith [slash] es)
  rw [hroot]
  obtain rfl | hne := eq_or_ne es []
  · rfl
  · exact elements_joinWith hne h

lemma AreNames.resolved_eq (h : AreNames es) : resolved (ofNames es) = es := by
  rw [resolved, elements_ofNames h.areElements, h.foldl_push, List.append_nil, List.reverse_reverse]

lemma AreNames.clean_eq (h : AreNames es) : clean (ofNames es) = ofNames es := by
  rw [clean, h.resolved_eq]
  rfl

lemma AreNames.inj (h : AreNames es) (k : AreNames fs) (heq : ofNames es = ofNames fs) : es = fs := by
  rw [← h.resolved_eq, heq, k.resolved_eq]

/-- At the root there is nothing to go up to. -/
lemma dotDot_not_mem_foldl_push {stack : List Bytes} (hstack : dotDot ∉ stack) (es : List Bytes) :
    dotDot ∉ es.foldl (push true) stack := by
  induction es generalizing stack with
  | nil => exact hstack
  | cons e es ih =>
    refine ih ?_
    unfold push
    split
    · exact hstack
    · split
      · split
        · simp
        · next top below =>
          obtain ⟨htop,hbelow⟩ : dotDot ≠ top ∧ dotDot ∉ below := by simpa using hstack
          rw [if_neg htop.symm]
          exact hbelow
      · next hup => simpa [Ne.symm hup] using hstack

/-- An absolute path in normal form is a path through names. -/
theorem exists_ofNames (habsolute : isAbsolute p = true) (hclean : clean p = p) :
    ∃ es, AreNames es ∧ ofNames es = p := by
  have hsettled := settled_of_elements true (areElements_elements p)
  have hp : ofNames ((elements p).foldl (push true) []).reverse = p := by
    conv_rhs => rw [← hclean, clean, habsolute, resolved, habsolute]
    rfl
  refine ⟨_,⟨fun e he => hsettled.areElements e (List.mem_reverse.mp he),fun he => ?_,fun he => ?_⟩,hp⟩
  · exact hsettled.ne_dot _ (List.mem_reverse.mp he) rfl
  · exact dotDot_not_mem_foldl_push (List.not_mem_nil) _ (List.mem_reverse.mp he)

/-! ## Going down and up -/

/-- The last name stands after a slash, and before it stands the path of the other names. -/
lemma AreNames.exists_concat (h : AreNames (es ++ [e])) :
    ∃ above, ofNames (es ++ [e]) = above ++ slash :: e ∧ clean (above ++ [slash]) = ofNames es := by
  obtain rfl | hne := eq_or_ne es []
  · exact ⟨[],rfl,by decide⟩
  · have hes := h.left
    refine ⟨ofNames es,?_,?_⟩
    · change slash :: Bytes.joinWith [slash] (es ++ [e]) =
        slash :: Bytes.joinWith [slash] es ++ slash :: e
      rw [Bytes.joinWith_concat _ hne]
      simp
    · have hnormal : ofNames es = normal true es := (hes.normal_eq true).symm
      have hnone : elements [] = [] := rfl
      rw [hnormal, clean_normal_append true hes.areElements, hnone, List.append_nil]

lemma dir_root : dir (ofNames []) = ofNames [] := by decide

lemma dir_ofNames (h : AreNames (es ++ [e])) : dir (ofNames (es ++ [e])) = ofNames es := by
  obtain ⟨above,hpath,hclean⟩ := h.exists_concat
  rw [dir, hpath, ← List.singleton_append, ← List.append_assoc, List.reverse_append,
    List.dropWhile_append_of_pos h.right.areElements.ne_slash, List.reverse_append, List.reverse_singleton,
    List.singleton_append, List.dropWhile_cons_of_neg (by simp), ← hclean, List.reverse_cons,
    List.reverse_reverse]

lemma base_ofNames (h : AreNames (es ++ [e])) : base (ofNames (es ++ [e])) = e := by
  obtain ⟨above,hpath,-⟩ := h.exists_concat
  have he := h.right.areElements
  have htrim : Bytes.trimRight (· == slash) (ofNames (es ++ [e])) = above ++ [slash] ++ e := by
    rw [hpath, List.append_cons, trimRight_append_element _ he]
  have hne : (above ++ [slash] ++ e).isEmpty = false := by simp
  rw [base, List.isEmpty_eq_false_iff.mpr (ofNames_ne_nil _)]
  dsimp only
  rw [htrim, hne, List.reverse_append, List.takeWhile_append_of_pos he.ne_slash]
  simp

/-- The last element of a path has no slash, unless the path has nothing else. -/
lemma base_eq_slash_or_areElements (p : Bytes) : base p = [slash] ∨ AreElements [base p] := by
  unfold base
  split
  · refine .inr fun e he => ?_
    obtain rfl := List.mem_singleton.mp he
    decide
  · dsimp only
    split
    · exact .inl rfl
    · next htrimmed =>
      refine .inr fun e he => ?_
      obtain rfl := List.mem_singleton.mp he
      rw [Bytes.trimRight, List.isEmpty_reverse, List.isEmpty_iff] at htrimmed
      obtain ⟨c,rest,hrest⟩ := List.exists_cons_of_ne_nil htrimmed
      have hc : (c != slash) = true := by
        have hhead := List.head?_dropWhile_not (· == slash) p.reverse
        rw [hrest] at hhead
        simpa [bne] using hhead
      rw [Bytes.trimRight, List.reverse_reverse, hrest, List.takeWhile_cons, if_pos hc]
      refine ⟨by simp,fun hmem => ?_⟩
      obtain rfl | hmem := List.mem_cons.mp (List.mem_reverse.mp hmem)
      · simp at hc
      · simpa using List.mem_takeWhile_imp hmem

/-- Joining names to a directory goes down to what has these names in it. -/
lemma join_ofNames (h : AreNames (es ++ fs)) : join (ofNames es :: fs) = ofNames (es ++ fs) := by
  have hes := h.left
  have hfilter : (ofNames es :: fs).filter (!·.isEmpty) = ofNames es :: fs := by
    refine List.filter_eq_self.mpr fun e he => ?_
    obtain rfl | he := List.mem_cons.mp he
    · rfl
    · simpa using (h.right.areElements e he).1
  rw [join, hfilter]
  change clean (Bytes.joinWith [slash] (ofNames es :: fs)) = _
  cases fs with
  | nil => rw [List.append_nil]; exact hes.clean_eq
  | cons f more =>
    have hnormal : ofNames es = normal true es := (hes.normal_eq true).symm
    change clean (ofNames es ++ [slash] ++ Bytes.joinWith [slash] (f :: more)) = _
    rw [List.append_assoc, List.singleton_append, hnormal, clean_normal_append true hes.areElements,
      elements_joinWith (List.cons_ne_nil _ _) h.right.areElements, h.normal_eq true]
    rfl

/-! ## Ancestors and relative paths -/

lemma length_le_length_ofNames (h : AreElements es) : es.length ≤ (ofNames es).length := by
  have hjoin : es.length ≤ (Bytes.joinWith [slash] es).length := by
    induction es with
    | nil => exact Nat.zero_le _
    | cons e more ih =>
      have he := List.length_pos_iff.mpr (h e (List.mem_cons_self ..)).1
      have ih := ih fun x hx => h x (List.mem_cons_of_mem _ hx)
      cases more with
      | nil => exact he
      | cons q more =>
        rw [Bytes.joinWith, List.length_append, List.length_append, List.length_singleton,
          List.length_cons]
        · omega
        · simp
  exact hjoin.trans (Nat.le_succ _)

lemma dropCommon_append (es fs : List Bytes) : dropCommon es (es ++ fs) = ([], fs) := by
  induction es with
  | nil => cases fs <;> rfl
  | cons e es ih => rw [List.cons_append, dropCommon, if_pos rfl, ih]

/-- The names below a directory make the path from it. -/
theorem relative?_ofNames (h : AreNames (es ++ fs)) :
    relative? (ofNames es) (ofNames (es ++ fs)) = some (ofElements false fs) := by
  rw [relative?, h.clean_eq, h.left.clean_eq, h.resolved_eq, h.left.resolved_eq, dropCommon_append]
  rfl

end Path
end Stencil
