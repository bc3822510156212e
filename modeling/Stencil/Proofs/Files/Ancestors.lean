import Mathlib.Data.List.Iterate
import Mathlib.Order.Bounds.Defs
import Stencil.Proofs.Files.Absolute

/-! The way up from any directory. In normal form a path is a stack of elements, of which going up
takes one away until none is left; what is left then, the root or `.`, is its own parent. -/
namespace Stencil.Path
variable {absolute : Bool} {stack : List Bytes} {e : Bytes}

/-! ## Stacks of elements -/

/-- Working out elements does not make them more. -/
lemma length_foldl_push_le (absolute : Bool) (es stack : List Bytes) :
    (es.foldl (push absolute) stack).length ≤ es.length + stack.length := by
  induction es generalizing stack with
  | nil => simp
  | cons e es ih =>
    have hpush : (push absolute stack e).length ≤ stack.length + 1 := by
      unfold push
      split
      · exact Nat.le_succ _
      · split
        · split
          · split <;> simp
          · split
            · exact Nat.le_refl _
            · exact Nat.le_add_right _ 2
        · exact Nat.le_refl _
    have hrest := ih (push absolute stack e)
    rw [List.foldl_cons, List.length_cons]
    omega

/-- What lies under the top of a settled stack is settled. -/
lemma Settled.under (h : Settled absolute (e :: stack)) : Settled absolute stack := by
  by_cases hup : e = dotDot
  · subst hup
    have hagain := h.again
    have hlength := length_foldl_push_le absolute stack.reverse []
    rw [List.reverse_cons, List.foldl_append, List.foldl_cons, List.foldl_nil] at hagain
    refine ⟨?_,fun x hx => h.ne_dot x (List.mem_cons_of_mem _ hx),
      fun x hx => h.areElements x (List.mem_cons_of_mem _ hx)⟩
    -- A `..` that stays on top was put there, so the stack under it is the one it came upon.
    cases hunder : stack.reverse.foldl (Path.push absolute) [] with
    | nil =>
      rw [hunder] at hagain
      cases absolute with
      | true => cases hagain
      | false => exact (List.cons.inj hagain).2
    | cons top below =>
      rw [hunder, push_dotDot_cons] at hagain
      split at hagain
      · exact (List.cons.inj hagain).2
      · rw [hunder, hagain] at hlength
        simp only [List.length_cons, List.length_reverse, List.length_nil] at hlength
        omega
  · exact h.tail hup

/-- A settled stack makes a path in normal form. -/
lemma Settled.clean_eq (h : Settled absolute stack) :
    clean (ofElements absolute stack.reverse) = ofElements absolute stack.reverse := by
  have hes : AreElements stack.reverse := fun x hx => h.areElements x (List.mem_reverse.mp hx)
  have habsolute := (isAbsolute_ofElements absolute hes).2
  rw [clean, habsolute, resolved, habsolute, foldl_elements_ofElements h]

lemma Settled.inj {other : List Bytes} (h : Settled absolute stack) (k : Settled absolute other)
    (heq : ofElements absolute stack.reverse = ofElements absolute other.reverse) :
    stack = other := by
  rw [← foldl_elements_ofElements h, heq, foldl_elements_ofElements k]

/-! ## Going up -/

/-- The root and `.` are their own parents. -/
lemma dir_ofElements_nil (absolute : Bool) :
    dir (ofElements absolute []) = ofElements absolute [] := by
  cases absolute <;> decide

/-- The top element stands at the end, after a slash unless it is all there is. -/
lemma Settled.exists_above (h : Settled absolute (e :: stack)) :
    ∃ above, ofElements absolute (e :: stack).reverse = above ++ e ∧
      (above = [] ∨ above.getLast? = some slash) ∧
      clean above = ofElements absolute stack.reverse := by
  obtain rfl | hne := eq_or_ne stack []
  · cases absolute with
    | true => exact ⟨[slash],rfl,.inr rfl,by decide⟩
    | false => exact ⟨[],rfl,.inl rfl,by decide⟩
  · have hes : AreElements stack.reverse := fun x hx =>
      h.under.areElements x (List.mem_reverse.mp hx)
    have hne' : stack.reverse ≠ [] := List.reverse_ne_nil_iff.mpr hne
    refine ⟨ofElements absolute stack.reverse ++ [slash],?_,.inr List.getLast?_concat,?_⟩
    · rw [List.reverse_cons]
      cases absolute with
      | true =>
        change slash :: Bytes.joinWith [slash] (stack.reverse ++ [e]) =
          slash :: Bytes.joinWith [slash] stack.reverse ++ [slash] ++ e
        rw [Bytes.joinWith_concat _ hne']
        rfl
      | false =>
        rw [ofElements, ofElements, if_neg Bool.false_ne_true, if_neg (by simp),
          if_neg Bool.false_ne_true, if_neg (by simpa using hne), Bytes.joinWith_concat _ hne']
    · have hnone : elements [] = [] := rfl
      obtain ⟨hpath,habsolute⟩ := isAbsolute_ofElements absolute hes
      rw [clean_append hpath, hnone, List.append_nil, ← clean_eq_normal, h.under.clean_eq]

/-- Going up takes the top element away. -/
theorem Settled.dir_eq (h : Settled absolute (e :: stack)) :
    dir (ofElements absolute (e :: stack).reverse) = ofElements absolute stack.reverse := by
  have he : AreElements [e] := fun x hx =>
    h.areElements x (by simp [List.mem_singleton.mp hx])
  obtain ⟨above,hpath,hend,hclean⟩ := h.exists_above
  have hreverse : above.reverse.dropWhile (· != slash) = above.reverse := by
    obtain rfl | hlast := hend
    · rfl
    · obtain ⟨before,rfl⟩ := List.getLast?_eq_some_iff.mp hlast
      simp
  rw [dir, hpath, List.reverse_append, List.dropWhile_append_of_pos he.ne_slash, hreverse,
    List.reverse_reverse, hclean]

/-- Going up so many times takes away so many elements. -/
lemma Settled.iterate_dir (h : Settled absolute stack) (i : Nat) :
    dir^[i] (ofElements absolute stack.reverse) = ofElements absolute (stack.drop i).reverse := by
  induction i generalizing stack with
  | zero => rfl
  | succ i ih =>
    rw [Function.iterate_succ_apply]
    cases stack with
    | nil =>
      have hrest := ih h
      rw [List.drop_nil] at hrest ⊢
      rw [List.reverse_nil, dir_ofElements_nil]
      exact hrest
    | cons e stack => rw [h.dir_eq, ih h.under, List.drop_succ_cons]

lemma Settled.drop (h : Settled absolute stack) (i : Nat) : Settled absolute (stack.drop i) := by
  induction i generalizing stack with
  | zero => exact h
  | succ i ih =>
    cases stack with
    | nil => exact h
    | cons e stack => exact ih h.under

/-- The number of times one can go up from a path in normal form is that of its elements. -/
theorem Settled.isLeast_dir (h : Settled absolute stack) :
    IsLeast {i | dir (dir^[i] (ofElements absolute stack.reverse)) =
      dir^[i] (ofElements absolute stack.reverse)} stack.length := by
  constructor
  · change dir (dir^[stack.length] _) = dir^[stack.length] _
    rw [h.iterate_dir, List.drop_length]
    exact dir_ofElements_nil absolute
  · intro i hi
    change dir (dir^[i] _) = dir^[i] _ at hi
    by_contra hlt
    obtain ⟨e,rest,hrest⟩ := List.exists_cons_of_ne_nil
      (fun hnil => hlt (List.drop_eq_nil_iff.mp hnil) : stack.drop i ≠ [])
    have hsettled := h.drop i
    rw [h.iterate_dir, hrest] at hi
    rw [hrest] at hsettled
    rw [hsettled.dir_eq] at hi
    simpa using hsettled.under.inj hsettled hi

/-! ## All directories on the way -/

/-- With enough fuel the way up ends where no step leads further. -/
lemma ancestorsAux_eq_iterate {d : Bytes} {n fuel : Nat}
    (h : IsLeast {i | dir (dir^[i] d) = dir^[i] d} n) (hfuel : n ≤ fuel) :
    ancestorsAux fuel d = List.iterate dir d (n + 1) := by
  induction n generalizing d fuel with
  | zero =>
    have hd : dir d = d := h.1
    cases fuel with
    | zero => rfl
    | succ fuel => rw [ancestorsAux, if_pos hd]; rfl
  | succ n ih =>
    obtain ⟨k,rfl⟩ : ∃ k, fuel = k + 1 := Nat.exists_eq_add_one.mpr (by omega)
    have hd : dir d ≠ d := fun heq => by simpa using h.2 (show dir (dir^[0] d) = dir^[0] d from heq)
    have hup : IsLeast {i | dir (dir^[i] (dir d)) = dir^[i] (dir d)} n :=
      ⟨h.1,fun i hi =>
        Nat.le_of_succ_le_succ (h.2 (show dir (dir^[i + 1] d) = dir^[i + 1] d from hi))⟩
    rw [ancestorsAux, if_neg hd, ih hup (by omega)]
    rfl

/-- Every way up ends, and its directories are all that going up comes to. -/
theorem exists_ancestors_clean (p : Bytes) :
    ∃ n, IsLeast {i | dir (dir^[i] (clean p)) = dir^[i] (clean p)} n ∧
      ancestors (clean p) = List.iterate dir (clean p) (n + 1) := by
  have hsettled := settled_of_elements (isAbsolute p) (areElements_elements p)
  have hleast := hsettled.isLeast_dir
  refine ⟨_,hleast,ancestorsAux_eq_iterate hleast ?_⟩
  set stack := (elements p).foldl (push (isAbsolute p)) [] with hstack
  have hlength := length_le_length_ofNames fun x hx =>
    hsettled.areElements x (List.mem_reverse.mp hx)
  rw [List.length_reverse] at hlength
  change stack.length ≤ (ofElements (isAbsolute p) stack.reverse).length + 1
  cases habsolute : isAbsolute p with
  | true => exact hlength.trans (Nat.le_succ _)
  | false =>
    obtain hnil | hne := eq_or_ne stack []
    · rw [hnil]
      exact Nat.zero_le _
    · rw [ofElements, if_neg Bool.false_ne_true, if_neg (by simpa using hne)]
      exact hlength

end Stencil.Path
