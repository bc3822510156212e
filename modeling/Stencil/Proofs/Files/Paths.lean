import Mathlib.Tactic.Common
import Stencil.Files.Path

/-! Paths in normal form. The normal form of a path depends on its elements alone and on whether it
is absolute, and going on from a normal form by one more element gives the normal form of the longer
path. -/
namespace Stencil

namespace Bytes

lemma splitByte_append (c : UInt8) (a b : Bytes) :
    splitByte c (a ++ c :: b) = splitByte c a ++ splitByte c b := by
  induction a with
  | nil => simp [splitByte]
  | cons x a ih =>
    by_cases hx : (x == c) = true
    · simp [splitByte, hx, ih]
    · obtain ⟨piece,more,hp⟩ := List.exists_cons_of_ne_nil (splitByte_ne_nil c a)
      simp [splitByte, hx, ih, hp]

lemma splitByte_of_not_mem {c : UInt8} {b : Bytes} (h : c ∉ b) : splitByte c b = [b] := by
  induction b with
  | nil => rfl
  | cons x b ih =>
    obtain ⟨hx,hb⟩ : c ≠ x ∧ c ∉ b := by simpa using h
    simp [splitByte, ih hb, hx.symm]

lemma not_mem_of_mem_splitByte {c : UInt8} {b piece : Bytes} (h : piece ∈ splitByte c b) :
    c ∉ piece := by
  induction b generalizing piece with
  | nil => simp_all
  | cons x b ih =>
    by_cases hx : (x == c) = true
    · simp only [splitByte, hx, if_true, List.mem_cons] at h
      obtain rfl | h := h
      · simp
      · exact ih h
    · obtain ⟨first,more,hp⟩ := List.exists_cons_of_ne_nil (splitByte_ne_nil c b)
      simp only [splitByte, hx, hp, Bool.false_eq_true, if_false, List.mem_cons] at h
      obtain rfl | h := h
      · have hfirst := ih (hp ▸ List.mem_cons_self ..)
        simp only [beq_iff_eq] at hx
        simp [Ne.symm hx, hfirst]
      · exact ih (hp ▸ List.mem_cons_of_mem _ h)

lemma splitByte_joinWith {c : UInt8} {pieces : List Bytes} (hne : pieces ≠ [])
    (h : ∀ p ∈ pieces, c ∉ p) : splitByte c (joinWith [c] pieces) = pieces := by
  induction pieces with
  | nil => contradiction
  | cons p more ih =>
    cases more with
    | nil => exact splitByte_of_not_mem (h p (by simp))
    | cons q more =>
      rw [joinWith, List.append_assoc, List.singleton_append, splitByte_append,
        splitByte_of_not_mem (h p (by simp)), ih (by simp) fun x hx => h x (List.mem_cons_of_mem _ hx)]
      · rfl
      · simp

end Bytes

namespace Path

/-- Texts that can stand between two slashes. -/
def AreElements (es : List Bytes) : Prop := ∀ e ∈ es, e ≠ [] ∧ slash ∉ e

/-- The path in normal form that these elements lead to. -/
def normal (absolute : Bool) (es : List Bytes) : Bytes :=
  ofElements absolute (es.foldl (push absolute) []).reverse

lemma clean_eq_normal (p : Bytes) : clean p = normal (isAbsolute p) (elements p) := rfl

lemma areElements_elements (p : Bytes) : AreElements (elements p) := by
  intro e he
  obtain ⟨hmem,hne⟩ := List.mem_filter.mp he
  exact ⟨by simpa using hne,Bytes.not_mem_of_mem_splitByte hmem⟩

lemma elements_append (a b : Bytes) : elements (a ++ slash :: b) = elements a ++ elements b := by
  rw [elements, Bytes.splitByte_append, List.filter_append]
  rfl

lemma elements_of_areElements {e : Bytes} (h : AreElements [e]) : elements e = [e] := by
  obtain ⟨hne,hslash⟩ := h e (List.mem_singleton_self e)
  rw [elements, Bytes.splitByte_of_not_mem hslash]
  simpa using hne

lemma AreElements.append {es fs : List Bytes} (h : AreElements es) (k : AreElements fs) :
    AreElements (es ++ fs) := fun e he => (List.mem_append.mp he).elim (h e) (k e)

lemma elements_joinWith {es : List Bytes} (hne : es ≠ []) (h : AreElements es) :
    elements (Bytes.joinWith [slash] es) = es := by
  rw [elements, Bytes.splitByte_joinWith hne fun e he => (h e he).2, List.filter_eq_self]
  intro e he
  simpa using (h e he).1

lemma AreElements.ne_slash {e : Bytes} (he : AreElements [e]) :
    ∀ c ∈ e.reverse, (c != slash) = true := by
  intro c hc
  rw [bne_iff_ne]
  rintro rfl
  exact (he e (List.mem_singleton_self e)).2 (List.mem_reverse.mp hc)

/-- A path that ends in an element does not end in a slash. -/
lemma trimRight_append_element (dir : Bytes) {e : Bytes} (he : AreElements [e]) :
    Bytes.trimRight (· == slash) (dir ++ e) = dir ++ e := by
  have hne : e ≠ [] := (he e (List.mem_singleton_self e)).1
  obtain ⟨c,r,hr⟩ := List.exists_cons_of_ne_nil (List.reverse_ne_nil_iff.mpr hne)
  have hc := he.ne_slash c (hr ▸ List.mem_cons_self ..)
  rw [Bytes.trimRight, List.reverse_append, hr, List.cons_append,
    List.dropWhile_cons_of_neg (by simpa using hc), ← List.cons_append, ← hr,
    ← List.reverse_append, List.reverse_reverse]

/-- What is on the stack after working out some elements: no `.`, and `..` only where it cannot be
worked out, so that working out the stack again changes nothing. -/
structure Settled (absolute : Bool) (stack : List Bytes) : Prop where
  again : stack.reverse.foldl (push absolute) [] = stack
  ne_dot : ∀ e ∈ stack, e ≠ dot
  areElements : AreElements stack

lemma push_dot (absolute : Bool) (stack : List Bytes) : push absolute stack dot = stack := rfl

lemma push_name (absolute : Bool) (stack : List Bytes) {e : Bytes} (hdot : e ≠ dot)
    (hup : e ≠ dotDot) : push absolute stack e = e :: stack := by
  rw [push.eq_def, if_neg hdot, if_neg hup]

lemma push_dotDot_cons (absolute : Bool) (top : Bytes) (below : List Bytes) :
    push absolute (top :: below) dotDot =
      if top = dotDot then dotDot :: top :: below else below := rfl

namespace Settled
variable {absolute : Bool} {stack : List Bytes}

lemma nil (absolute : Bool) : Settled absolute [] := ⟨rfl,by simp,fun e he => by simp at he⟩

lemma cons (h : Settled absolute stack) {e : Bytes} (hdot : e ≠ dot) (he : AreElements [e])
    (hpush : Path.push absolute stack e = e :: stack) : Settled absolute (e :: stack) := by
  refine ⟨?_,fun x hx => ?_,he.append h.areElements⟩
  · rw [List.reverse_cons, List.foldl_append, h.again]
    exact hpush
  · exact (List.mem_cons.mp hx).elim (fun hxe => hxe ▸ hdot) (h.ne_dot x)

/-- What lies under a name was settled before the name was pushed. -/
lemma tail {top : Bytes} (h : Settled absolute (top :: stack)) (hup : top ≠ dotDot) :
    Settled absolute stack := by
  have hagain := h.again
  rw [List.reverse_cons, List.foldl_append, List.foldl_cons, List.foldl_nil,
    push_name _ _ (h.ne_dot top (List.mem_cons_self ..)) hup] at hagain
  exact ⟨(List.cons.inj hagain).2,fun x hx => h.ne_dot x (List.mem_cons_of_mem _ hx),
    fun x hx => h.areElements x (List.mem_cons_of_mem _ hx)⟩

lemma push (h : Settled absolute stack) {e : Bytes} (he : AreElements [e]) :
    Settled absolute (push absolute stack e) := by
  by_cases hdot : e = dot
  · rwa [hdot, push_dot]
  · by_cases hup : e = dotDot
    · subst hup
      cases stack with
      | nil =>
        cases absolute with
        | true => exact h
        | false => exact h.cons hdot he rfl
      | cons top below =>
        by_cases htop : top = dotDot
        · have hpush : Path.push absolute (top :: below) dotDot = dotDot :: top :: below := by
            rw [push_dotDot_cons, if_pos htop]
          rw [hpush]
          exact h.cons hdot he hpush
        · rw [push_dotDot_cons, if_neg htop]
          exact h.tail htop
    · have hpush := push_name absolute stack hdot hup
      rw [hpush]
      exact h.cons hdot he hpush

end Settled

lemma settled_foldl (absolute : Bool) {es : List Bytes} (h : AreElements es) {stack : List Bytes}
    (hs : Settled absolute stack) : Settled absolute (es.foldl (push absolute) stack) := by
  induction es generalizing stack with
  | nil => exact hs
  | cons e es ih =>
    exact ih (fun x hx => h x (List.mem_cons_of_mem _ hx))
      (hs.push fun x hx => h x (by simp [List.mem_singleton.mp hx]))

lemma settled_of_elements (absolute : Bool) {es : List Bytes} (h : AreElements es) :
    Settled absolute (es.foldl (push absolute) []) := settled_foldl absolute h (.nil absolute)

lemma isAbsolute_append {p : Bytes} (h : p ≠ []) (q : Bytes) :
    isAbsolute (p ++ q) = isAbsolute p := by
  obtain ⟨c,rest,rfl⟩ := List.exists_cons_of_ne_nil h
  rfl

lemma isAbsolute_joinWith {es : List Bytes} (h : AreElements es) (hne : es ≠ []) :
    Bytes.joinWith [slash] es ≠ [] ∧ isAbsolute (Bytes.joinWith [slash] es) = false := by
  obtain ⟨e,more,rfl⟩ := List.exists_cons_of_ne_nil hne
  obtain ⟨he,hslash⟩ := h e (List.mem_cons_self ..)
  obtain ⟨c,rest,rfl⟩ := List.exists_cons_of_ne_nil he
  have hc : c ≠ slash := fun hc => hslash (hc ▸ List.mem_cons_self ..)
  cases more <;> simp [Bytes.joinWith, isAbsolute, hc]

/-- A normal form tells whether the path is absolute. -/
lemma isAbsolute_ofElements (absolute : Bool) {es : List Bytes} (h : AreElements es) :
    ofElements absolute es ≠ [] ∧ isAbsolute (ofElements absolute es) = absolute := by
  cases absolute with
  | true => exact ⟨List.cons_ne_nil _ _,rfl⟩
  | false =>
    cases es with
    | nil => exact ⟨List.cons_ne_nil _ _,rfl⟩
    | cons e more => exact isAbsolute_joinWith h (List.cons_ne_nil _ _)

/-- The elements of a normal form lead to where it was made from. -/
lemma foldl_elements_ofElements {absolute : Bool} {stack : List Bytes}
    (h : Settled absolute stack) :
    (elements (ofElements absolute stack.reverse)).foldl (push absolute) [] = stack := by
  have hes : AreElements stack.reverse := fun e he => h.areElements e (List.mem_reverse.mp he)
  have hjoin (hne : stack.reverse ≠ []) :
      (elements (Bytes.joinWith [slash] stack.reverse)).foldl (push absolute) [] = stack := by
    rw [elements_joinWith hne hes]
    exact h.again
  cases absolute with
  | true =>
    have hroot : elements (ofElements true stack.reverse) =
        elements (Bytes.joinWith [slash] stack.reverse) := by
      exact elements_append [] (Bytes.joinWith [slash] stack.reverse)
    rw [hroot]
    by_cases hne : stack.reverse = []
    · obtain rfl : stack = [] := by simpa using hne
      rfl
    · exact hjoin hne
  | false =>
    by_cases hne : stack.reverse = []
    · obtain rfl : stack = [] := by simpa using hne
      decide
    · rw [ofElements, if_neg Bool.false_ne_true, if_neg (by simpa using hne)]
      exact hjoin hne

lemma isAbsolute_normal (absolute : Bool) {es : List Bytes} (h : AreElements es) :
    normal absolute es ≠ [] ∧ isAbsolute (normal absolute es) = absolute :=
  isAbsolute_ofElements absolute fun e he =>
    (settled_of_elements absolute h).areElements e (List.mem_reverse.mp he)

/-- Going on from a normal form is going on from the path itself. -/
theorem clean_normal_append (absolute : Bool) {es : List Bytes} (h : AreElements es) (q : Bytes) :
    clean (normal absolute es ++ slash :: q) = normal absolute (es ++ elements q) := by
  obtain ⟨hne,habsolute⟩ := isAbsolute_normal absolute h
  have hfold : (elements (normal absolute es)).foldl (push absolute) [] =
      es.foldl (push absolute) [] := foldl_elements_ofElements (settled_of_elements absolute h)
  rw [clean_eq_normal, elements_append, isAbsolute_append hne, habsolute, normal, List.foldl_append,
    hfold, ← List.foldl_append]
  rfl

lemma isAbsolute_clean (p : Bytes) : isAbsolute (clean p) = isAbsolute p :=
  (isAbsolute_normal _ (areElements_elements p)).2

/-- A path in normal form stays as it is. -/
theorem clean_clean (p : Bytes) : clean (clean p) = clean p := by
  have hsettled := settled_of_elements (isAbsolute p) (areElements_elements p)
  have hresolved : resolved (clean p) = resolved p := by
    have hfold : (elements (clean p)).foldl (push (isAbsolute p)) [] =
        (elements p).foldl (push (isAbsolute p)) [] := foldl_elements_ofElements hsettled
    rw [resolved, isAbsolute_clean, hfold, resolved]
  conv_lhs => rw [clean, isAbsolute_clean, hresolved]
  rfl

lemma clean_append {p : Bytes} (h : p ≠ []) (q : Bytes) :
    clean (p ++ slash :: q) = normal (isAbsolute p) (elements p ++ elements q) := by
  rw [clean_eq_normal, isAbsolute_append h, elements_append]

lemma normal_append_dot (absolute : Bool) (es : List Bytes) :
    normal absolute (es ++ [dot]) = normal absolute es := by
  rw [normal, List.foldl_append, List.foldl_cons, List.foldl_nil, push_dot]
  rfl

end Path
end Stencil
