import Mathlib.Data.List.TakeDrop
import Mathlib.Tactic.Common
import Stencil.Proofs.Json.RoundTrip

/-! Reading integers back. An integer is read off the front of a text if no number goes on in what
follows it, and so is every document whose numbers are integers. -/
namespace Stencil.Json
variable {rest : List Char}

/-! ## Decimal digits -/

/-- Decimal digits as a number is written with them: a zero stands in front of no other digit. -/
structure IsDecimal (ds : List Char) : Prop where
  isDigit : ∀ c ∈ ds, c.isDigit = true
  ne_nil : ds ≠ []
  eq_zero : ds.head? = some '0' → ds = ['0']

lemma ne_of_isDigit {c : Char} (hc : c.isDigit = true) (d : Char) (hd : d.isDigit = false) :
    c ≠ d := by
  rintro rfl
  exact absurd hc (by simp [hd])

lemma eq_zero_of_head?_toDigits {n : Nat} (h : (Nat.toDigits 10 n).head? = some '0') : n = 0 := by
  induction n using Nat.strongRecOn with
  | ind n ih =>
    obtain hn | hn := Nat.lt_or_ge n 10
    · have hdigit : ∀ k < 10, Nat.digitChar k = '0' → k = 0 := by decide
      rw [Nat.toDigits_of_lt_base hn] at h
      exact hdigit n hn (Option.some.inj h)
    · -- The last digit is taken off; the first stays, so that it is that of a positive number.
      rw [Nat.toDigits_of_base_le (by decide) hn, List.head?_append,
        List.head?_eq_some_head Nat.toDigits_ne_nil, Option.some_or, ← List.head?_eq_some_head] at h
      have hzero := ih (n / 10) (by omega) h
      omega

lemma isDecimal_toDigits (n : Nat) : IsDecimal (Nat.toDigits 10 n) where
  isDigit _ hc := Nat.isDigit_of_mem_toDigits (by decide) (by decide) hc
  ne_nil := Nat.toDigits_ne_nil
  eq_zero h := by rw [eq_zero_of_head?_toDigits h]; rfl

/-- An integer is written as digits, behind a minus sign if it is negative. -/
lemma exists_ofInt_eq (n : Int) : ∃ ds, IsDecimal ds ∧
    (Value.ofInt n = .number ds ∨ Value.ofInt n = .number ('-' :: ds)) := by
  cases n with
  | ofNat n => exact ⟨_,isDecimal_toDigits n,.inl (congrArg Value.number Nat.toList_repr)⟩
  | negSucc n =>
    refine ⟨_,isDecimal_toDigits (n + 1),.inr (congrArg Value.number ?_)⟩
    change ("-" ++ (n + 1).repr).toList = _
    rw [String.toList_append, Nat.toList_repr]
    rfl

/-! ## Reading literals -/

/-- A text in which no number goes on. -/
def EndsNumber (rest : List Char) : Prop :=
  ∀ c ∈ rest.head?, c.isDigit = false ∧ c ≠ '.' ∧ c ≠ 'e' ∧ c ≠ 'E'

lemma takeDigits_append {ds : List Char} (hds : ∀ c ∈ ds, c.isDigit = true)
    (hrest : EndsNumber rest) : takeDigits (ds ++ rest) = (ds, rest) := by
  have hdrop : rest.dropWhile Char.isDigit = rest ∧ rest.takeWhile Char.isDigit = [] := by
    cases rest with
    | nil => exact ⟨rfl,rfl⟩
    | cons c rest =>
      have hc := (hrest c rfl).1
      exact ⟨List.dropWhile_cons_of_neg (by simp [hc]),List.takeWhile_cons_of_neg (by simp [hc])⟩
  rw [takeDigits, List.span_eq_takeWhile_dropWhile, List.takeWhile_append_of_pos hds,
    List.dropWhile_append_of_pos hds, hdrop.1, hdrop.2, List.append_nil]

variable {ds : List Char}

/-- Digits are read as the literal they are. -/
lemma readNumber_digits (hds : IsDecimal ds) (hrest : EndsNumber rest) :
    readNumber (ds ++ rest) = some (ds, rest) ∧
      readNumber ('-' :: (ds ++ rest)) = some ('-' :: ds, rest) := by
  have hdigits := takeDigits_append hds.isDigit hrest
  obtain ⟨c,tail,rfl⟩ := List.exists_cons_of_ne_nil hds.ne_nil
  have hminus : c ≠ '-' := ne_of_isDigit (hds.isDigit c (List.mem_cons_self ..)) _ rfl
  by_cases hzero : c = '0'
  · have htail := hds.eq_zero (congrArg some hzero)
    rw [htail]
    cases rest with
    | nil => exact ⟨rfl,rfl⟩
    | cons d rest =>
      obtain ⟨-,hdot,he,hE⟩ := hrest d rfl
      constructor <;> simp [readNumber, hdot, he, hE]
  · cases rest with
    | nil =>
      rw [List.append_nil] at hdigits ⊢
      constructor <;> simp [readNumber, hminus, hzero, hdigits]
    | cons d rest =>
      obtain ⟨-,hdot,he,hE⟩ := hrest d rfl
      rw [List.cons_append] at hdigits ⊢
      constructor <;> simp [readNumber, hminus, hzero, hdigits, hdot, he, hE]

/-- A character that starts a number starts nothing else. -/
lemma readValue_number {c : Char} (hc : c.isDigit = true ∨ c = '-') (fuel : Nat) (cs : List Char) :
    readValue (fuel + 1) (c :: cs) =
      (readNumber (c :: cs)).map fun (n, rest) => (.number n, rest) := by
  have hother (d : Char) (hd : d.isDigit = false ∧ '-' ≠ d) : c ≠ d := by
    obtain h | rfl := hc
    · exact ne_of_isDigit h d hd.1
    · exact hd.2
  rw [readValue, if_neg (hother _ (by decide)), if_neg (hother _ (by decide)),
    if_neg (hother _ (by decide)), if_neg (hother _ (by decide)), if_neg (hother _ (by decide)),
    if_neg (hother _ (by decide))]

/-! ## Documents -/

/-- Documents whose numbers are integers, with at most so many arrays and objects open at once. -/
inductive Integral : Nat → Value → Prop
  | null (n : Nat) : Integral n .null
  | bool (n : Nat) (b : Bool) : Integral n (.bool b)
  | int (n : Nat) (i : Int) : Integral n (.ofInt i)
  | string (n : Nat) (s : List Char) : Integral n (.string s)
  | array {n : Nat} {vs : List Value} : (∀ v ∈ vs, Integral n v) → Integral (n + 1) (.array vs)
  | object {n : Nat} {ms : List (List Char × Value)} : (∀ m ∈ ms, Integral n m.2) →
      Integral (n + 1) (.object ms)

/-- The text of the value is read as the value, where no number goes on behind it. A number ends by
what follows it only, so that this is a condition on what comes next, unlike in `Spells`. -/
structure ReadsBack (v : Value) : Prop where
  starts : Starts (render v)
  readValue_append (fuel : Nat) (rest : List Char) : (render v).length ≤ fuel → EndsNumber rest →
    readValue fuel (render v ++ rest) = some (v, rest)

lemma render_number (literal : List Char) : render (.number literal) = literal := rfl

lemma render_array (vs : List Value) : render (.array vs) = '[' :: (renderItems vs ++ [']']) := rfl

lemma render_object (ms : List (List Char × Value)) :
    render (.object ms) = '\x7b' :: (renderMembers ms ++ ['\x7d']) := rfl

/-- What may follow an item or a member ends a number. -/
lemma endsNumber_separator {c : Char} (hc : c = ',' ∨ c = ']' ∨ c = '\x7d') (rest : List Char) :
    EndsNumber (c :: rest) := by
  rintro _ ⟨⟩
  obtain rfl | rfl | rfl := hc <;> decide

lemma not_isBlank_of_isDigit {c : Char} (hc : c.isDigit = true) : isBlank c = false := by
  simp [isBlank, ne_of_isDigit hc ' ' rfl, ne_of_isDigit hc '\t' rfl, ne_of_isDigit hc '\n' rfl,
    ne_of_isDigit hc '\r' rfl]

lemma readsBack_ofInt (i : Int) : ReadsBack (.ofInt i) := by
  obtain ⟨ds,hds,heq⟩ := exists_ofInt_eq i
  obtain ⟨c,tail,rfl⟩ := List.exists_cons_of_ne_nil hds.ne_nil
  have hc := hds.isDigit c (List.mem_cons_self ..)
  have hbracket : c ≠ ']' := ne_of_isDigit hc _ rfl
  obtain heq | heq := heq
  · have hstarts : Starts (c :: tail) := ⟨c,tail,rfl,not_isBlank_of_isDigit hc,hbracket⟩
    rw [heq]
    refine ⟨hstarts,fun fuel rest hfuel hrest => ?_⟩
    obtain ⟨fuel,rfl⟩ := hstarts.exists_succ hfuel
    rw [render_number, List.cons_append, readValue_number (.inl hc), ← List.cons_append,
      (readNumber_digits hds hrest).1]
    rfl
  · have hstarts : Starts ('-' :: c :: tail) := ⟨_,_,rfl,by decide,by decide⟩
    rw [heq]
    refine ⟨hstarts,fun fuel rest hfuel hrest => ?_⟩
    obtain ⟨fuel,rfl⟩ := hstarts.exists_succ hfuel
    rw [render_number, List.cons_append, readValue_number (.inr rfl),
      (readNumber_digits hds hrest).2]
    rfl

lemma starts_renderItems {v : Value} (h : Starts (render v)) (vs : List Value) :
    Starts (renderItems (v :: vs)) := by
  cases vs with
  | nil => exact h
  | cons u us => exact h.append _

lemma exists_renderMembers_eq (m : List Char × Value) (ms : List (List Char × Value)) :
    ∃ t, renderMembers (m :: ms) = '"' :: t := by
  cases ms with
  | nil => exact ⟨_,rfl⟩
  | cons u us => exact ⟨_,rfl⟩

lemma renderItems_cons_cons (v u : Value) (us : List Value) :
    renderItems (v :: u :: us) = render v ++ ',' :: renderItems (u :: us) :=
  renderItems.eq_3 v (u :: us) (fun h => List.cons_ne_nil u us h)

lemma renderMembers_cons_cons (m u : List Char × Value) (us : List (List Char × Value)) :
    renderMembers (m :: u :: us) =
      renderString m.1 ++ ':' :: (render m.2 ++ ',' :: renderMembers (u :: us)) :=
  renderMembers.eq_3 m.1 m.2 (u :: us) (fun h => List.cons_ne_nil u us h)

lemma readItems_render {v : Value} {vs : List Value} (h : ∀ u ∈ v :: vs, ReadsBack u) {fuel : Nat}
    (hfuel : (renderItems (v :: vs)).length < fuel) (rest : List Char) :
    readItems fuel (renderItems (v :: vs) ++ ']' :: rest) = some (v :: vs, rest) := by
  induction vs generalizing v fuel with
  | nil =>
    obtain ⟨fuel,rfl⟩ := Nat.exists_eq_succ_of_ne_zero (Nat.ne_zero_of_lt hfuel)
    have hvalue := (h v (List.mem_cons_self ..)).readValue_append fuel _ (Nat.le_of_lt_succ hfuel)
      (endsNumber_separator (.inr (.inl rfl)) rest)
    exact readItems_last blanks_nil hvalue
  | cons u us ih =>
    obtain ⟨fuel,rfl⟩ := Nat.exists_eq_succ_of_ne_zero (Nat.ne_zero_of_lt hfuel)
    have hmore : ∀ w ∈ u :: us, ReadsBack w := fun w hw => h w (List.mem_cons_of_mem _ hw)
    have hu := starts_renderItems (hmore u (List.mem_cons_self ..)).starts us
    rw [renderItems_cons_cons, List.length_append, List.length_cons] at hfuel
    rw [renderItems_cons_cons, List.append_assoc, List.cons_append]
    have hvalue := (h v (List.mem_cons_self ..)).readValue_append fuel _ (by omega)
      (endsNumber_separator (.inl rfl) (renderItems (u :: us) ++ ']' :: rest))
    exact readItems_more blanks_nil blanks_nil (hu.append _) hvalue (ih hmore (by omega))

lemma readMembers_render {m : List Char × Value} {ms : List (List Char × Value)}
    (h : ∀ u ∈ m :: ms, ReadsBack u.2) {fuel : Nat}
    (hfuel : (renderMembers (m :: ms)).length < fuel) (rest : List Char) :
    readMembers fuel (renderMembers (m :: ms) ++ '\x7d' :: rest) = some (m :: ms, rest) := by
  induction ms generalizing m fuel with
  | nil =>
    obtain ⟨fuel,rfl⟩ := Nat.exists_eq_succ_of_ne_zero (Nat.ne_zero_of_lt hfuel)
    have hm := h m (List.mem_cons_self ..)
    rw [renderMembers, List.length_append, List.length_cons] at hfuel
    rw [renderMembers, List.append_assoc, List.cons_append]
    have hvalue := hm.readValue_append fuel _ (by omega)
      (endsNumber_separator (.inr (.inr rfl)) rest)
    have hread := readMembers_last m.1 blanks_nil blanks_nil blanks_nil (hm.starts.append _) hvalue
    exact hread
  | cons u us ih =>
    obtain ⟨fuel,rfl⟩ := Nat.exists_eq_succ_of_ne_zero (Nat.ne_zero_of_lt hfuel)
    have hm := h m (List.mem_cons_self ..)
    have hmore : ∀ w ∈ u :: us, ReadsBack w.2 := fun w hw => h w (List.mem_cons_of_mem _ hw)
    obtain ⟨t,ht⟩ := exists_renderMembers_eq u us
    have hu : Starts (renderMembers (u :: us)) := ⟨_,t,ht,by decide,by decide⟩
    rw [renderMembers_cons_cons, List.length_append, List.length_cons, List.length_append,
      List.length_cons] at hfuel
    rw [renderMembers_cons_cons, List.append_assoc, List.cons_append, List.append_assoc,
      List.cons_append]
    have hvalue := hm.readValue_append fuel _ (by omega)
      (endsNumber_separator (.inl rfl) (renderMembers (u :: us) ++ '\x7d' :: rest))
    have hread := readMembers_more m.1 blanks_nil blanks_nil blanks_nil blanks_nil
      (hm.starts.append _) (hu.append _) hvalue (ih hmore (by omega))
    exact hread

lemma Spells.readsBack {n : Nat} {v : Value} (h : Spells n v (render v)) : ReadsBack v :=
  ⟨h.starts,fun _ rest hfuel _ => h.readValue_append hfuel rest⟩

theorem Integral.readsBack {n : Nat} {v : Value} (h : Integral n v) : ReadsBack v := by
  induction h with
  | null n => exact (Spells.null n).readsBack
  | bool n b => exact (Spells.bool n b).readsBack
  | int n i => exact readsBack_ofInt i
  | string n s => exact (Spells.string n s).readsBack
  | @array n vs _ ih =>
    cases vs with
    | nil => exact (Spells.emptyArray (n := 0) blanks_nil).readsBack
    | cons v vs =>
      refine ⟨⟨_,_,rfl,by decide,by decide⟩,fun fuel rest hfuel _ => ?_⟩
      have hitems := starts_renderItems (ih v (List.mem_cons_self ..)).starts vs
      rw [render_array, List.length_cons, List.length_append, List.length_singleton] at hfuel
      obtain ⟨fuel,rfl⟩ := Nat.exists_eq_succ_of_ne_zero (Nat.ne_zero_of_lt hfuel)
      rw [render_array, List.cons_append, List.append_assoc, List.singleton_append]
      exact readValue_array (b := []) blanks_nil (hitems.append _)
        (readItems_render ih (by omega) rest)
  | @object n ms _ ih =>
    cases ms with
    | nil => exact (Spells.emptyObject (n := 0) blanks_nil).readsBack
    | cons m ms =>
      refine ⟨⟨_,_,rfl,by decide,by decide⟩,fun fuel rest hfuel _ => ?_⟩
      rw [render_object, List.length_cons, List.length_append, List.length_singleton] at hfuel
      obtain ⟨fuel,rfl⟩ := Nat.exists_eq_succ_of_ne_zero (Nat.ne_zero_of_lt hfuel)
      have hmembers := readMembers_render ih (Nat.lt_of_succ_lt_succ hfuel) rest
      obtain ⟨t,ht⟩ := exists_renderMembers_eq m ms
      rw [render_object, List.cons_append, List.append_assoc, List.singleton_append]
      rw [ht] at hmembers ⊢
      exact readValue_object (b := []) blanks_nil hmembers

/-! ## Nesting -/

lemma nestsBeyond_digits {ds : List Char} (hds : ∀ c ∈ ds, c.isDigit = true) (limit depth : Nat)
    (rest : List Char) :
    nestsBeyond limit depth false (ds ++ rest) = nestsBeyond limit depth false rest := by
  induction ds with
  | nil => rfl
  | cons c ds ih =>
    have hc := hds c (List.mem_cons_self ..)
    have hother := ne_of_isDigit hc
    rw [← ih fun d hd => hds d (List.mem_cons_of_mem _ hd), List.cons_append, nestsBeyond]
    simp [hother '"' rfl, hother '[' rfl, hother '\x7b' rfl, hother ']' rfl, hother '\x7d' rfl]

lemma nestsBeyond_ofInt (i : Int) (limit depth : Nat) (rest : List Char) :
    nestsBeyond limit depth false (render (.ofInt i) ++ rest) =
      nestsBeyond limit depth false rest := by
  obtain ⟨ds,hds,heq | heq⟩ := exists_ofInt_eq i
  · rw [heq, render_number, nestsBeyond_digits hds.isDigit]
  · rw [heq, render_number, List.cons_append, ← nestsBeyond_digits hds.isDigit limit depth rest]
    rfl

section
variable {limit depth : Nat}

lemma nestsBeyond_renderItems {vs : List Value} (h : ∀ v ∈ vs, ∀ rest,
      nestsBeyond limit depth false (render v ++ rest) = nestsBeyond limit depth false rest)
    (rest : List Char) :
    nestsBeyond limit depth false (renderItems vs ++ rest) =
      nestsBeyond limit depth false rest := by
  induction vs with
  | nil => rfl
  | cons v vs ih =>
    have hv := h v (List.mem_cons_self ..)
    cases vs with
    | nil => exact hv rest
    | cons u us =>
      rw [renderItems_cons_cons, List.append_assoc, hv, List.cons_append,
        nestsBeyond_separator _ _ (.inl rfl), ih fun w hw => h w (List.mem_cons_of_mem _ hw)]

lemma nestsBeyond_renderMembers {ms : List (List Char × Value)} (h : ∀ m ∈ ms, ∀ rest,
      nestsBeyond limit depth false (render m.2 ++ rest) = nestsBeyond limit depth false rest)
    (rest : List Char) :
    nestsBeyond limit depth false (renderMembers ms ++ rest) =
      nestsBeyond limit depth false rest := by
  induction ms with
  | nil => rfl
  | cons m ms ih =>
    have hm := h m (List.mem_cons_self ..)
    cases ms with
    | nil =>
      rw [renderMembers, List.append_assoc, nestsBeyond_renderString, List.cons_append,
        nestsBeyond_separator _ _ (.inr rfl), hm]
    | cons u us =>
      rw [renderMembers_cons_cons, List.append_assoc, nestsBeyond_renderString, List.cons_append,
        nestsBeyond_separator _ _ (.inr rfl), List.append_assoc, hm, List.cons_append,
        nestsBeyond_separator _ _ (.inl rfl), ih fun w hw => h w (List.mem_cons_of_mem _ hw)]

lemma nestsBeyond_close {c : Char} (hc : c = ']' ∨ c = '\x7d') (rest : List Char) :
    nestsBeyond limit (depth + 1) false (c :: rest) = nestsBeyond limit depth false rest := by
  obtain rfl | rfl := hc <;> rfl

end

/-- Outside a document the same brackets are open before and after it. -/
theorem Integral.nestsBeyond_append {n depth limit : Nat} {v : Value} (h : Integral n v)
    (hdepth : depth + n ≤ limit) (rest : List Char) :
    nestsBeyond limit depth false (render v ++ rest) = nestsBeyond limit depth false rest := by
  induction h generalizing depth rest with
  | null => rfl
  | bool n b => cases b <;> rfl
  | int n i => exact nestsBeyond_ofInt i limit depth rest
  | string n s => exact nestsBeyond_renderString limit depth s rest
  | @array n vs _ ih =>
    rw [render_array, List.cons_append, nestsBeyond_open (by omega) (.inl rfl), List.append_assoc,
      nestsBeyond_renderItems fun v hv => ih v hv (by omega)]
    exact nestsBeyond_close (.inl rfl) rest
  | @object n ms _ ih =>
    rw [render_object, List.cons_append, nestsBeyond_open (by omega) (.inr rfl), List.append_assoc,
      nestsBeyond_renderMembers fun m hm => ih m hm (by omega)]
    exact nestsBeyond_close (.inr rfl) rest

/-- A document whose numbers are integers is read back from its text. -/
theorem Integral.read_render {v : Value} (h : Integral depthLimit v) :
    read (render v) = some v := by
  have hnests : nestsBeyond depthLimit 0 false (render v) = false := by
    rw [← List.append_nil (render v), h.nestsBeyond_append (Nat.le_of_eq (Nat.zero_add _))]
    rfl
  have hskip : skipBlanks (render v) = render v := h.readsBack.starts.skipBlanks_append blanks_nil
  have hread := h.readsBack.readValue_append ((render v).length + 1) [] (Nat.le_succ _)
    (by rintro _ ⟨⟩)
  rw [List.append_nil] at hread
  rw [read, hnests, hskip, hread]
  rfl

end Stencil.Json
