import Mathlib.Data.List.TakeWhile
import Mathlib.Tactic.Common
import Stencil.Json.Reader
import Stencil.Json.Writer

/-! Reading what was written. A text that spells a document, whatever blanks it has between its
parts, is read as this document; both ways of writing spell it. -/
namespace Stencil.Json
variable {rest : List Char}

/-! ## Strings -/

lemma hexValue?_hexChar : ∀ n < 16, hexValue? (hexChar n) = some n := by decide

/-- The digits of an escape give the code back. -/
lemma hex4?_digits {n : Nat} (h : n < 65536) :
    hex4? (hexChar (n / 4096 % 16)) (hexChar (n / 256 % 16)) (hexChar (n / 16 % 16))
      (hexChar (n % 16)) = some n := by
  simp only [hex4?, hexValue?_hexChar _ (Nat.mod_lt _ (by decide : 0 < 16))]
  exact congrArg some (by omega)

/-- What a character is read as: itself, or its code. -/
def Piece.StandsFor (c : Char) (p : Piece) : Prop := p = .char c ∨ p = .unit c.toNat

lemma toNat_not_surrogate (c : Char) :
    isHighSurrogate c.toNat = false ∧ isLowSurrogate c.toNat = false := by
  have hvalid : c.toNat < 55296 ∨ 57343 < c.toNat ∧ c.toNat < 1114112 := c.valid
  constructor
  · simp only [isHighSurrogate, Bool.and_eq_false_iff, decide_eq_false_iff_not]
    omega
  · simp only [isLowSurrogate, Bool.and_eq_false_iff, decide_eq_false_iff_not]
    omega

/-- No code of a character is half of a pair. -/
lemma joinUnits_standsFor {ps : List Piece} {cs : List Char}
    (h : List.Forall₂ Piece.StandsFor cs ps) : joinUnits ps = cs := by
  induction h with
  | nil => rfl
  | @cons c p cs ps hp _ ih =>
    obtain ⟨hhigh,hlow⟩ := toNat_not_surrogate c
    obtain rfl | rfl := hp
    · rw [joinUnits, ih]
    · cases ps with
      | nil => simp [joinUnits, hhigh, hlow, Char.ofNat_toNat, ← ih]
      | cons q qs =>
        cases q with
        | char d => simp [joinUnits, hhigh, hlow, Char.ofNat_toNat, ← ih]
        | unit m => simp [joinUnits, hhigh, hlow, Char.ofNat_toNat, ← ih]

/-- A character is written with a backslash before a letter, by its code, or as it is. -/
lemma escapeChar_cases (c : Char) :
    (∃ e, escapeChar c = ['\\', e] ∧ ∀ rest, readPieces ('\\' :: e :: rest) =
      (readPieces rest).map fun (ps, rest) => (.char c :: ps, rest)) ∨
    escapeChar c = unicodeEscape c.toNat ∧ c.toNat < 65536 ∨
    escapeChar c = [c] ∧ c ≠ '"' ∧ c ≠ '\\' ∧ ¬c.toNat < 0x20 := by
  have hcode {n : Nat} (h : c.toNat = n) : c = Char.ofNat n := h ▸ (Char.ofNat_toNat c).symm
  generalize hescaped : escapeChar c = e
  unfold escapeChar at hescaped
  split at hescaped
  · next h => exact .inl ⟨_,hescaped.symm,fun _ => by rw [h]; rfl⟩
  split at hescaped
  · next h => exact .inl ⟨_,hescaped.symm,fun _ => by rw [h]; rfl⟩
  split at hescaped
  · next h => exact .inl ⟨_,hescaped.symm,fun _ => by rw [h]; rfl⟩
  split at hescaped
  · next h => exact .inl ⟨_,hescaped.symm,fun _ => by rw [h]; rfl⟩
  split at hescaped
  · next h => exact .inl ⟨_,hescaped.symm,fun _ => by rw [h]; rfl⟩
  split at hescaped
  · next h => exact .inl ⟨_,hescaped.symm,fun _ => by rw [hcode h]; rfl⟩
  split at hescaped
  · next h => exact .inl ⟨_,hescaped.symm,fun _ => by rw [hcode h]; rfl⟩
  split at hescaped
  · next h =>
    refine .inr (.inl ⟨hescaped.symm,?_⟩)
    obtain h | rfl | rfl | rfl | h | h := h
    · omega
    · decide
    · decide
    · decide
    · omega
    · omega
  · next hquote hbackslash _ _ _ _ _ h =>
    exact .inr (.inr ⟨hescaped.symm,hquote,hbackslash,fun hlow => h (.inl hlow)⟩)

/-- Every character is read back from the way it is written. -/
lemma readPieces_escapeChar (c : Char) (rest : List Char) :
    ∃ p, Piece.StandsFor c p ∧ readPieces (escapeChar c ++ rest) =
      (readPieces rest).map fun (ps, rest) => (p :: ps, rest) := by
  obtain ⟨e,he,hread⟩ | ⟨he,hlow⟩ | ⟨he,hquote,hbackslash,hlow⟩ := escapeChar_cases c
  · exact ⟨.char c,.inl rfl,he ▸ hread rest⟩
  · refine ⟨.unit c.toNat,.inr rfl,?_⟩
    rw [he, unicodeEscape]
    simp only [List.cons_append, List.nil_append, readPieces, hex4?_digits hlow]
    cases readPieces rest <;> rfl
  · refine ⟨.char c,.inl rfl,?_⟩
    have hplain : ¬(c = '\\' || decide (c.toNat < 0x20)) = true := by simp [hbackslash, hlow]
    rw [he, List.singleton_append, readPieces.eq_def]
    split
    · next heq => cases heq
    · next heq => exact absurd (List.cons.inj heq).1 hquote
    · next heq => exact absurd (List.cons.inj heq).1 hbackslash
    · next heq => exact absurd (List.cons.inj heq).1 hbackslash
    · next heq =>
      obtain ⟨rfl,rfl⟩ := List.cons.inj heq
      rw [if_neg hplain]

/-- A string is read back from the way it is written. -/
theorem readString_render (s rest : List Char) :
    readString (s.flatMap escapeChar ++ '"' :: rest) = some (s, rest) := by
  have hpieces : ∃ ps, List.Forall₂ Piece.StandsFor s ps ∧
      readPieces (s.flatMap escapeChar ++ '"' :: rest) = some (ps, rest) := by
    induction s with
    | nil => exact ⟨[],.nil,by rw [List.flatMap_nil, List.nil_append, readPieces]⟩
    | cons c s ih =>
      obtain ⟨ps,hps,hread⟩ := ih
      obtain ⟨p,hp,hfirst⟩ := readPieces_escapeChar c (s.flatMap escapeChar ++ '"' :: rest)
      refine ⟨p :: ps,.cons hp hps,?_⟩
      rw [List.flatMap_cons, List.append_assoc, hfirst, hread]
      rfl
  obtain ⟨ps,hps,hread⟩ := hpieces
  rw [readString, hread, Option.map_some]
  dsimp only
  rw [joinUnits_standsFor hps]

lemma nestsBeyond_plain (limit depth : Nat) {c : Char} (hquote : c ≠ '"') (hbackslash : c ≠ '\\')
    (rest : List Char) :
    nestsBeyond limit depth true (c :: rest) = nestsBeyond limit depth true rest := by
  have hopen : (c != '"') = true := by simpa using hquote
  rw [nestsBeyond, hopen]
  intro d more heq
  exact absurd heq hbackslash

/-- No bracket in a string counts. -/
lemma nestsBeyond_string (limit depth : Nat) (s rest : List Char) :
    nestsBeyond limit depth true (s.flatMap escapeChar ++ '"' :: rest) =
      nestsBeyond limit depth false rest := by
  have hhex : ∀ n < 16, hexChar n ≠ '"' ∧ hexChar n ≠ '\\' := by decide
  have hdigit (n : Nat) (rest : List Char) :
      nestsBeyond limit depth true (hexChar (n % 16) :: rest) = nestsBeyond limit depth true rest :=
    nestsBeyond_plain limit depth (hhex _ (Nat.mod_lt n (by decide))).1
      (hhex _ (Nat.mod_lt n (by decide))).2 rest
  induction s with
  | nil => rfl
  | cons c s ih =>
    rw [List.flatMap_cons, List.append_assoc, ← ih]
    obtain ⟨e,he,-⟩ | ⟨he,-⟩ | ⟨he,hquote,hbackslash,-⟩ := escapeChar_cases c
    · rw [he]
      rfl
    · rw [he, unicodeEscape]
      simp only [List.cons_append, List.nil_append]
      rw [nestsBeyond, hdigit, hdigit, hdigit, hdigit]
    · rw [he]
      exact nestsBeyond_plain limit depth hquote hbackslash _

/-! ## Documents -/

def Blanks (b : List Char) : Prop := ∀ c ∈ b, isBlank c = true

mutual
/-- Texts for a document without numbers, with at most so many brackets open at once. -/
inductive Spells : Nat → Value → List Char → Prop
  | null (n : Nat) : Spells n .null (render .null)
  | bool (n : Nat) (b : Bool) : Spells n (.bool b) (render (.bool b))
  | string (n : Nat) (s : List Char) : Spells n (.string s) (renderString s)
  | emptyArray {n : Nat} {b : List Char} : Blanks b → Spells (n + 1) (.array []) ('[' :: (b ++ [']']))
  | array {n : Nat} {b t : List Char} {vs : List Value} : Blanks b → SpellsItems n vs t →
      Spells (n + 1) (.array vs) ('[' :: (b ++ t))
  | emptyObject {n : Nat} {b : List Char} : Blanks b →
      Spells (n + 1) (.object []) ('\x7b' :: (b ++ ['\x7d']))
  | object {n : Nat} {b t : List Char} {ms : List (List Char × Value)} : Blanks b →
      SpellsMembers n ms t → Spells (n + 1) (.object ms) ('\x7b' :: (b ++ t))

/-- Texts for the items of an array, up to its bracket. -/
inductive SpellsItems : Nat → List Value → List Char → Prop
  | last {n : Nat} {v : Value} {t b : List Char} : Spells n v t → Blanks b →
      SpellsItems n [v] (t ++ (b ++ [']']))
  | more {n : Nat} {v : Value} {vs : List Value} {t b b' ts : List Char} : Spells n v t →
      Blanks b → Blanks b' → SpellsItems n vs ts →
      SpellsItems n (v :: vs) (t ++ (b ++ ',' :: (b' ++ ts)))

/-- Texts for the members of an object, up to its brace. -/
inductive SpellsMembers : Nat → List (List Char × Value) → List Char → Prop
  | last {n : Nat} {k : List Char} {v : Value} {b b' t b'' : List Char} : Blanks b → Blanks b' →
      Spells n v t → Blanks b'' →
      SpellsMembers n [(k, v)] (renderString k ++ (b ++ ':' :: (b' ++ (t ++ (b'' ++ ['\x7d'])))))
  | more {n : Nat} {k : List Char} {v : Value} {ms : List (List Char × Value)}
      {b b' t b'' c ts : List Char} : Blanks b → Blanks b' → Spells n v t → Blanks b'' → Blanks c →
      SpellsMembers n ms ts →
      SpellsMembers n ((k, v) :: ms)
        (renderString k ++ (b ++ ':' :: (b' ++ (t ++ (b'' ++ ',' :: (c ++ ts))))))
end

/-- The first character of a text is no blank and no bracket that ends an array. -/
def Starts (t : List Char) : Prop := ∃ c t', t = c :: t' ∧ isBlank c = false ∧ c ≠ ']'

lemma Starts.exists_succ {t : List Char} (h : Starts t) {fuel : Nat} (hfuel : t.length ≤ fuel) :
    ∃ k, fuel = k + 1 := by
  obtain ⟨c,t',rfl,-⟩ := h
  exact Nat.exists_eq_succ_of_ne_zero (Nat.ne_of_gt (Nat.lt_of_lt_of_le (Nat.succ_pos _) hfuel))

lemma Starts.append {t : List Char} (h : Starts t) (rest : List Char) : Starts (t ++ rest) := by
  obtain ⟨c,t',rfl,hc⟩ := h
  exact ⟨c,t' ++ rest,rfl,hc⟩

lemma starts_renderString (s : List Char) : Starts (renderString s) :=
  ⟨_,_,rfl,by decide,by decide⟩

lemma Spells.starts {n : Nat} {v : Value} {t : List Char} (h : Spells n v t) : Starts t := by
  cases h with
  | null => exact ⟨_,_,rfl,by decide,by decide⟩
  | bool n b => cases b <;> exact ⟨_,_,rfl,by decide,by decide⟩
  | string => exact starts_renderString _
  | emptyArray => exact ⟨_,_,rfl,by decide,by decide⟩
  | array => exact ⟨_,_,rfl,by decide,by decide⟩
  | emptyObject => exact ⟨_,_,rfl,by decide,by decide⟩
  | object => exact ⟨_,_,rfl,by decide,by decide⟩

lemma SpellsItems.starts {n : Nat} {vs : List Value} {t : List Char} (h : SpellsItems n vs t) :
    Starts t := by
  cases h with
  | last hv _ => exact hv.starts.append _
  | more hv _ _ _ => exact hv.starts.append _

/-! ## Reading documents -/

lemma skipBlanks_append {b : List Char} (hb : Blanks b) {c : Char} (hc : isBlank c = false)
    (rest : List Char) : skipBlanks (b ++ c :: rest) = c :: rest := by
  rw [skipBlanks, List.dropWhile_append_of_pos hb, List.dropWhile_cons_of_neg (by simp [hc])]

lemma Starts.skipBlanks_append {b t : List Char} (h : Starts t) (hb : Blanks b) :
    skipBlanks (b ++ t) = t := by
  obtain ⟨c,t',rfl,hc,-⟩ := h
  exact Json.skipBlanks_append hb hc t'

section
variable {fuel : Nat} {b b' b'' c t : List Char} {v : Value}

lemma readValue_array {vs : List Value} (hb : Blanks b) (ht : Starts t)
    (h : readItems fuel t = some (vs, rest)) :
    readValue (fuel + 1) ('[' :: (b ++ t)) = some (.array vs, rest) := by
  obtain ⟨c,t',rfl,hc,hbracket⟩ := ht
  rw [readValue, if_neg (by decide), if_pos rfl, skipBlanks_append hb hc]
  split
  · next heq => exact absurd (List.cons.inj heq).1 hbracket
  · rw [h]
    rfl

lemma readValue_object {ms : List (List Char × Value)} (hb : Blanks b)
    (h : readMembers fuel ('"' :: t) = some (ms, rest)) :
    readValue (fuel + 1) ('\x7b' :: (b ++ '"' :: t)) = some (.object ms, rest) := by
  rw [readValue, if_neg (by decide), if_neg (by decide), if_pos rfl,
    skipBlanks_append hb (by decide)]
  simp [h]

lemma readItems_last (hb : Blanks b) (h : readValue fuel t = some (v, b ++ ']' :: rest)) :
    readItems (fuel + 1) t = some ([v], rest) := by
  rw [readItems, h]
  simp [skipBlanks_append hb (by decide : isBlank ']' = false)]

lemma readItems_more {vs : List Value} (hb : Blanks b) (hb' : Blanks b') (hc : Starts c)
    (h : readValue fuel t = some (v, b ++ ',' :: (b' ++ c)))
    (hmore : readItems fuel c = some (vs, rest)) :
    readItems (fuel + 1) t = some (v :: vs, rest) := by
  rw [readItems, h]
  simp [skipBlanks_append hb (by decide : isBlank ',' = false), hc.skipBlanks_append hb', hmore]

lemma readMembers_last (k : List Char) (hb : Blanks b) (hb' : Blanks b') (hb'' : Blanks b'')
    (ht : Starts t) (h : readValue fuel t = some (v, b'' ++ '\x7d' :: rest)) :
    readMembers (fuel + 1) (renderString k ++ (b ++ ':' :: (b' ++ t))) =
      some ([(k, v)], rest) := by
  rw [renderString, List.cons_append, List.append_assoc, List.singleton_append, readMembers,
    readString_render]
  simp [skipBlanks_append hb (by decide : isBlank ':' = false), ht.skipBlanks_append hb', h,
    skipBlanks_append hb'' (by decide : isBlank '\x7d' = false)]

lemma readMembers_more (k : List Char) {ms : List (List Char × Value)} {b₃ : List Char}
    (hb : Blanks b) (hb' : Blanks b') (hb'' : Blanks b'') (hb₃ : Blanks b₃) (ht : Starts t)
    (hc : Starts c) (h : readValue fuel t = some (v, b'' ++ ',' :: (b₃ ++ c)))
    (hmore : readMembers fuel c = some (ms, rest)) :
    readMembers (fuel + 1) (renderString k ++ (b ++ ':' :: (b' ++ t))) =
      some ((k, v) :: ms, rest) := by
  rw [renderString, List.cons_append, List.append_assoc, List.singleton_append, readMembers,
    readString_render]
  simp [skipBlanks_append hb (by decide : isBlank ':' = false), ht.skipBlanks_append hb', h,
    skipBlanks_append hb'' (by decide : isBlank ',' = false), hc.skipBlanks_append hb₃, hmore]

end

lemma SpellsMembers.head {n : Nat} {ms : List (List Char × Value)} {t : List Char}
    (h : SpellsMembers n ms t) : ∃ t', t = '"' :: t' := by
  cases h with
  | last => exact ⟨_,rfl⟩
  | more => exact ⟨_,rfl⟩

lemma SpellsMembers.starts {n : Nat} {ms : List (List Char × Value)} {t : List Char}
    (h : SpellsMembers n ms t) : Starts t := by
  obtain ⟨t',rfl⟩ := h.head
  exact ⟨_,t',rfl,by decide,by decide⟩

mutual
/-- A document is read off the front of a text that spells it. -/
theorem Spells.readValue_append {n fuel : Nat} {v : Value} {t : List Char} (h : Spells n v t)
    (hfuel : t.length ≤ fuel) (rest : List Char) : readValue fuel (t ++ rest) = some (v, rest) := by
  obtain ⟨fuel,rfl⟩ := h.starts.exists_succ hfuel
  cases h with
  | null => rfl
  | bool n b => cases b <;> rfl
  | string n s =>
    rw [renderString, List.cons_append, List.append_assoc, List.singleton_append, readValue,
      if_pos rfl, readString_render]
    rfl
  | emptyArray hb =>
    rw [List.cons_append, List.append_assoc, List.singleton_append, readValue,
      if_neg (by decide), if_pos rfl, skipBlanks_append hb (by decide)]
    rfl
  | array hb hvs =>
    rw [List.cons_append, List.append_assoc]
    refine readValue_array hb (hvs.starts.append rest) (hvs.readItems_append ?_ rest)
    rw [List.length_cons, List.length_append] at hfuel
    omega
  | emptyObject hb =>
    rw [List.cons_append, List.append_assoc, List.singleton_append, readValue,
      if_neg (by decide), if_neg (by decide), if_pos rfl, skipBlanks_append hb (by decide)]
    rfl
  | @object n b t ms hb hms =>
    have hmembers : readMembers fuel (t ++ rest) = some (ms, rest) := by
      refine hms.readMembers_append ?_ rest
      rw [List.length_cons, List.length_append] at hfuel
      omega
    obtain ⟨t',rfl⟩ := hms.head
    rw [List.cons_append, List.append_assoc]
    exact readValue_object hb hmembers

theorem SpellsItems.readItems_append {n fuel : Nat} {vs : List Value} {t : List Char}
    (h : SpellsItems n vs t) (hfuel : t.length ≤ fuel) (rest : List Char) :
    readItems fuel (t ++ rest) = some (vs, rest) := by
  obtain ⟨fuel,rfl⟩ := h.starts.exists_succ hfuel
  cases h with
  | last hv hb =>
    simp only [List.length_append, List.length_cons] at hfuel
    simp only [List.append_assoc, List.singleton_append]
    exact readItems_last hb (hv.readValue_append (by omega) _)
  | more hv hb hb' hvs =>
    simp only [List.length_append, List.length_cons] at hfuel
    simp only [List.append_assoc, List.cons_append]
    exact readItems_more hb hb' (hvs.starts.append rest) (hv.readValue_append (by omega) _)
      (hvs.readItems_append (by omega) rest)

theorem SpellsMembers.readMembers_append {n fuel : Nat} {ms : List (List Char × Value)}
    {t : List Char} (h : SpellsMembers n ms t) (hfuel : t.length ≤ fuel) (rest : List Char) :
    readMembers fuel (t ++ rest) = some (ms, rest) := by
  obtain ⟨fuel,rfl⟩ := h.starts.exists_succ hfuel
  cases h with
  | last hb hb' hv hb'' =>
    simp only [List.length_append, List.length_cons] at hfuel
    simp only [List.append_assoc, List.cons_append, List.nil_append]
    exact readMembers_last _ hb hb' hb'' (hv.starts.append _) (hv.readValue_append (by omega) _)
  | more hb hb' hv hb'' hc hms =>
    simp only [List.length_append, List.length_cons] at hfuel
    simp only [List.append_assoc, List.cons_append]
    exact readMembers_more _ hb hb' hb'' hc (hv.starts.append _) (hms.starts.append rest)
      (hv.readValue_append (by omega) _) (hms.readMembers_append (by omega) rest)
end

/-! ## Nesting -/

lemma nestsBeyond_blanks {b : List Char} (hb : Blanks b) (limit depth : Nat) (rest : List Char) :
    nestsBeyond limit depth false (b ++ rest) = nestsBeyond limit depth false rest := by
  induction b with
  | nil => rfl
  | cons c b ih =>
    have hc := hb c (List.mem_cons_self ..)
    rw [← ih fun d hd => hb d (List.mem_cons_of_mem _ hd), List.cons_append]
    simp only [isBlank, Bool.or_eq_true, beq_iff_eq] at hc
    obtain ((rfl | rfl) | rfl) | rfl := hc <;> rfl

lemma nestsBeyond_renderString (limit depth : Nat) (s rest : List Char) :
    nestsBeyond limit depth false (renderString s ++ rest) =
      nestsBeyond limit depth false rest := by
  rw [renderString, List.cons_append, List.append_assoc, List.singleton_append, nestsBeyond,
    if_pos rfl, nestsBeyond_string]

lemma nestsBeyond_open {limit depth : Nat} (h : depth < limit) {c : Char}
    (hc : c = '[' ∨ c = '\x7b') (rest : List Char) :
    nestsBeyond limit depth false (c :: rest) = nestsBeyond limit (depth + 1) false rest := by
  have hlimit : decide (limit ≤ depth) = false := by simpa using h
  obtain rfl | rfl := hc
  · rw [nestsBeyond, if_neg (by decide), if_pos (by decide), hlimit, Bool.false_or]
  · rw [nestsBeyond, if_neg (by decide), if_pos (by decide), hlimit, Bool.false_or]

lemma nestsBeyond_separator (limit depth : Nat) {c : Char} (hc : c = ',' ∨ c = ':')
    (rest : List Char) :
    nestsBeyond limit depth false (c :: rest) = nestsBeyond limit depth false rest := by
  obtain rfl | rfl := hc <;> rfl

mutual
/-- Outside a document the same brackets are open before and after it. -/
theorem Spells.nestsBeyond_append {n depth limit : Nat} {v : Value} {t : List Char}
    (h : Spells n v t) (hdepth : depth + n ≤ limit) (rest : List Char) :
    nestsBeyond limit depth false (t ++ rest) = nestsBeyond limit depth false rest := by
  cases h with
  | null => rfl
  | bool n b => cases b <;> rfl
  | string n s => exact nestsBeyond_renderString limit depth s rest
  | emptyArray hb =>
    rw [List.cons_append, nestsBeyond_open (by omega) (.inl rfl), List.append_assoc,
      nestsBeyond_blanks hb]
    rfl
  | array hb hvs =>
    rw [List.cons_append, nestsBeyond_open (by omega) (.inl rfl), List.append_assoc,
      nestsBeyond_blanks hb, hvs.nestsBeyond_append (by omega)]
  | emptyObject hb =>
    rw [List.cons_append, nestsBeyond_open (by omega) (.inr rfl), List.append_assoc,
      nestsBeyond_blanks hb]
    rfl
  | object hb hms =>
    rw [List.cons_append, nestsBeyond_open (by omega) (.inr rfl), List.append_assoc,
      nestsBeyond_blanks hb, hms.nestsBeyond_append (by omega)]

theorem SpellsItems.nestsBeyond_append {n depth limit : Nat} {vs : List Value} {t : List Char}
    (h : SpellsItems n vs t) (hdepth : depth + 1 + n ≤ limit) (rest : List Char) :
    nestsBeyond limit (depth + 1) false (t ++ rest) = nestsBeyond limit depth false rest := by
  cases h with
  | last hv hb =>
    rw [List.append_assoc, hv.nestsBeyond_append hdepth, List.append_assoc, nestsBeyond_blanks hb]
    rfl
  | more hv hb hb' hvs =>
    rw [List.append_assoc, hv.nestsBeyond_append hdepth, List.append_assoc, nestsBeyond_blanks hb,
      List.cons_append, nestsBeyond_separator _ _ (.inl rfl), List.append_assoc,
      nestsBeyond_blanks hb', hvs.nestsBeyond_append hdepth]

theorem SpellsMembers.nestsBeyond_append {n depth limit : Nat} {ms : List (List Char × Value)}
    {t : List Char} (h : SpellsMembers n ms t) (hdepth : depth + 1 + n ≤ limit)
    (rest : List Char) :
    nestsBeyond limit (depth + 1) false (t ++ rest) = nestsBeyond limit depth false rest := by
  cases h with
  | last hb hb' hv hb'' =>
    rw [List.append_assoc, nestsBeyond_renderString, List.append_assoc, nestsBeyond_blanks hb,
      List.cons_append, nestsBeyond_separator _ _ (.inr rfl), List.append_assoc,
      nestsBeyond_blanks hb', List.append_assoc, hv.nestsBeyond_append hdepth, List.append_assoc,
      nestsBeyond_blanks hb'']
    rfl
  | more hb hb' hv hb'' hc hms =>
    rw [List.append_assoc, nestsBeyond_renderString, List.append_assoc, nestsBeyond_blanks hb,
      List.cons_append, nestsBeyond_separator _ _ (.inr rfl), List.append_assoc,
      nestsBeyond_blanks hb', List.append_assoc, hv.nestsBeyond_append hdepth, List.append_assoc,
      nestsBeyond_blanks hb'', List.cons_append, nestsBeyond_separator _ _ (.inl rfl),
      List.append_assoc, nestsBeyond_blanks hc, hms.nestsBeyond_append hdepth]
end

/-- A text that spells a document is read as this document, also if blanks follow. -/
theorem Spells.read_append {v : Value} {t b : List Char} (h : Spells depthLimit v t)
    (hb : Blanks b) : read (t ++ b) = some v := by
  have hnests : nestsBeyond depthLimit 0 false (t ++ b) = false := by
    rw [h.nestsBeyond_append (Nat.le_of_eq (Nat.zero_add _)), ← List.append_nil b,
      nestsBeyond_blanks hb]
    rfl
  have hskip : skipBlanks (t ++ b) = t ++ b :=
    (h.starts.append b).skipBlanks_append (List.forall_mem_nil _)
  have hend : skipBlanks b = [] := List.dropWhile_eq_nil_iff.mpr hb
  have hfuel : t.length ≤ (t ++ b).length + 1 := by
    rw [List.length_append]
    omega
  rw [read, hnests, hskip, h.readValue_append hfuel]
  change (do guard (skipBlanks b).isEmpty; return v) = some v
  rw [hend]
  rfl

/-! ## Writing documents -/

/-- Documents without numbers in which at most so many arrays and objects are open at once. -/
inductive Nests : Nat → Value → Prop
  | null (n : Nat) : Nests n .null
  | bool (n : Nat) (b : Bool) : Nests n (.bool b)
  | string (n : Nat) (s : List Char) : Nests n (.string s)
  | array {n : Nat} {vs : List Value} : (∀ v ∈ vs, Nests n v) → Nests (n + 1) (.array vs)
  | object {n : Nat} {ms : List (List Char × Value)} : (∀ m ∈ ms, Nests n m.2) →
      Nests (n + 1) (.object ms)

lemma blanks_nil : Blanks [] := List.forall_mem_nil _

lemma blanks_newline (depth : Nat) : Blanks (newline depth) := by
  intro c hc
  obtain rfl | hc := List.mem_cons.mp hc
  · rfl
  · rw [List.eq_of_mem_replicate hc]
    rfl

lemma spellsItems_render {n : Nat} {v : Value} {vs : List Value}
    (h : ∀ u ∈ v :: vs, Spells n u (render u)) :
    SpellsItems n (v :: vs) (renderItems (v :: vs) ++ [']']) := by
  induction vs generalizing v with
  | nil => exact .last (h v (List.mem_cons_self ..)) blanks_nil
  | cons u us ih =>
    have hmore := ih fun w hw => h w (List.mem_cons_of_mem _ hw)
    have hall := SpellsItems.more (h v (List.mem_cons_self ..)) blanks_nil blanks_nil hmore
    rwa [renderItems, List.append_assoc]
    simp

lemma spellsMembers_render {n : Nat} {m : List Char × Value} {ms : List (List Char × Value)}
    (h : ∀ u ∈ m :: ms, Spells n u.2 (render u.2)) :
    SpellsMembers n (m :: ms) (renderMembers (m :: ms) ++ ['\x7d']) := by
  induction ms generalizing m with
  | nil =>
    have hall := SpellsMembers.last (k := m.1) blanks_nil blanks_nil
      (h m (List.mem_cons_self ..)) blanks_nil
    rwa [renderMembers, List.append_assoc]
  | cons u us ih =>
    have hmore := ih fun w hw => h w (List.mem_cons_of_mem _ hw)
    have hall := SpellsMembers.more (k := m.1) blanks_nil blanks_nil (h m (List.mem_cons_self ..))
      blanks_nil blanks_nil hmore
    rw [renderMembers, List.append_assoc, List.cons_append, List.append_assoc]
    · exact hall
    · simp

/-- A document on one line. -/
theorem Nests.spells_render {n : Nat} {v : Value} (h : Nests n v) : Spells n v (render v) := by
  induction h with
  | null n => exact .null n
  | bool n b => exact .bool n b
  | string n s => exact .string n s
  | @array n vs _ ih =>
    cases vs with
    | nil => exact .emptyArray blanks_nil
    | cons v vs => exact .array (b := []) blanks_nil (spellsItems_render ih)
  | @object n ms _ ih =>
    cases ms with
    | nil => exact .emptyObject blanks_nil
    | cons m ms => exact .object (b := []) blanks_nil (spellsMembers_render ih)

/-- The items of an indented array stand behind the line break of the first. -/
lemma spellsItems_indented {n depth : Nat} {b : List Char} (hb : Blanks b) {v : Value}
    {vs : List Value} (h : ∀ u ∈ v :: vs, Spells n u (renderIndented depth u)) :
    ∃ t, SpellsItems n (v :: vs) t ∧
      indentedItems depth (v :: vs) ++ b ++ [']'] = newline depth ++ t := by
  induction vs generalizing v with
  | nil =>
    refine ⟨_,.last (h v (List.mem_cons_self ..)) hb,?_⟩
    rw [indentedItems, List.append_assoc, List.append_assoc]
  | cons u us ih =>
    obtain ⟨t,ht,heq⟩ := ih fun w hw => h w (List.mem_cons_of_mem _ hw)
    refine ⟨_,.more (h v (List.mem_cons_self ..)) blanks_nil (blanks_newline depth) ht,?_⟩
    rw [indentedItems, ← heq]
    · simp
    · simp

lemma spellsMembers_indented {n depth : Nat} {b : List Char} (hb : Blanks b)
    {m : List Char × Value} {ms : List (List Char × Value)}
    (h : ∀ u ∈ m :: ms, Spells n u.2 (renderIndented depth u.2)) :
    ∃ t, SpellsMembers n (m :: ms) t ∧
      indentedMembers depth (m :: ms) ++ b ++ ['\x7d'] = newline depth ++ t := by
  have hblank : Blanks [' '] := by simp [Blanks, isBlank]
  induction ms generalizing m with
  | nil =>
    refine ⟨_,.last (k := m.1) blanks_nil hblank (h m (List.mem_cons_self ..)) hb,?_⟩
    simp [indentedMembers]
  | cons u us ih =>
    obtain ⟨t,ht,heq⟩ := ih fun w hw => h w (List.mem_cons_of_mem _ hw)
    refine ⟨_,.more (k := m.1) blanks_nil hblank (h m (List.mem_cons_self ..)) blanks_nil
      (blanks_newline depth) ht,?_⟩
    rw [indentedMembers, ← heq]
    · simp
    · simp

/-- A document with one item or member on a line. -/
theorem Nests.spells_renderIndented {n : Nat} {v : Value} (h : Nests n v) (depth : Nat) :
    Spells n v (renderIndented depth v) := by
  induction h generalizing depth with
  | null n => exact .null n
  | bool n b => cases b <;> exact .bool n _
  | string n s => exact .string n s
  | @array n vs _ ih =>
    cases vs with
    | nil => exact .emptyArray blanks_nil
    | cons v vs =>
      obtain ⟨t,ht,heq⟩ := spellsItems_indented (blanks_newline depth) fun u hu => ih u hu (depth + 1)
      have hspelled := Spells.array (blanks_newline (depth + 1)) ht
      rwa [← heq] at hspelled
  | @object n ms _ ih =>
    cases ms with
    | nil => exact .emptyObject blanks_nil
    | cons m ms =>
      obtain ⟨t,ht,heq⟩ :=
        spellsMembers_indented (blanks_newline depth) fun u hu => ih u hu (depth + 1)
      have hspelled := Spells.object (blanks_newline (depth + 1)) ht
      rwa [← heq] at hspelled

end Stencil.Json
