import Mathlib.Tactic.Common
import Stencil.Text.Utf8

/-! UTF-8 loses nothing. A character is read off exactly the bytes that encode it, so the characters
of an encoded text are those that were encoded, and a text comes back from its characters if and
only if no byte of it is stray. -/
namespace Stencil.Text.Utf8
variable {b rest : Bytes} {c : Char}

/-! ## One character -/

lemma toNat_ofNat {n : Nat} (h : n < 256) : (UInt8.ofNat n).toNat = n := by
  simp [Nat.mod_eq_of_lt h]

lemma ofNat_eq {n : Nat} {a : UInt8} (h : n = a.toNat) : UInt8.ofNat n = a := by
  rw [h, UInt8.ofNat_toNat]

lemma toNat_ofNat_of_isValidChar {n : Nat} (h : n.isValidChar) : (Char.ofNat n).toNat = n := by
  rw [Char.ofNat, dif_pos h]
  rfl

lemma isContinuation_iff (b : UInt8) :
    isContinuation b = true ↔ 0x80 ≤ b.toNat ∧ b.toNat ≤ 0xBF := by
  simp [isContinuation, UInt8.le_iff_toNat_le]

lemma encodeChar_one (h : c.toNat ≤ 0x7F) : encodeChar c = [UInt8.ofNat c.toNat] := if_pos h

lemma encodeChar_two (h₁ : 0x7F < c.toNat) (h : c.toNat ≤ 0x7FF) :
    encodeChar c = [UInt8.ofNat (c.toNat / 64 % 32 + 192), UInt8.ofNat (c.toNat % 64 + 128)] :=
  (if_neg (Nat.not_le.mpr h₁)).trans (if_pos h)

lemma encodeChar_three (h₁ : 0x7FF < c.toNat) (h : c.toNat ≤ 0xFFFF) :
    encodeChar c = [UInt8.ofNat (c.toNat / 4096 % 16 + 224),
      UInt8.ofNat (c.toNat / 64 % 64 + 128), UInt8.ofNat (c.toNat % 64 + 128)] :=
  (if_neg (Nat.not_le.mpr (Nat.lt_trans (by decide) h₁))).trans
    ((if_neg (Nat.not_le.mpr h₁)).trans (if_pos h))

lemma encodeChar_four (h : 0xFFFF < c.toNat) :
    encodeChar c = [UInt8.ofNat (c.toNat / 262144 % 8 + 240),
      UInt8.ofNat (c.toNat / 4096 % 64 + 128), UInt8.ofNat (c.toNat / 64 % 64 + 128),
      UInt8.ofNat (c.toNat % 64 + 128)] :=
  (if_neg (Nat.not_le.mpr (Nat.lt_trans (by decide) h))).trans
    ((if_neg (Nat.not_le.mpr (Nat.lt_trans (by decide) h))).trans (if_neg (Nat.not_le.mpr h)))

section
variable {x y z u : UInt8} {n : Nat}

lemma decodeChar?_one (hx : x.toNat < 0x80) (hn : n = x.toNat) :
    decodeChar? (x :: rest) = some (Char.ofNat n, rest) := by
  have h : x < 0x80 := UInt8.lt_iff_toNat_lt.mpr hx
  unfold decodeChar?
  dsimp only
  rw [if_pos h, hn]

lemma decodeChar?_two (hx : 0xC2 ≤ x.toNat ∧ x.toNat ≤ 0xDF)
    (hy : 0x80 ≤ y.toNat ∧ y.toNat ≤ 0xBF) (hn : n = x.toNat % 32 * 64 + y.toNat % 64) :
    decodeChar? (x :: y :: rest) = some (Char.ofNat n, rest) := by
  have h₁ : ¬x.toNat < 128 := by omega
  simp [decodeChar?, UInt8.lt_iff_toNat_lt, UInt8.le_iff_toNat_le, (isContinuation_iff y).mpr hy,
    payload, h₁, hx, hn]

lemma decodeChar?_three (hx : 0xE0 ≤ x.toNat ∧ x.toNat ≤ 0xEF)
    (hy : 0x80 ≤ y.toNat ∧ y.toNat ≤ 0xBF) (hz : 0x80 ≤ z.toNat ∧ z.toNat ≤ 0xBF)
    (hshort : x.toNat = 0xE0 → 0xA0 ≤ y.toNat) (hsurrogate : x.toNat = 0xED → y.toNat ≤ 0x9F)
    (hn : n = (x.toNat % 16 * 64 + y.toNat % 64) * 64 + z.toNat % 64) :
    decodeChar? (x :: y :: z :: rest) = some (Char.ofNat n, rest) := by
  have h₁ : ¬x.toNat < 128 := by omega
  have h₂ : ¬x.toNat ≤ 223 := by omega
  have h₃ : (x != 0xE0) = true ∨ 160 ≤ y.toNat := by
    by_cases h : x = 0xE0
    · exact .inr (hshort (h ▸ rfl))
    · exact .inl (by simpa using h)
  have h₄ : (x != 0xED) = true ∨ y.toNat ≤ 159 := by
    by_cases h : x = 0xED
    · exact .inr (hsurrogate (h ▸ rfl))
    · exact .inl (by simpa using h)
  simp only [bne_iff_ne, ne_eq] at h₃ h₄
  simp [decodeChar?, UInt8.lt_iff_toNat_lt, UInt8.le_iff_toNat_le, (isContinuation_iff y).mpr hy,
    (isContinuation_iff z).mpr hz, payload, h₁, h₂, h₃, h₄, hx, hn]

lemma decodeChar?_four (hx : 0xF0 ≤ x.toNat ∧ x.toNat ≤ 0xF4)
    (hy : 0x80 ≤ y.toNat ∧ y.toNat ≤ 0xBF) (hz : 0x80 ≤ z.toNat ∧ z.toNat ≤ 0xBF)
    (hu : 0x80 ≤ u.toNat ∧ u.toNat ≤ 0xBF)
    (hshort : x.toNat = 0xF0 → 0x90 ≤ y.toNat) (hlarge : x.toNat = 0xF4 → y.toNat ≤ 0x8F)
    (hn : n = ((x.toNat % 8 * 64 + y.toNat % 64) * 64 + z.toNat % 64) * 64 + u.toNat % 64) :
    decodeChar? (x :: y :: z :: u :: rest) = some (Char.ofNat n, rest) := by
  have h₁ : ¬x.toNat < 128 := by omega
  have h₂ : ¬x.toNat ≤ 223 := by omega
  have h₃ : ¬x.toNat ≤ 239 := by omega
  have h₄ : (x != 0xF0) = true ∨ 144 ≤ y.toNat := by
    by_cases h : x = 0xF0
    · exact .inr (hshort (h ▸ rfl))
    · exact .inl (by simpa using h)
  have h₅ : (x != 0xF4) = true ∨ y.toNat ≤ 143 := by
    by_cases h : x = 0xF4
    · exact .inr (hlarge (h ▸ rfl))
    · exact .inl (by simpa using h)
  simp only [bne_iff_ne, ne_eq] at h₄ h₅
  simp [decodeChar?, UInt8.lt_iff_toNat_lt, UInt8.le_iff_toNat_le, (isContinuation_iff y).mpr hy,
    (isContinuation_iff z).mpr hz, (isContinuation_iff u).mpr hu, payload, h₁, h₂, h₃, h₄, h₅, hx, hn]

end

/-- The bytes of a character are read as this character. -/
theorem decodeChar?_encodeChar (c : Char) (rest : Bytes) :
    decodeChar? (encodeChar c ++ rest) = some (c, rest) := by
  have hvalid : c.toNat < 55296 ∨ 57343 < c.toNat ∧ c.toNat < 1114112 := c.valid
  have hc {b : Bytes} (h : decodeChar? b = some (Char.ofNat c.toNat, rest)) :
      decodeChar? b = some (c, rest) := by rwa [Char.ofNat_toNat] at h
  by_cases h₁ : c.toNat ≤ 0x7F
  · have hx := toNat_ofNat (n := c.toNat) (by omega)
    rw [encodeChar_one h₁]
    exact hc (decodeChar?_one (by omega) (by omega))
  have hlast := toNat_ofNat (n := c.toNat % 64 + 128) (by omega)
  by_cases h₂ : c.toNat ≤ 0x7FF
  · have hx := toNat_ofNat (n := c.toNat / 64 % 32 + 192) (by omega)
    rw [encodeChar_two (by omega) h₂]
    exact hc (decodeChar?_two (by omega) (by omega) (by omega))
  have hnext := toNat_ofNat (n := c.toNat / 64 % 64 + 128) (by omega)
  by_cases h₃ : c.toNat ≤ 0xFFFF
  · have hx := toNat_ofNat (n := c.toNat / 4096 % 16 + 224) (by omega)
    rw [encodeChar_three (by omega) h₃]
    exact hc (decodeChar?_three (by omega) (by omega) (by omega) (by omega) (by omega) (by omega))
  · have hx := toNat_ofNat (n := c.toNat / 262144 % 8 + 240) (by omega)
    have hy := toNat_ofNat (n := c.toNat / 4096 % 64 + 128) (by omega)
    rw [encodeChar_four (by omega)]
    exact hc (decodeChar?_four (by omega) (by omega) (by omega) (by omega) (by omega) (by omega)
      (by omega))

/-- A character is read off no other bytes than its own. -/
theorem eq_of_decodeChar? (h : decodeChar? b = some (c, rest)) : b = encodeChar c ++ rest := by
  unfold decodeChar? at h
  split at h
  · cases h
  next x tail =>
  simp only [UInt8.lt_iff_toNat_lt, UInt8.le_iff_toNat_le, Bool.and_eq_true, Bool.or_eq_true,
    decide_eq_true_eq, isContinuation_iff, bne_iff_ne, ne_eq, ← UInt8.toNat_inj] at h
  split at h
  · next hx =>
    change x.toNat < 128 at hx
    cases h
    have hn := toNat_ofNat_of_isValidChar (n := x.toNat) (by unfold Nat.isValidChar; omega)
    rw [encodeChar_one (by omega), ofNat_eq hn]
    rfl
  split at h
  · next hx =>
    obtain ⟨hlo,hhi⟩ : 194 ≤ x.toNat ∧ x.toNat ≤ 223 := hx
    split at h
    · next y tail =>
      split at h
      · next hy =>
        cases h
        have hn := toNat_ofNat_of_isValidChar (n := x.toNat % 32 * 64 + payload y)
          (by unfold Nat.isValidChar payload; omega)
        unfold payload at hn ⊢
        rw [encodeChar_two (by omega) (by omega), ofNat_eq (a := x) (by omega),
          ofNat_eq (a := y) (by omega)]
        rfl
      · cases h
    · cases h
  split at h
  · next hx =>
    obtain ⟨hlo,hhi⟩ : 224 ≤ x.toNat ∧ x.toNat ≤ 239 := hx
    split at h
    · next y z tail =>
      split at h
      · next hyz =>
        obtain ⟨⟨⟨hy,hz⟩,hshort⟩,hsurrogate⟩ := hyz
        change x.toNat ≠ 224 ∨ 160 ≤ y.toNat at hshort
        change x.toNat ≠ 237 ∨ y.toNat ≤ 159 at hsurrogate
        cases h
        have hn := toNat_ofNat_of_isValidChar
          (n := (x.toNat % 16 * 64 + payload y) * 64 + payload z)
          (by unfold Nat.isValidChar payload; omega)
        unfold payload at hn ⊢
        rw [encodeChar_three (by omega) (by omega), ofNat_eq (a := x) (by omega),
          ofNat_eq (a := y) (by omega), ofNat_eq (a := z) (by omega)]
        rfl
      · cases h
    · cases h
  split at h
  · next hx =>
    obtain ⟨hlo,hhi⟩ : 240 ≤ x.toNat ∧ x.toNat ≤ 244 := hx
    split at h
    · next y z u tail =>
      split at h
      · next hyzu =>
        obtain ⟨⟨⟨⟨hy,hz⟩,hu⟩,hshort⟩,hlarge⟩ := hyzu
        change x.toNat ≠ 240 ∨ 144 ≤ y.toNat at hshort
        change x.toNat ≠ 244 ∨ y.toNat ≤ 143 at hlarge
        cases h
        have hn := toNat_ofNat_of_isValidChar
          (n := ((x.toNat % 8 * 64 + payload y) * 64 + payload z) * 64 + payload u)
          (by unfold Nat.isValidChar payload; omega)
        unfold payload at hn ⊢
        rw [encodeChar_four (by omega), ofNat_eq (a := x) (by omega),
          ofNat_eq (a := y) (by omega), ofNat_eq (a := z) (by omega), ofNat_eq (a := u) (by omega)]
        rfl
      · cases h
    · cases h
  · cases h

/-! ## Whole texts -/

lemma runes_nil : runes [] = [] := by rw [runes]

lemma runes_of_decodeChar? (h : decodeChar? b = some (c, rest)) :
    runes b = .char c :: runes rest := by
  cases b with
  | nil => cases h
  | cons a tail =>
    rw [runes]
    split
    · next c' rest' h' =>
      cases h'.symm.trans h
      rfl
    · next h' => cases h'.symm.trans h

lemma runes_of_stray {a : UInt8} (h : decodeChar? (a :: rest) = none) :
    runes (a :: rest) = .stray a :: runes rest := by
  rw [runes]
  split
  · next h' => cases h'.symm.trans h
  · rfl

/-- The characters of an encoded text are those that were encoded. -/
theorem chars_encode (cs : List Char) : chars (encode cs) = cs := by
  induction cs with
  | nil => rw [encode_nil, chars, runes_nil, List.map_nil]
  | cons c cs ih =>
    rw [encode_cons, chars, runes_of_decodeChar? (decodeChar?_encodeChar c _), List.map_cons]
    exact congrArg (c :: ·) ih

/-- A text is made of its characters and stray bytes. -/
theorem encodeRunes_runes (b : Bytes) : encodeRunes (runes b) = b := by
  induction b using runes.induct with
  | case1 => rw [runes_nil]; rfl
  | case2 a tail c rest h _ ih =>
    rw [runes_of_decodeChar? h, eq_of_decodeChar? h]
    exact congrArg (encodeChar c ++ ·) ih
  | case3 a tail h ih =>
    rw [runes_of_stray h]
    exact congrArg (a :: ·) ih

def isStray : Rune → Bool
  | .char _ => false
  | .stray _ => true

/-- The number of bytes that belong to no character. -/
def strays (b : Bytes) : Nat := (runes b).countP isStray

lemma isValid_iff (b : Bytes) : isValid b = true ↔ strays b = 0 := by
  rw [isValid, chars?, strays]
  induction runes b with
  | nil => simp
  | cons r rs ih =>
    cases r with
    | char c =>
      rw [List.mapM_cons, List.countP_cons_of_neg (by simp [isStray]), ← ih]
      generalize (List.mapM _ rs : Option (List Char)) = out
      cases out <;> exact Iff.rfl
    | stray a => simp [List.mapM_cons, isStray]

/-- Three bytes take the place of each stray byte. -/
lemma length_scrub (b : Bytes) : (scrub b).length = b.length + 2 * strays b := by
  have hrunes (rs : List Rune) :
      (encode (rs.map Rune.toChar)).length = (encodeRunes rs).length + 2 * rs.countP isStray := by
    induction rs with
    | nil => rfl
    | cons r rs ih =>
      cases r with
      | char c =>
        change (encodeChar c ++ encode (rs.map Rune.toChar)).length =
          (encodeChar c ++ encodeRunes rs).length + 2 * rs.countP isStray
        rw [List.length_append, List.length_append, ih]
        omega
      | stray a =>
        have hthree : (encodeChar replacement).length = 3 := by decide
        change (encodeChar replacement ++ encode (rs.map Rune.toChar)).length =
          (a :: encodeRunes rs).length + 2 * ((.stray a :: rs).countP isStray)
        rw [List.length_append, hthree, ih, List.length_cons, List.countP_cons_of_pos rfl]
        omega
  have hlength := hrunes (runes b)
  rwa [encodeRunes_runes] at hlength

/-- A text comes back from its characters exactly if none of its bytes is stray. -/
theorem scrub_eq_self_iff (b : Bytes) : scrub b = b ↔ isValid b = true := by
  rw [isValid_iff]
  constructor
  · intro h
    have hlength := length_scrub b
    rw [h] at hlength
    omega
  · intro h
    have hrunes : ∀ rs : List Rune, rs.countP isStray = 0 →
        encode (rs.map Rune.toChar) = encodeRunes rs := by
      intro rs hrs
      induction rs with
      | nil => rfl
      | cons r rs ih =>
        cases r with
        | char c =>
          rw [List.countP_cons_of_neg (by simp [isStray])] at hrs
          exact congrArg (encodeChar c ++ ·) (ih hrs)
        | stray a => simp [isStray] at hrs
    exact (hrunes (runes b) h).trans (encodeRunes_runes b)

lemma isValid_encode (cs : List Char) : isValid (encode cs) = true := by
  have hchars : scrub (encode cs) = encode (chars (encode cs)) := rfl
  rw [← scrub_eq_self_iff, hchars, chars_encode]

/-- No byte of a text in ASCII is stray. -/
lemma isValid_of_ascii (h : ∀ a ∈ b, a.toNat < 0x80) : isValid b = true := by
  rw [isValid_iff, strays]
  induction b with
  | nil => rw [runes_nil]; rfl
  | cons a b ih =>
    rw [runes_of_decodeChar? (decodeChar?_one (h a (List.mem_cons_self ..)) rfl),
      List.countP_cons_of_neg (by simp [isStray])]
    exact ih fun x hx => h x (List.mem_cons_of_mem _ hx)

end Stencil.Text.Utf8
