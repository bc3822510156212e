import Mathlib.Data.List.Infix
import Mathlib.Data.List.Nodup
import Mathlib.Data.List.TakeWhile
import Mathlib.Order.Nat
import Mathlib.Tactic.Common
import Stencil.Tokenize

/-! The texts of tokens. A token is a name and the tail of its shape, and no text starts with the
names of two tokens that differ in number or in shape. -/
namespace Stencil

namespace Bytes

lemma toNat_toUInt8 {c : Char} (h : c.isDigit) :
    c.toUInt8.toNat = c.toNat ∧ 48 ≤ c.toNat ∧ c.toNat ≤ 57 := by
  have hc : 48 ≤ c.toNat ∧ c.toNat ≤ 57 := by
    simpa [Char.isDigit, UInt32.le_iff_toNat_le] using h
  refine ⟨?_,hc⟩
  rw [Char.toUInt8, UInt32.toNat_toUInt8]
  exact Nat.mod_eq_of_lt (by change c.toNat < 256; omega)

lemma isDigit_of_mem_ofNat {n : Nat} {c : UInt8} (h : c ∈ ofNat n) : isDigit c := by
  obtain ⟨d,hd,rfl⟩ := List.mem_map.mp h
  obtain ⟨hn,hlo,hhi⟩ := toNat_toUInt8 (Nat.isDigit_of_mem_toDigits (by decide) (by decide) hd)
  simp only [isDigit, Bool.and_eq_true, decide_eq_true_eq, UInt8.le_iff_toNat_le, hn]
  exact ⟨hlo,hhi⟩

/-- The digits are read back as characters, and from these the number. -/
theorem ofNat_injective : Function.Injective ofNat := by
  have hread (n : Nat) : (ofNat n).map (fun c => Char.ofNat c.toNat) = Nat.toDigits 10 n := by
    rw [ofNat, List.map_map, List.map_congr_left, List.map_id]
    intro c hc
    have hn := (toNat_toUInt8 (Nat.isDigit_of_mem_toDigits (by decide) (by decide) hc)).1
    rw [Function.comp_apply, hn, Char.ofNat_toNat, id]
  intro a b h
  have hd : Nat.toDigits 10 a = Nat.toDigits 10 b := by rw [← hread a, h, hread b]
  have hn := congrArg (fun ds => Nat.ofDigitChars 10 ds 0) hd
  simpa using hn

end Bytes

namespace Token.Options

/-- Options whose tokens are legal names: what is checked before tokenizing, the width apart. -/
structure Legal (o : Options) : Prop where
  start : ∃ c rest, o.stem = c :: rest ∧ Bytes.isLetter c
  stem : ∀ c ∈ o.stem, Markup.isNameByte c
  filler : isFiller o.filler

/-- The checks pass exactly on legal options that leave room for a token with a one-digit number. -/
theorem validate_eq_ok_iff (o : Options) :
    o.validate = .ok () ↔ o.Legal ∧ (o.minimalWidth 0 .tag : Int) ≤ o.maxWidth := by
  have hwidth : o.minimalWidth 0 .tag =
      (lead .tag).length + o.stem.length + 1 + 2 + (tail .tag).length := by
    simp [minimalWidth, payload, show (Bytes.ofNat 0).length = 1 from rfl]
    omega
  unfold validate
  cases hs : o.stem with
  | nil =>
    refine ⟨fun h => by simp at h,fun h => ?_⟩
    obtain ⟨c,rest,hc,-⟩ := h.1.start
    simp [hs] at hc
  | cons c rest =>
    have hfind : (c :: rest).find? (fun b => !Markup.isNameByte b) = none ↔
        ∀ b ∈ o.stem, Markup.isNameByte b := by simp [hs]
    have hlegal : o.Legal ↔ Bytes.isLetter c ∧ (∀ b ∈ o.stem, Markup.isNameByte b) ∧
        isFiller o.filler := by
      refine ⟨fun h => ⟨?_,h.stem,h.filler⟩,fun h => ⟨⟨c,rest,hs,h.1⟩,h.2.1,h.2.2⟩⟩
      obtain ⟨d,more,hd,hl⟩ := h.start
      rw [hs] at hd
      exact (List.cons.inj hd).1 ▸ hl
    rw [hlegal, ← hfind, hwidth, hs]
    by_cases hl : Bytes.isLetter c
    · cases hf : (c :: rest).find? (fun b => !Markup.isNameByte b) with
      | some b => simp [hl]
      | none =>
        by_cases hfill : isFiller o.filler
        · simp only [hl, hfill, Bool.not_true, Bool.false_eq_true, if_false, true_and]
          rw [← Int.not_lt]
          split <;> simp_all
        · simp [hl, hfill]
    · simp [hl]

/-- A retry adds a letter, digits and an underscore to the stem. -/
theorem Legal.salted {o : Options} (h : o.Legal) (n : Nat) : (o.salted n).Legal := by
  obtain ⟨c,rest,hs,hc⟩ := h.start
  refine ⟨⟨c,rest ++ [0x78] ++ Bytes.ofNat n ++ [0x5F],by simp [Options.salted, hs],hc⟩,?_,h.filler⟩
  intro b hb
  simp only [Options.salted, List.mem_append, List.mem_singleton] at hb
  obtain ((hb | rfl) | hb) | rfl := hb
  · exact h.stem b hb
  · decide
  · simp [Markup.isNameByte, Bytes.isDigit_of_mem_ofNat hb]
  · decide

lemma Legal.attempts {o p : Options} (h : o.Legal) (hp : p ∈ o.attempts) : p.Legal := by
  simp only [Options.attempts, List.mem_cons, List.mem_map] at hp
  obtain rfl | ⟨i,-,rfl⟩ := hp
  · exact h
  · exact h.salted (i+1)

/-- A token without the tail of its shape: what restoring looks for. -/
def name (o : Options) (number : Nat) (shape : Shape) (padding : Nat) : Bytes :=
  lead shape ++ o.payload number ++ List.replicate padding o.filler

/-- A token whose minimal form fits is its name and a tail, and the padding makes up the rest of its
width. -/
theorem render_eq_ok_iff {o : Options} {number width : Nat} {shape : Shape} {b : Bytes} :
    o.render number shape width = .ok b ↔
      (o.minimalWidth number shape : Int) ≤ o.maxWidth ∧
      b = o.name number shape (o.targetWidth number shape width - o.minimalWidth number shape) ++
        tail shape := by
  rw [render, ← Int.not_lt, name]
  by_cases hwide : o.maxWidth < o.minimalWidth number shape
  · simp [hwide]
  · simp [hwide, eq_comm]

lemma render_eq_ok {o : Options} {number width : Nat} {shape : Shape} {b : Bytes}
    (h : o.render number shape width = .ok b) :
    ∃ padding, b = o.name number shape padding ++ tail shape :=
  ⟨_,(render_eq_ok_iff.mp h).2⟩

lemma name_ne_nil (o : Options) (number : Nat) (shape : Shape) (padding : Nat) :
    o.name number shape padding ≠ [] := by cases shape <;> simp [name, lead]

/-- After the lead and the stem come the digits and then an underscore, so the number can be read
off whatever the padding is. -/
theorem name_prefix_unique {o : Options} {m n p q : Nat} {s t : Shape} {b : Bytes}
    (hm : o.name m s p <+: b) (hn : o.name n t q <+: b) : m = n ∧ s = t := by
  obtain ⟨x,rfl⟩ := hm
  obtain ⟨y,h⟩ := hn
  have hst : s = t := by cases s <;> cases t <;> simp_all [name, lead]
  subst hst
  refine ⟨?_,rfl⟩
  have hd : Bytes.ofNat n ++ 0x5F :: (0x5F :: (List.replicate q o.filler ++ y)) =
      Bytes.ofNat m ++ 0x5F :: (0x5F :: (List.replicate p o.filler ++ x)) := by
    simpa [name, payload] using h
  have hdigits (k : Nat) (z : Bytes) :
      (Bytes.ofNat k ++ 0x5F :: z).takeWhile Bytes.isDigit = Bytes.ofNat k := by
    rw [List.takeWhile_append_of_pos (fun c hc => Bytes.isDigit_of_mem_ofNat hc)]
    simp [show Bytes.isDigit 0x5F = false from rfl]
  apply Bytes.ofNat_injective
  rw [← hdigits m, ← hd, hdigits n]

lemma Legal.lt_not_mem_name {o : Options} (h : o.Legal) (number : Nat) (shape : Shape)
    (padding : Nat) : 0x3C ∉ (o.name number shape padding).tail := by
  have htail : (o.name number shape padding).tail =
      o.stem ++ Bytes.ofNat number ++ [0x5F,0x5F] ++ List.replicate padding o.filler := by
    cases shape <;> simp [name, lead, payload]
  rw [htail]
  simp only [List.mem_append, not_or]
  refine ⟨⟨⟨?_,?_⟩,by decide⟩,?_⟩
  · exact fun hc => absurd (h.stem _ hc) (by decide)
  · exact fun hc => absurd (Bytes.isDigit_of_mem_ofNat hc) (by decide)
  · exact fun hc => absurd ((List.eq_of_mem_replicate hc) ▸ h.filler) (by decide)

end Token.Options
end Stencil
