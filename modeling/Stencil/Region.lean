import Stencil.Bytes

/-! Embedded code regions: where one starts and how far it runs. -/
namespace Stencil.Region

/-- The text `?>` closes a region. -/
def closer : Bytes := [0x3F, 0x3E]

/-- Length of the opener at the start of a text, `<?=` or `<?php` in any case; 0 if there is
none. -/
def openerLength : Bytes → Nat
  | 0x3C :: 0x3F :: 0x3D :: _ => 3
  | 0x3C :: 0x3F :: a :: b :: c :: _ => if Bytes.eqIgnoreCase [a, b, c] "php" then 5 else 0
  | _ => 0

/-- What a region's body and the document after it are. -/
structure Extracted where
  text : Bytes
  /-- Whether the closer was found; otherwise the region runs to the end of the document. -/
  terminated : Bool
  rest : Bytes
  deriving DecidableEq, Repr

/-- The region that starts with an opener of `n` bytes runs through the first closer after it. -/
def extract (n : Nat) (b : Bytes) : Extracted :=
  match Bytes.cut? closer (b.drop n) with
  | some (body, rest) => ⟨b.take n ++ body ++ closer, true, rest⟩
  | none => ⟨b, false, []⟩

/-- The region at the start of a text. -/
def atStart? (b : Bytes) : Option Extracted :=
  if openerLength b = 0 then none else some (extract (openerLength b) b)

theorem cut?_append {sep b before after : Bytes} (h : Bytes.cut? sep b = some (before, after)) :
    before ++ sep ++ after = b := by
  induction b generalizing before after with
  | nil =>
    simp only [Bytes.cut?] at h
    split at h <;> simp_all
  | cons x rest ih =>
    simp only [Bytes.cut?] at h
    split at h
    · next hp =>
      simp only [Option.some.injEq, Prod.mk.injEq] at h
      obtain ⟨rfl, rfl⟩ := h
      obtain ⟨t, ht⟩ := List.isPrefixOf_iff_prefix.mp hp
      simp [← ht]
    · simp only [Option.map_eq_some_iff, Prod.exists, Prod.mk.injEq] at h
      obtain ⟨u, v, huv, rfl, rfl⟩ := h
      simp [← ih huv]

theorem openerLength_le (b : Bytes) : openerLength b ≤ b.length := by
  unfold openerLength
  split <;> (try split) <;> simp

/-- Nothing is lost between a region and what follows it. -/
theorem text_append_rest (n : Nat) (b : Bytes) :
    (extract n b).text ++ (extract n b).rest = b := by
  unfold extract
  split
  · next body rest h =>
    have := cut?_append h
    simp only [List.append_assoc] at this ⊢
    rw [this, List.take_append_drop]
  · simp

theorem atStart?_length {b : Bytes} {r : Extracted} (h : atStart? b = some r) :
    r.rest.length < b.length := by
  unfold atStart? at h
  split at h
  · simp at h
  · next hn =>
    simp only [Option.some.injEq] at h
    subst h
    have hle := openerLength_le b
    unfold extract
    split
    · next body rest hc =>
      have := congrArg List.length (cut?_append hc)
      simp at this ⊢
      omega
    · simp; omega

end Stencil.Region
