import Stencil.Proofs.Scan.Layout

/-! The contexts of regions as a function of the document alone. A scan looks back at its own
output only to see whether a tag has just been closed by `/`, and there the tokens of regions count
like the regions themselves; so neither options nor widths have a say in the contexts. -/
namespace Stencil

namespace Markup

lemma selfClosed_cons (c : UInt8) (rest : Bytes) :
    selfClosed (c :: rest) = if isTagBlank c then selfClosed rest else c == 0x2F := by
  unfold selfClosed
  rw [List.dropWhile_cons]
  by_cases h : isTagBlank c
  · rw [if_pos h, if_pos h]
  · rw [if_neg h, if_neg h]

lemma selfClosed_append_congr {a b : Bytes} (h : selfClosed a = selfClosed b) (x : Bytes) :
    selfClosed (x ++ a) = selfClosed (x ++ b) := by
  induction x with
  | nil => exact h
  | cons c x ih => rw [List.cons_append, List.cons_append, selfClosed_cons, selfClosed_cons, ih]

/-- Of the output before it, a step only asks whether it ends in `/`. -/
lemma step_congr {a b : Bytes} (h : selfClosed a = selfClosed b) (s : State) (c : UInt8)
    (after : Bytes) : step s a c after = step s b c after := by
  cases s with
  | tag name quote atValue => simp only [step, stepTag, h]
  | _ => rfl

/-- The regions of a document with their contexts, given the state before it and what was read
before it in reverse. -/
def classify (s : State) (readRev : Bytes) (b : Bytes) : List (Bytes × Context) :=
  match b with
  | [] => []
  | c :: after =>
    match h : Region.atStart? (c :: after) with
    | some r =>
      have := Region.atStart?_length h
      (r.text, s.context) :: classify s.afterRegion (r.text.reverse ++ readRev) r.rest
    | none =>
      let next := step s readRev c after
      classify next.1 (((c :: after).take next.2).reverse ++ readRev) (after.drop (next.2 - 1))
termination_by b.length
decreasing_by
  · exact this
  · rw [List.length_drop, List.length_cons]
    omega

@[simp] lemma classify_nil (s : State) (readRev : Bytes) : classify s readRev [] = [] := by
  rw [classify]

lemma classify_of_atStart?_eq_none {s : State} {readRev : Bytes} {c : UInt8} {after : Bytes}
    (h : Region.atStart? (c :: after) = none) :
    classify s readRev (c :: after) =
      classify (step s readRev c after).1
        (((c :: after).take (step s readRev c after).2).reverse ++ readRev)
        (after.drop ((step s readRev c after).2 - 1)) := by
  rw [classify]
  split
  · next r hr => simp [h] at hr
  · rfl

lemma classify_of_atStart?_eq_some {s : State} {readRev b : Bytes} {r : Region.Extracted}
    (h : Region.atStart? b = some r) :
    classify s readRev b =
      (r.text, s.context) :: classify s.afterRegion (r.text.reverse ++ readRev) r.rest := by
  cases b with
  | nil => simp [Region.atStart?, Region.openerLength] at h
  | cons c after =>
    rw [classify]
    split
    · next r' hr =>
      rw [h] at hr
      rw [Option.some.inj hr]
    · next hr => simp [h] at hr

end Markup

/-- The name of an attribute ends in an underscore or in the filler. -/
lemma Token.Options.Legal.last_name {o : Token.Options} (ho : o.Legal) (number : Nat)
    (shape : Shape) (padding : Nat) : ∃ b c, o.name number shape padding = b ++ [c] ∧
      Markup.isTagBlank c = false ∧ c ≠ 0x2F := by
  cases padding with
  | zero =>
    refine ⟨Token.lead shape ++ (o.stem ++ Bytes.ofNat number ++ [0x5F]),0x5F,?_,by decide,by decide⟩
    simp [Token.Options.name, Token.Options.payload]
  | succ n =>
    refine ⟨Token.lead shape ++ o.payload number ++ List.replicate n o.filler,o.filler,?_,?_⟩
    · rw [Token.Options.name, List.replicate_succ', List.append_assoc, List.append_assoc,
        List.append_assoc]
    · have hf := ho.filler
      simp only [Token.isFiller, Bool.or_eq_true, beq_iff_eq] at hf
      obtain (h | h) | h := hf <;> rw [h] <;> decide

/-- No token ends in a blank or in `/`. -/
lemma IssuedToken.IssuedBy.selfClosed_rendered {o : Token.Options} {t : IssuedToken}
    (h : t.IssuedBy o) (ho : o.Legal) (outputRev : Bytes) :
    Markup.selfClosed (t.rendered.reverse ++ outputRev) = false := by
  obtain ⟨p,hp⟩ := h.rendered
  match hs : t.shape with
  | .tag =>
    rw [hp, hs, List.reverse_append, List.append_assoc]
    exact Markup.selfClosed_cons 0x3E _
  | .attribute =>
    obtain ⟨b,c,hname,hblank,hslash⟩ := ho.last_name t.number .attribute p
    rw [hp, hs, hname, Token.tail, List.append_nil, List.reverse_append, List.append_assoc]
    simp [Markup.selfClosed_cons, hblank, hslash]

namespace Region

/-- A region that is closed does not end in a blank or in `/` either. -/
lemma selfClosed_text {b : Bytes} {r : Extracted} (h : atStart? b = some r) (readRev : Bytes) :
    r.rest = [] ∨ Markup.selfClosed (r.text.reverse ++ readRev) = false := by
  obtain ⟨-,rfl⟩ := atStart?_eq_some_iff.mp h
  unfold extract
  split
  · right
    rw [List.reverse_append, List.append_assoc]
    exact Markup.selfClosed_cons 0x3E _
  · left
    rfl

end Region

namespace Scan
variable {o : Token.Options} {width : Bytes → Nat}

/-- The regions seen so far, with their contexts. -/
def seen (s : Scan) : List (Bytes × Context) :=
  s.tokensRev.reverse.map fun t => (t.region.span.text, t.region.context)

/-- A scan classifies regions by the document alone. -/
theorem Reads.seen_eq {s f : Scan} {b : Bytes} (h : Reads o width s b f) (ho : o.Legal)
    {readRev : Bytes} (hread : Markup.selfClosed s.outputRev = Markup.selfClosed readRev) :
    f.seen = s.seen ++ Markup.classify s.state readRev b := by
  induction h generalizing readRev with
  | done s => simp
  | @markup s f c after here rest ih =>
    rw [Markup.classify_of_atStart?_eq_none here, ← Markup.step_congr hread]
    exact ih (Markup.selfClosed_append_congr hread _)
  | @region s s' f b r here emitted rest ih =>
    obtain ⟨rendered,hrender,rfl⟩ := emit_eq_ok emitted
    have hissued := issuedBy_issue here hrender
    rw [Markup.classify_of_atStart?_eq_some here]
    obtain hrest | hclosed := Region.selfClosed_text here readRev
    · -- the region runs to the end of the document
      rw [hrest] at rest ⊢
      rw [rest.eq_of_nil]
      simp [seen, issue]
    · rw [ih ((hissued.selfClosed_rendered ho s.outputRev).trans hclosed.symm)]
      simp [seen, issue]

end Scan

/-- The contexts of a tokenized document are read off the document. -/
theorem classify_of_scan_eq_ok {o : Token.Options} {width : Bytes → Nat} {document : Bytes}
    {t : Tokenized} (ho : o.Legal) (h : scan o width document = .ok t) :
    t.tokens.map (fun s => (s.region.span.text, s.region.context)) =
      Markup.classify .text [] document := by
  obtain ⟨f,hreads,rfl⟩ := exists_reads_of_scan_eq_ok h
  exact hreads.seen_eq ho rfl

end Stencil
