import Stencil.Proofs.Markup.Simulation

/-! Values without quotes. In a tag every `=` makes a quote due, also one inside a value that has
begun. So a value leaves no quote open exactly if each quote right after an `=` in it has its
closing quote further on in the value. -/
namespace Stencil

namespace Markup
open Grammar

/-- What a value without quotes is made of: no white space, and no end or beginning of a tag. -/
def IsValueByte (c : UInt8) : Prop := ¬ Bytes.isSpace c ∧ c ≠ 0x3E ∧ c ≠ 0x3C

instance (c : UInt8) : Decidable (IsValueByte c) :=
  inferInstanceAs (Decidable (¬ Bytes.isSpace c ∧ c ≠ 0x3E ∧ c ≠ 0x3C))

/-- A value without quotes around it. -/
structure BareValue (v : Bytes) : Prop where
  start : ∃ c ∈ v.head?, ¬ IsQuote c
  bytes : ∀ c ∈ v, IsValueByte c

/-- Each quote right after an `=` is closed by the same quote. -/
inductive Settled : Bytes → Prop
  | nil : Settled []
  | byte {c : UInt8} {b : Bytes} (other : c ≠ 0x3D) (rest : Settled b) : Settled (c :: b)
  | equals {b : Bytes} (noQuote : ∀ c ∈ b.head?, ¬ IsQuote c) (rest : Settled b) :
      Settled (0x3D :: b)
  | quoted {q : UInt8} {inside b : Bytes} (isQuote : IsQuote q) (first : q ∉ inside)
      (rest : Settled b) : Settled (0x3D :: q :: (inside ++ q :: b))

/-- A quote right after an `=` is never closed, and all before it is settled. -/
def LeavesOpen (v : Bytes) : Prop := ∃ before q inside,
  v = before ++ 0x3D :: q :: inside ∧ Settled before ∧ IsQuote q ∧ q ∉ inside

lemma LeavesOpen.append {a b : Bytes} (h : LeavesOpen b)
    (ha : ∀ before, before <+: b → Settled before → Settled (a ++ before)) : LeavesOpen (a ++ b) := by
  obtain ⟨before,q,inside,rfl,hbefore,hq,hinside⟩ := h
  have hsettled := ha before (List.prefix_append _ _) hbefore
  exact ⟨a ++ before,q,inside,(List.append_assoc ..).symm,hsettled,hq,hinside⟩

theorem settled_or_leavesOpen (v : Bytes) : Settled v ∨ LeavesOpen v := by
  induction hn : v.length using Nat.strong_induction_on generalizing v with
  | h n ih =>
    cases v with
    | nil => exact .inl .nil
    | cons c b =>
      rw [List.length_cons] at hn
      by_cases hc : c = 0x3D
      · subst hc
        by_cases hquote : ∃ q ∈ b.head?, IsQuote q
        · obtain ⟨q,hhead,hq⟩ := hquote
          obtain ⟨b,rfl⟩ := List.head?_eq_some_iff.mp hhead
          by_cases hclosed : q ∈ b
          · obtain ⟨inside,b,rfl,hfirst⟩ := List.eq_append_cons_of_mem hclosed
            have hlt : b.length < n := by
              rw [← hn, List.length_cons, List.length_append, List.length_cons]
              omega
            obtain hb | hb := ih b.length hlt b rfl
            · exact .inl (.quoted hq hfirst hb)
            · right
              have hopen := hb.append (a := 0x3D :: q :: (inside ++ [q])) fun before _ hbefore => by
                simpa using Settled.quoted hq hfirst hbefore
              simpa using hopen
          · exact .inr ⟨[],q,b,rfl,.nil,hq,hclosed⟩
        · push Not at hquote
          obtain hb | hb := ih b.length (by omega) b rfl
          · exact .inl (.equals hquote hb)
          · right
            apply hb.append (a := [0x3D])
            intro before hpre hbefore
            apply Settled.equals ?_ hbefore
            intro d hd
            obtain ⟨rest,rfl⟩ := hpre
            exact hquote d (List.mem_head?_append_of_mem_head? hd)
      · obtain hb | hb := ih b.length (by omega) b rfl
        · exact .inl (.byte hc hb)
        · exact .inr (hb.append (a := [c]) fun before _ hbefore => .byte hc hbefore)

lemma settled_cons_iff {c : UInt8} {b : Bytes} (hc : c ≠ 0x3D) : Settled (c :: b) ↔ Settled b := by
  constructor
  · intro h
    cases h with
    | byte _ rest => exact rest
    | equals _ _ => contradiction
    | quoted _ _ _ => contradiction
  · exact .byte hc

lemma not_settled_of_not_mem {q : UInt8} {b : Bytes} (hq : IsQuote q) (hb : q ∉ b) :
    ¬ Settled (0x3D :: q :: b) := by
  intro h
  cases h with
  | byte other _ => exact other rfl
  | equals noQuote _ => exact noQuote q rfl hq
  | quoted _ _ _ => exact hb (List.mem_append_right _ (List.mem_cons_self ..))

section Reading
variable {o : Token.Options} {width : Bytes → Nat} {name v x : Bytes} {c q : UInt8}

lemma step_value_byte {due : Bool} (hc : IsValueByte c) (heq : c ≠ 0x3D)
    (hdue : due → ¬ IsQuote c) (outputRev after : Bytes) :
    step (.tag name none due) outputRev c after = (.tag name none false, 1) := by
  obtain ⟨hspace,hgt,-⟩ := hc
  have hquote : ((c == 0x22 || c == 0x27) && due) = false := by
    cases due with
    | false => exact Bool.and_false _
    | true =>
      have hne := hdue rfl
      simp only [IsQuote, not_or] at hne
      simp [hne]
  simp [step, stepTag, heq, hspace, hquote, hgt]

/-- An `=` makes a quote due. -/
lemma passes_equals (name : Bytes) (due : Bool) (x : Bytes) :
    Passes o width (.tag name none due) [0x3D] (.tag name none true) x :=
  .read (Region.openerLength_of_ne (by decide) x) fun _ => rfl

lemma passes_opening (hq : IsQuote q) :
    Passes o width (.tag name none true) [q] (.tag name (some q) false) x := by
  obtain rfl | rfl := hq
  all_goals exact .read (Region.openerLength_of_ne (by decide) x) fun _ => rfl

lemma passes_closing (hq : IsQuote q) :
    Passes o width (.tag name (some q) false) [q] (.tag name none false) x := by
  obtain rfl | rfl := hq
  all_goals exact .read (Region.openerLength_of_ne (by decide) x) fun _ => rfl

lemma passes_inside {inside : Bytes} (hbytes : ∀ c ∈ inside, IsValueByte c) (hq : q ∉ inside) :
    Passes o width (.tag name (some q) false) inside (.tag name (some q) false) x := by
  apply Passes.of_forall
  intro c u hu
  have hmem : c ∈ inside := hu.subset (List.mem_cons_self ..)
  refine ⟨Region.openerLength_of_ne (hbytes c hmem).2.2 _,fun outputRev => step_quoted ?_ outputRev _⟩
  rintro rfl
  exact hq hmem

/-- A settled text that starts with no quote where one is due leaves none open. -/
theorem Settled.passes (h : Settled v) (hbytes : ∀ c ∈ v, IsValueByte c) {due : Bool}
    (hstart : due → ∀ c ∈ v.head?, ¬ IsQuote c) :
    ∃ due', Passes o width (.tag name none due) v (.tag name none due') x := by
  induction h generalizing due with
  | nil => exact ⟨due,.nil _ x⟩
  | @byte c b other rest ih =>
    obtain ⟨hc,hb⟩ := List.forall_mem_cons.mp hbytes
    obtain ⟨due',hrest⟩ : ∃ due', Passes o width (.tag name none false) b (.tag name none due') x :=
      ih hb fun hdue => absurd hdue Bool.false_ne_true
    have hfirst : Passes o width (.tag name none due) [c] (.tag name none false) (b ++ x) := by
      refine .read (Region.openerLength_of_ne hc.2.2 _) fun outputRev => ?_
      exact step_value_byte hc other (fun hdue => hstart hdue c rfl) outputRev _
    exact ⟨due',hfirst.append hrest⟩
  | @equals b noQuote rest ih =>
    obtain ⟨due',hrest⟩ : ∃ due', Passes o width (.tag name none true) b (.tag name none due') x :=
      ih (List.forall_mem_cons.mp hbytes).2 fun _ => noQuote
    exact ⟨due',(passes_equals name due _).append hrest⟩
  | @quoted q inside b isQuote first rest ih =>
    have hb := (List.forall_mem_cons.mp (List.forall_mem_cons.mp hbytes).2).2
    rw [List.forall_mem_append, List.forall_mem_cons] at hb
    obtain ⟨hinside,-,hb⟩ := hb
    obtain ⟨due',hrest⟩ : ∃ due', Passes o width (.tag name none false) b (.tag name none due') x :=
      ih hb fun hdue => absurd hdue Bool.false_ne_true
    have hclosed := (passes_inside hinside first).append ((passes_closing isQuote).append hrest)
    exact ⟨due',(passes_equals name due _).append ((passes_opening isQuote).append hclosed)⟩

theorem LeavesOpen.passes (h : LeavesOpen v) (hbytes : ∀ c ∈ v, IsValueByte c) {due : Bool}
    (hstart : due → ∀ c ∈ v.head?, ¬ IsQuote c) :
    ∃ q, IsQuote q ∧ Passes o width (.tag name none due) v (.tag name (some q) false) x := by
  obtain ⟨before,q,inside,rfl,hbefore,hq,hfirst⟩ := h
  rw [List.forall_mem_append, List.forall_mem_cons, List.forall_mem_cons] at hbytes
  obtain ⟨hb,-,-,hinside⟩ := hbytes
  have hhead : due → ∀ c ∈ before.head?, ¬ IsQuote c := by
    intro hdue c hc
    exact hstart hdue c (List.mem_head?_append_of_mem_head? hc)
  obtain ⟨due',hpass⟩ : ∃ due', Passes o width (.tag name none due) before
      (.tag name none due') (0x3D :: q :: inside ++ x) := hbefore.passes hb hhead
  have hlast : Passes o width (.tag name none true) ([q] ++ inside) (.tag name (some q) false) x :=
    (passes_opening hq).append (passes_inside hinside hfirst)
  exact ⟨q,hq,hpass.append ((passes_equals name due' _).append hlast)⟩

/-- White space keeps a quote due. -/
lemma passes_space {blanks : Bytes} (h : ∀ c ∈ blanks, Bytes.isSpace c) (name : Bytes) (due : Bool)
    (x : Bytes) : Passes o width (.tag name none due) blanks (.tag name none due) x := by
  apply Passes.of_forall
  intro c u hu
  have hspace := h c (hu.subset (List.mem_cons_self ..))
  have hne {d : UInt8} (hd : Bytes.isSpace d = false) : c ≠ d := by
    rintro rfl
    exact Bool.false_ne_true (hd.symm.trans hspace)
  refine ⟨Region.openerLength_of_ne (hne (by decide)) _,fun outputRev => ?_⟩
  have heq : c ≠ 0x3D := hne (by decide)
  simp [step, stepTag, heq, hspace]

/-- Where a value is due, a value without quotes is read inside the tag. -/
theorem BareValue.passes (h : BareValue v) (o : Token.Options) (width : Bytes → Nat)
    (name x : Bytes) : ∃ quote due, Passes o width (.tag name none true) v
      (.tag name quote due) x ∧ (State.tag name quote due).Sound ∧ (quote = none ↔ Settled v) := by
  obtain ⟨c,hc,hquote⟩ := h.start
  have hstart : ∀ d ∈ v.head?, ¬ IsQuote d := by
    intro d hd
    obtain rfl := Option.some.inj (hc.symm.trans hd)
    exact hquote
  by_cases hv : Settled v
  · obtain ⟨due,hpass⟩ := hv.passes h.bytes fun _ => hstart
    exact ⟨none,due,hpass,State.sound_tag_none name due,iff_of_true rfl hv⟩
  · have hopen := (settled_or_leavesOpen v).resolve_left hv
    obtain ⟨q,hq,hpass⟩ := hopen.passes h.bytes fun _ => hstart
    exact ⟨some q,false,hpass,⟨hq,rfl⟩,iff_of_false (Option.some_ne_none q) hv⟩

/-- Outside quotes a `>` ends the tag, and inside quotes it is part of the value. -/
lemma passes_end {quote : Option UInt8} {due : Bool} (h : (State.tag name quote due).Sound)
    {w : Scan} (hw : w.state = .tag name quote due) (x : Bytes) : ∃ s,
    Scan.Steps o width (w, 0x3E :: x) (w.copy s [0x3E], x) ∧
    (quote = none → s = .text ∨ s = .rawText name) ∧ (quote ≠ none → s = .tag name quote due) := by
  have hhere : Region.atStart? (0x3E :: x) = none :=
    Region.atStart?_eq_none_iff.mpr (Region.openerLength_of_ne (by decide) x)
  have hstep : Scan.Step o width (w, 0x3E :: x) _ := .markup hhere
  rw [hw] at hstep
  cases quote with
  | none =>
    refine ⟨_,.single hstep,fun _ => ?_,fun hne => absurd rfl hne⟩
    change (if _ then _ else _) = _ ∨ (if _ then _ else _) = _
    split
    · exact .inr rfl
    · exact .inl rfl
  | some q =>
    obtain ⟨hq,rfl⟩ := h
    have hne : 0x3E ≠ q := by
      rintro rfl
      obtain hq | hq := hq
      all_goals exact absurd hq (by decide)
    rw [step_quoted hne] at hstep
    exact ⟨_,.single hstep,fun hnone => absurd hnone (Option.some_ne_none q),fun _ => rfl⟩

end Reading

end Markup

open Markup

/-- After a value without quotes the scan is in the tag still, and outside quotes if and only if
the value is settled. Then a `>` right after the value ends the tag and a region after that stands
in no attribute. Otherwise the tag goes on, and a region after the `>` stands in an attribute. -/
theorem quote_after_value {o : Token.Options} {width : Bytes → Nat} {document name : Bytes}
    {blanks v x : Bytes} {i : Nat} {u : Scan} {due : Bool}
    (hu : Scan.start.at? o width i document = some u) (hstate : u.state = .tag name none due)
    (htext : document.drop i = 0x3D :: (blanks ++ (v ++ x)))
    (hblanks : ∀ c ∈ blanks, Bytes.isSpace c) (hv : BareValue v) :
    ∃ j w quote due', j = i + 1 + blanks.length + v.length ∧
      Scan.start.at? o width j document = some w ∧ w.state = .tag name quote due' ∧
      (quote = none ↔ Settled v) ∧
      ∀ y, x = 0x3E :: y →
        (∃ w', Scan.start.at? o width (j + 1) document = some w' ∧
          (Settled v → w'.state = .text ∨ w'.state = .rawText name) ∧
          (¬ Settled v → w'.state = w.state)) ∧
        ∀ t, scan o width document = .ok t → ∀ s ∈ t.tokens, s.region.span.offset = j + 1 →
          (s.region.context = .inAttribute ↔ ¬ Settled v) := by
  obtain ⟨rfl,hsteps⟩ := Scan.at?_start_eq_some_iff.mp hu
  rw [htext] at hsteps
  obtain ⟨quote,due',hvalue,hsound,hquote⟩ := hv.passes o width name x
  have hpass : Passes o width (.tag name none due) ([0x3D] ++ (blanks ++ v))
      (.tag name quote due') x :=
    (passes_equals name due _).append ((passes_space hblanks name true _).append hvalue)
  have hmore := hpass u hstate
  rw [List.append_assoc, List.append_assoc] at hmore
  have hw := hsteps.trans hmore
  refine ⟨_,_,quote,due',?_,Scan.Steps.at?_eq hw,rfl,hquote,?_⟩
  · simp only [Scan.copy, List.length_append, List.length_singleton]
    omega
  rintro y rfl
  obtain ⟨s,hend,hnone,hsome⟩ := passes_end hsound (w := u.copy (.tag name quote due') _) rfl y
  have hw' := Scan.Steps.at?_eq (hw.trans hend)
  refine ⟨⟨_,hw',fun hs => hnone (hquote.mpr hs),fun hs => hsome (mt hquote.mp hs)⟩,?_⟩
  intro t ht t' ht' hoffset
  obtain ⟨f,hreads,rfl⟩ := exists_reads_of_scan_eq_ok ht
  rw [hreads.context_eq (List.mem_reverse.mp ht') hw' hoffset]
  by_cases hs : Settled v
  · apply iff_of_false ?_ (not_not_intro hs)
    obtain rfl | rfl := hnone (hquote.mpr hs)
    · exact (by decide : Context.standalone ≠ .inAttribute)
    · exact (by decide : Context.inRawText ≠ .inAttribute)
  · rw [Scan.copy, hsome (mt hquote.mp hs)]
    exact iff_of_true rfl hs

section Sample

/-- A value that begins without a quote, and has one right after an `=` in it. -/
def sampleQuoteInValue : Bytes := "<a b=c=\"><?= 1 ?>"

def sampleQuoteInValueTokenized : Tokenized where
  placeholder := "<a b=c=\">_php_0__"
  map := ⟨[("_php_0__", "<?= 1 ?>")]⟩
  tokens := [⟨0, .attribute, "_php_0__", ⟨⟨9, "<?= 1 ?>"⟩, .inAttribute, true⟩⟩]

theorem quote_after_value_sampleQuoteInValue : ∃ u : Scan,
    Scan.start.at? .default List.length 4 sampleQuoteInValue = some u ∧
    u.state = .tag "a" none false ∧
    sampleQuoteInValue.drop 4 = 0x3D :: ([] ++ (Bytes.ofString "c=\"" ++ 0x3E :: Bytes.ofString "<?= 1 ?>")) ∧
    BareValue "c=\"" ∧ ¬ Settled "c=\"" ∧
    (∃ w quote due, Scan.start.at? .default List.length 8 sampleQuoteInValue = some w ∧
      w.state = .tag "a" quote due ∧ quote ≠ none) ∧
    scan .default List.length sampleQuoteInValue = .ok sampleQuoteInValueTokenized ∧
    ∀ s ∈ sampleQuoteInValueTokenized.tokens, s.region.context = .inAttribute := by
  have hvalue : BareValue "c=\"" := by
    refine ⟨⟨0x63,rfl,?_⟩,?_⟩
    · rintro (h | h)
      all_goals exact absurd h (by decide)
    · decide +kernel
  have hopen : ¬ Settled "c=\"" :=
    (settled_cons_iff (by decide)).not.mpr (not_settled_of_not_mem (.inl rfl) List.not_mem_nil)
  have hu : Scan.start.at? .default List.length 4 sampleQuoteInValue =
      some ⟨.tag "a" none false,Bytes.ofString "b a<",[],.empty,4⟩ := by decide +kernel
  have htext : sampleQuoteInValue.drop 4 =
      0x3D :: ([] ++ (Bytes.ofString "c=\"" ++ 0x3E :: Bytes.ofString "<?= 1 ?>")) := by decide +kernel
  have hscan : scan .default List.length sampleQuoteInValue = .ok sampleQuoteInValueTokenized := by
    decide +kernel
  obtain ⟨j,w,quote,due,rfl,hw,hstate,hquote,hend⟩ :=
    quote_after_value hu rfl htext (fun _ hc => absurd hc List.not_mem_nil) hvalue
  refine ⟨_,hu,rfl,htext,hvalue,hopen,⟨w,quote,due,hw,hstate,hquote.not.mpr hopen⟩,hscan,?_⟩
  intro s hs
  have hoffset : s.region.span.offset = 9 := by
    obtain rfl := List.mem_singleton.mp hs
    rfl
  exact ((hend _ rfl).2 _ hscan s hs hoffset).mpr hopen

end Sample

end Stencil
