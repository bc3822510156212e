import Stencil.Proofs.Markup.Classification
import Stencil.Proofs.Markup.Lookahead
import Stencil.Proofs.RoundTrip

/-! Placeholders hold no regions. No opener can be put together from markup and tokens, so a
placeholder is its own placeholder, under any options. -/
namespace Stencil

namespace Token.Options

/-- What the tokens of both shapes have in common: the stem, the number and the padding. -/
def label (o : Options) (number padding : Nat) : Bytes :=
  o.payload number ++ List.replicate padding o.filler

lemma name_eq (o : Options) (number : Nat) (shape : Shape) (padding : Nat) :
    o.name number shape padding = lead shape ++ o.label number padding := by
  simp [name, label]

variable {o : Options}

lemma Legal.label_start (h : o.Legal) (number padding : Nat) :
    ∃ c rest, o.label number padding = c :: rest ∧ Bytes.isLetter c := by
  obtain ⟨c,rest,hs,hc⟩ := h.start
  exact ⟨c,_,by rw [label, payload, hs]; rfl,hc⟩

/-- Labels are made of name bytes and filler. -/
lemma Legal.label_bytes (h : o.Legal) {number padding : Nat} {c : UInt8}
    (hc : c ∈ o.label number padding) : Markup.isNameByte c ∨ c = o.filler := by
  simp only [label, payload, List.mem_append] at hc
  obtain ((hc | hc) | hc) | hc := hc
  · exact .inl (h.stem c hc)
  · exact .inl (by simp [Markup.isNameByte, Bytes.isDigit_of_mem_ofNat hc])
  · obtain rfl : c = 0x5F := by simpa using hc
    exact .inl (by decide)
  · exact .inr (List.eq_of_mem_replicate hc)

/-- No other byte is in a label. -/
lemma Legal.not_mem_label (h : o.Legal) {c : UInt8} (hname : Markup.isNameByte c = false)
    (hfiller : isFiller c = false) (number padding : Nat) : c ∉ o.label number padding := by
  intro hc
  obtain hc | rfl := h.label_bytes hc
  · simp [hname] at hc
  · exact absurd h.filler (by simp [hfiller])

end Token.Options

namespace IssuedToken.IssuedBy
variable {o : Token.Options} {t : IssuedToken}

lemma rendered_of_tag (h : t.IssuedBy o) (hs : t.shape = .tag) :
    ∃ padding, t.rendered = 0x3C :: (o.label t.number padding ++ [0x20, 0x2F, 0x3E]) := by
  obtain ⟨p,hp⟩ := h.rendered
  exact ⟨p,by rw [hp, hs, Token.Options.name_eq]; rfl⟩

lemma rendered_of_attribute (h : t.IssuedBy o) (hs : t.shape = .attribute) :
    ∃ padding, t.rendered = 0x5F :: o.label t.number padding := by
  obtain ⟨p,hp⟩ := h.rendered
  exact ⟨p,by rw [hp, hs, Token.Options.name_eq]; simp [Token.lead, Token.tail]⟩

lemma bounded_rendered (h : t.IssuedBy o) (y : Bytes) : Markup.Bounded (t.rendered ++ y) := by
  match hs : t.shape with
  | .tag =>
    obtain ⟨p,hp⟩ := h.rendered_of_tag hs
    rw [hp]
    exact Markup.bounded_cons.mpr (.inl rfl)
  | .attribute =>
    obtain ⟨p,hp⟩ := h.rendered_of_attribute hs
    rw [hp]
    exact Markup.bounded_cons.mpr (.inr rfl)

lemma rendered_ne_nil (h : t.IssuedBy o) : t.rendered ≠ [] := by
  match hs : t.shape with
  | .tag => obtain ⟨p,hp⟩ := h.rendered_of_tag hs; simp [hp]
  | .attribute => obtain ⟨p,hp⟩ := h.rendered_of_attribute hs; simp [hp]

/-- No region starts where a token does. -/
lemma openerLength_rendered (h : t.IssuedBy o) (ho : o.Legal) (y : Bytes) :
    Region.openerLength (t.rendered ++ y) = 0 := by
  match hs : t.shape with
  | .tag =>
    obtain ⟨p,hp⟩ := h.rendered_of_tag hs
    obtain ⟨c,rest,hlabel,hc⟩ := ho.label_start t.number p
    have hne : c ≠ 0x3F := by
      rintro rfl
      exact absurd hc (by decide)
    rw [hp, hlabel]
    exact Markup.openerLength_lt_of_ne hne _
  | .attribute =>
    obtain ⟨p,hp⟩ := h.rendered_of_attribute hs
    rw [hp]
    exact Region.openerLength_of_ne (by decide) _

lemma lt_not_mem_rendered (h : t.IssuedBy o) (ho : o.Legal) : 0x3C ∉ t.rendered.tail := by
  have hblank : t.shape = .tag → IsBlankRun [0x20] := fun _ => ⟨by simp,by simp [Bytes.isSpace]⟩
  simpa [h.written_blank] using h.lt_not_mem_written ho hblank

end IssuedToken.IssuedBy

namespace Part
variable {o : Token.Options} {parts : List Part}

/-- What a layout by a scan consists of: markup where no region starts, and tokens as they were
rendered. -/
structure Rendered (o : Token.Options) (parts : List Part) : Prop where
  issued : ∀ t ∈ tokens parts, t.IssuedBy o
  plain : ∀ p ∈ parts, p.Plain
  markup : ∀ before c after, parts = before ++ .markup c :: after →
    Region.openerLength (c :: after.flatMap source) = 0

/-- A layout of a document as it is cut at its regions. -/
lemma rendered_of_chunks {b : Bytes} (hissued : ∀ t ∈ tokens parts, t.IssuedBy o)
    (hplain : ∀ p ∈ parts, p.Plain) (hchunks : parts.map chunk = Region.split b) :
    Rendered o parts where
  issued := hissued
  plain := hplain
  markup before c after heq := by
    rw [heq, List.map_append, List.map_cons] at hchunks
    rw [← flatMap_text_chunk]
    exact Region.openerLength_of_split hchunks.symm

lemma Rendered.tail {p : Part} (h : Rendered o (p :: parts)) : Rendered o parts where
  issued t ht := h.issued t (by cases p <;> simp [ht])
  plain q hq := h.plain q (List.mem_cons_of_mem _ hq)
  markup before c after heq := h.markup (p :: before) c after (by rw [heq, List.cons_append])

lemma Rendered.text_token {t : IssuedToken} {blanks : Bytes}
    (h : Rendered o (.token t blanks :: parts)) : (Part.token t blanks).text = t.rendered := by
  obtain rfl : blanks = [0x20] := h.plain (.token t blanks) (List.mem_cons_self ..)
  exact (h.issued t (List.mem_cons_self ..)).written_blank

/-- Up to the next token, the document and the placeholder are the same. -/
lemma Rendered.exists_common_markup (h : Rendered o parts) : ∃ l x y,
    parts.flatMap source = l ++ x ∧ parts.flatMap text = l ++ y ∧ Markup.SameEnd x y ∧
      (x = [] ∨ 0 < Region.openerLength x) := by
  induction parts with
  | nil => exact ⟨[],[],[],rfl,rfl,⟨Markup.bounded_nil,Markup.bounded_nil,Iff.rfl⟩,.inl rfl⟩
  | cons p parts ih =>
    cases p with
    | markup c =>
      obtain ⟨l,x,y,hx,hy,hend,hopen⟩ := ih h.tail
      refine ⟨c :: l,x,y,?_,?_,hend,hopen⟩
      · rw [List.flatMap_cons, hx]; rfl
      · rw [List.flatMap_cons, hy]; rfl
    | token t blanks =>
      have ht := h.issued t (List.mem_cons_self ..)
      have hopen : 0 < Region.openerLength (t.region.span.text ++ parts.flatMap source) :=
        Region.openerLength_pos_of_prefix ht.opened (List.prefix_append _ _)
      obtain ⟨x,hx⟩ := Markup.exists_of_openerLength_pos hopen
      refine ⟨[],t.region.span.text ++ parts.flatMap source,t.rendered ++ parts.flatMap text,rfl,?_,
        ⟨?_,ht.bounded_rendered _,?_⟩,.inr hopen⟩
      · rw [List.flatMap_cons, h.text_token]
        rfl
      · rw [hx]
        exact Markup.bounded_cons.mpr (.inl rfl)
      · rw [hx]
        simp [ht.rendered_ne_nil]

/-- At a byte of markup, the document and the placeholder have this byte in common too. -/
lemma Rendered.exists_common_after {c : UInt8} {a : Bytes} (h : Rendered o parts)
    (hsource : parts.flatMap source = c :: a) (hnone : Region.openerLength (c :: a) = 0) :
    ∃ l x y, a = l ++ x ∧ parts.flatMap text = c :: (l ++ y) ∧ Markup.SameEnd x y ∧
      (x = [] ∨ 0 < Region.openerLength x) := by
  obtain ⟨l,x,y,hx,hy,hend,hopen⟩ := h.exists_common_markup
  rw [hsource] at hx
  obtain ⟨rfl,rfl⟩ | ⟨l,rfl,rfl⟩ := List.cons_eq_append_iff.mp hx
  · obtain hnil | hpos := hopen
    · contradiction
    · exact absurd hnone hpos.ne'
  · exact ⟨l,x,y,rfl,hy,hend,hopen⟩

end Part

/-- Bytes other than `<` may be put in front of a text without regions. -/
lemma Region.openerLength_suffix_append {u w : Bytes} (hu : 0x3C ∉ u)
    (hw : ∀ b, b <:+ w → openerLength b = 0) : ∀ b, b <:+ u ++ w → openerLength b = 0 := by
  induction u with
  | nil => exact hw
  | cons c u ih =>
    intro b hb
    obtain rfl | hb := List.suffix_cons_iff.mp hb
    · exact openerLength_of_ne (fun hc => hu (by simp [hc])) _
    · exact ih (fun hc => hu (List.mem_cons_of_mem _ hc)) b hb

/-- No region starts anywhere in markup with tokens in it. -/
theorem Part.Rendered.openerLength_suffix {o : Token.Options} (ho : o.Legal) {parts : List Part}
    (h : Rendered o parts) : ∀ b, b <:+ parts.flatMap text → Region.openerLength b = 0 := by
  induction parts with
  | nil =>
    intro b hb
    rw [List.suffix_nil.mp hb]
    rfl
  | cons p parts ih =>
    intro b hb
    rw [List.flatMap_cons] at hb
    cases p with
    | markup c =>
      rw [text, List.singleton_append] at hb
      obtain rfl | hb := List.suffix_cons_iff.mp hb
      · -- an opener here would end before the next token, and stand in the document
        obtain ⟨l,x,y,hx,hy,hend,-⟩ := h.tail.exists_common_markup
        have hsource := h.markup [] c parts rfl
        by_contra hpos
        rw [hy] at hpos
        rw [hx] at hsource
        have hopen := (hend.openerLength_pos_iff c l).mpr (Nat.pos_of_ne_zero hpos)
        exact hopen.ne' hsource
      · exact ih h.tail b hb
    | token t blanks =>
      have ht := h.issued t (List.mem_cons_self ..)
      rw [h.text_token] at hb
      obtain ⟨c,rest,hr⟩ := List.exists_cons_of_ne_nil ht.rendered_ne_nil
      have hstart := ht.openerLength_rendered ho (parts.flatMap text)
      have hlt := ht.lt_not_mem_rendered ho
      rw [hr] at hb hstart hlt
      obtain rfl | hb := List.suffix_cons_iff.mp hb
      · exact hstart
      · exact Region.openerLength_suffix_append hlt (ih h.tail) b hb

lemma Tokenized.LaidOut.rendered {o : Token.Options} {document : Bytes} {t : Tokenized}
    (h : t.LaidOut o document) : Part.Rendered o (t.layout document) :=
  Part.rendered_of_chunks (fun s hs => h.series.issued s (h.tokens ▸ hs)) h.plain h.chunks

/-- The placeholder of a document holds no region. -/
theorem openerLength_placeholder {width : Bytes → Nat} {o used : Token.Options} {document : Bytes}
    {t : Tokenized} (h : tokenizeWith width o document = .ok (t, used)) (i : Nat) :
    Region.openerLength (t.placeholder.drop i) = 0 := by
  obtain ⟨hlegal,hscan,-⟩ := tokenizeWith_eq_ok h
  have hlaid := laidOut_of_scan_eq_ok hlegal hscan
  refine hlaid.rendered.openerLength_suffix hlegal _ ?_
  rw [hlaid.placeholder]
  exact List.drop_suffix i _

/-- A document without regions is read to its end and copied. -/
theorem Scan.run_eq_ok_of_openerLength (o : Token.Options) (width : Bytes → Nat) (s : Scan)
    {b : Bytes} (h : ∀ i, Region.openerLength (b.drop i) = 0) : ∃ f, s.run o width b = .ok f ∧
      f.outputRev = b.reverse ++ s.outputRev ∧ f.map = s.map ∧ f.tokensRev = s.tokensRev := by
  induction s, b using Scan.run.induct o width with
  | case1 s => exact ⟨s,by rw [run],rfl,rfl,rfl⟩
  | case2 s c after r hr e he => exact absurd (h 0) (Region.atStart?_eq_some_iff.mp hr).1.ne'
  | case3 s c after r hr s' hs _ ih => exact absurd (h 0) (Region.atStart?_eq_some_iff.mp hr).1.ne'
  | case4 s c after hr next ih =>
    have hpos : 0 < next.2 := Markup.step_pos ..
    have hdrop : after.drop (next.2 - 1) = (c :: after).drop next.2 := by
      obtain ⟨m,hm⟩ := Nat.exists_eq_succ_of_ne_zero hpos.ne'
      rw [hm]
      rfl
    obtain ⟨f,hrun,houtput,hmap,htokens⟩ := ih fun i => by
      rw [hdrop, List.drop_drop]
      exact h _
    refine ⟨f,by rw [run_of_atStart?_eq_none hr]; exact hrun,?_,hmap,htokens⟩
    rw [houtput, hdrop, copy, ← List.append_assoc, ← List.reverse_append, List.take_append_drop]

/-- With no tokens there is nothing to restore. -/
lemma restore_empty (b : Bytes) : restore b .empty = ⟨b, 0, []⟩ :=
  restore_of_keyLength_eq_zero rfl b

/-- A document without regions is its own placeholder. -/
theorem tokenizeWith_of_openerLength {o : Token.Options} (width : Bytes → Nat) {document : Bytes}
    (ho : o.validate = .ok ()) (h : ∀ i, Region.openerLength (document.drop i) = 0) :
    tokenizeWith width o document = .ok (⟨document, .empty, []⟩, o) := by
  have hscan : scan o width document = .ok ⟨document, .empty, []⟩ := by
    obtain ⟨f,hrun,houtput,hmap,htokens⟩ := Scan.run_eq_ok_of_openerLength o width .start h
    rw [scan, hrun]
    simp [Except.map, Scan.finish, houtput, hmap, htokens, Scan.start]
  rw [tokenizeWith, ho]
  simp only [Token.Options.attempts, tryStems, hscan, restore_empty, if_true]

end Stencil
