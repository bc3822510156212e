import Stencil.Proofs.Markup.Contexts
import Stencil.Proofs.Markup.Grammar

/-! How pieces of a document are read in each state of the markup: literal text leaves the state as
it is and a region adds its context, whatever was read before. -/
namespace Stencil.Markup
open Grammar

/-- Reading on after some text never completes the pattern. -/
def Apart (p x : Bytes) : Prop := ∀ a, a ≠ [] → p <+: a ++ x → p <+: a

/-- An occurrence that does not end in the first text reaches into the second. -/
lemma prefix_append_cases {p a x : Bytes} (h : p <+: a ++ x) :
    p <+: a ∨ ∃ y, y ≠ [] ∧ p = a ++ y ∧ y <+: x := by
  obtain hpa | ⟨y,rfl⟩ := List.prefix_or_prefix_of_prefix h (List.prefix_append a x)
  · exact .inl hpa
  · cases y with
    | nil => exact .inl (by simp)
    | cons d y => exact .inr ⟨d :: y,by simp,rfl,(List.prefix_append_right_inj a).mp h⟩

lemma apart_cons {p x : Bytes} {d : UInt8} (h : d ∉ p.tail) : Apart p (d :: x) := by
  intro a ha hpre
  obtain hin | ⟨y,hy,rfl,hyx⟩ := prefix_append_cases hpre
  · exact hin
  · obtain ⟨e,y,rfl⟩ := List.exists_cons_of_ne_nil hy
    obtain ⟨c,a,rfl⟩ := List.exists_cons_of_ne_nil ha
    obtain rfl := (List.cons_prefix_cons.mp hyx).1
    exact absurd (by simp) h

/-- No proper end of the text is a beginning of it. -/
def Unbordered (p : Bytes) : Prop := ∀ y ∈ p.tails, y <+: p → y = [] ∨ y = p

instance (p : Bytes) : Decidable (Unbordered p) :=
  inferInstanceAs (Decidable (∀ y ∈ p.tails, y <+: p → y = [] ∨ y = p))

lemma Unbordered.apart {p : Bytes} (hp : Unbordered p) (x : Bytes) : Apart p (p ++ x) := by
  intro a ha hpre
  obtain hin | ⟨y,hy,hsplit,hyx⟩ := prefix_append_cases hpre
  · exact hin
  · have hlen := congrArg List.length hsplit
    have hpos := List.length_pos_of_ne_nil ha
    rw [List.length_append] at hlen
    have hyp : y <+: p := List.prefix_of_prefix_length_le hyx (List.prefix_append p x) (by omega)
    obtain rfl | rfl := hp y ((List.mem_tails y p).mpr ⟨a,hsplit.symm⟩) hyp
    · contradiction
    · omega

lemma Apart.not_starts {p b v x : Bytes} {c : UInt8} (hx : Apart p x) (hb : ¬ p <:+: b)
    (hv : c :: v <:+ b) : ¬ p <+: c :: (v ++ x) := by
  intro hpre
  exact hb ((hx (c :: v) (List.cons_ne_nil c v) hpre).isInfix.trans hv.isInfix)

/-- No opener can go on into this text. -/
def Breaks (x : Bytes) : Prop := ∀ p, Region.Opener p → Apart p x

lemma mem_tail_opener {p : Bytes} (hp : Region.Opener p) : ∀ c ∈ p.tail,
    c = 0x3F ∨ c = 0x3D ∨ Bytes.lowerByte c = 0x70 ∨ Bytes.lowerByte c = 0x68 := by
  cases hp with
  | echo => simp
  | code ha hb hc =>
    intro c h
    simp only [List.tail_cons, List.mem_cons, List.not_mem_nil, or_false] at h
    obtain rfl | rfl | rfl | rfl := h <;> simp [ha, hb, hc]

lemma breaks_cons {c : UInt8} {x : Bytes} (h : c = 0x3C ∨ c = 0x3E ∨ c = 0x2F ∨ c = 0x2D ∨
    IsQuote c ∨ isTagBlank c) : Breaks (c :: x) := by
  intro p hp
  refine apart_cons fun hc => ?_
  have hmem := mem_tail_opener hp c hc
  revert hmem
  simp only [IsQuote, isTagBlank, Bool.or_eq_true, beq_iff_eq] at h
  obtain rfl | rfl | rfl | rfl | (rfl | rfl) | ((rfl | rfl) | rfl) | rfl := h <;> decide

lemma openerLength_of_noOpener {b v x : Bytes} {c : UInt8} (hb : NoOpener b) (hx : Breaks x)
    (hv : c :: v <:+ b) : Region.openerLength (c :: (v ++ x)) = 0 := by
  by_contra hpos
  obtain ⟨p,hp,hpre⟩ := Region.openerLength_pos_iff.mp (Nat.pos_of_ne_zero hpos)
  exact (hx p hp).not_starts (hb p hp) hv hpre

/-- Before `x`, reading `b` from state `s` gives these regions and leads to state `s'`. -/
def Yields (s : State) (b : Bytes) (regions : List (Bytes × Context)) (s' : State) (x : Bytes) :
    Prop :=
  ∀ readRev, classify s readRev (b ++ x) = regions ++ classify s' (b.reverse ++ readRev) x

namespace Yields
variable {s s' s'' : State} {a b x : Bytes} {c : UInt8} {regions : List (Bytes × Context)}

lemma nil (s : State) (x : Bytes) : Yields s [] [] s x := fun _ => rfl

lemma append {more : List (Bytes × Context)} (ha : Yields s a regions s' (b ++ x))
    (hb : Yields s' b more s'' x) : Yields s (a ++ b) (regions ++ more) s'' x := by
  intro readRev
  rw [List.append_assoc, ha, hb, List.reverse_append, List.append_assoc, List.append_assoc]

/-- What one step reads. -/
lemma read (hopen : Region.openerLength (c :: (b ++ x)) = 0)
    (hstep : ∀ readRev, step s readRev c (b ++ x) = (s', b.length + 1)) :
    Yields s (c :: b) [] s' x := by
  intro readRev
  rw [List.cons_append, classify_of_atStart?_eq_none (Region.atStart?_eq_none_iff.mpr hopen),
    hstep readRev]
  simp

lemma cons (hopen : Region.openerLength (c :: (b ++ x)) = 0)
    (hstep : ∀ readRev, step s readRev c (b ++ x) = (s', 1)) (hb : Yields s' b regions s'' x) :
    Yields s (c :: b) regions s'' x :=
  append (read (b := []) hopen hstep) hb

/-- The last byte may be read by what stands before it. -/
lemma concat (hb : Yields s b regions s' (c :: x)) (hopen : Region.openerLength (c :: x) = 0)
    (hstep : ∀ readRev, step s' (b.reverse ++ readRev) c x = (s'', 1)) :
    Yields s (b ++ [c]) regions s'' x := by
  intro readRev
  rw [List.append_assoc, List.singleton_append, hb,
    classify_of_atStart?_eq_none (Region.atStart?_eq_none_iff.mpr hopen), hstep readRev]
  simp

/-- Text is passed over if each of its bytes keeps the state. -/
lemma of_forall (h : ∀ c v, c :: v <:+ b → Region.openerLength (c :: (v ++ x)) = 0 ∧
    ∀ readRev, step s readRev c (v ++ x) = (s, 1)) : Yields s b [] s x := by
  induction b with
  | nil => exact .nil s x
  | cons c b ih =>
    obtain ⟨hopen,hstep⟩ := h c b List.suffix_rfl
    exact .cons hopen hstep (ih fun d v hv => h d v (hv.trans (List.suffix_cons c b)))

end Yields

/-- The leftmost separator is found where it was put. -/
lemma cut?_separator {sep body : Bytes} (hsep : Unbordered sep) (hne : sep ≠ [])
    (h : ¬ sep <:+: body) (x : Bytes) : Bytes.cut? sep (body ++ (sep ++ x)) = some (body, x) := by
  induction body with
  | nil =>
    obtain ⟨d,sep,rfl⟩ := List.exists_cons_of_ne_nil hne
    simp [Bytes.cut?]
  | cons c body ih =>
    have hno := (hsep.apart x).not_starts h List.suffix_rfl
    have hbody : ¬ sep <:+: body := fun hin => h (hin.trans (List.suffix_cons c body).isInfix)
    rw [List.cons_append, Bytes.cut?, if_neg (by simpa using hno), ih hbody]
    rfl

lemma yields_embedded (r : Embedded) (s : State) (x : Bytes) :
    Yields s r.text [(r.text, s.context)] s.afterRegion x := by
  intro readRev
  have htext : r.text ++ x = r.opener ++ (r.body ++ (Region.closer ++ x)) := by
    simp [Embedded.text]
  have hstart : Region.atStart? (r.text ++ x) = some ⟨r.text,true,x⟩ := by
    rw [htext]
    refine Region.atStart?_eq_some_iff.mpr ⟨?_,?_⟩
    · exact Region.openerLength_pos_iff.mpr ⟨r.opener,r.isOpener,List.prefix_append _ _⟩
    · rw [Region.openerLength_append r.isOpener, Region.extract, List.drop_left, List.take_left,
        cut?_separator (by decide) (by decide) r.noCloser]
      rfl
  rw [classify_of_atStart?_eq_some hstart]
  rfl

lemma exists_text_eq (r : Embedded) : ∃ y, r.text = 0x3C :: y := by
  obtain ⟨opener,body,hopener,_⟩ := r
  cases hopener <;> exact ⟨_,rfl⟩

/-- Literal text with regions in it is read piece by piece, each piece before a region or at the
end. -/
theorem yields_mixed {ok : Bytes → Prop} (m : Mixed ok) {s : State} {x : Bytes}
    (hs : s.afterRegion = s) (hmid : ∀ (l : Literal ok) y, Yields s l.text [] s (0x3C :: y))
    (hlast : ∀ l : Literal ok, l.text <:+ m.text → Yields s l.text [] s x) :
    Yields s m.text (m.regions.map (·, s.context)) s x := by
  obtain ⟨first,more⟩ := m
  induction more generalizing first with
  | nil => simpa [Mixed.text, Mixed.regions] using hlast first (by simp [Mixed.text])
  | cons part more ih =>
    obtain ⟨r,l⟩ := part
    have htext : (Mixed.mk first ((r, l) :: more)).text =
        first.text ++ (r.text ++ (Mixed.mk l more).text) := by
      simp [Mixed.text]
    have hrest := ih l fun last hsuffix => hlast last <| by
      rw [htext, ← List.append_assoc]
      exact hsuffix.trans (List.suffix_append _ _)
    have hregion := yields_embedded r s ((Mixed.mk l more).text ++ x)
    rw [hs] at hregion
    obtain ⟨y,hy⟩ := exists_text_eq r
    have hfirst := hmid first (y ++ ((Mixed.mk l more).text ++ x))
    rw [← List.cons_append, ← hy, ← List.append_assoc] at hfirst
    rw [htext]
    exact hfirst.append (hregion.append hrest)

section Comment

lemma step_comment {readRev after : Bytes} {c : UInt8} (h : ¬ commentClose <+: c :: after) :
    step .comment readRev c after = (.comment, 1) := by
  simp [step, h]

lemma yields_comment_literal (l : Literal (¬ commentClose <:+: ·)) {x : Bytes} (hx : Breaks x)
    (hclose : Apart commentClose x) : Yields .comment l.text [] .comment x :=
  .of_forall fun _ _ hv => ⟨openerLength_of_noOpener l.noOpener hx hv,
    fun _ => step_comment (hclose.not_starts l.isOk hv)⟩

lemma yields_comment_content (m : Mixed (¬ commentClose <:+: ·)) (x : Bytes) :
    Yields .comment m.text (m.regions.map (·, .inRawText)) .comment (commentClose ++ x) := by
  refine yields_mixed m rfl (fun l y => ?_) fun l _ => ?_
  · exact yields_comment_literal l (breaks_cons (by simp)) (apart_cons (by decide))
  · exact yields_comment_literal l (breaks_cons (by simp)) (Unbordered.apart (by decide) x)

end Comment

section Tag
variable {name : Bytes} {x : Bytes}

lemma step_quoted {q c : UInt8} (h : c ≠ q) (readRev after : Bytes) :
    step (.tag name (some q) false) readRev c after = (.tag name (some q) false, 1) := by
  simp [step, stepTag, h]

lemma yields_quoted_content {q : UInt8} (hq : IsQuote q) (m : Mixed (q ∉ ·)) :
    Yields (.tag name (some q) false) m.text (m.regions.map (·, .inAttribute))
      (.tag name (some q) false) (q :: x) := by
  have hliteral (l : Literal (q ∉ ·)) {x : Bytes} (hx : Breaks x) :
      Yields (.tag name (some q) false) l.text [] (.tag name (some q) false) x := by
    refine .of_forall fun c v hv => ⟨openerLength_of_noOpener l.noOpener hx hv,?_⟩
    have hne : c ≠ q := fun h => l.isOk (h ▸ hv.subset (by simp))
    exact fun readRev => step_quoted hne readRev _
  refine yields_mixed m rfl (fun l y => ?_) fun l _ => ?_
  · exact hliteral l (breaks_cons (by simp))
  · exact hliteral l (breaks_cons (by simp [hq]))

/-- Outside quotes, only `=` and `>` change a tag, and a quote right after `=`. -/
lemma step_tag_plain {c : UInt8} (heq : c ≠ 0x3D) (hgt : c ≠ 0x3E) (readRev after : Bytes) :
    step (.tag name none false) readRev c after = (.tag name none false, 1) := by
  simp [step, stepTag, heq, hgt]

lemma yields_plain {b : Bytes} (h : ∀ c ∈ b, c ≠ 0x3C ∧ c ≠ 0x3D ∧ c ≠ 0x3E) :
    Yields (.tag name none false) b [] (.tag name none false) x := by
  refine .of_forall fun c v hv => ?_
  obtain ⟨hlt,heq,hgt⟩ := h c (hv.subset (by simp))
  exact ⟨Region.openerLength_of_ne hlt _,fun readRev => step_tag_plain heq hgt readRev _⟩

lemma isTagBlank_cases {c : UInt8} (h : isTagBlank c) :
    c = 0x20 ∨ c = 0x09 ∨ c = 0x0D ∨ c = 0x0A := by
  simpa [isTagBlank, or_assoc] using h

/-- Blanks keep a value due. -/
lemma yields_blanks (b : Blanks) (atValue : Bool) :
    Yields (.tag name none atValue) b.text [] (.tag name none atValue) x := by
  refine .of_forall fun c v hv => ?_
  obtain rfl | rfl | rfl | rfl := isTagBlank_cases (b.isBlank c (hv.subset (by simp)))
  all_goals exact ⟨Region.openerLength_of_ne (by decide) _,fun _ => rfl⟩

/-- Where no quote and no blank follows, it makes no difference whether a value is due. -/
lemma Yields.of_atValue {b : Bytes} {regions : List (Bytes × Context)} {s : State}
    (hhead : ∃ c ∈ (b ++ x).head?, ¬ IsQuote c ∧ ¬ Bytes.isSpace c)
    (h : Yields (.tag name none false) b regions s x) :
    Yields (.tag name none true) b regions s x := by
  intro readRev
  rw [← h readRev]
  obtain ⟨c,hc,hquote,hspace⟩ := hhead
  obtain ⟨after,hafter⟩ := List.head?_eq_some_iff.mp hc
  rw [hafter]
  cases hstart : Region.atStart? (c :: after) with
  | some r => rw [classify_of_atStart?_eq_some hstart, classify_of_atStart?_eq_some hstart]; rfl
  | none =>
    have hstep : step (.tag name none true) readRev c after =
        step (.tag name none false) readRev c after := by
      simp only [IsQuote, not_or] at hquote
      simp [step, stepTag, hquote, hspace]
    rw [classify_of_atStart?_eq_none hstart, classify_of_atStart?_eq_none hstart, hstep]

/-- An `=` in a value without quotes is harmless unless a quote or a blank follows it. -/
lemma yields_unquoted_literal {b : Bytes} (hno : NoOpener b) (hb : Unquoted b) (hx : Breaks x)
    (hend : b.getLast? = some 0x3D → ∃ y, x = 0x3C :: y) :
    Yields (.tag name none false) b [] (.tag name none false) x := by
  induction b with
  | nil => exact .nil _ x
  | cons c b ih =>
    have hopen := openerLength_of_noOpener hno hx List.suffix_rfl
    have hrest : Yields (.tag name none false) b [] (.tag name none false) x := by
      refine ih (fun p hp hin => hno p hp (hin.trans (List.suffix_cons c b).isInfix)) ?_ ?_
      · exact ⟨fun d hd => hb.noEnd d (by simp [hd]),
          fun q hq hin => hb.noQuote q hq (hin.trans (List.suffix_cons c b).isInfix)⟩
      · intro hlast
        exact hend (by rw [List.getLast?_cons, hlast]; rfl)
    by_cases heq : c = 0x3D
    · subst heq
      refine .cons hopen (fun _ => rfl) (hrest.of_atValue ?_)
      cases b with
      | nil =>
        obtain ⟨y,rfl⟩ := hend rfl
        exact ⟨0x3C,rfl,by simp [IsQuote],by decide⟩
      | cons d b =>
        refine ⟨d,rfl,fun hq => ?_,(hb.noEnd d (by simp)).1⟩
        exact hb.noQuote d hq (List.prefix_append [0x3D, d] b).isInfix
    · have hgt := (hb.noEnd c (by simp)).2
      exact .cons hopen (fun readRev => step_tag_plain heq hgt readRev _) hrest

lemma yields_unquoted_content (m : Mixed Unquoted) (hends : m.text.getLast? ≠ some 0x3D)
    (hx : Breaks x) : Yields (.tag name none false) m.text (m.regions.map (·, .inAttribute))
      (.tag name none false) x := by
  refine yields_mixed m rfl (fun l y => ?_) fun l hsuffix => ?_
  · exact yields_unquoted_literal l.noOpener l.isOk (breaks_cons (by simp)) fun _ => ⟨y,rfl⟩
  · refine yields_unquoted_literal l.noOpener l.isOk hx fun hlast => absurd ?_ hends
    obtain ⟨before,hbefore⟩ := hsuffix
    rw [← hbefore, List.getLast?_append, hlast]
    rfl

end Tag

section RawText
variable {name : Bytes}

lemma endsName_iff {c : UInt8} : EndsName c ↔ (c == 0x3E || c == 0x2F || c == 0x20 || c == 0x09 ||
    c == 0x0A || c == 0x0D || c == 0x0C) = true := by
  simp [EndsName, or_assoc]

/-- An end tag stands where its text does, in any case, unless the name goes on. -/
lemma closesRawText_iff {b : Bytes} : closesRawText name b ↔
    ∃ close rest, b = close ++ rest ∧ Bytes.toLower close = 0x3C :: 0x2F :: Bytes.toLower name ∧
      ∀ c ∈ rest.head?, EndsName c := by
  unfold closesRawText
  constructor
  · intro h
    dsimp only at h
    split at h
    · contradiction
    · split at h
      · contradiction
      · next hcase =>
        have hlower : Bytes.toLower (b.take (name.length + 2)) =
            Bytes.toLower (0x3C :: 0x2F :: name) := by
          simpa [Bytes.eqIgnoreCase] using hcase
        refine ⟨_,_,(List.take_append_drop (name.length + 2) b).symm,hlower,fun c hc => ?_⟩
        obtain ⟨rest,hrest⟩ := List.head?_eq_some_iff.mp hc
        rw [List.length_cons, List.length_cons, hrest] at h
        exact endsName_iff.mpr h
  · rintro ⟨close,rest,rfl,hlower,hrest⟩
    have hlen : (0x3C :: 0x2F :: name).length = close.length := by
      simpa [Bytes.toLower] using (congrArg List.length hlower).symm
    have hcase : Bytes.eqIgnoreCase close (0x3C :: 0x2F :: name) := by
      rw [Bytes.eqIgnoreCase, hlower]
      exact beq_self_eq_true _
    dsimp only
    rw [hlen, List.take_left, List.drop_left, hcase, if_neg (by simp), if_neg (by simp)]
    cases rest with
    | nil => rfl
    | cons c rest => exact endsName_iff.mp (hrest c rfl)

lemma toLower_of_mem_rawTextElements (h : name ∈ rawTextElements) : Bytes.toLower name = name := by
  revert name
  decide

lemma lt_not_mem_of_mem_rawTextElements (h : name ∈ rawTextElements) : 0x3C ∉ name := by
  revert name
  decide

lemma not_closesRawText (hname : name ∈ rawTextElements) {b v y : Bytes} {c : UInt8}
    (hb : NoEndTag name b) (hv : c :: v <:+ b) :
    ¬ closesRawText name (c :: (v ++ 0x3C :: y)) := by
  intro hcloses
  obtain ⟨close,rest,hsplit,hlower,hrest⟩ := closesRawText_iff.mp hcloses
  rw [toLower_of_mem_rawTextElements hname] at hlower
  have hlt : ¬ EndsName 0x3C := by simp [EndsName]
  rw [← List.cons_append] at hsplit
  obtain ⟨w,rfl,hw⟩ | ⟨w,hin,rfl⟩ := List.append_eq_append_iff.mp hsplit
  · -- the end tag would reach beyond the piece, and hold a second `<`
    cases w with
    | nil =>
      rw [List.nil_append] at hw
      exact hlt (hrest 0x3C (by simp [← hw]))
    | cons d w =>
      obtain rfl := (List.cons.inj hw).1
      have hmem : 0x3C ∈ 0x2F :: name := by
        rw [← (List.cons.inj hlower).2]
        exact List.mem_map.mpr ⟨0x3C,by simp,rfl⟩
      exact lt_not_mem_of_mem_rawTextElements hname (by simpa using hmem)
  · cases w with
    | nil => exact hlt (hrest 0x3C rfl)
    | cons d w =>
      refine hb close d hlower (hrest d rfl) (List.IsInfix.trans ?_ hv.isInfix)
      rw [hin]
      exact ⟨[],w,by simp⟩

lemma step_rawText {readRev after : Bytes} {c : UInt8} (h : ¬ closesRawText name (c :: after)) :
    step (.rawText name) readRev c after = (.rawText name, 1) := by
  simp [step, h]

lemma step_endTag {readRev after : Bytes} (h : closesRawText name (0x3C :: after)) :
    step (.rawText name) readRev 0x3C after = (.tag [] none false, 1) := by
  simp [step, h]

lemma yields_rawText_content (hname : name ∈ rawTextElements) (m : Mixed (NoEndTag name))
    (y : Bytes) : Yields (.rawText name) m.text (m.regions.map (·, .inRawText)) (.rawText name)
      (0x3C :: y) := by
  have hliteral (l : Literal (NoEndTag name)) (y : Bytes) :
      Yields (.rawText name) l.text [] (.rawText name) (0x3C :: y) :=
    .of_forall fun c v hv => ⟨openerLength_of_noOpener l.noOpener (breaks_cons (by simp)) hv,
      fun _ => step_rawText (not_closesRawText hname l.isOk hv)⟩
  exact yields_mixed m rfl hliteral fun l _ => hliteral l y

end RawText

end Stencil.Markup
