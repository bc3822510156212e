import Stencil.Proofs.Scan.Placeholder
import Stencil.Proofs.Scan.Steps

/-! The placeholder has the markup of its document. Every state is neutral to the token that is
issued in it, unless the token ends a comment. So a scan of the placeholder goes along with the scan
of the document: at each token it is in the state in which the region was found, and after it in the
state after the region. -/
namespace Stencil

lemma Scan.copy_copy (v : Scan) (s s' : Markup.State) (a b : Bytes) :
    (v.copy s a).copy s' b = v.copy s' (a ++ b) := by
  simp [copy, Nat.add_assoc]

namespace Markup
open Grammar
variable {o : Token.Options} {width : Bytes → Nat}

/-- Before `x`, a scan reads `b` as markup and gets from one state to another. -/
def Passes (o : Token.Options) (width : Bytes → Nat) (s : State) (b : Bytes) (s' : State)
    (x : Bytes) : Prop :=
  ∀ v : Scan, v.state = s → Scan.Steps o width (v, b ++ x) (v.copy s' b, x)

namespace Passes
variable {s s' s'' : State} {a b x : Bytes} {c : UInt8}

lemma nil (s : State) (x : Bytes) : Passes o width s [] s x := by
  rintro v rfl
  exact .refl

lemma append (ha : Passes o width s a s' (b ++ x)) (hb : Passes o width s' b s'' x) :
    Passes o width s (a ++ b) s'' x := by
  intro v hv
  have hfirst := ha v hv
  have hsecond := hb (v.copy s' a) rfl
  rw [Scan.copy_copy] at hsecond
  rw [List.append_assoc]
  exact hfirst.trans hsecond

lemma read (hopen : Region.openerLength (c :: x) = 0)
    (hstep : ∀ outputRev, step s outputRev c x = (s', 1)) : Passes o width s [c] s' x := by
  rintro v rfl
  have h : Scan.Step o width (v, c :: x) _ := .markup (Region.atStart?_eq_none_iff.mpr hopen)
  rw [hstep] at h
  exact .single h

/-- Text is passed over if each of its bytes keeps the state. -/
lemma of_forall (h : ∀ c u, c :: u <:+ b → Region.openerLength (c :: (u ++ x)) = 0 ∧
    ∀ outputRev, step s outputRev c (u ++ x) = (s, 1)) : Passes o width s b s x := by
  induction b with
  | nil => exact .nil s x
  | cons c b ih =>
    obtain ⟨hopen,hstep⟩ := h c b List.suffix_rfl
    exact (read hopen hstep).append (ih fun d u hu => h d u (hu.trans (List.suffix_cons c b)))

/-- In a tag, outside quotes, bytes without a meaning there are passed over. -/
lemma of_plain {name : Bytes} (h : ∀ c ∈ b, c ≠ 0x3C ∧ c ≠ 0x3D ∧ c ≠ 0x3E) :
    Passes o width (.tag name none false) b (.tag name none false) x := by
  refine of_forall fun c u hu => ?_
  obtain ⟨hlt,heq,hgt⟩ := h c (hu.subset (List.mem_cons_self ..))
  exact ⟨Region.openerLength_of_ne hlt _,fun outputRev => step_tag_plain heq hgt outputRev _⟩

end Passes

section Token
variable {p : Token.Options} {x : Bytes}

/-- Options whose tokens end no comment. -/
def EndsNoComment (p : Token.Options) : Prop := p.filler ≠ 0x2D

lemma exists_last_label (hfiller : EndsNoComment p) (number padding : Nat) :
    ∃ b c, p.label number padding = b ++ [c] ∧ c ≠ 0x2D := by
  cases padding with
  | zero =>
    refine ⟨p.stem ++ Bytes.ofNat number ++ [0x5F],0x5F,?_,by decide⟩
    simp [Token.Options.label, Token.Options.payload]
  | succ n =>
    refine ⟨p.payload number ++ List.replicate n p.filler,p.filler,?_,hfiller⟩
    rw [Token.Options.label, List.replicate_succ', List.append_assoc]

/-- The last hyphens of a token and the text right after it make the end of a comment. -/
def EndsComment (token rest : Bytes) : Prop :=
  [0x2D] <:+ token ∧ [0x2D, 0x3E] <+: rest ∨ [0x2D, 0x2D] <:+ token ∧ [0x3E] <+: rest

instance (token rest : Bytes) : Decidable (EndsComment token rest) :=
  inferInstanceAs (Decidable ([0x2D] <:+ token ∧ [0x2D, 0x3E] <+: rest ∨
    [0x2D, 0x2D] <:+ token ∧ [0x3E] <+: rest))

/-- A text that has no `>` holds no whole end of a comment. -/
lemma endsComment_of_starts {token u : Bytes} {c : UInt8} (hgt : 0x3E ∉ token)
    (hu : c :: u <:+ token) (hclose : commentClose <+: c :: (u ++ x)) : EndsComment token x := by
  obtain ⟨hc,htwo⟩ := List.cons_prefix_cons.mp hclose
  subst hc
  match u, hu, htwo with
  | [], hu, htwo => exact .inl ⟨hu,htwo⟩
  | [d], hu, htwo =>
    obtain ⟨hd,hone⟩ := List.cons_prefix_cons.mp htwo
    subst hd
    exact .inr ⟨hu,hone⟩
  | d :: e :: u, hu, htwo =>
    have hone := (List.cons_prefix_cons.mp htwo).2
    have he : 0x3E = e := (List.cons_prefix_cons.mp hone).1
    exact absurd (hu.subset (by simp [he])) hgt

lemma not_endsComment_of_last {b : Bytes} {c : UInt8} (hc : c ≠ 0x2D) (rest : Bytes) :
    ¬ EndsComment (b ++ [c]) rest := by
  have hlast {d : UInt8} {y : Bytes} (h : y ++ [d] <:+ b ++ [c]) : d = c := by
    obtain ⟨before,hbefore⟩ := h
    rw [← List.append_assoc] at hbefore
    exact List.singleton_inj.mp (List.append_inj' hbefore rfl).2
  rintro (⟨h,-⟩ | ⟨h,-⟩)
  · exact hc (hlast (y := []) h).symm
  · exact hc (hlast (y := [0x2D]) h).symm

/-- Where hyphens are not the filler, tokens end no comment. -/
lemma EndsNoComment.not_endsComment {t : IssuedToken} (hfiller : EndsNoComment p)
    (ht : t.IssuedBy p) (rest : Bytes) : ¬ EndsComment t.rendered rest := by
  match hcase : t.shape with
  | .tag =>
    obtain ⟨padding,hrendered⟩ := ht.rendered_of_tag hcase
    have hsplit : 0x3C :: (p.label t.number padding ++ [0x20, 0x2F, 0x3E]) =
        0x3C :: (p.label t.number padding ++ [0x20, 0x2F]) ++ [0x3E] := by simp
    rw [hrendered, hsplit]
    exact not_endsComment_of_last (by decide) rest
  | .attribute =>
    obtain ⟨padding,hrendered⟩ := ht.rendered_of_attribute hcase
    obtain ⟨b,c,hlabel,hc⟩ := exists_last_label hfiller t.number padding
    rw [hrendered, hlabel, ← List.cons_append]
    exact not_endsComment_of_last hc rest

/-- Inside tags, comments and raw text an attribute token that ends no comment is passed over, and
is the value if one is due. -/
lemma passes_attribute {s : State} (hs : s.Sound) (hshape : s.context.shape = .attribute)
    (hp : p.Legal) {number padding : Nat}
    (hends : s = .comment → ¬ EndsComment (0x5F :: p.label number padding) x) :
    Passes o width s (0x5F :: p.label number padding) s.afterRegion x := by
  have hmem {d : UInt8} (hname : isNameByte d = false) (hfill : Token.isFiller d = false) :
      d ∉ 0x5F :: p.label number padding := by
    intro hd
    obtain rfl | hd := List.mem_cons.mp hd
    · exact absurd hname (by decide)
    · exact hp.not_mem_label hname hfill number padding hd
  have hopen {c : UInt8} {u : Bytes} (hu : c :: u <:+ 0x5F :: p.label number padding) :
      Region.openerLength (c :: (u ++ x)) = 0 := by
    refine Region.openerLength_of_ne ?_ _
    rintro rfl
    exact hmem (d := 0x3C) (by decide) (by decide) (hu.subset (List.mem_cons_self ..))
  match s, hs with
  | .text, _ => contradiction
  | .tag name none atValue, _ =>
    have hfirst : Passes o width (.tag name none atValue) [0x5F] (.tag name none false)
        (p.label number padding ++ x) := by
      refine .read (Region.openerLength_of_ne (by decide) _) fun outputRev => ?_
      simp [step, stepTag, Bytes.isSpace]
    refine hfirst.append (.of_plain fun c hc => ⟨?_,?_,?_⟩)
    all_goals
      rintro rfl
      exact hp.not_mem_label (by decide) (by decide) number padding hc
  | .tag name (some q) atValue, hs =>
    obtain ⟨hq,rfl⟩ := hs
    refine .of_forall fun c u hu => ⟨hopen hu,fun outputRev => step_quoted ?_ outputRev _⟩
    rintro rfl
    obtain rfl | rfl := hq
    all_goals exact hmem (by decide) (by decide) (hu.subset (List.mem_cons_self ..))
  | .comment, _ =>
    refine .of_forall fun c u hu => ⟨hopen hu,fun _ => step_comment fun hclose => ?_⟩
    have hgt := hmem (d := 0x3E) (by decide) (by decide)
    exact hends rfl (endsComment_of_starts hgt hu hclose)
  | .rawText name, _ =>
    refine .of_forall fun c u hu => ⟨hopen hu,fun outputRev => ?_⟩
    have hne : c ≠ 0x3C := by
      rintro rfl
      exact hmem (d := 0x3C) (by decide) (by decide) (hu.subset (List.mem_cons_self ..))
    simp [step, hne]

/-- The name of a tag token is that of no element with raw text, as it has an underscore in it. -/
lemma startTagName_label_not_raw (hp : p.Legal) (number padding : Nat) (y : Bytes) :
    startTagName (p.label number padding ++ y) ∉ rawTextElements := by
  have hpayload : ∀ c ∈ p.payload number, isNameByte c := by
    intro c hc
    simp only [Token.Options.payload, List.mem_append] at hc
    obtain (hc | hc) | hc := hc
    · exact hp.stem c hc
    · simp [isNameByte, Bytes.isDigit_of_mem_ofNat hc]
    · obtain rfl : c = 0x5F := by simpa using hc
      decide
  have hmem : 0x5F ∈ startTagName (p.label number padding ++ y) := by
    rw [startTagName, Token.Options.label, List.append_assoc, List.takeWhile_append_of_pos hpayload]
    exact List.mem_map.mpr ⟨0x5F,by simp [Token.Options.payload],by decide⟩
  have hraw : ∀ name ∈ rawTextElements, 0x5F ∉ name := by decide
  exact fun h => hraw _ h hmem

lemma eq_text_of_shape {s : State} (h : s.context.shape = .tag) : s = .text := by
  cases s with
  | text => rfl
  | tag _ _ _ => contradiction
  | comment => contradiction
  | rawText _ => contradiction

/-- In text, a tag token is a tag that is closed at once. -/
lemma passes_tag (hp : p.Legal) (number padding : Nat) :
    Passes o width .text (0x3C :: (p.label number padding ++ [0x20, 0x2F, 0x3E])) .text x := by
  obtain ⟨c,rest,hlabel,hc⟩ := hp.label_start number padding
  have hne (d : UInt8) (hd : Bytes.isLetter d = false) : c ≠ d := by
    rintro rfl
    simp [hd] at hc
  have hlt : Passes o width .text [0x3C]
      (.tag (startTagName (p.label number padding ++ ([0x20, 0x2F, 0x3E] ++ x))) none false)
      (p.label number padding ++ [0x20, 0x2F] ++ ([0x3E] ++ x)) := by
    have htext : p.label number padding ++ [0x20, 0x2F] ++ ([0x3E] ++ x) =
        p.label number padding ++ ([0x20, 0x2F, 0x3E] ++ x) := by simp
    rw [htext]
    refine .read ?_ fun outputRev => ?_
    · rw [hlabel]
      exact openerLength_lt_of_ne (hne 0x3F (by decide)) _
    · simp [step, hlabel, commentOpen, (hne 0x21 (by decide)).symm, opensTag, hc]
  have hbody {name : Bytes} : Passes o width (.tag name none false)
      (p.label number padding ++ [0x20, 0x2F]) (.tag name none false) ([0x3E] ++ x) := by
    refine .of_plain fun d hd => ?_
    obtain hd | hd := List.mem_append.mp hd
    · refine ⟨?_,?_,?_⟩
      all_goals
        rintro rfl
        exact hp.not_mem_label (by decide) (by decide) number padding hd
    · simp only [List.mem_cons, List.not_mem_nil, or_false] at hd
      obtain rfl | rfl := hd <;> decide
  have hgt : Passes o width
      (.tag (startTagName (p.label number padding ++ ([0x20, 0x2F, 0x3E] ++ x))) none false)
      [0x3E] .text x := by
    refine .read (Region.openerLength_of_ne (by decide) _) fun outputRev => ?_
    rw [step_gt]
    simp [startTagName_label_not_raw hp]
  have h := (hlt.append hbody).append hgt
  rwa [List.append_assoc, List.append_assoc, List.singleton_append] at h

/-- Every state is neutral to the token issued in it, unless the token ends a comment. -/
theorem passes_rendered {t : IssuedToken} {s : State} (hs : s.Sound)
    (hshape : t.shape = s.context.shape) (ht : t.IssuedBy p) (hp : p.Legal)
    (hends : s = .comment → ¬ EndsComment t.rendered x) : Passes o width s t.rendered s.afterRegion x := by
  match hcase : t.shape with
  | .tag =>
    obtain ⟨padding,hrendered⟩ := ht.rendered_of_tag hcase
    rw [hrendered, eq_text_of_shape (hshape.symm.trans hcase)]
    exact passes_tag hp t.number padding
  | .attribute =>
    obtain ⟨padding,hrendered⟩ := ht.rendered_of_attribute hcase
    rw [hrendered] at hends ⊢
    exact passes_attribute hs (hshape.symm.trans hcase) hp hends

end Token

/-- No region stands where the name of a tag that starts here ends, or instead of such a name. -/
def NameApart (s : State) : Bytes → Prop
  | [] => True
  | c :: after => s = .text → c = 0x3C → opensTag after →
    Region.openerLength (after.dropWhile isNameByte) = 0

instance (s : State) (b : Bytes) : Decidable (NameApart s b) :=
  match b with
  | [] => .isTrue trivial
  | c :: after => inferInstanceAs (Decidable (s = .text → c = 0x3C → opensTag after →
    Region.openerLength (after.dropWhile isNameByte) = 0))

/-- Then the byte after `<`, and the name of a tag, are the same before any end. -/
lemma SameEnd.opensTag_startTagName_eq {x y l : Bytes} (h : SameEnd x y)
    (hx : x = [] ∨ 0 < Region.openerLength x)
    (hname : opensTag (l ++ x) → Region.openerLength ((l ++ x).dropWhile isNameByte) = 0) :
    opensTag (l ++ x) = opensTag (l ++ y) ∧
      (opensTag (l ++ x) → startTagName (l ++ x) = startTagName (l ++ y)) := by
  obtain rfl | hopen := hx
  · obtain rfl := h.eq_nil_iff.mp rfl
    exact ⟨rfl,fun _ => rfl⟩
  obtain ⟨z,rfl⟩ := exists_of_openerLength_pos hopen
  have hdrop : (0x3C :: z).dropWhile isNameByte = 0x3C :: z := List.dropWhile_cons_of_neg (by decide)
  constructor
  · refine h.opensTag_eq ?_
    rintro rfl
    have hzero := hname (opensTag_of_openerLength_pos hopen)
    rw [List.nil_append, hdrop] at hzero
    exact hopen.ne' hzero
  · intro hopens
    -- a name that runs through `l` would have the region right behind it
    have hlen : (l.takeWhile isNameByte).length ≠ l.length := by
      intro hall
      have hmem := List.takeWhile_eq_self_iff.mp ((List.takeWhile_prefix isNameByte).eq_of_length hall)
      have hzero := hname hopens
      rw [List.dropWhile_append_of_pos hmem, hdrop] at hzero
      exact hopen.ne' hzero
    rw [startTagName, startTagName, List.takeWhile_append, List.takeWhile_append, if_neg hlen,
      if_neg hlen]

end Markup

/-- A mark with neither `<` nor `_` in it is in the same places of the document and of the
placeholder. -/
lemma Part.Rendered.prefix_iff {o : Token.Options} {parts : List Part} (h : Part.Rendered o parts)
    {p : Bytes} (hlt : 0x3C ∉ p) (hline : 0x5F ∉ p) :
    p <+: parts.flatMap Part.source ↔ p <+: parts.flatMap Part.text := by
  obtain ⟨l,x,y,hx,hy,hend,-⟩ := h.exists_common_markup
  rw [hx, hy, hend.left.prefix_append_iff hlt hline, hend.right.prefix_append_iff hlt hline]

lemma Part.Rendered.endsComment_iff {o : Token.Options} {parts : List Part}
    (h : Part.Rendered o parts) (token : Bytes) :
    Markup.EndsComment token (parts.flatMap Part.source) ↔
      Markup.EndsComment token (parts.flatMap Part.text) := by
  rw [Markup.EndsComment, Markup.EndsComment, h.prefix_iff (by decide) (by decide),
    h.prefix_iff (by decide) (by decide)]

/-- What is left of the placeholder is what the scan of the document is going to write. -/
lemma Scan.Reads.exists_parts {o : Token.Options} {width : Bytes → Nat} {u f : Scan} {a : Bytes}
    (h : Reads o width u a f) : ∃ parts, Part.Rendered o parts ∧ a = parts.flatMap Part.source ∧
      f.outputRev = (parts.flatMap Part.text).reverse ++ u.outputRev := by
  obtain ⟨parts,hext,hchunks⟩ := h.extends
  refine ⟨parts,Part.rendered_of_chunks hext.issued hext.plain hchunks,?_,hext.output⟩
  rw [← Part.flatMap_text_chunk, hchunks, Region.flatMap_text_split]

section Tracks
open Markup
variable {o o' : Token.Options} {width width' : Bytes → Nat} {f u u' v : Scan} {a a' b : Bytes}

/-- The token that the step issues, if it is one in a comment, ends no comment. -/
def CommentKept (p q : Scan × Bytes) : Prop :=
  p.1.state = .comment → ∀ s, q.1.tokensRev = s :: p.1.tokensRev → ¬ EndsComment s.rendered q.2

/-- The scan `v` has the rest `b` of the placeholder before it, and stands where the scan `u` of the
document, which has `a` before it and ends as `f`, has written the placeholder up to. -/
structure Tracks (o : Token.Options) (width : Bytes → Nat) (f u : Scan) (a : Bytes) (v : Scan)
    (b : Bytes) : Prop where
  sound : u.state.Sound
  reads : Scan.Reads o width u a f
  state : v.state = u.state
  output : v.outputRev = u.outputRev
  offset : v.offset = u.outputRev.length
  rest : f.outputRev = b.reverse ++ u.outputRev

namespace Tracks

lemma start (h : Scan.Reads o width .start a f) :
    Tracks o width f .start a .start f.finish.placeholder where
  sound := State.sound_text
  reads := h
  state := rfl
  output := rfl
  offset := rfl
  rest := by simp [Scan.finish, Scan.start]

lemma exists_parts (h : Tracks o width f u a v b) : ∃ parts, Part.Rendered o parts ∧
    a = parts.flatMap Part.source ∧ b = parts.flatMap Part.text := by
  obtain ⟨parts,hparts,ha,houtput⟩ := h.reads.exists_parts
  exact ⟨parts,hparts,ha,List.reverse_injective (List.append_cancel_right (h.rest.symm.trans houtput))⟩

/-- Both scans move on by what the scan of the document writes. -/
lemma advance {read : Bytes} (h : Tracks o width f u a v (read ++ b)) (hsound : u'.state.Sound)
    (hreads : Scan.Reads o width u' a' f) (houtput : u'.outputRev = read.reverse ++ u.outputRev) :
    Tracks o width f u' a' (v.copy u'.state read) b where
  sound := hsound
  reads := hreads
  state := rfl
  output := by rw [Scan.copy, h.output, houtput]
  offset := by simp [Scan.copy, h.offset, houtput, Nat.add_comm]
  rest := by simp [h.rest, houtput]

/-- Markup is read in the same way by both scans. -/
lemma markup {c : UInt8} (h : Tracks o width f u (c :: a) v b)
    (here : Region.atStart? (c :: a) = none) (hname : NameApart u.state (c :: a)) :
    ∃ v' b', Scan.Steps o' width' (v, b) (v', b') ∧
      Tracks o width f (u.copy (step u.state u.outputRev c a).1
          ((c :: a).take (step u.state u.outputRev c a).2))
        (a.drop ((step u.state u.outputRev c a).2 - 1)) v' b' := by
  obtain ⟨parts,hparts,ha,rfl⟩ := h.exists_parts
  have hsource := Region.atStart?_eq_none_iff.mp here
  obtain ⟨l,x,y,rfl,hy,hend,hopen⟩ := hparts.exists_common_after ha.symm hsource
  have hzero : Region.openerLength (c :: (l ++ y)) = 0 :=
    Nat.eq_zero_of_not_pos fun hpos => ((hend.openerLength_pos_iff c l).mpr hpos).ne' hsource
  -- the step may look beyond `l`, into the region or into the token that stands for it
  have hstep : step u.state u.outputRev c (l ++ x) = step u.state u.outputRev c (l ++ y) := by
    refine hend.step_eq h.sound u.outputRev c l fun hs hc => ?_
    exact hend.opensTag_startTagName_eq hopen (hname hs hc)
  have htake : (c :: (l ++ y)).take (step u.state u.outputRev c (l ++ y)).2 =
      (c :: (l ++ x)).take (step u.state u.outputRev c (l ++ x)).2 := by
    have hle := step_le_of_bounded hend.left u.state u.outputRev c l
    rw [← hstep, ← List.cons_append, ← List.cons_append, List.take_append_of_le_length hle,
      List.take_append_of_le_length hle]
  have hcut : c :: (l ++ y) = (c :: (l ++ x)).take (step u.state u.outputRev c (l ++ x)).2 ++
      (l ++ y).drop ((step u.state u.outputRev c (l ++ x)).2 - 1) := by
    rw [← htake, hstep, take_step, List.cons_append, List.take_append_drop]
  have hmove : Scan.Step o' width' (v, c :: (l ++ y)) _ :=
    .markup (Region.atStart?_eq_none_iff.mpr hzero)
  rw [h.state, h.output, htake, ← hstep] at hmove
  rw [hy, hcut] at h
  rw [hy]
  exact ⟨_,_,.single hmove,h.advance (h.sound.step ..) (h.reads.of_step (.markup here)) rfl⟩

/-- The token is read by one scan where the region is read by the other. -/
lemma region {r : Region.Extracted} (h : Tracks o width f u a v b) (ho : o.Legal)
    (here : Region.atStart? a = some r) (emitted : u.emit o width r.text r.terminated = .ok u')
    (hends : CommentKept (u, a) (u', r.rest)) :
    ∃ v' b', Scan.Steps o' width' (v, b) (v', b') ∧ Tracks o width f u' r.rest v' b' := by
  have hreads := h.reads.of_step (.region here emitted)
  obtain ⟨rendered,hrender,rfl⟩ := Scan.emit_eq_ok emitted
  obtain ⟨parts,hparts,hrest,houtput⟩ := hreads.exists_parts
  obtain rfl : b = rendered ++ parts.flatMap Part.text := by
    have houtput := h.rest.symm.trans houtput
    rw [← List.append_assoc, ← List.reverse_append] at houtput
    exact List.reverse_injective (List.append_cancel_right houtput)
  have hissued := Scan.issuedBy_issue here hrender
  have hpass : Passes o' width' u.state rendered u.state.afterRegion (parts.flatMap Part.text) := by
    refine passes_rendered h.sound rfl hissued ho fun hcomment hend => ?_
    rw [← hparts.endsComment_iff, ← hrest] at hend
    exact hends hcomment _ rfl hend
  exact ⟨_,_,hpass v h.state,h.advance h.sound.afterRegion hreads rfl⟩

/-- Whatever the scan of the document reads in one step, the scan of the placeholder reads in
some. -/
theorem step (h : Tracks o width f u a v b) (ho : o.Legal) (hname : NameApart u.state a)
    (hends : CommentKept (u, a) (u', a')) (hstep : Scan.Step o width (u, a) (u', a')) :
    ∃ v' b', Scan.Steps o' width' (v, b) (v', b') ∧ Tracks o width f u' a' v' b' := by
  cases hstep with
  | markup here => exact h.markup here hname
  | region here emitted => exact h.region ho here emitted hends

/-- The scan of the placeholder goes along with the scan of the document. -/
theorem steps (h : Tracks o width f u a v b) (ho : o.Legal)
    (hkept : ∀ p q, Scan.Steps o width (u, a) p → Scan.Step o width p q →
      Scan.Steps o width q (u', a') → NameApart p.1.state p.2 ∧ CommentKept p q)
    (hsteps : Scan.Steps o width (u, a) (u', a')) :
    ∃ v' b', Scan.Steps o' width' (v, b) (v', b') ∧ Tracks o width f u' a' v' b' := by
  generalize hp : (u', a') = p at hsteps hkept
  induction hsteps generalizing u' a' with
  | refl =>
    obtain ⟨rfl,rfl⟩ := Prod.mk.inj hp
    exact ⟨v,b,.refl,h⟩
  | @tail m _ hfirst hlast ih =>
    subst hp
    obtain ⟨v',b',hv,htracks⟩ := ih rfl fun p q hp hstep hq => hkept p q hp hstep (hq.tail hlast)
    obtain ⟨hname,hends⟩ := hkept _ _ hfirst hlast .refl
    obtain ⟨v'',b'',hv',htracks'⟩ := htracks.step ho hname hends hlast
    exact ⟨v'',b'',hv.trans hv',htracks'⟩

end Tracks
end Tracks

lemma Token.Options.filler_of_mem_attempts {o p : Token.Options} (hp : p ∈ o.attempts) :
    p.filler = o.filler := by
  simp only [attempts, List.mem_cons, List.mem_map] at hp
  obtain rfl | ⟨i,-,rfl⟩ := hp
  · rfl
  · rfl

section Run
open Markup
variable {o o' used : Token.Options} {width width' : Bytes → Nat} {document : Bytes} {t : Tokenized}

/-- Tokenizing keeps the filler, whatever the stem it ends up with. -/
lemma filler_used (h : tokenizeWith width o document = .ok (t, used)) : used.filler = o.filler := by
  unfold tokenizeWith at h
  split at h
  · contradiction
  · exact Token.Options.filler_of_mem_attempts (tryStems_eq_ok h).1

/-- No region of the document stands directly after a `<` that is read in text, or directly after
the name of a start tag. -/
def NamesApart (o : Token.Options) (width : Bytes → Nat) (document : Bytes) : Prop :=
  ∀ i < document.length, ∀ s ∈ Scan.start.at? o width i document,
    NameApart s.state (document.drop i)

instance (o : Token.Options) (width : Bytes → Nat) (document : Bytes) :
    Decidable (NamesApart o width document) :=
  inferInstanceAs (Decidable (∀ i < document.length, ∀ s ∈ Scan.start.at? o width i document,
    NameApart s.state (document.drop i)))

lemma NamesApart.of_steps (h : NamesApart o width document) {s : Scan} {rest : Bytes}
    (hsteps : Scan.Steps o width (.start, document) (s, rest)) : NameApart s.state rest := by
  cases rest with
  | nil => trivial
  | cons c rest =>
    have hrest := hsteps.eq_drop
    have hlt : s.offset < document.length := by
      by_contra hle
      rw [List.drop_eq_nil_of_le (Nat.le_of_not_lt hle)] at hrest
      contradiction
    have hname := h s.offset hlt s (Scan.Steps.at?_eq hsteps)
    rwa [← hrest] at hname

/-- The scan of the placeholder keeps up with the scan of the document to wherever it gets. -/
lemma exists_tracks_of_steps (o' : Token.Options) (width' : Bytes → Nat) {f u : Scan} {a : Bytes}
    (hlegal : used.Legal) (hfiller : EndsNoComment used) (hnames : NamesApart used width document)
    (hreads : Scan.Reads used width .start document f)
    (hsteps : Scan.Steps used width (.start, document) (u, a)) :
    ∃ v b, Scan.start.at? o' width' u.outputRev.length f.finish.placeholder = some v ∧
      Scan.Steps o' width' (.start, f.finish.placeholder) (v, b) ∧ Tracks used width f u a v b := by
  have hkept : ∀ p q, Scan.Steps used width (.start, document) p → Scan.Step used width p q →
      Scan.Steps used width q (u, a) → NameApart p.1.state p.2 ∧ CommentKept p q := by
    intro p q hp hstep _
    exact ⟨hnames.of_steps hp,fun _ s hs => hfiller.not_endsComment (hstep.issues hs).issued q.2⟩
  obtain ⟨v,b,hv,htracks⟩ := (Tracks.start hreads).steps hlegal hkept hsteps
  exact ⟨v,b,Scan.at?_eq_some_iff.mpr ⟨htracks.offset,b,hv⟩,hv,htracks⟩

/-- The placeholder has the markup of its document. Where no region meets the name of a tag and no
token can end a comment, a scan of the placeholder is in the state of the scan of the document at
every region and after it, when it comes to the token and when it has passed it, and it ends in the
same state. So each token stands in the context its region was found in. -/
theorem placeholder_simulates (h : tokenizeWith width o document = .ok (t, used))
    (hfiller : o.filler = 0x5F ∨ o.filler = 0x2E) (hnames : NamesApart used width document)
    (o' : Token.Options) (width' : Bytes → Nat) :
    (∀ s ∈ t.tokens, ∃ u u' v v',
      Scan.start.at? used width s.region.span.offset.toNat document = some u ∧
      Scan.start.at? used width s.region.span.stop.toNat document = some u' ∧
      u.outputRev.reverse ++ s.rendered <+: t.placeholder ∧
      Scan.start.at? o' width' u.outputRev.length t.placeholder = some v ∧
      Scan.start.at? o' width' (u.outputRev.length + s.rendered.length) t.placeholder = some v' ∧
      v.state = u.state ∧ v'.state = u'.state ∧ v.state.context = s.region.context) ∧
    ∃ f g, Scan.start.run used width document = .ok f ∧
      Scan.start.run o' width' t.placeholder = .ok g ∧ g.state = f.state := by
  obtain ⟨hlegal,hscan,-⟩ := tokenizeWith_eq_ok h
  obtain ⟨f,hreads,rfl⟩ := exists_reads_of_scan_eq_ok hscan
  have hends : EndsNoComment used := by
    rw [EndsNoComment, filler_used h]
    obtain hf | hf := hfiller <;> rw [hf] <;> decide
  constructor
  · intro s hs
    obtain hnone | ⟨u,u',b,r,hsteps,here,emitted,htokens⟩ :=
      hreads.exists_issued (List.mem_reverse.mp hs)
    · simp [Scan.start] at hnone
    have hsteps' := hsteps.tail (.region here emitted)
    obtain ⟨v,_,hv,-,htracks⟩ :=
      exists_tracks_of_steps o' width' hlegal hends hnames hreads hsteps
    obtain ⟨v',b',hv',-,htracks'⟩ :=
      exists_tracks_of_steps o' width' hlegal hends hnames hreads hsteps'
    obtain ⟨rendered,-,rfl⟩ := Scan.emit_eq_ok emitted
    obtain rfl : u.issue rendered r.text r.terminated = s := (List.cons.inj htokens).1
    refine ⟨u,_,v,v',Scan.at?_eq_some_iff.mpr ⟨rfl,_,hsteps⟩,
      Scan.at?_eq_some_iff.mpr ⟨?_,_,hsteps'⟩,⟨b',?_⟩,hv,?_,htracks.state,htracks'.state,?_⟩
    · simp only [Scan.issue, Span.stop, Span.length]
      omega
    · simp [Scan.finish, htracks'.rest, Scan.issue]
    · simpa [Scan.issue, Nat.add_comm] using hv'
    · rw [htracks.state]
      rfl
  · obtain ⟨v,b,-,hv,htracks⟩ :=
      exists_tracks_of_steps o' width' hlegal hends hnames hreads hreads.steps
    obtain rfl : b = [] := by simpa using htracks.rest
    refine ⟨f,v,?_,?_,htracks.state⟩
    · rw [hreads.steps.run_eq, Scan.run]
    · rw [hv.run_eq, Scan.run]

end Run

section Sample

/-- Dots as filler. -/
def sampleDots : Token.Options := { Token.Options.default with filler := 0x2E }

/-- A region as a value, inside a quoted value, in a comment, in raw text and in text. -/
def sampleContexts : Bytes :=
  "<a b=<?= $b ?> c='<?= 2 ?>'><!--<?= -- ?>--><title><?= 3 ?></title><?= $d ?>"

def sampleContextsTokenized : Tokenized where
  placeholder := "<a b=_php_0__. c='_php_1__'><!--_php_2__.--><title>_php_3__</title><php_4__ />"
  map := ⟨[("_php_0__.", "<?= $b ?>"), ("_php_1__", "<?= 2 ?>"), ("_php_2__.", "<?= -- ?>"),
    ("_php_3__", "<?= 3 ?>"), ("<php_4__ />", "<?= $d ?>")]⟩
  tokens := [
    ⟨0, .attribute, "_php_0__.", ⟨⟨5, "<?= $b ?>"⟩, .inAttribute, true⟩⟩,
    ⟨1, .attribute, "_php_1__", ⟨⟨18, "<?= 2 ?>"⟩, .inAttribute, true⟩⟩,
    ⟨2, .attribute, "_php_2__.", ⟨⟨32, "<?= -- ?>"⟩, .inRawText, true⟩⟩,
    ⟨3, .attribute, "_php_3__", ⟨⟨51, "<?= 3 ?>"⟩, .inRawText, true⟩⟩,
    ⟨4, .tag, "<php_4__ />", ⟨⟨67, "<?= $d ?>"⟩, .standalone, true⟩⟩]

theorem placeholder_simulates_sampleContexts :
    tokenizeWith List.length sampleDots sampleContexts = .ok (sampleContextsTokenized, sampleDots) ∧
    NamesApart sampleDots List.length sampleContexts ∧
    (∀ s ∈ sampleContextsTokenized.tokens, ∃ u v,
      Scan.start.at? sampleDots List.length s.region.span.offset.toNat sampleContexts = some u ∧
      Scan.start.at? .default List.length u.outputRev.length sampleContextsTokenized.placeholder =
        some v ∧ v.state = u.state ∧ v.state.context = s.region.context) ∧
    ∃ f g, Scan.start.run sampleDots List.length sampleContexts = .ok f ∧
      Scan.start.run .default List.length sampleContextsTokenized.placeholder = .ok g ∧
      g.state = f.state := by
  have h : tokenizeWith List.length sampleDots sampleContexts =
      .ok (sampleContextsTokenized, sampleDots) := by decide +kernel
  have hnames : NamesApart sampleDots List.length sampleContexts := by decide +kernel
  obtain ⟨htokens,hfinal⟩ := placeholder_simulates h (.inr rfl) hnames .default List.length
  refine ⟨h,hnames,fun s hs => ?_,hfinal⟩
  obtain ⟨u,-,v,-,hu,-,-,hv,-,hstate,-,hcontext⟩ := htokens s hs
  exact ⟨u,v,hu,hv,hstate,hcontext⟩

end Sample
end Stencil
