import Mathlib.Order.Bounds.Basic
import Stencil.Proofs.Markup.Simulation

/-! Where the comments of a document end in its placeholder. A comment's end stays where it is.
Another can come about at a token in the comment only, if the token ends in hyphens and the text
right after it goes on with the rest of `-->`. -/
namespace Stencil
open Markup

namespace Markup

lemma endsComment_iff {token x : Bytes} (hgt : 0x3E ∉ token) : EndsComment token x ↔
    ∃ k < token.length, commentClose <+: (token ++ x).drop k := by
  constructor
  · rintro (⟨⟨b,rfl⟩,hx⟩ | ⟨⟨b,rfl⟩,hx⟩)
    all_goals
      refine ⟨b.length,by simp,?_⟩
      rw [List.append_assoc, List.drop_left]
    · exact List.cons_prefix_cons.mpr ⟨rfl,hx⟩
    · exact List.cons_prefix_cons.mpr ⟨rfl,List.cons_prefix_cons.mpr ⟨rfl,hx⟩⟩
  · rintro ⟨k,hk,hclose⟩
    obtain ⟨c,u,hu⟩ := List.exists_cons_of_ne_nil (List.drop_eq_nil_iff.not.mpr (Nat.not_le.mpr hk))
    rw [List.drop_append_of_le_length hk.le, hu] at hclose
    exact endsComment_of_starts hgt (hu ▸ List.drop_suffix k token) hclose

/-- No mark reaches over a byte that is not in it. -/
lemma not_prefix_drop {p before y : Bytes} {d : UInt8} {k : Nat} (hd : d ∉ p)
    (hle : k ≤ before.length) (hlt : before.length < k + p.length) :
    ¬ p <+: (before ++ d :: y).drop k := by
  intro hpre
  rw [List.drop_append_of_le_length hle] at hpre
  obtain hin | ⟨z,hz,rfl,hzy⟩ := prefix_append_cases hpre
  · have hlen := hin.length_le
    rw [List.length_drop] at hlen
    omega
  · obtain ⟨e,z,rfl⟩ := List.exists_cons_of_ne_nil hz
    obtain rfl := (List.cons_prefix_cons.mp hzy).1
    exact hd (List.mem_append_right _ (List.mem_cons_self ..))

lemma not_commentClose_prefix_of_atStart? {b : Bytes} {r : Region.Extracted}
    (here : Region.atStart? b = some r) : ¬ commentClose <+: b := by
  intro hclose
  obtain ⟨hopen,-⟩ := Region.atStart?_eq_some_iff.mp here
  obtain ⟨y,rfl⟩ := exists_of_openerLength_pos hopen
  exact absurd (List.cons_prefix_cons.mp hclose).1 (by decide)

end Markup

/-- An attribute starts with an underscore and has no `>` in it. -/
lemma IssuedToken.IssuedBy.exists_of_attribute {o : Token.Options} {t : IssuedToken}
    (h : t.IssuedBy o) (ho : o.Legal) (hs : t.shape = .attribute) :
    ∃ b, t.rendered = 0x5F :: b ∧ 0x3E ∉ t.rendered := by
  obtain ⟨padding,hrendered⟩ := h.rendered_of_attribute hs
  refine ⟨_,hrendered,?_⟩
  rw [hrendered, List.mem_cons, not_or]
  exact ⟨by decide,ho.not_mem_label (by decide) (by decide) t.number padding⟩

namespace Scan
variable {o : Token.Options} {width : Bytes → Nat} {document : Bytes} {f : Scan}
variable {p q : Scan × Bytes}

lemma drop_length_outputRev {u : Scan} {b y : Bytes} (h : b = u.outputRev.reverse ++ y) :
    b.drop u.outputRev.length = y := by
  rw [h, ← List.length_reverse, List.drop_left]

/-- Where a scan comes by, the placeholder goes on as the document does, with its tokens. -/
lemma Reads.exists_rest (h : Reads o width .start document f)
    (hp : Steps o width (.start, document) p) : ∃ parts, Part.Rendered o parts ∧
      p.2 = parts.flatMap Part.source ∧
      f.finish.placeholder = p.1.outputRev.reverse ++ parts.flatMap Part.text := by
  obtain ⟨parts,hparts,hrest,houtput⟩ := Reads.exists_parts (h.of_steps hp)
  exact ⟨parts,hparts,hrest,by rw [finish, houtput, List.reverse_append, List.reverse_reverse]⟩

lemma Reads.commentClose_prefix_iff (h : Reads o width .start document f)
    (hp : Steps o width (.start, document) p) :
    commentClose <+: p.2 ↔ commentClose <+: f.finish.placeholder.drop p.1.outputRev.length := by
  obtain ⟨parts,hparts,hrest,hplaceholder⟩ := h.exists_rest hp
  rw [drop_length_outputRev hplaceholder, hrest]
  exact hparts.prefix_iff (by decide) (by decide)

/-- The placeholder from a token on. -/
lemma Reads.exists_after_token (h : Reads o width .start document f)
    (hp : Steps o width (.start, document) p) (hstep : Step o width p q) {t : IssuedToken}
    (ht : Issues o p q t) : ∃ y,
      f.finish.placeholder = p.1.outputRev.reverse ++ (t.rendered ++ y) ∧
      (EndsComment t.rendered q.2 ↔ EndsComment t.rendered y) := by
  obtain ⟨parts,hparts,hrest,hplaceholder⟩ := h.exists_rest (hp.tail hstep)
  refine ⟨parts.flatMap Part.text,?_,hrest ▸ hparts.endsComment_iff t.rendered⟩
  rw [hplaceholder, ht.output, List.reverse_append, List.reverse_reverse, List.append_assoc]

section Token
variable {t : IssuedToken}

lemma Issues.exists_of_comment (ht : Issues o p q t) (ho : o.Legal)
    (hstate : p.1.state = .comment) : ∃ b, t.rendered = 0x5F :: b ∧ 0x3E ∉ t.rendered := by
  apply ht.issued.exists_of_attribute ho
  rw [ht.shape, hstate]
  rfl

/-- In a token in a comment the end of one begins if and only if the text after it goes on so. -/
lemma Reads.exists_close_token_iff (h : Reads o width .start document f) (ho : o.Legal)
    (hp : Steps o width (.start, document) p) (hstep : Step o width p q) (ht : Issues o p q t)
    (hstate : p.1.state = .comment) :
    (∃ k, p.1.outputRev.length ≤ k ∧ k < p.1.outputRev.length + t.rendered.length ∧
      commentClose <+: f.finish.placeholder.drop k) ↔ EndsComment t.rendered q.2 := by
  obtain ⟨b,-,hgt⟩ := ht.exists_of_comment ho hstate
  obtain ⟨y,hplaceholder,hends⟩ := h.exists_after_token hp hstep ht
  have hlen : p.1.outputRev.reverse.length = p.1.outputRev.length := List.length_reverse
  rw [hends, endsComment_iff hgt, hplaceholder, ← hlen]
  constructor
  · rintro ⟨k,hle,hlt,hclose⟩
    obtain ⟨n,rfl⟩ := Nat.exists_eq_add_of_le hle
    rw [List.drop_length_add_append] at hclose
    exact ⟨n,Nat.lt_of_add_lt_add_left hlt,hclose⟩
  · rintro ⟨n,hn,hclose⟩
    refine ⟨p.1.outputRev.reverse.length + n,Nat.le_add_right _ _,Nat.add_lt_add_left hn _,?_⟩
    rwa [List.drop_length_add_append]

/-- No end of a comment reaches from before into a token in a comment. -/
lemma Reads.le_of_overlapping (h : Reads o width .start document f) (ho : o.Legal)
    (hp : Steps o width (.start, document) p) (hstep : Step o width p q) (ht : Issues o p q t)
    (hstate : p.1.state = .comment) {k : Nat} (hover : p.1.outputRev.length < k + 3)
    (hclose : commentClose <+: f.finish.placeholder.drop k) : p.1.outputRev.length ≤ k := by
  obtain ⟨b,hb,-⟩ := ht.exists_of_comment ho hstate
  obtain ⟨y,hplaceholder,-⟩ := h.exists_after_token hp hstep ht
  rw [hplaceholder, hb, List.cons_append] at hclose
  by_contra hlt
  refine not_prefix_drop (by decide) ?_ ?_ hclose
  · rw [List.length_reverse]
    omega
  · rw [List.length_reverse]
    exact hover

end Token

/-- In what a step writes in a comment the end of one begins if and only if the comment ends there,
or a token ends it. -/
theorem Reads.exists_close_iff (h : Reads o width .start document f) (ho : o.Legal)
    (hp : Steps o width (.start, document) p) (hstep : Step o width p q)
    (hstate : p.1.state = .comment) :
    (∃ k, p.1.outputRev.length ≤ k ∧ k < q.1.outputRev.length ∧
      commentClose <+: f.finish.placeholder.drop k) ↔
      commentClose <+: p.2 ∨ ∃ t, Issues o p q t ∧ EndsComment t.rendered q.2 := by
  have hstep' := hstep
  cases hstep with
  | @markup s c after here =>
    have hmark := h.commentClose_prefix_iff hp
    constructor
    · rintro ⟨k,hle,hlt,hclose⟩
      left
      by_contra hopen
      -- then the step writes one byte
      rw [hstate, step_comment hopen, Scan.copy, List.length_append] at hlt
      obtain rfl : k = s.outputRev.length := by
        simp only [List.take_succ_cons, List.take_zero, List.reverse_singleton,
          List.length_singleton] at hlt
        exact Nat.le_antisymm (by omega) hle
      exact hopen (hmark.mpr hclose)
    · rintro (hclose | ⟨t,ht,-⟩)
      · refine ⟨s.outputRev.length,le_rfl,?_,hmark.mp hclose⟩
        have hpos := Markup.step_pos s.state s.outputRev c after
        simp only [Scan.copy, List.length_append, List.length_reverse, List.length_take,
          List.length_cons]
        omega
      · exact absurd ht.tokens.symm (List.cons_ne_self t _)
  | @region s s' b r here emitted =>
    obtain ⟨rendered,hrender,hs'⟩ := emit_eq_ok emitted
    have ht := hstep'.issues (t := s.issue rendered r.text r.terminated) (by rw [hs'])
    have hiff := h.exists_close_token_iff ho hp hstep' ht hstate
    have hlen : s'.outputRev.length =
        s.outputRev.length + (s.issue rendered r.text r.terminated).rendered.length := by
      rw [ht.output, List.length_append, List.length_reverse, Nat.add_comm]
    rw [hlen, hiff]
    constructor
    · intro hends
      exact .inr ⟨_,ht,hends⟩
    · rintro (hclose | ⟨t,ht',hends⟩)
      · exact absurd hclose (not_commentClose_prefix_of_atStart? here)
      · obtain rfl := (List.cons.inj (ht'.tokens.symm.trans ht.tokens)).1
        exact hends

/-- The end of a comment leads back to text. -/
lemma Step.state_of_commentClose (hstep : Step o width p q) (hstate : p.1.state = .comment)
    (hclose : commentClose <+: p.2) : q.1.state = .text := by
  cases hstep with
  | @markup s c after here =>
    have hread : (Markup.step .comment s.outputRev c after).1 = .text := by
      simp [Markup.step, hclose]
    exact (congrArg (fun state => (Markup.step state s.outputRev c after).1) hstate).trans hread
  | region here _ => exact absurd hclose (not_commentClose_prefix_of_atStart? here)

end Scan

/-- The scan comes by the `<!--` of a comment as `u` and by the `-->` that ends it as `w`. -/
structure IsComment (o : Token.Options) (width : Bytes → Nat) (document : Bytes) (u w : Scan) :
    Prop where
  start : Scan.start.at? o width u.offset document = some u
  state : u.state = .text
  opens : commentOpen <+: document.drop u.offset
  stop : Scan.start.at? o width w.offset document = some w
  closes : commentClose <+: document.drop w.offset
  lt : u.offset < w.offset
  inside : ∀ i v, u.offset < i → i ≤ w.offset → Scan.start.at? o width i document = some v →
    v.state = .comment

section Comment
variable {o : Token.Options} {width : Bytes → Nat} {document : Bytes} {f u w : Scan}

/-- The scan right after the `<!--`. -/
def Scan.opened (u : Scan) : Scan := u.copy .comment commentOpen

@[simp] lemma Scan.length_opened (u : Scan) :
    u.opened.outputRev.length = u.outputRev.length + 4 := by
  rw [opened, copy, List.length_append, List.length_reverse, Nat.add_comm]
  rfl

lemma IsComment.steps_start (h : IsComment o width document u w) :
    Scan.Steps o width (.start, document) (u, document.drop u.offset) :=
  (Scan.at?_start_eq_some_iff.mp h.start).2

lemma IsComment.steps_stop (h : IsComment o width document u w) :
    Scan.Steps o width (.start, document) (w, document.drop w.offset) :=
  (Scan.at?_start_eq_some_iff.mp h.stop).2

lemma IsComment.step (h : IsComment o width document u w) : Scan.Step o width
    (u, document.drop u.offset) (u.opened, document.drop u.opened.offset) := by
  obtain ⟨a,ha⟩ := h.opens
  have hhere : Region.atStart? (0x3C :: (commentOpen.tail ++ a)) = none :=
    Region.atStart?_eq_none_iff.mpr (openerLength_lt_of_ne (by decide) _)
  have hstep : Scan.Step o width (u, 0x3C :: (commentOpen.tail ++ a)) _ := .markup hhere
  have hread : Markup.step u.state u.outputRev 0x3C (commentOpen.tail ++ a) = (.comment, 4) := by
    rw [h.state]
    rfl
  have hdrop : document.drop u.opened.offset = a := by
    change document.drop (u.offset + 4) = a
    rw [← List.drop_drop, ← ha]
    rfl
  rw [hread] at hstep
  rw [hdrop, ← ha]
  exact hstep

lemma IsComment.steps_between (h : IsComment o width document u w) : Scan.Steps o width
    (u.opened, document.drop u.opened.offset) (w, document.drop w.offset) :=
  Scan.Steps.of_step h.steps_start h.steps_stop h.lt h.step

/-- Where the scan comes by between the two marks, it is in the comment. -/
lemma IsComment.state_of_steps (h : IsComment o width document u w) {p : Scan × Bytes}
    (hp : Scan.Steps o width (.start, document) p) (hlt : u.offset < p.1.offset)
    (hle : p.1.offset ≤ w.offset) : p.1.state = .comment :=
  h.inside _ _ hlt hle (Scan.Steps.at?_eq hp)

/-- Up to where a comment ends in the document, it is ended in the placeholder if and only if one
of its tokens ends it. -/
theorem IsComment.exists_close_iff (h : IsComment o width document u w) (ho : o.Legal)
    (hreads : Scan.Reads o width .start document f) :
    (∃ k, u.outputRev.length + 4 ≤ k ∧ k < w.outputRev.length ∧
      commentClose <+: f.finish.placeholder.drop k) ↔
      ∃ s ∈ f.tokensRev, u.offset < s.region.span.offset ∧ s.region.span.offset < w.offset ∧
        EndsComment s.rendered (document.drop s.region.span.stop.toNat) := by
  have hopened := h.steps_start.tail h.step
  rw [← u.length_opened]
  constructor
  · rintro ⟨k,hle,hlt,hclose⟩
    obtain ⟨p,q,hp,hstep,hq,hpk,hkq⟩ := Scan.Steps.exists_step_writing h.steps_between hle hlt
    have hstart := hopened.trans hp
    have hbegun : u.offset < p.1.offset := h.step.offset_lt.trans_le (Scan.Steps.offset_le hp)
    have hbefore : p.1.offset < w.offset := hstep.offset_lt.trans_le (Scan.Steps.offset_le hq)
    have hstate := h.state_of_steps hstart hbegun hbefore.le
    have hwritten := (hreads.exists_close_iff ho hstart hstep hstate).mp ⟨k,hpk,hkq,hclose⟩
    obtain hend | ⟨t,ht,hends⟩ := hwritten
    · -- the comment would end before `w`
      have hafter := h.state_of_steps (hstart.tail hstep) (hbegun.trans hstep.offset_lt)
        (Scan.Steps.offset_le hq)
      rw [hstep.state_of_commentClose hstate hend] at hafter
      contradiction
    · refine ⟨t,ht.mem_tokensRev hreads hstart hstep,?_,?_,?_⟩
      · rw [ht.offset]
        exact Int.ofNat_lt.mpr hbegun
      · rw [ht.offset]
        exact Int.ofNat_lt.mpr hbefore
      · rwa [ht.drop_stop hstart hstep]
  · rintro ⟨t,hmem,hbegun,hbefore,hends⟩
    obtain ⟨p,q,hp,hstep,ht⟩ := hreads.exists_issues hmem
    rw [ht.offset, Int.ofNat_lt] at hbegun hbefore
    rw [ht.drop_stop hp hstep] at hends
    have hstate := h.state_of_steps hp hbegun hbefore.le
    obtain ⟨k,hle,hlt,hclose⟩ :=
      (hreads.exists_close_iff ho hp hstep hstate).mpr (.inr ⟨t,ht,hends⟩)
    have hfirst := Scan.Steps.length_outputRev_le (Scan.Steps.of_step h.steps_start hp hbegun h.step)
    have hlast := Scan.Steps.length_outputRev_le (Scan.Steps.of_step hp h.steps_stop hbefore hstep)
    exact ⟨k,hfirst.trans hle,hlt.trans_le hlast,hclose⟩

/-- A comment ends in the placeholder where it ends in the document unless a token ends it. -/
theorem IsComment.isLeast_iff (h : IsComment o width document u w) (ho : o.Legal)
    (hreads : Scan.Reads o width .start document f) :
    IsLeast {k | u.outputRev.length + 4 ≤ k ∧ commentClose <+: f.finish.placeholder.drop k}
      w.outputRev.length ↔
      ¬ ∃ s ∈ f.tokensRev, u.offset < s.region.span.offset ∧ s.region.span.offset < w.offset ∧
        EndsComment s.rendered (document.drop s.region.span.stop.toNat) := by
  rw [← h.exists_close_iff ho hreads]
  constructor
  · rintro ⟨-,hleast⟩ ⟨k,hle,hlt,hclose⟩
    exact absurd (hleast ⟨hle,hclose⟩) (Nat.not_le.mpr hlt)
  · intro hnone
    have hlen := Scan.Steps.length_outputRev_le h.steps_between
    refine ⟨⟨?_,(hreads.commentClose_prefix_iff h.steps_stop).mp h.closes⟩,?_⟩
    · exact u.length_opened.symm.trans_le hlen
    · rintro k ⟨hle,hclose⟩
      by_contra hlt
      exact hnone ⟨k,hle,Nat.lt_of_not_le hlt,hclose⟩

lemma IsComment.opens_placeholder (h : IsComment o width document u w)
    (hreads : Scan.Reads o width .start document f) :
    commentOpen <+: f.finish.placeholder.drop u.outputRev.length := by
  obtain ⟨parts,-,-,hplaceholder⟩ := hreads.exists_rest (h.steps_start.tail h.step)
  have hwritten : u.opened.outputRev.reverse = u.outputRev.reverse ++ commentOpen := by
    rw [Scan.opened, Scan.copy, List.reverse_append, List.reverse_reverse]
  rw [hwritten, List.append_assoc] at hplaceholder
  rw [Scan.drop_length_outputRev hplaceholder]
  exact List.prefix_append _ _

/-- Where comments end in the placeholder. The end of a comment reaches into a token in the comment
if and only if the token ends in hyphens and the document goes on after the region with the rest
of a `-->`. A comment in which no token does so is closed in the placeholder by the `-->` that
closes it in the document, and any other is closed too early. No token does so where hyphens are
not the filler. -/
theorem comments_closed {used : Token.Options} {t : Tokenized}
    (h : tokenizeWith width o document = .ok (t, used)) :
    (∀ s ∈ t.tokens, ∃ u,
      Scan.start.at? used width s.region.span.offset.toNat document = some u ∧
      u.outputRev.reverse ++ s.rendered <+: t.placeholder ∧
      (u.state = .comment →
        ((∃ k, commentClose <+: t.placeholder.drop k ∧
          k < u.outputRev.length + s.rendered.length ∧ u.outputRev.length < k + 3) ↔
          EndsComment s.rendered (document.drop s.region.span.stop.toNat)))) ∧
    (∀ u w, IsComment used width document u w →
      commentOpen <+: t.placeholder.drop u.outputRev.length ∧
      (IsLeast {k | u.outputRev.length + 4 ≤ k ∧ commentClose <+: t.placeholder.drop k}
        w.outputRev.length ↔
        ¬ ∃ s ∈ t.tokens, u.offset < s.region.span.offset ∧ s.region.span.offset < w.offset ∧
          EndsComment s.rendered (document.drop s.region.span.stop.toNat))) ∧
    (o.filler ≠ 0x2D → ∀ s ∈ t.tokens, ∀ rest, ¬ EndsComment s.rendered rest) := by
  obtain ⟨hlegal,hscan,-⟩ := tokenizeWith_eq_ok h
  obtain ⟨f,hreads,rfl⟩ := exists_reads_of_scan_eq_ok hscan
  have hmem {s : IssuedToken} : s ∈ f.finish.tokens ↔ s ∈ f.tokensRev := List.mem_reverse
  refine ⟨fun s hs => ?_,fun u w hcomment => ?_,fun hfiller s hs rest => ?_⟩
  · obtain ⟨p,q,hp,hstep,ht⟩ := hreads.exists_issues (hmem.mp hs)
    obtain ⟨y,hplaceholder,-⟩ := hreads.exists_after_token hp hstep ht
    refine ⟨p.1,?_,⟨y,?_⟩,fun hstate => ?_⟩
    · rw [ht.offset, Int.toNat_natCast]
      exact Scan.Steps.at?_eq hp
    · rw [hplaceholder, List.append_assoc]
    · rw [ht.drop_stop hp hstep, ← hreads.exists_close_token_iff hlegal hp hstep ht hstate]
      constructor
      · rintro ⟨k,hclose,hlt,hover⟩
        exact ⟨k,hreads.le_of_overlapping hlegal hp hstep ht hstate hover hclose,hlt,hclose⟩
      · rintro ⟨k,hle,hlt,hclose⟩
        exact ⟨k,hclose,hlt,by omega⟩
  · simp only [hmem]
    exact ⟨hcomment.opens_placeholder hreads,hcomment.isLeast_iff hlegal hreads⟩
  · obtain ⟨p,q,hp,hstep,ht⟩ := hreads.exists_issues (hmem.mp hs)
    have hends : EndsNoComment used := by
      rw [EndsNoComment, filler_used h]
      exact hfiller
    exact hends.not_endsComment ht.issued rest

end Comment
section Sample

/-- Hyphens as filler. -/
def sampleHyphenFiller : Token.Options := { Token.Options.default with filler := 0x2D }

/-- A comment with a region in it, and a `>` right after that. -/
def sampleEarlyEnd : Bytes := "<!--<?= 1234 ?>> <b> --><?= 2 ?>"

def sampleEarlyEndTokenized : Tokenized where
  placeholder := "<!--_php_0__---> <b> --><php_1__ />"
  map := ⟨[("_php_0__---", "<?= 1234 ?>"), ("<php_1__ />", "<?= 2 ?>")]⟩
  tokens := [
    ⟨0, .attribute, "_php_0__---", ⟨⟨4, "<?= 1234 ?>"⟩, .inRawText, true⟩⟩,
    ⟨1, .tag, "<php_1__ />", ⟨⟨24, "<?= 2 ?>"⟩, .standalone, true⟩⟩]

theorem comments_closed_sampleEarlyEnd :
    tokenizeWith List.length sampleHyphenFiller sampleEarlyEnd =
      .ok (sampleEarlyEndTokenized, sampleHyphenFiller) ∧
    ∃ u w, IsComment sampleHyphenFiller List.length sampleEarlyEnd u w ∧
      ¬ IsLeast {k | u.outputRev.length + 4 ≤ k ∧
        commentClose <+: sampleEarlyEndTokenized.placeholder.drop k} w.outputRev.length := by
  have h : tokenizeWith List.length sampleHyphenFiller sampleEarlyEnd =
      .ok (sampleEarlyEndTokenized, sampleHyphenFiller) := by decide +kernel
  obtain ⟨w,hw⟩ : ∃ w, Scan.start.at? sampleHyphenFiller List.length 21 sampleEarlyEnd = some w :=
    Option.isSome_iff_exists.mp (by decide +kernel)
  have hoffset : w.offset = 21 := (Scan.at?_start_eq_some_iff.mp hw).1
  have hinside : ∀ i < 22, ∀ v ∈ Scan.start.at? sampleHyphenFiller List.length i sampleEarlyEnd,
      0 < i → v.state = .comment := by decide +kernel
  have hcomment : IsComment sampleHyphenFiller List.length sampleEarlyEnd .start w := {
    start := by decide +kernel
    state := rfl
    opens := by decide +kernel
    stop := by rw [hoffset, hw]
    closes := by rw [hoffset]; decide +kernel
    lt := by rw [hoffset]; decide
    inside := fun i v hlt hle hv => hinside i (by omega) v hv hlt }
  refine ⟨h,_,w,hcomment,?_⟩
  rw [((comments_closed h).2.1 _ w hcomment).2, not_not]
  exact ⟨_,List.mem_cons_self ..,by decide,by rw [hoffset]; decide,by decide +kernel⟩

end Sample
end Stencil
