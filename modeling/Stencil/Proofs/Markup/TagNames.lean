import Stencil.Proofs.Markup.Comments

/-! What becomes of the tags of a document in its placeholder. A tag stays, with its name, unless a
region touches the name. The token of such a region is an attribute, as the scan is in the tag
already. Its underscore goes on with the name, and right after the `<` it opens no tag. -/
namespace Stencil
open Markup

namespace Markup

/-- A region stands right after the name at the start of the text, or instead of a name. -/
def TouchesName (after : Bytes) : Prop := 0 < Region.openerLength (after.dropWhile isNameByte)

instance (after : Bytes) : Decidable (TouchesName after) :=
  inferInstanceAs (Decidable (0 < Region.openerLength (after.dropWhile isNameByte)))

/-- What is read in the placeholder at the `<` of a tag that has this name in the document. -/
inductive ReadsAs (name after : Bytes) : State → Prop
  | kept (apart : ¬ TouchesName after) : ReadsAs name after (.tag name none false)
  | hidden (touches : TouchesName after) (unnamed : name = []) : ReadsAs name after .text
  | renamed (touches : TouchesName after) (named : name ≠ []) (more : Bytes) :
      ReadsAs name after (.tag (name ++ 0x5F :: more) none false)

lemma ReadsAs.eq_tag_iff {name after : Bytes} {s : State} (h : ReadsAs name after s) :
    s = .tag name none false ↔ ¬ TouchesName after := by
  cases h with
  | kept apart => exact iff_of_true rfl apart
  | hidden touches _ => exact iff_of_false State.noConfusion (not_not_intro touches)
  | renamed touches _ more =>
    refine iff_of_false (fun heq => ?_) (not_not_intro touches)
    have hname := (State.tag.inj heq).1
    exact List.cons_ne_nil _ _ (List.append_right_eq_self.mp hname)

section Step
variable {outputRev after b : Bytes} {c : UInt8}

/-- In text, a tag is opened by its `<` alone. -/
lemma step_text_tag {name : Bytes} {quote : Option UInt8} {due : Bool}
    (h : (step .text outputRev c after).1 = .tag name quote due) :
    c = 0x3C ∧ ¬ commentOpen <+: c :: after ∧ opensTag after ∧ name = startTagName after := by
  simp only [step] at h
  split at h
  · next hc =>
    split at h
    · contradiction
    · next hcomment =>
      split at h
      · next hopens =>
        have hname := (State.tag.inj h).1
        exact ⟨eq_of_beq hc,fun hpre => hcomment (List.isPrefixOf_iff_prefix.mpr hpre),hopens,
          hname.symm⟩
      · contradiction
  · contradiction

lemma step_text_of_opensTag (hcomment : ¬ commentOpen <+: 0x3C :: after) (hopens : opensTag after)
    (outputRev : Bytes) :
    step .text outputRev 0x3C after = (.tag (startTagName after) none false, 1) := by
  simp [step, hcomment, hopens]

/-- A name byte that opens a tag is a letter. -/
lemma isLetter_of_opensTag (hname : isNameByte c) (hopens : opensTag (c :: after)) :
    Bytes.isLetter c := by
  have hne {d : UInt8} (hd : isNameByte d = false) : c ≠ d := by
    rintro rfl
    exact Bool.false_ne_true (hd.symm.trans hname)
  have hregion := Region.openerLength_of_ne (hne (d := 0x3C) (by decide)) after
  simpa [opensTag, hregion, hne (d := 0x2F) (by decide), hne (d := 0x21) (by decide),
    hne (d := 0x3F) (by decide)] using hopens

/-- With an attribute in the place of the region, the tag has another name or is none. -/
lemma readsAs_of_touchesName (hopens : opensTag after) (htouches : TouchesName after) (b : Bytes) :
    ∃ s, ReadsAs (startTagName after) after s ∧
      ∀ outputRev, step .text outputRev 0x3C (after.takeWhile isNameByte ++ 0x5F :: b) = (s, 1) := by
  cases hname : after.takeWhile isNameByte with
  | nil =>
    refine ⟨.text,.hidden htouches ?_,fun outputRev => ?_⟩
    · rw [startTagName, hname]
      rfl
    · have hregion := Region.openerLength_of_ne (c := 0x5F) (by decide) b
      have hletter : Bytes.isLetter 0x5F = false := by decide
      simp [step, commentOpen, opensTag, hregion, hletter]
  | cons c l =>
    have hbytes : ∀ d ∈ c :: l, isNameByte d := by
      rw [← hname]
      exact fun d hd => List.mem_takeWhile_imp hd
    obtain ⟨z,hz⟩ : c :: l <+: after := hname ▸ List.takeWhile_prefix isNameByte
    rw [← hz] at hopens
    have hletter := isLetter_of_opensTag (hbytes c (List.mem_cons_self ..)) hopens
    have hcomment : ¬ commentOpen <+: 0x3C :: (c :: l ++ 0x5F :: b) := by
      intro hpre
      obtain rfl := (List.cons_prefix_cons.mp (List.cons_prefix_cons.mp hpre).2).1
      exact absurd hletter (by decide)
    have hopens' : opensTag (c :: l ++ 0x5F :: b) := by
      simp [opensTag, hletter]
    have hstart : startTagName (c :: l ++ 0x5F :: b) =
        startTagName after ++ 0x5F :: Bytes.toLower (b.takeWhile isNameByte) := by
      have hline : isNameByte 0x5F := by decide
      rw [startTagName, startTagName, hname, List.takeWhile_append_of_pos hbytes,
        List.takeWhile_cons_of_pos hline]
      exact List.map_append
    refine ⟨_,.renamed htouches ?_ (Bytes.toLower (b.takeWhile isNameByte)),fun outputRev => ?_⟩
    · rw [startTagName, hname]
      exact List.cons_ne_nil _ _
    · rw [step_text_of_opensTag hcomment hopens', hstart]

end Step

end Markup

section Scan
variable {o o' used : Token.Options} {width width' : Bytes → Nat} {document name : Bytes}
variable {f u : Scan} {t : Tokenized}

/-- The scan comes in text by the `<` of a tag of this name, as `u`. -/
structure OpensTag (o : Token.Options) (width : Bytes → Nat) (document name : Bytes) (u : Scan) :
    Prop where
  here : Scan.start.at? o width u.offset document = some u
  state : u.state = .text
  after : ∃ u', Scan.start.at? o width (u.offset + 1) document = some u' ∧
    u'.state = .tag name none false

namespace OpensTag

lemma steps (h : OpensTag o width document name u) :
    Scan.Steps o width (.start, document) (u, document.drop u.offset) :=
  (Scan.at?_start_eq_some_iff.mp h.here).2

/-- The next step leads to the tag. -/
lemma exists_step (h : OpensTag o width document name u) : ∃ q,
    Scan.Step o width (u, document.drop u.offset) q ∧ q.1.state = .tag name none false := by
  obtain ⟨u',hu',hname⟩ := h.after
  obtain ⟨hoffset,hsteps⟩ := Scan.at?_start_eq_some_iff.mp hu'
  have hlt : u.offset < u'.offset := by omega
  obtain heq | ⟨q,hstep,hmore⟩ := (Scan.Steps.of_offset_le h.steps hsteps hlt.le).cases_head
  · rw [(Prod.mk.inj heq).1] at hlt
    exact absurd hlt (lt_irrefl _)
  · obtain heq | ⟨m,hstep',hmore'⟩ := hmore.cases_head
    · exact ⟨q,hstep,heq ▸ hname⟩
    · have hfirst : u.offset < q.1.offset := hstep.offset_lt
      have hsecond := hstep'.offset_lt
      have hlast : m.1.offset ≤ u'.offset := Scan.Steps.offset_le hmore'
      omega

/-- What the document goes on with. -/
lemma exists_after (h : OpensTag o width document name u) : ∃ after,
    document.drop u.offset = 0x3C :: after ∧ document.drop (u.offset + 1) = after ∧
    Region.atStart? (0x3C :: after) = none ∧ ¬ commentOpen <+: 0x3C :: after ∧ opensTag after ∧
    name = startTagName after := by
  obtain ⟨q,hstep,hname⟩ := h.exists_step
  have hnext (c : UInt8) (after : Bytes) (hdrop : document.drop u.offset = c :: after) :
      document.drop (u.offset + 1) = after := by
    rw [← List.drop_drop, hdrop]
    rfl
  generalize document.drop u.offset = b at hstep hnext
  cases hstep with
  | @markup _ c after here =>
    rw [Scan.copy, h.state] at hname
    obtain ⟨rfl,hcomment,hopens,rfl⟩ := step_text_tag hname
    exact ⟨after,rfl,hnext _ after rfl,here,hcomment,hopens,rfl⟩
  | region here emitted =>
    obtain ⟨rendered,-,rfl⟩ := Scan.emit_eq_ok emitted
    rw [h.state] at hname
    contradiction

/-- Where no region touches the name, the placeholder has the same tag. -/
lemma exists_kept (h : OpensTag o width document name u)
    (hreads : Scan.Reads o width .start document f)
    (hapart : ¬ TouchesName (document.drop (u.offset + 1))) : ∃ b,
    f.finish.placeholder.drop u.outputRev.length = 0x3C :: b ∧
    ∀ outputRev, step .text outputRev 0x3C b = (.tag name none false, 1) := by
  obtain ⟨after,hdrop,hafter,here,hcomment,hopens,rfl⟩ := h.exists_after
  obtain ⟨parts,hparts,hrest,hplaceholder⟩ := hreads.exists_rest h.steps
  rw [hdrop] at hrest
  obtain ⟨l,x,y,rfl,htext,hend,hregion⟩ :=
    hparts.exists_common_after hrest.symm (Region.atStart?_eq_none_iff.mp here)
  refine ⟨l ++ y,?_,fun outputRev => ?_⟩
  · rw [Scan.drop_length_outputRev hplaceholder, htext]
  · have hname : opensTag (l ++ x) → Region.openerLength ((l ++ x).dropWhile isNameByte) = 0 := by
      rw [hafter] at hapart
      exact fun _ => Nat.eq_zero_of_not_pos hapart
    rw [← hend.step_eq State.sound_text outputRev 0x3C l
      fun _ _ => hend.opensTag_startTagName_eq hregion hname]
    exact step_text_of_opensTag hcomment hopens outputRev

/-- Where a region touches the name, an attribute touches it in the placeholder. -/
lemma exists_touched (h : OpensTag o width document name u) (ho : o.Legal)
    (hreads : Scan.Reads o width .start document f)
    (htouches : TouchesName (document.drop (u.offset + 1))) : ∃ b,
    f.finish.placeholder.drop u.outputRev.length =
      0x3C :: ((document.drop (u.offset + 1)).takeWhile isNameByte ++ 0x5F :: b) := by
  obtain ⟨after,hdrop,hafter,here,hcomment,hopens,rfl⟩ := h.exists_after
  rw [hafter] at htouches ⊢
  obtain ⟨r,hr⟩ : ∃ r, Region.atStart? (after.dropWhile isNameByte) = some r :=
    ⟨_,Region.atStart?_eq_some_iff.mpr ⟨htouches,rfl⟩⟩
  have hsteps := h.steps
  rw [hdrop] at hsteps
  have hsplit : after.takeWhile isNameByte ++ after.dropWhile isNameByte = after :=
    List.takeWhile_append_dropWhile
  have hopened : Passes o width .text [0x3C] (.tag (startTagName after) none false)
      (after.takeWhile isNameByte ++ after.dropWhile isNameByte) := by
    rw [hsplit]
    exact .read (Region.atStart?_eq_none_iff.mp here) (step_text_of_opensTag hcomment hopens)
  have hnamed : Passes o width (.tag (startTagName after) none false) (after.takeWhile isNameByte)
      (.tag (startTagName after) none false) (after.dropWhile isNameByte) := by
    refine .of_plain fun c hc => ?_
    have hbyte := List.mem_takeWhile_imp hc
    refine ⟨?_,?_,?_⟩
    all_goals
      rintro rfl
      exact absurd hbyte (by decide)
  have hmore := hopened.append hnamed u h.state
  rw [List.append_assoc, hsplit] at hmore
  have hp := hsteps.trans hmore
  -- the scan is in the tag now, and comes by the region there
  obtain ⟨q,s,hstep,hs⟩ := (Scan.Reads.of_steps (p := (_, _)) hreads hp).exists_region hr
  obtain ⟨b,hb,-⟩ := hs.issued.exists_of_attribute ho hs.shape
  obtain ⟨y,hplaceholder,-⟩ := hreads.exists_after_token hp hstep hs
  refine ⟨b ++ y,Scan.drop_length_outputRev ?_⟩
  rw [hplaceholder, hb, Scan.copy, List.reverse_append, List.reverse_reverse, List.append_assoc]
  simp only [List.cons_append, List.nil_append]

end OpensTag

/-- Before an offset of the document no region touches the name of a tag, and no token ends a
comment. -/
structure KeptBefore (o : Token.Options) (width : Bytes → Nat) (document : Bytes) (t : Tokenized)
    (offset : Nat) : Prop where
  names : ∀ i < offset, ∀ v ∈ Scan.start.at? o width i document,
    NameApart v.state (document.drop i)
  comments : ∀ s ∈ t.tokens, s.region.span.offset < offset →
    ∀ v ∈ Scan.start.at? o width s.region.span.offset.toNat document, v.state = .comment →
      ¬ EndsComment s.rendered (document.drop s.region.span.stop.toNat)

/-- Then the scan of the placeholder goes along with that of the document up to there. -/
lemma KeptBefore.exists_tracks {a : Bytes} (h : KeptBefore o width document f.finish u.offset)
    (ho : o.Legal) (hreads : Scan.Reads o width .start document f)
    (hsteps : Scan.Steps o width (.start, document) (u, a)) (o' : Token.Options)
    (width' : Bytes → Nat) : ∃ v b,
      Scan.Steps o' width' (.start, f.finish.placeholder) (v, b) ∧ Tracks o width f u a v b := by
  apply (Tracks.start hreads).steps ho ?_ hsteps
  intro p q hp hstep hq
  have hlt : p.1.offset < u.offset := hstep.offset_lt.trans_le (Scan.Steps.offset_le hq)
  constructor
  · rw [Scan.Steps.eq_drop hp]
    exact h.names _ hlt _ (Scan.Steps.at?_eq hp)
  · intro hstate s hs
    have hissues := hstep.issues hs
    have hmem := hissues.mem_tokensRev hreads hp hstep
    have hends := h.comments s (List.mem_reverse.mpr hmem)
    rw [hissues.offset, hissues.drop_stop hp hstep, Int.toNat_natCast, Int.ofNat_lt] at hends
    exact hends hlt p.1 (Scan.Steps.at?_eq hp) hstate

/-- What becomes of a tag in the placeholder. Where no region touches its name, the text that the
placeholder has in its place opens a tag of the same name. A region right after the `<` hides the
tag, and one right after the name adds to the name. That is how the scan of the placeholder reads
it, unless something before has led this scan astray: a region that touches the name of a tag, or
a token that ends a comment. -/
theorem tag_in_placeholder (h : tokenizeWith width o document = .ok (t, used))
    (hu : OpensTag used width document name u) : ∃ b s,
    t.placeholder.drop u.outputRev.length = 0x3C :: b ∧
    ReadsAs name (document.drop (u.offset + 1)) s ∧
    (∀ outputRev, step .text outputRev 0x3C b = (s, 1)) ∧
    (KeptBefore used width document t u.offset → ∀ (o' : Token.Options) (width' : Bytes → Nat),
      ∃ v v', Scan.start.at? o' width' u.outputRev.length t.placeholder = some v ∧
        v.state = .text ∧
        Scan.start.at? o' width' (u.outputRev.length + 1) t.placeholder = some v' ∧
        v'.state = s) := by
  have hnone := openerLength_placeholder h u.outputRev.length
  obtain ⟨hlegal,hscan,-⟩ := tokenizeWith_eq_ok h
  obtain ⟨f,hreads,rfl⟩ := exists_reads_of_scan_eq_ok hscan
  obtain ⟨b,s,hb,hs,hstep⟩ : ∃ b s, f.finish.placeholder.drop u.outputRev.length = 0x3C :: b ∧
      ReadsAs name (document.drop (u.offset + 1)) s ∧
      ∀ outputRev, step .text outputRev 0x3C b = (s, 1) := by
    by_cases htouches : TouchesName (document.drop (u.offset + 1))
    · obtain ⟨after,-,hafter,-,-,hopens,rfl⟩ := hu.exists_after
      obtain ⟨b,hb⟩ := hu.exists_touched hlegal hreads htouches
      rw [hafter] at htouches hb ⊢
      obtain ⟨s,hs,hstep⟩ := readsAs_of_touchesName hopens htouches b
      exact ⟨_,s,hb,hs,hstep⟩
    · obtain ⟨b,hb,hstep⟩ := hu.exists_kept hreads htouches
      exact ⟨b,_,hb,.kept htouches,hstep⟩
  refine ⟨b,s,hb,hs,hstep,fun hkept o' width' => ?_⟩
  obtain ⟨v,rest,hv,htracks⟩ := hkept.exists_tracks hlegal hreads hu.steps o' width'
  obtain rfl : rest = 0x3C :: b := by
    have hplaceholder : f.finish.placeholder = u.outputRev.reverse ++ rest := by
      rw [Scan.finish, htracks.rest, List.reverse_append, List.reverse_reverse]
    rw [← hb, Scan.drop_length_outputRev hplaceholder]
  have hstate : v.state = .text := htracks.state.trans hu.state
  rw [hb] at hnone
  have hmove : Scan.Step o' width' (v, 0x3C :: b) _ := .markup (Region.atStart?_eq_none_iff.mpr hnone)
  rw [hstate, hstep] at hmove
  refine ⟨v,v.copy s [0x3C],?_,hstate,?_,rfl⟩
  · rw [← htracks.offset]
    exact Scan.Steps.at?_eq hv
  · rw [← htracks.offset]
    exact Scan.Steps.at?_eq (hv.tail hmove)

end Scan

section Sample

/-- The name of an option is directly followed by a region. -/
def sampleOption : Bytes := "<option<?= $s ?>>"

def sampleOptionTokenized : Tokenized where
  placeholder := "<option_php_0___>"
  map := ⟨[("_php_0___", "<?= $s ?>")]⟩
  tokens := [⟨0, .attribute, "_php_0___", ⟨⟨7, "<?= $s ?>"⟩, .inAttribute, true⟩⟩]

theorem tag_in_placeholder_sampleOption :
    tokenizeWith List.length .default sampleOption = .ok (sampleOptionTokenized, .default) ∧
    OpensTag .default List.length sampleOption "option" .start ∧
    TouchesName (sampleOption.drop 1) ∧
    ∃ v, Scan.start.at? .default List.length 1 sampleOptionTokenized.placeholder = some v ∧
      v.state ≠ .tag "option" none false := by
  have h : tokenizeWith List.length .default sampleOption =
      .ok (sampleOptionTokenized, .default) := by decide +kernel
  have hu : OpensTag .default List.length sampleOption "option" .start :=
    ⟨Scan.at?_self _ _,rfl,⟨.tag "option" none false,[0x3C],[],.empty,1⟩,by decide +kernel,rfl⟩
  have htouches : TouchesName (sampleOption.drop 1) := by decide +kernel
  have hkept : KeptBefore .default List.length sampleOption sampleOptionTokenized 0 := by
    refine ⟨fun i hi => absurd hi (Nat.not_lt_zero i),fun s hs hlt => ?_⟩
    obtain rfl := List.mem_singleton.mp hs
    exact absurd hlt (by decide)
  obtain ⟨b,s,-,hs,-,hreads⟩ := tag_in_placeholder h hu
  obtain ⟨-,v,-,-,hv,hstate⟩ := hreads hkept .default List.length
  refine ⟨h,hu,htouches,v,hv,?_⟩
  rw [hstate]
  exact fun heq => hs.eq_tag_iff.mp heq htouches

end Sample
end Stencil
