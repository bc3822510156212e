import Mathlib.Logic.Relation
import Stencil.Proofs.Scan.Layout

/-! A scan step by step. Each step reads some markup or one region; the scan comes by an offset of
the document in at most one way, and each token was issued by a step of the scan. -/
namespace Stencil.Scan
variable {o : Token.Options} {width : Bytes → Nat}

/-- A step of a scan that has some text left to read. -/
inductive Step (o : Token.Options) (width : Bytes → Nat) : Scan × Bytes → Scan × Bytes → Prop
  | markup {s : Scan} {c : UInt8} {after : Bytes} (here : Region.atStart? (c :: after) = none) :
      Step o width (s, c :: after)
        (s.copy (Markup.step s.state s.outputRev c after).1
          ((c :: after).take (Markup.step s.state s.outputRev c after).2),
        after.drop ((Markup.step s.state s.outputRev c after).2 - 1))
  | region {s s' : Scan} {b : Bytes} {r : Region.Extracted} (here : Region.atStart? b = some r)
      (emitted : s.emit o width r.text r.terminated = .ok s') : Step o width (s, b) (s', r.rest)

/-- Any number of steps. -/
abbrev Steps (o : Token.Options) (width : Bytes → Nat) : Scan × Bytes → Scan × Bytes → Prop :=
  Relation.ReflTransGen (Step o width)

lemma Step.offset_lt {p q : Scan × Bytes} (h : Step o width p q) : p.1.offset < q.1.offset := by
  cases h with
  | @markup s c after here =>
    have hpos := Markup.step_pos s.state s.outputRev c after
    simp only [copy, List.length_take, List.length_cons]
    omega
  | region here emitted =>
    obtain ⟨rendered,-,rfl⟩ := emit_eq_ok emitted
    have hopen := Region.openerLength_text_pos here
    have hle := Region.openerLength_le
    exact Nat.lt_add_of_pos_right (hopen.trans_le (hle _))

lemma Steps.offset_le {p q : Scan × Bytes} (h : Steps o width p q) : p.1.offset ≤ q.1.offset := by
  induction h with
  | refl => exact le_rfl
  | tail _ hstep ih => exact ih.trans hstep.offset_lt.le

/-- A step moves on by what it reads. -/
lemma Step.exists_read {p q : Scan × Bytes} (h : Step o width p q) :
    ∃ read, p.2 = read ++ q.2 ∧ q.1.offset = p.1.offset + read.length := by
  cases h with
  | @markup s c after here =>
    refine ⟨(c :: after).take (Markup.step s.state s.outputRev c after).2,?_,rfl⟩
    rw [Markup.take_step, List.cons_append, List.take_append_drop]
  | @region s s' b r here emitted =>
    obtain ⟨rendered,-,rfl⟩ := emit_eq_ok emitted
    exact ⟨r.text,(Region.text_append_rest_of_atStart? here).symm,rfl⟩

lemma Steps.exists_read {p q : Scan × Bytes} (h : Steps o width p q) :
    ∃ read, p.2 = read ++ q.2 ∧ q.1.offset = p.1.offset + read.length := by
  induction h with
  | refl => exact ⟨[],rfl,rfl⟩
  | tail _ hstep ih =>
    obtain ⟨read,hread,hoffset⟩ := ih
    obtain ⟨more,hmore,hoffset'⟩ := hstep.exists_read
    refine ⟨read ++ more,by rw [hread, hmore, List.append_assoc],?_⟩
    rw [hoffset', hoffset, List.length_append, Nat.add_assoc]

/-- The scan when it comes by this offset of the document. -/
def at? (o : Token.Options) (width : Bytes → Nat) (offset : Nat) (s : Scan) (rest : Bytes) :
    Option Scan :=
  if s.offset = offset then some s
  else match rest with
    | [] => none
    | c :: after =>
      match h : Region.atStart? (c :: after) with
      | some r =>
        match s.emit o width r.text r.terminated with
        | .error _ => none
        | .ok s =>
          have := Region.atStart?_length h
          at? o width offset s r.rest
      | none =>
        let next := Markup.step s.state s.outputRev c after
        at? o width offset (s.copy next.1 ((c :: after).take next.2)) (after.drop (next.2 - 1))
termination_by rest.length
decreasing_by
  · exact this
  · rw [List.length_drop, List.length_cons]
    omega

lemma at?_self (s : Scan) (rest : Bytes) : s.at? o width s.offset rest = some s := by
  rw [at?.eq_def, if_pos rfl]

lemma Step.at?_eq {p q : Scan × Bytes} (h : Step o width p q) {offset : Nat}
    (hne : p.1.offset ≠ offset) : p.1.at? o width offset p.2 = q.1.at? o width offset q.2 := by
  cases h with
  | @markup s c after here =>
    rw [at?, if_neg hne]
    split
    · next r hr => simp [here] at hr
    · rfl
  | @region s s' b r here emitted =>
    cases b with
    | nil => simp [Region.atStart?, Region.openerLength] at here
    | cons c after =>
      rw [at?, if_neg hne]
      split
      · next r' hr =>
        obtain rfl := Option.some.inj (here.symm.trans hr)
        rw [emitted]
      · next hr => simp [here] at hr

/-- A scan is found at every offset it comes by. -/
theorem Steps.at?_eq {p q : Scan × Bytes} (h : Steps o width p q) :
    p.1.at? o width q.1.offset p.2 = some q.1 := by
  induction h using Relation.ReflTransGen.head_induction_on with
  | refl => exact at?_self q.1 q.2
  | head hstep hsteps ih =>
    have hlt := hstep.offset_lt.trans_le (Steps.offset_le hsteps)
    rw [hstep.at?_eq hlt.ne, ih]

/-- A scan is found at no other offsets. -/
lemma exists_steps_of_at? {s u : Scan} {b : Bytes} {offset : Nat}
    (h : s.at? o width offset b = some u) : u.offset = offset ∧ ∃ c, Steps o width (s, b) (u, c) := by
  induction s, b using at?.induct o width offset with
  | case1 s b hoffset =>
    rw [at?.eq_def, if_pos hoffset] at h
    obtain rfl := Option.some.inj h
    exact ⟨hoffset,b,.refl⟩
  | case2 s hne => simp [at?, hne] at h
  | case3 s hne c after r hr e he =>
    rw [at?, if_neg hne] at h
    split at h
    · next r' hr' =>
      obtain rfl := Option.some.inj (hr.symm.trans hr')
      rw [he] at h
      contradiction
    · next hr' => simp [hr] at hr'
  | case4 s hne c after r hr s' hs _ ih =>
    have hstep : Step o width (s, c :: after) (s', r.rest) := .region hr hs
    rw [hstep.at?_eq hne] at h
    obtain ⟨hoffset,d,hsteps⟩ := ih h
    exact ⟨hoffset,d,.head hstep hsteps⟩
  | case5 s hne c after hr next ih =>
    have hstep : Step o width (s, c :: after) _ := .markup hr
    rw [hstep.at?_eq hne] at h
    obtain ⟨hoffset,d,hsteps⟩ := ih h
    exact ⟨hoffset,d,.head hstep hsteps⟩

/-- The scan when it comes by an offset is the one that its steps get there. -/
theorem at?_eq_some_iff {s u : Scan} {b : Bytes} {offset : Nat} :
    s.at? o width offset b = some u ↔ u.offset = offset ∧ ∃ c, Steps o width (s, b) (u, c) := by
  refine ⟨exists_steps_of_at?,?_⟩
  rintro ⟨rfl,c,hsteps⟩
  exact hsteps.at?_eq

lemma Step.run_eq {p q : Scan × Bytes} (h : Step o width p q) :
    p.1.run o width p.2 = q.1.run o width q.2 := by
  cases h with
  | markup here => rw [run_of_atStart?_eq_none here]
  | region here emitted => rw [run_of_atStart?_eq_some here, emitted]; rfl

/-- The steps of a scan lead to its end. -/
theorem Steps.run_eq {p q : Scan × Bytes} (h : Steps o width p q) :
    p.1.run o width p.2 = q.1.run o width q.2 := by
  induction h with
  | refl => rfl
  | tail _ hstep ih => exact ih.trans hstep.run_eq

lemma Reads.of_step {f : Scan} {p q : Scan × Bytes} (h : Reads o width p.1 p.2 f)
    (hstep : Step o width p q) : Reads o width q.1 q.2 f := by
  obtain ⟨s,b⟩ := p
  cases hstep with
  | @markup _ c after here =>
    cases h with
    | markup _ rest => exact rest
    | region here' _ _ => simp [here] at here'
  | @region _ s' _ r here emitted =>
    cases h with
    | done => simp [Region.atStart?, Region.openerLength] at here
    | markup here' _ => simp [here] at here'
    | @region _ s'' _ _ r' here' emitted' rest =>
      obtain rfl : r = r' := Option.some.inj (here.symm.trans here')
      obtain rfl : s' = s'' := Except.ok.inj (emitted.symm.trans emitted')
      exact rest

lemma Reads.steps {s f : Scan} {b : Bytes} (h : Reads o width s b f) :
    Steps o width (s, b) (f, []) := by
  induction h with
  | done s => exact .refl
  | markup here _ ih => exact .head (.markup here) ih
  | region here emitted _ ih => exact .head (.region here emitted) ih

lemma Reads.of_steps {f : Scan} {p q : Scan × Bytes} (h : Reads o width p.1 p.2 f)
    (hsteps : Steps o width p q) : Reads o width q.1 q.2 f := by
  induction hsteps with
  | refl => exact h
  | tail _ hstep ih => exact ih.of_step hstep

lemma Reads.mem_tokensRev {s f : Scan} {b : Bytes} (h : Reads o width s b f) {t : IssuedToken}
    (ht : t ∈ s.tokensRev) : t ∈ f.tokensRev := by
  obtain ⟨parts,hext,-⟩ := h.extends
  rw [hext.tokens]
  exact List.mem_append_right _ ht

/-- Each new token was issued when the scan came to its region. -/
theorem Reads.exists_issued {s f : Scan} {b : Bytes} (h : Reads o width s b f) {t : IssuedToken}
    (ht : t ∈ f.tokensRev) : t ∈ s.tokensRev ∨ ∃ u u' b' r, Steps o width (s, b) (u, b') ∧
      Region.atStart? b' = some r ∧ u.emit o width r.text r.terminated = .ok u' ∧
      u'.tokensRev = t :: u.tokensRev := by
  induction h with
  | done s => exact .inl ht
  | markup here _ ih =>
    obtain hold | ⟨u,u',b',r,hsteps,hu⟩ := ih ht
    · exact .inl hold
    · exact .inr ⟨u,u',b',r,.head (.markup here) hsteps,hu⟩
  | @region s s' f b r here emitted rest ih =>
    obtain hnew | ⟨u,u',b',r',hsteps,hu⟩ := ih ht
    · obtain ⟨rendered,-,rfl⟩ := emit_eq_ok emitted
      obtain rfl | hold := List.mem_cons.mp hnew
      · exact .inr ⟨s,_,b,r,.refl,here,emitted,rfl⟩
      · exact .inl hold
    · exact .inr ⟨u,u',b',r',.head (.region here emitted) hsteps,hu⟩

/-- The step from `p` to `q` issues this token. -/
structure Issues (o : Token.Options) (p q : Scan × Bytes) (t : IssuedToken) : Prop where
  tokens : q.1.tokensRev = t :: p.1.tokensRev
  issued : t.IssuedBy o
  offset : t.region.span.offset = p.1.offset
  stop : t.region.span.stop = q.1.offset
  context : t.region.context = p.1.state.context
  shape : t.shape = p.1.state.context.shape
  output : q.1.outputRev = t.rendered.reverse ++ p.1.outputRev

lemma Step.issues {p q : Scan × Bytes} (h : Step o width p q) {t : IssuedToken}
    (ht : q.1.tokensRev = t :: p.1.tokensRev) : Issues o p q t := by
  cases h with
  | markup here => exact absurd ht.symm (List.cons_ne_self t _)
  | region here emitted =>
    obtain ⟨rendered,hrender,rfl⟩ := emit_eq_ok emitted
    obtain rfl := (List.cons.inj ht).1
    exact ⟨rfl,issuedBy_issue here hrender,rfl,rfl,rfl,rfl,rfl⟩

/-- A scan that gets to its end issues a token for each region it comes by. -/
lemma Reads.exists_region {s f : Scan} {b : Bytes} {r : Region.Extracted}
    (h : Reads o width s b f) (here : Region.atStart? b = some r) :
    ∃ q t, Step o width (s, b) q ∧ Issues o (s, b) q t := by
  cases h with
  | done => simp [Region.atStart?, Region.openerLength] at here
  | markup none _ => exact absurd (none.symm.trans here) (Option.some_ne_none r).symm
  | @region _ s' _ _ r here emitted _ =>
    have hstep : Step o width (s, b) (s', r.rest) := .region here emitted
    obtain ⟨rendered,-,htokens⟩ := emit_eq_ok emitted
    exact ⟨_,_,hstep,hstep.issues (by rw [htokens])⟩

/-- What is to be read decides on the step. -/
lemma Step.unique : Relator.RightUnique (Step o width) := by
  intro p q q' h h'
  cases h with
  | markup here =>
    cases h' with
    | markup _ => rfl
    | region here' _ => exact absurd (here.symm.trans here') (Option.some_ne_none _).symm
  | region here emitted =>
    cases h' with
    | markup here' => exact absurd (here'.symm.trans here) (Option.some_ne_none _).symm
    | region here' emitted' =>
      obtain rfl := Option.some.inj (here.symm.trans here')
      obtain rfl := Except.ok.inj (emitted.symm.trans emitted')
      rfl

/-- A scan gets from each place it comes by to the later ones. -/
theorem Steps.of_offset_le {s p q : Scan × Bytes} (hp : Steps o width s p) (hq : Steps o width s q)
    (hle : p.1.offset ≤ q.1.offset) : Steps o width p q := by
  obtain hpq | hqp := Relation.ReflTransGen.total_of_right_unique Step.unique hp hq
  · exact hpq
  · obtain rfl | ⟨m,hstep,hsteps⟩ := hqp.cases_head
    · exact .refl
    · have hlt := hstep.offset_lt.trans_le (Steps.offset_le hsteps)
      omega

/-- A scan that gets beyond a place gets there by the step from that place. -/
lemma Steps.of_step {s p p' q : Scan × Bytes} (hp : Steps o width s p) (hq : Steps o width s q)
    (hlt : p.1.offset < q.1.offset) (hstep : Step o width p p') : Steps o width p' q := by
  obtain rfl | ⟨m,hstep',hsteps⟩ := (hp.of_offset_le hq hlt.le).cases_head
  · exact absurd hlt (lt_irrefl _)
  · rwa [Step.unique hstep hstep']

/-- What a step writes comes after what was written before. -/
lemma Step.exists_written {p q : Scan × Bytes} (h : Step o width p q) :
    ∃ written : Bytes, q.1.outputRev = written.reverse ++ p.1.outputRev := by
  cases h with
  | markup here => exact ⟨_,rfl⟩
  | region here emitted =>
    obtain ⟨rendered,-,rfl⟩ := emit_eq_ok emitted
    exact ⟨rendered,rfl⟩

lemma Steps.exists_written {p q : Scan × Bytes} (h : Steps o width p q) :
    ∃ written : Bytes, q.1.outputRev = written.reverse ++ p.1.outputRev := by
  induction h with
  | refl => exact ⟨[],rfl⟩
  | tail _ hstep ih =>
    obtain ⟨written,hwritten⟩ := ih
    obtain ⟨more,hmore⟩ := hstep.exists_written
    refine ⟨written ++ more,?_⟩
    rw [hmore, hwritten, List.reverse_append, List.append_assoc]

lemma Steps.length_outputRev_le {p q : Scan × Bytes} (h : Steps o width p q) :
    p.1.outputRev.length ≤ q.1.outputRev.length := by
  obtain ⟨written,hwritten⟩ := h.exists_written
  rw [hwritten, List.length_append]
  exact Nat.le_add_left _ _

/-- Each byte that is written on the way is written by one of the steps. -/
lemma Steps.exists_step_writing {p q : Scan × Bytes} (h : Steps o width p q) {k : Nat}
    (hle : p.1.outputRev.length ≤ k) (hlt : k < q.1.outputRev.length) :
    ∃ v v', Steps o width p v ∧ Step o width v v' ∧ Steps o width v' q ∧
      v.1.outputRev.length ≤ k ∧ k < v'.1.outputRev.length := by
  induction h with
  | refl => omega
  | @tail m q hsteps hstep ih =>
    by_cases hm : k < m.1.outputRev.length
    · obtain ⟨v,v',hv,hvv,hv',hvle,hvlt⟩ := ih hm
      exact ⟨v,v',hv,hvv,hv'.tail hstep,hvle,hvlt⟩
    · exact ⟨m,q,hsteps,hstep,.refl,Nat.le_of_not_lt hm,hlt⟩

section Start
variable {document : Bytes} {f u : Scan} {i : Nat}

/-- A scan that starts at the beginning has the rest of the document before it. -/
lemma Steps.eq_drop {b : Bytes} (h : Steps o width (.start, document) (u, b)) :
    b = document.drop u.offset := by
  obtain ⟨read,hread,hoffset⟩ := h.exists_read
  have hlength : u.offset = read.length := hoffset.trans (Nat.zero_add _)
  obtain rfl : document = read ++ b := hread
  rw [hlength, List.drop_left]

lemma at?_start_eq_some_iff : Scan.start.at? o width i document = some u ↔
    u.offset = i ∧ Steps o width (.start, document) (u, document.drop i) := by
  rw [at?_eq_some_iff]
  constructor
  · rintro ⟨rfl,b,hsteps⟩
    exact ⟨rfl,hsteps.eq_drop ▸ hsteps⟩
  · rintro ⟨hoffset,hsteps⟩
    exact ⟨hoffset,_,hsteps⟩

/-- Each token was issued by a step. -/
lemma Reads.exists_issues (h : Reads o width .start document f) {t : IssuedToken}
    (ht : t ∈ f.tokensRev) : ∃ p q, Steps o width (.start, document) p ∧ Step o width p q ∧
      Issues o p q t := by
  obtain hnone | ⟨u,u',b,r,hsteps,here,emitted,htokens⟩ := h.exists_issued ht
  · exact absurd hnone List.not_mem_nil
  · have hstep : Step o width (u, b) (u', r.rest) := .region here emitted
    exact ⟨_,_,hsteps,hstep,hstep.issues htokens⟩

/-- What a step on the way issues is there in the end. -/
lemma Issues.mem_tokensRev {p q : Scan × Bytes} {t : IssuedToken} (ht : Issues o p q t)
    (h : Reads o width .start document f) (hp : Steps o width (.start, document) p)
    (hstep : Step o width p q) : t ∈ f.tokensRev := by
  have hrest : Reads o width q.1 q.2 f := Reads.of_steps (p := (_, _)) h (hp.tail hstep)
  apply hrest.mem_tokensRev
  rw [ht.tokens]
  exact List.mem_cons_self ..

lemma Issues.drop_stop {p q : Scan × Bytes} {t : IssuedToken} (ht : Issues o p q t)
    (hp : Steps o width (.start, document) p) (hstep : Step o width p q) :
    document.drop t.region.span.stop.toNat = q.2 := by
  rw [ht.stop, Int.toNat_natCast]
  exact (Steps.eq_drop (hp.tail hstep)).symm

/-- The context of a token is that of the scan when it comes by the region. -/
lemma Reads.context_eq (h : Reads o width .start document f) {t : IssuedToken}
    (ht : t ∈ f.tokensRev) (hu : Scan.start.at? o width i document = some u)
    (hi : t.region.span.offset = i) : t.region.context = u.state.context := by
  obtain ⟨p,q,hsteps,-,hissues⟩ := h.exists_issues ht
  have hoffset : p.1.offset = i := Int.ofNat.inj (hissues.offset.symm.trans hi)
  have hp := Steps.at?_eq hsteps
  rw [hoffset, hu] at hp
  rw [hissues.context, Option.some.inj hp]

end Start
end Stencil.Scan
