import Mathlib.Order.Bounds.Basic
import Stencil.Proofs.Scan.Regions

/-! The regions of a document by their offsets alone: each starts at the leftmost opener after the
region before it and runs through the first closer after its opener. -/
namespace Stencil

namespace Span

/-- The span is what stands in the document between its two ends. -/
structure Delimits (s : Span) (document : Bytes) : Prop where
  nonneg : 0 ≤ s.offset
  stop_le : s.stop ≤ document.length
  text : (document.take s.stop.toNat).drop s.offset.toNat = s.text

/-- The span of a document between two offsets. -/
def between (document : Bytes) (start stop : Nat) : Span := ⟨start, (document.take stop).drop start⟩

variable {document : Bytes} {start stop : Nat}

lemma length_between (h : stop ≤ document.length) :
    (between document start stop).length = stop - start := by
  simp [between, length, Nat.min_eq_left h]

lemma stop_between (hle : start ≤ stop) (h : stop ≤ document.length) :
    (between document start stop).stop = stop := by
  rw [Span.stop, length_between h]
  simp only [between]
  omega

lemma overlaps_eq_false {a b : Span} (ha : 0 < a.length) (hb : 0 < b.length)
    (h : a.stop ≤ b.offset) : a.overlaps b = false ∧ b.overlaps a = false := by
  have hstop : a.offset ≤ a.stop ∧ b.offset ≤ b.stop := by
    simp only [Span.stop]
    omega
  simp only [overlaps, ha.ne', hb.ne', if_false, Bool.and_eq_false_iff, decide_eq_false_iff_not]
  omega

lemma between_delimits (hle : start ≤ stop) (h : stop ≤ document.length) :
    (between document start stop).Delimits document where
  nonneg := by simp [between]
  stop_le := by rw [stop_between hle h]; omega
  text := by rw [stop_between hle h]; rfl

end Span

namespace Region

/-- A region starts at this offset. -/
def Opens (document : Bytes) (i : Nat) : Prop := ∃ p, Opener p ∧ p <+: document.drop i

/-- A closer stands at this offset. -/
def Closes (document : Bytes) (i : Nat) : Prop := closer <+: document.drop i

/-- The regions of a document from an offset on, each with whether it is closed. -/
inductive RegionsFrom (document : Bytes) : Nat → List (Span × Bool) → Prop
  | none {i : Nat} (noOpener : ∀ j, i ≤ j → ¬ Opens document j) : RegionsFrom document i []
  | closed {i start stop : Nat} {opener : Bytes} {regions : List (Span × Bool)}
      (opens : IsLeast {j | i ≤ j ∧ Opens document j} start)
      (isOpener : Opener opener) (here : opener <+: document.drop start)
      (closes : IsLeast {j | start + opener.length ≤ j ∧ Closes document j} stop)
      (more : RegionsFrom document (stop + closer.length) regions) :
      RegionsFrom document i ((.between document start (stop + closer.length), true) :: regions)
  | unclosed {i start : Nat} {opener : Bytes}
      (opens : IsLeast {j | i ≤ j ∧ Opens document j} start)
      (isOpener : Opener opener) (here : opener <+: document.drop start)
      (noCloser : ∀ j, start + opener.length ≤ j → ¬ Closes document j) :
      RegionsFrom document i [(.between document start document.length, false)]

lemma opens_iff {document : Bytes} {i : Nat} :
    Opens document i ↔ 0 < openerLength (document.drop i) := openerLength_pos_iff.symm

/-- One place has one opener. -/
lemma Opener.unique {p q b : Bytes} (hp : Opener p) (hq : Opener q) (hpb : p <+: b)
    (hqb : q <+: b) : p = q := by
  obtain ⟨x,rfl⟩ := hpb
  obtain ⟨y,hy⟩ := hqb
  have hlen : p.length = q.length := by
    rw [← openerLength_append hp x, ← openerLength_append hq y, hy]
  exact (List.append_inj hy hlen.symm).1.symm

lemma Opener.length_pos {p : Bytes} (hp : Opener p) : 0 < p.length := by
  cases hp <;> simp

lemma length_le_of_prefix_drop {p b : Bytes} {i : Nat} (hp : p <+: b.drop i) (hne : 0 < p.length) :
    i + p.length ≤ b.length := by
  have hlen := hp.length_le
  rw [List.length_drop] at hlen
  omega

namespace RegionsFrom
variable {document : Bytes} {i : Nat} {regions : List (Span × Bool)}

/-- The document alone fixes its regions. -/
theorem unique {regions' : List (Span × Bool)} (h : RegionsFrom document i regions)
    (h' : RegionsFrom document i regions') : regions = regions' := by
  induction h generalizing regions' with
  | none noOpener =>
    cases h' with
    | none _ => rfl
    | closed opens _ _ _ _ => exact absurd opens.1.2 (noOpener _ opens.1.1)
    | unclosed opens _ _ _ => exact absurd opens.1.2 (noOpener _ opens.1.1)
  | closed opens isOpener here closes more ih =>
    cases h' with
    | none noOpener => exact absurd opens.1.2 (noOpener _ opens.1.1)
    | closed opens' isOpener' here' closes' more' =>
      obtain rfl := opens.unique opens'
      obtain rfl := isOpener.unique isOpener' here here'
      obtain rfl := closes.unique closes'
      rw [ih more']
    | unclosed opens' isOpener' here' noCloser =>
      obtain rfl := opens.unique opens'
      obtain rfl := isOpener.unique isOpener' here here'
      exact absurd closes.1.2 (noCloser _ closes.1.1)
  | unclosed opens isOpener here noCloser =>
    cases h' with
    | none noOpener => exact absurd opens.1.2 (noOpener _ opens.1.1)
    | closed opens' isOpener' here' closes' more' =>
      obtain rfl := opens.unique opens'
      obtain rfl := isOpener.unique isOpener' here here'
      exact absurd closes'.1.2 (noCloser _ closes'.1.1)
    | unclosed opens' isOpener' here' noCloser' =>
      obtain rfl := opens.unique opens'
      rfl

/-- Markup without an opener may be put in front. -/
lemma of_no_opens {k : Nat} (h : RegionsFrom document k regions) (hik : i ≤ k)
    (hno : ∀ j, i ≤ j → j < k → ¬ Opens document j) : RegionsFrom document i regions := by
  have hfirst {start : Nat} (hs : IsLeast {j | k ≤ j ∧ Opens document j} start) :
      IsLeast {j | i ≤ j ∧ Opens document j} start := by
    refine ⟨⟨hik.trans hs.1.1,hs.1.2⟩,fun j hj => hs.2 ⟨?_,hj.2⟩⟩
    by_contra hlt
    exact hno j hj.1 (by omega) hj.2
  cases h with
  | none noOpener =>
    refine .none fun j hj => ?_
    by_cases hk : k ≤ j
    · exact noOpener j hk
    · exact hno j hj (by omega)
  | closed opens isOpener here closes more =>
    exact .closed (hfirst opens) isOpener here closes more
  | unclosed opens isOpener here noCloser => exact .unclosed (hfirst opens) isOpener here noCloser

/-- What is known of each region: where it stands, and that it is open exactly if no closer
follows its opener. -/
structure Member (document : Bytes) (i : Nat) (r : Span × Bool) : Prop where
  le_offset : i ≤ r.1.offset
  delimits : r.1.Delimits document
  opener : ∃ opener, Opener opener ∧ opener <+: r.1.text ∧
    (r.2 = false ↔ ¬ closer <:+: document.drop (r.1.offset.toNat + opener.length))

lemma Member.mono {k : Nat} {r : Span × Bool} (h : Member document k r) (hik : i ≤ k) :
    Member document i r := ⟨by have := h.le_offset; omega,h.delimits,h.opener⟩

lemma Member.length_pos {r : Span × Bool} (h : Member document i r) : 0 < r.1.length := by
  obtain ⟨opener,ho,hpre,-⟩ := h.opener
  exact ho.length_pos.trans_le hpre.length_le

lemma infix_drop_iff {p b : Bytes} {i : Nat} : p <:+: b.drop i ↔ ∃ j, i ≤ j ∧ p <+: b.drop j := by
  constructor
  · rintro ⟨x,y,h⟩
    refine ⟨i + x.length,by omega,y,?_⟩
    rw [← List.drop_drop, ← h, List.append_assoc, List.drop_left]
  · rintro ⟨j,hij,h⟩
    obtain ⟨k,rfl⟩ := Nat.exists_eq_add_of_le hij
    rw [← List.drop_drop] at h
    exact h.isInfix.trans (List.drop_suffix k _).isInfix

lemma prefix_text_between {p : Bytes} {start stop : Nat} (hp : p <+: document.drop start)
    (hle : start + p.length ≤ stop) : p <+: (Span.between document start stop).text := by
  rw [Span.between, List.drop_take]
  exact List.prefix_take_iff.mpr ⟨hp,by omega⟩

theorem member (h : RegionsFrom document i regions) : ∀ r ∈ regions, Member document i r := by
  induction h with
  | none _ => simp
  | @closed i start stop opener regions opens isOpener here closes more ih =>
    have hle : stop + closer.length ≤ document.length :=
      length_le_of_prefix_drop closes.1.2 (by decide)
    have hstop := closes.1.1
    intro r hr
    obtain rfl | hr := List.mem_cons.mp hr
    · refine ⟨by have := opens.1.1; simp [Span.between, this],
        Span.between_delimits (by omega) hle,opener,isOpener,prefix_text_between here (by omega),?_⟩
      simp only [Bool.true_eq_false, false_iff, not_not]
      exact infix_drop_iff.mpr ⟨stop,hstop,closes.1.2⟩
    · exact (ih r hr).mono (by have := opens.1.1; omega)
  | @unclosed i start opener opens isOpener here noCloser =>
    have hle := length_le_of_prefix_drop here isOpener.length_pos
    intro r hr
    obtain rfl := List.mem_singleton.mp hr
    refine ⟨by have := opens.1.1; simp [Span.between, this],
      Span.between_delimits (by omega) le_rfl,opener,isOpener,prefix_text_between here hle,?_⟩
    simp only [true_iff]
    intro hin
    obtain ⟨j,hj,hclose⟩ := infix_drop_iff.mp hin
    exact noCloser j hj hclose

/-- Only the last region can be open. -/
theorem closed_of_mem_dropLast (h : RegionsFrom document i regions) :
    ∀ r ∈ regions.dropLast, r.2 = true := by
  induction h with
  | none _ => simp
  | unclosed _ _ _ _ => simp
  | @closed i start stop opener regions _ _ _ _ more ih =>
    cases regions with
    | nil => simp
    | cons q regions =>
      intro r hr
      rw [List.dropLast_cons_cons] at hr
      obtain rfl | hr := List.mem_cons.mp hr
      · rfl
      · exact ih r hr

/-- Each region ends before the next one starts. -/
theorem pairwise_stop_le (h : RegionsFrom document i regions) :
    regions.Pairwise fun r q => r.1.stop ≤ q.1.offset := by
  induction h with
  | none _ => exact .nil
  | unclosed _ _ _ _ => exact List.pairwise_singleton _ _
  | @closed i start stop opener regions opens isOpener here closes more ih =>
    refine .cons (fun q hq => ?_) ih
    have hle : stop + closer.length ≤ document.length :=
      length_le_of_prefix_drop closes.1.2 (by decide)
    have hstop := closes.1.1
    rw [Span.stop_between (by omega) hle]
    exact (more.member q hq).le_offset

end RegionsFrom

lemma cut?_eq_none {sep b : Bytes} (h : Bytes.cut? sep b = none) (k : Nat) : ¬ sep <+: b.drop k := by
  induction b generalizing k with
  | nil =>
    simp only [Bytes.cut?] at h
    split at h
    · contradiction
    · simp_all
  | cons c b ih =>
    simp only [Bytes.cut?] at h
    split at h
    · contradiction
    · next hp =>
      cases k with
      | zero => simpa using hp
      | succ k => exact ih (Option.map_eq_none_iff.mp h) k

/-- The separator that is found is the leftmost. -/
lemma cut?_leftmost {sep b before after : Bytes} (h : Bytes.cut? sep b = some (before, after))
    {k : Nat} (hk : k < before.length) : ¬ sep <+: b.drop k := by
  induction b generalizing before k with
  | nil =>
    simp only [Bytes.cut?] at h
    split at h
    · obtain ⟨rfl,rfl⟩ := Prod.mk.inj (Option.some.inj h)
      simp at hk
    · contradiction
  | cons c b ih =>
    simp only [Bytes.cut?] at h
    split at h
    · obtain ⟨rfl,rfl⟩ := Prod.mk.inj (Option.some.inj h)
      simp at hk
    · next hp =>
      obtain ⟨⟨u,v⟩,huv,heq⟩ := Option.map_eq_some_iff.mp h
      obtain ⟨rfl,rfl⟩ := Prod.mk.inj heq
      cases k with
      | zero => simpa using hp
      | succ k => exact ih huv (by simpa using hk)

/-- A region is an opener, a body and the first closer after it, or runs to the end without one. -/
lemma atStart?_cases {b : Bytes} {r : Extracted} (h : atStart? b = some r) :
    ∃ opener body, Opener opener ∧
      ((b = opener ++ (body ++ (closer ++ r.rest)) ∧ r.text = opener ++ (body ++ closer) ∧
          r.terminated = true ∧
          ∀ k < body.length, ¬ closer <+: (body ++ (closer ++ r.rest)).drop k) ∨
        (b = opener ++ body ∧ r = ⟨b, false, []⟩ ∧ ∀ k, ¬ closer <+: body.drop k)) := by
  obtain ⟨hpos,rfl⟩ := atStart?_eq_some_iff.mp h
  obtain ⟨opener,isOpener,x,rfl⟩ := openerLength_pos_iff.mp hpos
  rw [openerLength_append isOpener, extract, List.drop_left, List.take_left]
  split
  · next body rest hcut =>
    have hx := cut?_append hcut
    refine ⟨opener,body,isOpener,.inl ⟨?_,by simp,rfl,fun k hk => ?_⟩⟩
    · rw [← hx, List.append_assoc]
    · rw [← List.append_assoc, hx]
      exact cut?_leftmost hcut hk
  · next hcut => exact ⟨opener,x,isOpener,.inr ⟨rfl,rfl,cut?_eq_none hcut⟩⟩

namespace RegionsFrom
variable {document read b : Bytes} {regions : List (Span × Bool)}

lemma prefix_drop {opener x : Bytes} (hd : document = read ++ (opener ++ x)) :
    opener <+: document.drop read.length := by
  rw [hd, List.drop_left]
  exact List.prefix_append _ _

lemma isLeast_opens {opener x : Bytes} (isOpener : Opener opener) (hd : document = read ++ (opener ++ x)) :
    IsLeast {j | read.length ≤ j ∧ Opens document j} read.length :=
  ⟨⟨le_rfl,opener,isOpener,prefix_drop hd⟩,fun _ hj => hj.1⟩

lemma drop_opener {opener x : Bytes} (hd : document = read ++ (opener ++ x)) (k : Nat) :
    document.drop (read.length + opener.length + k) = x.drop k := by
  rw [hd, ← List.drop_drop, ← List.drop_drop, List.drop_left, List.drop_left]

lemma isLeast_closes {opener body rest : Bytes}
    (hd : document = read ++ (opener ++ (body ++ (closer ++ rest))))
    (hfirst : ∀ k < body.length, ¬ closer <+: (body ++ (closer ++ rest)).drop k) :
    IsLeast {j | read.length + opener.length ≤ j ∧ Closes document j}
      (read.length + opener.length + body.length) := by
  refine ⟨⟨by omega,?_⟩,fun j hj => ?_⟩
  · rw [Closes, drop_opener hd, List.drop_left]
    exact List.prefix_append _ _
  · obtain ⟨k,rfl⟩ := Nat.exists_eq_add_of_le hj.1
    by_contra hlt
    exact hfirst k (by omega) (drop_opener hd k ▸ hj.2)

lemma between_eq {text rest : Bytes} (hd : document = read ++ (text ++ rest)) :
    Span.between document read.length (read.length + text.length) = ⟨read.length, text⟩ := by
  rw [Span.between, List.drop_take, hd, List.drop_left, Nat.add_sub_cancel_left, List.take_left]

/-- A region that is read off the rest of a document is the next one of the document. -/
theorem of_atStart? {r : Extracted} (hd : document = read ++ b) (h : atStart? b = some r)
    (more : RegionsFrom document (read.length + r.text.length) regions) :
    RegionsFrom document read.length ((⟨read.length, r.text⟩, r.terminated) :: regions) := by
  have htext : document = read ++ (r.text ++ r.rest) := by rw [text_append_rest_of_atStart? h, hd]
  rw [← between_eq htext]
  obtain ⟨opener,body,isOpener,⟨rfl,hr,hterm,hfirst⟩ | ⟨rfl,rfl,hnone⟩⟩ := atStart?_cases h
  · have hstop : read.length + r.text.length =
        read.length + opener.length + body.length + closer.length := by
      simp [hr, Nat.add_assoc]
    rw [hstop] at more ⊢
    rw [hterm]
    exact .closed (isLeast_opens isOpener hd) isOpener (prefix_drop hd) (isLeast_closes hd hfirst) more
  · have hstop : read.length + (opener ++ body).length = document.length := by simp [hd]
    have hnil : regions = [] := by
      refine more.unique (.none fun j hj => ?_)
      rw [opens_iff, List.drop_of_length_le (hstop ▸ hj)]
      simp [openerLength]
    rw [hstop, hnil]
    refine .unclosed (isLeast_opens isOpener hd) isOpener (prefix_drop hd) fun j hj hclose => ?_
    obtain ⟨k,rfl⟩ := Nat.exists_eq_add_of_le hj
    rw [Closes, drop_opener hd] at hclose
    exact hnone k hclose

end RegionsFrom
end Region

end Stencil
