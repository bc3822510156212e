import Mathlib.Data.List.Pairwise
import Stencil.Proofs.Scan.Cutting
import Stencil.Proofs.Scan.Failures
import Stencil.Proofs.Scan.Steps

/-! Tokens that cannot be mistaken for each other. What restoring looks for is the name of a token;
if no name starts with another one, no two tokens are ever found at the same place. The names that a
scan gives out are of this kind at each of its steps, so it never gives out a token twice. -/
namespace Stencil

namespace Matcher

/-- Neither name starts with the other. -/
def Diverges (a b : Matcher) : Prop := ¬ a.name <+: b.name ∧ ¬ b.name <+: a.name

instance : Std.Symm Diverges := ⟨fun _ _ h => ⟨h.2,h.1⟩⟩

/-- No name starts with the name of another matcher. -/
def PrefixFree (ms : List Matcher) : Prop := ms.Pairwise Diverges

/-- Matchers of which no two can be mistaken for each other, whatever text they are tried on. -/
structure Unambiguous (ms : List Matcher) : Prop where
  prefixFree : PrefixFree ms
  nodup : (ms.map (·.token)).Nodup
  eq_of_fits : ∀ text, ∀ a ∈ ms, ∀ b ∈ ms, 0 < a.matchLength text → 0 < b.matchLength text → a = b

lemma name_eq_of_token_eq {a b : Matcher} (h : a.token = b.token) : a.name = b.name := by
  rw [name, name, isTag, isTag, h]

/-- Of two names at the start of one text, one starts with the other; so divergent names are enough. -/
theorem PrefixFree.unambiguous {ms : List Matcher} (h : PrefixFree ms) : Unambiguous ms where
  prefixFree := h
  nodup := by
    rw [List.nodup_iff_pairwise_ne, List.pairwise_map]
    refine h.imp fun hab htoken => hab.1 ?_
    rw [name_eq_of_token_eq htoken]
  eq_of_fits text a ha b hb hfa hfb := by
    by_contra hne
    obtain ⟨hnab,hnba⟩ := h.forall ha hb hne
    obtain hpre | hpre := List.prefix_or_prefix_of_prefix (name_prefix_of_matchLength_pos hfa)
      (name_prefix_of_matchLength_pos hfb)
    · exact hnab hpre
    · exact hnba hpre

end Matcher

namespace IssuedToken.Series
variable {o : Token.Options} {ts : List IssuedToken}

/-- The number of a token can be read off its name, so the names of a series diverge. -/
theorem prefixFree (h : Series o ts) : Matcher.PrefixFree (ts.map matcher) := by
  have hnumbers : (ts.map (·.number)).Nodup := h.numbers ▸ List.nodup_range
  rw [Matcher.PrefixFree, List.pairwise_map]
  rw [List.nodup_iff_pairwise_ne, List.pairwise_map] at hnumbers
  refine hnumbers.imp_of_mem fun {a b} ha hb hne => ?_
  obtain ⟨p,hp,-⟩ := (h.issued a ha).name_matcher
  obtain ⟨q,hq,-⟩ := (h.issued b hb).name_matcher
  rw [Matcher.Diverges, hp, hq]
  constructor
  · intro hpre
    exact hne (Token.Options.name_prefix_unique hpre List.prefix_rfl).1
  · intro hpre
    exact hne (Token.Options.name_prefix_unique List.prefix_rfl hpre).1

lemma nil (ho : o.Legal) : Series o [] := ⟨ho,List.forall_mem_nil _,rfl⟩

/-- The next token continues a series. -/
lemma concat {t : IssuedToken} (h : Series o ts) (ht : t.IssuedBy o) (hn : t.number = ts.length) :
    Series o (ts ++ [t]) where
  legal := h.legal
  issued s hs := by
    obtain hs | hs := List.mem_append.mp hs
    · exact h.issued s hs
    · rwa [List.mem_singleton.mp hs]
  numbers := by
    rw [List.map_append, h.numbers, List.length_append, List.length_singleton, List.range_succ,
      List.map_singleton, hn]

end IssuedToken.Series

namespace Scan
variable {o : Token.Options} {width : Bytes → Nat} {document rest : Bytes} {s : Scan}

/-- The tokens so far are a series, and the map holds them in order. -/
structure Issuing (o : Token.Options) (s : Scan) : Prop where
  series : IssuedToken.Series o s.tokensRev.reverse
  map : s.map = ⟨s.tokensRev.reverse.map IssuedToken.entry⟩

lemma issuing_start (ho : o.Legal) : start.Issuing o := ⟨.nil ho,rfl⟩

lemma Step.issuing {p q : Scan × Bytes} (h : Step o width p q) (hp : p.1.Issuing o) :
    q.1.Issuing o := by
  cases h with
  | markup here => exact ⟨hp.series,hp.map⟩
  | @region s s' b r here emitted =>
    obtain ⟨rendered,hrender,rfl⟩ := emit_eq_ok emitted
    have hissued := issuedBy_issue here hrender
    refine ⟨?_,?_⟩
    · rw [List.reverse_cons]
      exact hp.series.concat hissued List.length_reverse.symm
    · rw [hp.map, List.reverse_cons, List.map_append]
      rfl

theorem Steps.issuing {p q : Scan × Bytes} (h : Steps o width p q) (hp : p.1.Issuing o) :
    q.1.Issuing o := by
  induction h with
  | refl => exact hp
  | tail _ hstep ih => exact hstep.issuing ih

lemma Issuing.ofMap_eq (h : s.Issuing o) :
    Matcher.ofMap s.map = s.tokensRev.reverse.map IssuedToken.matcher := by
  rw [h.map, h.series.ofMap_entries]

end Scan

section Options
variable {o p : Token.Options} {width : Bytes → Nat} {document : Bytes}

/-- These options, or those of any retry. -/
def Token.Options.DerivedFrom (p o : Token.Options) : Prop := p = o ∨ ∃ n, p = o.salted n

lemma Token.Options.DerivedFrom.legal (hp : p.DerivedFrom o) (hvalid : o.validate = .ok ()) :
    p.Legal := by
  have ho := ((Token.Options.validate_eq_ok_iff o).mp hvalid).1
  obtain rfl | ⟨n,rfl⟩ := hp
  · exact ho
  · exact ho.salted n

/-- At each step of a scan the names of the tokens issued so far diverge, whatever becomes of the
scan, and so do those of all its tokens. Hence the tokens differ, at most one of them is found at any
place of any text, and no token is ever added twice. -/
theorem issued_tokens_prefixFree (hvalid : o.validate = .ok ()) (hp : p.DerivedFrom o)
    (width : Bytes → Nat) (document : Bytes) :
    (∀ s rest, Scan.Steps p width (.start, document) (s, rest) →
      Matcher.ofMap s.map = s.tokensRev.reverse.map IssuedToken.matcher ∧
      Matcher.Unambiguous (Matcher.ofMap s.map)) ∧
    (∀ t, scan p width document = .ok t →
      Matcher.ofMap t.map = t.tokens.map IssuedToken.matcher ∧
      Matcher.Unambiguous (Matcher.ofMap t.map)) ∧
    ∀ c, scan p width document ≠ .error (.collision c) := by
  have hsteps (s : Scan) (rest : Bytes) (h : Scan.Steps p width (.start, document) (s, rest)) :
      Matcher.ofMap s.map = s.tokensRev.reverse.map IssuedToken.matcher ∧
      Matcher.Unambiguous (Matcher.ofMap s.map) := by
    have hs := h.issuing (Scan.issuing_start (hp.legal hvalid))
    exact ⟨hs.ofMap_eq,hs.ofMap_eq ▸ hs.series.prefixFree.unambiguous⟩
  refine ⟨hsteps,?_,?_⟩
  · intro t hscan
    obtain ⟨f,hreads,rfl⟩ := exists_reads_of_scan_eq_ok hscan
    exact hsteps f [] hreads.steps
  · intro c hscan
    obtain ⟨number,shape,-,-,he⟩ := scan_error hscan
    cases he

/-- A stem that ends in a digit, and room for little more than the names. -/
def sampleDigits : Token.Options := ⟨"a1", 0x5F, 12⟩

/-- Eleven regions, so that both `_a11__` and `_a110__` are issued. -/
def sampleDigitsDocument : Bytes :=
  "<i <?=?><?=?><?=?><?=?><?=?><?=?><?=?><?=?><?=?><?=?><?=?>"

theorem issued_tokens_prefixFree_sampleDigits :
    sampleDigits.validate = .ok () ∧ sampleDigits.DerivedFrom sampleDigits ∧
    ∃ t, scan sampleDigits List.length sampleDigitsDocument = .ok t ∧
      Bytes.ofString "_a11__" ∈ t.map.keys ∧ Bytes.ofString "_a110__" ∈ t.map.keys ∧
      Matcher.Unambiguous (Matcher.ofMap t.map) := by
  have hvalid : sampleDigits.validate = .ok () := by decide +kernel
  have hkeys : ∃ t ∈ (scan sampleDigits List.length sampleDigitsDocument).toOption,
      Bytes.ofString "_a11__" ∈ t.map.keys ∧ Bytes.ofString "_a110__" ∈ t.map.keys := by
    decide +kernel
  obtain ⟨t,ht,hshort,hlong⟩ := hkeys
  have hscan : scan sampleDigits List.length sampleDigitsDocument = .ok t := by
    cases h : scan sampleDigits List.length sampleDigitsDocument with
    | error e => simp [h, Except.toOption] at ht
    | ok t' => simpa [h, Except.toOption] using ht
  have hfree := issued_tokens_prefixFree hvalid (.inl rfl) List.length sampleDigitsDocument
  exact ⟨hvalid,.inl rfl,t,hscan,hshort,hlong,(hfree.2.1 t hscan).2⟩

end Options
end Stencil
