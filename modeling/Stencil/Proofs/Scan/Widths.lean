import Mathlib.Order.Bounds.Basic
import Stencil.Proofs.Scan.PrefixFree
import Stencil.Proofs.Scan.Stems

/-! How wide tokens are. A token is as wide as its region, but never wider than the options allow and
never narrower than its name; and a scan fails only where the name alone is too wide, at the first
region of this kind. -/
namespace Stencil

namespace Token.Options
variable {o : Options} {number width : Nat} {shape : Shape} {b : Bytes}

/-- Stem, digits and two underscores, between what a token starts and ends with. -/
lemma minimalWidth_eq (o : Options) (number : Nat) (shape : Shape) : o.minimalWidth number shape =
    (lead shape).length + o.stem.length + (Bytes.ofNat number).length + 2 + (tail shape).length := by
  rw [minimalWidth, payload, List.length_append, List.length_append]
  simp [Nat.add_assoc]

/-- A token is padded up to the width of its region, as far as there is room. -/
theorem length_of_render_eq_ok (h : o.render number shape width = .ok b) :
    (b.length : Int) = max (o.minimalWidth number shape : Int) (min (width : Int) o.maxWidth) := by
  obtain ⟨hfits,rfl⟩ := render_eq_ok_iff.mp h
  have hlength : (o.name number shape (o.targetWidth number shape width -
      o.minimalWidth number shape) ++ tail shape).length = o.targetWidth number shape width := by
    have htarget : o.minimalWidth number shape ≤ o.targetWidth number shape width :=
      Nat.le_max_right _ _
    simp only [name, List.length_append, List.length_replicate]
    rw [minimalWidth] at htarget ⊢
    omega
  rw [hlength, targetWidth]
  omega

/-- The token of the region at this place does not fit, if it is numbered by its place. -/
def Overflows (o : Options) (regions : List (Bytes × Context)) (i : Nat) : Prop :=
  ∃ r, regions[i]? = some r ∧ o.maxWidth < o.minimalWidth i r.2.shape

/-- The number of a region below ten has one digit, and no token is wider than a tag. -/
lemma minimalWidth_le_of_lt_ten (o : Options) (hnumber : number < 10) (shape : Shape) :
    o.minimalWidth number shape ≤ o.minimalWidth 0 .tag := by
  have hdigits := length_ofNat_le (n := number) (k := 1) (by decide) hnumber
  have hzero : (Bytes.ofNat 0).length = 1 := by decide
  have hshape : (lead shape).length + (tail shape).length ≤
      (lead .tag).length + (tail .tag).length := by cases shape <;> decide
  rw [minimalWidth_eq, minimalWidth_eq]
  omega

end Token.Options

namespace Scan
open Markup
variable {o : Token.Options} {width : Bytes → Nat} {document : Bytes} {s s' f : Scan} {e : ScanError}

/-- The error of a scan of regions that are numbered from `n`: the first that does not fit. -/
def FailsFrom (o : Token.Options) (n : Nat) (regions : List (Bytes × Context)) (e : ScanError) :
    Prop :=
  ∃ i r, regions[i]? = some r ∧ o.maxWidth < o.minimalWidth (n + i) r.2.shape ∧
    (∀ j < i, ∀ q, regions[j]? = some q →
      (o.minimalWidth (n + j) q.2.shape : Int) ≤ o.maxWidth) ∧
    e = .tooWide ⟨n + i, o.minimalWidth (n + i) r.2.shape, o.maxWidth⟩

lemma FailsFrom.cons {n : Nat} {q : Bytes × Context} {regions : List (Bytes × Context)}
    (hfits : (o.minimalWidth n q.2.shape : Int) ≤ o.maxWidth)
    (h : FailsFrom o (n + 1) regions e) : FailsFrom o n (q :: regions) e := by
  obtain ⟨i,r,hr,hwide,hbefore,he⟩ := h
  have hshift (j : Nat) : n + 1 + j = n + (j + 1) := by omega
  rw [hshift] at hwide he
  refine ⟨i + 1,r,hr,hwide,?_,he⟩
  intro j hj q' hq'
  cases j with
  | zero =>
    obtain rfl : q = q' := by simpa using hq'
    exact hfits
  | succ j =>
    rw [← hshift]
    exact hbefore j (by omega) q' (by simpa using hq')

/-- A scan that fails does so at the first region whose token is too wide. -/
theorem Numbered.run_eq_error {rest : Bytes} (ho : o.Legal) (h : s.Numbered o)
    (he : s.run o width rest = .error e) : ∀ readRev, selfClosed s.outputRev = selfClosed readRev →
      FailsFrom o s.tokensRev.length (classify s.state readRev rest) e := by
  induction s, rest using Scan.run.induct o width with
  | case1 s =>
    rw [run] at he
    cases he
  | case2 s c after r hr e' he' =>
    intro readRev _
    rw [run_of_atStart?_eq_some hr, he'] at he
    cases he
    obtain ⟨hwide,rfl⟩ := h.emit_eq_error he'
    rw [classify_of_atStart?_eq_some hr]
    exact ⟨0,_,rfl,hwide,fun j hj => absurd hj (Nat.not_lt_zero j),rfl⟩
  | case3 s c after r hr s' hs _ ih =>
    intro readRev hread
    rw [run_of_atStart?_eq_some hr, hs] at he
    have hnumbered := h.emit hs
    obtain ⟨rendered,hrender,rfl⟩ := emit_eq_ok hs
    rw [classify_of_atStart?_eq_some hr]
    obtain hrest | hclosed := Region.selfClosed_text hr readRev
    · -- nothing follows that could fail
      rw [hrest] at he
      simp [Except.bind, run] at he
    · have hissued := issuedBy_issue hr hrender
      have hread' := (hissued.selfClosed_rendered ho s.outputRev).trans hclosed.symm
      exact (ih hnumbered he _ hread').cons (Token.Options.render_eq_ok_iff.mp hrender).1
  | case4 s c after hr next ih =>
    intro readRev hread
    rw [run_of_atStart?_eq_none hr] at he
    rw [classify_of_atStart?_eq_none hr, ← step_congr hread]
    exact ih h he _ (selfClosed_append_congr hread _)

/-- Each token was rendered for its number, its shape and the width of its region. -/
lemma Reads.render_eq (h : Reads o width .start document f) {t : IssuedToken}
    (ht : t ∈ f.tokensRev) :
    o.render t.number t.shape (width t.region.span.text) = .ok t.rendered := by
  obtain hnone | ⟨u,u',b,r,-,-,emitted,htokens⟩ := h.exists_issued ht
  · exact absurd hnone List.not_mem_nil
  · obtain ⟨rendered,hrender,rfl⟩ := emit_eq_ok emitted
    obtain rfl := (List.cons.inj htokens).1
    exact hrender

end Scan

/-- The regions of a document, each with its context. -/
def Markup.regions (document : Bytes) : List (Bytes × Context) := classify .text [] document

/-- The token of a region: its parts, and a width between that of its name and the greatest allowed. -/
structure Token.Options.Renders (o : Options) (width : Bytes → Nat) (i : Nat) (r : Bytes × Context)
    (s : IssuedToken) : Prop where
  number : s.number = i
  shape : s.shape = r.2.shape
  text : s.region.span.text = r.1
  rendered : ∃ n, s.rendered = lead r.2.shape ++ o.stem ++ Bytes.ofNat i ++ [0x5F, 0x5F] ++
    List.replicate n o.filler ++ tail r.2.shape
  length : (s.rendered.length : Int) =
    max (o.minimalWidth i r.2.shape : Int) (min (width r.1 : Int) o.maxWidth)
  length_le : (s.rendered.length : Int) ≤ o.maxWidth

section Document
variable {o p : Token.Options} {width : Bytes → Nat} {document : Bytes} {t : Tokenized} {e : ScanError}

/-- The regions with their contexts are the regions of the document in order. With enough room there
is a scan that finds them. -/
theorem exists_regionsFrom_regions (document : Bytes) : ∃ spans,
    Region.RegionsFrom document 0 spans ∧
      spans.map (·.1.text) = (Markup.regions document).map (·.1) := by
  have hroom (number : Nat) (hnumber : number < document.length) (shape : Shape) :
      ({ Token.Options.default with maxWidth := document.length + 10 }.minimalWidth number shape : Int)
        ≤ document.length + 10 := by
    have hdigits := Token.length_ofNat_le (k := document.length) (by omega)
      (hnumber.trans (Nat.lt_pow_self (by decide)))
    have hshape : (Token.lead shape).length + (Token.tail shape).length ≤ 4 := by
      cases shape <;> decide
    have hstem : Token.Options.default.stem.length = 4 := by decide
    rw [Token.Options.minimalWidth_eq, hstem]
    omega
  obtain ⟨t,hscan⟩ := exists_scan_eq_ok hroom List.length
  have hlegal : Token.Options.Legal { Token.Options.default with maxWidth := document.length + 10 } :=
    ⟨Token.legal_default.start,Token.legal_default.stem,Token.legal_default.filler⟩
  refine ⟨_,(cuts_of_scan_eq_ok hscan).1,?_⟩
  rw [Markup.regions, ← classify_of_scan_eq_ok hlegal hscan, List.map_map, List.map_map]
  rfl

/-- There is one token for each region, and it is the one of its number. -/
theorem renders_of_scan_eq_ok (ho : o.Legal) (h : scan o width document = .ok t) :
    t.tokens.length = (Markup.regions document).length ∧
    ∀ i r, (Markup.regions document)[i]? = some r → ∃ s, t.tokens[i]? = some s ∧
      o.Renders width i r s := by
  have hregions := classify_of_scan_eq_ok ho h
  have hseries := (laidOut_of_scan_eq_ok ho h).series
  obtain ⟨f,hreads,rfl⟩ := exists_reads_of_scan_eq_ok h
  rw [Markup.regions, ← hregions]
  refine ⟨(List.length_map _).symm,?_⟩
  intro i r hr
  rw [List.getElem?_map] at hr
  obtain ⟨s,hs,rfl⟩ := Option.map_eq_some_iff.mp hr
  have hmem := List.mem_of_getElem? hs
  have hnumber : s.number = i := by
    obtain ⟨hi,rfl⟩ := List.getElem?_eq_some_iff.mp hs
    exact hseries.number_getElem i hi
  have hshape := (hseries.issued s hmem).shape
  have hrender := hreads.render_eq (List.mem_reverse.mp hmem)
  rw [hnumber, hshape] at hrender
  have hlength := Token.Options.length_of_render_eq_ok hrender
  obtain ⟨hfits,hrendered⟩ := Token.Options.render_eq_ok_iff.mp hrender
  rw [Token.Options.name, Token.Options.payload, ← List.append_assoc, ← List.append_assoc]
    at hrendered
  have hle : (s.rendered.length : Int) ≤ o.maxWidth := by
    rw [hlength]
    exact max_le hfits (min_le_right _ _)
  exact ⟨s,hs,hnumber,hshape,rfl,⟨_,hrendered⟩,hlength,hle⟩

/-- A scan fails exactly at the first region whose token is too wide. -/
theorem scan_eq_error_iff (ho : o.Legal) : scan o width document = .error e ↔
    ∃ i r, (Markup.regions document)[i]? = some r ∧
      IsLeast {j | o.Overflows (Markup.regions document) j} i ∧
      e = .tooWide ⟨i, o.minimalWidth i r.2.shape, o.maxWidth⟩ := by
  have hfirst {e : ScanError} (h : scan o width document = .error e) :
      ∃ i r, (Markup.regions document)[i]? = some r ∧
        IsLeast {j | o.Overflows (Markup.regions document) j} i ∧
        e = .tooWide ⟨i, o.minimalWidth i r.2.shape, o.maxWidth⟩ := by
    have hrun : Scan.start.run o width document = .error e := by
      cases hrun : Scan.start.run o width document with
      | ok f => simp [scan, hrun, Except.map] at h
      | error e' => simpa [scan, hrun, Except.map] using h
    obtain ⟨i,r,hr,hwide,hbefore,he⟩ := (Scan.numbered_start o).run_eq_error ho hrun [] rfl
    simp only [Scan.start, List.length_nil, Nat.zero_add] at hwide hbefore he
    refine ⟨i,r,hr,⟨⟨r,hr,hwide⟩,?_⟩,he⟩
    rintro j ⟨q,hq,hqwide⟩
    by_contra hlt
    exact absurd (hbefore j (Nat.lt_of_not_le hlt) q hq) (Int.not_le.mpr hqwide)
  refine ⟨hfirst,?_⟩
  rintro ⟨i,r,hr,hleast,rfl⟩
  cases hscan : scan o width document with
  | ok t =>
    obtain ⟨q,hq,hwide⟩ := hleast.1
    obtain ⟨s,-,hrenders⟩ := (renders_of_scan_eq_ok ho hscan).2 i q hq
    have hle := hrenders.length_le
    rw [hrenders.length] at hle
    exact absurd ((le_max_left _ _).trans hle) (Int.not_le.mpr hwide)
  | error e =>
    obtain ⟨i',r',hr',hleast',rfl⟩ := hfirst hscan
    obtain rfl := hleast.unique hleast'
    obtain rfl := Option.some.inj (hr.symm.trans hr')
    rfl

/-- The width of tokens. A scan fails exactly if the name of some token is too wide, with the first
that is; if it succeeds, each region has a token as wide as the region is, within the limits of its
name and of the options. With a stem that is not salted ten regions always fit. -/
theorem scan_width_law (hvalid : o.validate = .ok ()) (hp : p.DerivedFrom o) (width : Bytes → Nat)
    (document : Bytes) :
    (∃ spans, Region.RegionsFrom document 0 spans ∧
      spans.map (·.1.text) = (Markup.regions document).map (·.1)) ∧
    (∀ i shape, p.minimalWidth i shape = (Token.lead shape).length + p.stem.length +
      (Bytes.ofNat i).length + 2 + (Token.tail shape).length) ∧
    (∀ e, scan p width document = .error e ↔
      ∃ i r, (Markup.regions document)[i]? = some r ∧
        IsLeast {j | p.Overflows (Markup.regions document) j} i ∧
        e = .tooWide ⟨i, p.minimalWidth i r.2.shape, p.maxWidth⟩) ∧
    ((∀ i, ¬p.Overflows (Markup.regions document) i) → ∃ t, scan p width document = .ok t) ∧
    (∀ t, scan p width document = .ok t →
      t.tokens.length = (Markup.regions document).length ∧
      ∀ i r, (Markup.regions document)[i]? = some r → ∃ s, t.tokens[i]? = some s ∧
        p.Renders width i r s) ∧
    ((Markup.regions document).length ≤ 10 → ∃ t, scan o width document = .ok t) := by
  have hlegal := hp.legal hvalid
  obtain ⟨ho,hroom⟩ := (Token.Options.validate_eq_ok_iff o).mp hvalid
  have hfits {q : Token.Options} (hq : q.Legal)
      (h : ∀ i, ¬q.Overflows (Markup.regions document) i) : ∃ t, scan q width document = .ok t := by
    cases hscan : scan q width document with
    | ok t => exact ⟨t,rfl⟩
    | error e =>
      obtain ⟨i,r,-,hleast,-⟩ := (scan_eq_error_iff hq).mp hscan
      exact absurd hleast.1 (h i)
  refine ⟨exists_regionsFrom_regions document,p.minimalWidth_eq,fun e => scan_eq_error_iff hlegal,
    hfits hlegal,fun t ht => renders_of_scan_eq_ok hlegal ht,?_⟩
  intro hten
  apply hfits ho
  rintro i ⟨r,hr,hwide⟩
  have hi := (List.getElem?_eq_some_iff.mp hr).1
  have hle := o.minimalWidth_le_of_lt_ten (Nat.lt_of_lt_of_le hi hten) r.2.shape
  omega

/-- Room for a tag with one digit. -/
def sampleNarrow : Token.Options := ⟨"php_", 0x5F, 11⟩

/-- Twelve regions. The eleventh is in a tag, where a second digit still fits; the twelfth is not. -/
def sampleNarrowDocument : Bytes :=
  "<?=?><?=?><?=?><?=?><?=?><?=?><?=?><?=?><?=?><?=?><i <?=?>><?=?>"

theorem scan_width_law_sampleNarrow :
    sampleNarrow.validate = .ok () ∧ sampleNarrow.DerivedFrom sampleNarrow ∧
    scan sampleNarrow List.length sampleNarrowDocument = .error (.tooWide ⟨11, 12, 11⟩) ∧
    IsLeast {j | sampleNarrow.Overflows (Markup.regions sampleNarrowDocument) j} 11 ∧
    (Markup.regions sampleUnclosed).length ≤ 10 ∧
    ∃ t, scan sampleNarrow List.length sampleUnclosed = .ok t ∧ t.tokens.length = 2 := by
  have hvalid : sampleNarrow.validate = .ok () := by decide +kernel
  have hfails : scan sampleNarrow List.length sampleNarrowDocument =
      .error (.tooWide ⟨11, 12, 11⟩) := by decide +kernel
  have hfew : (Markup.regions sampleUnclosed).length = 2 := by decide +kernel
  obtain ⟨-,-,herror,-⟩ := scan_width_law hvalid (.inl rfl) List.length sampleNarrowDocument
  obtain ⟨-,-,-,-,hok,hten⟩ := scan_width_law hvalid (.inl rfl) List.length sampleUnclosed
  obtain ⟨i,r,-,hleast,he⟩ := (herror _).mp hfails
  obtain rfl : 11 = i := congrArg Token.TooWide.number (ScanError.tooWide.inj he)
  obtain ⟨t,ht⟩ := hten (by omega)
  exact ⟨hvalid,.inl rfl,hfails,hleast,by omega,t,ht,(hok t ht).1.trans hfew⟩

end Document
end Stencil
