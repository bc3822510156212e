import Stencil.Proofs.Scan.Layout

/-! Scans that fail. The names of the tokens of a scan are numbered, so none of them collides with an
earlier one; what can go wrong is that a token is too wide. -/
namespace Stencil

lemma Token.Options.render_eq_error {o : Token.Options} {number width : Nat} {shape : Shape}
    {e : Token.TooWide} (h : o.render number shape width = .error e) :
    o.maxWidth < o.minimalWidth number shape ∧
      e = ⟨number, o.minimalWidth number shape, o.maxWidth⟩ := by
  rw [render] at h
  by_cases hwide : o.maxWidth < o.minimalWidth number shape
  · simp only [hwide, if_true] at h
    exact ⟨hwide,(Except.error.inj h).symm⟩
  · simp [hwide] at h

namespace Scan
variable {o : Token.Options} {width : Bytes → Nat} {s s' : Scan} {e : ScanError}

/-- The map holds tokens with the numbers that have been given out. -/
def Numbered (o : Token.Options) (s : Scan) : Prop :=
  ∀ token ∈ s.map.keys, ∃ number shape padding, number < s.tokensRev.length ∧
    token = o.name number shape padding ++ Token.tail shape

lemma numbered_start (o : Token.Options) : start.Numbered o := by
  intro token htoken
  simp [start] at htoken

/-- The next token is new. -/
lemma Numbered.not_mem {shape : Shape} {padding : Nat} (h : s.Numbered o) :
    o.name s.tokensRev.length shape padding ++ Token.tail shape ∉ s.map.keys := by
  intro hmem
  obtain ⟨number,shape',padding',hlt,heq⟩ := h _ hmem
  have hname : o.name number shape' padding' <+:
      o.name s.tokensRev.length shape padding ++ Token.tail shape := by
    rw [heq]
    exact List.prefix_append _ _
  obtain ⟨hnumber,-⟩ := Token.Options.name_prefix_unique hname (List.prefix_append _ _)
  omega

lemma Numbered.emit {text : Bytes} {terminated : Bool} (h : s.Numbered o)
    (hs : s.emit o width text terminated = .ok s') : s'.Numbered o := by
  obtain ⟨rendered,hrender,rfl⟩ := emit_eq_ok hs
  obtain ⟨padding,hrendered⟩ := Token.Options.render_eq_ok hrender
  intro token htoken
  have hkeys : token ∈ s.map.keys ∨ token = rendered := by
    simpa [Token.Map.keys, or_comm] using htoken
  obtain hold | rfl := hkeys
  · obtain ⟨number,shape,padding,hlt,heq⟩ := h token hold
    exact ⟨number,shape,padding,Nat.lt_succ_of_lt hlt,heq⟩
  · exact ⟨s.tokensRev.length,_,padding,Nat.lt_succ_self _,hrendered⟩

/-- The only failure of reading a region. -/
lemma Numbered.emit_eq_error {text : Bytes} {terminated : Bool} (h : s.Numbered o)
    (he : s.emit o width text terminated = .error e) :
    o.maxWidth < o.minimalWidth s.tokensRev.length s.state.context.shape ∧
      e = .tooWide ⟨s.tokensRev.length, o.minimalWidth s.tokensRev.length s.state.context.shape,
        o.maxWidth⟩ := by
  cases hr : o.render s.tokensRev.length s.state.context.shape (width text) with
  | error wide =>
    simp only [Scan.emit, hr, Except.mapError, bind, Except.bind] at he
    obtain ⟨hwide,rfl⟩ := Token.Options.render_eq_error hr
    exact ⟨hwide,(Except.error.inj he).symm⟩
  | ok rendered =>
    obtain ⟨padding,hrendered⟩ := Token.Options.render_eq_ok hr
    cases ha : s.map.add rendered text with
    | error c =>
      have hmem := (Token.Map.add_eq_error ha).1
      rw [hrendered] at hmem
      exact absurd hmem h.not_mem
    | ok map =>
      simp [Scan.emit, hr, ha, Except.mapError, bind, Except.bind, pure, Except.pure] at he

/-- The failure of a scan that had no more than `n` numbers to give out. -/
def TooWideBelow (o : Token.Options) (n : Nat) (e : ScanError) : Prop :=
  ∃ number shape, number < n ∧ o.maxWidth < o.minimalWidth number shape ∧
    e = .tooWide ⟨number, o.minimalWidth number shape, o.maxWidth⟩

lemma Numbered.emit_error {text : Bytes} {terminated : Bool} (h : s.Numbered o)
    (he : s.emit o width text terminated = .error e) : TooWideBelow o (s.tokensRev.length + 1) e := by
  obtain ⟨hwide,rfl⟩ := h.emit_eq_error he
  exact ⟨s.tokensRev.length,_,Nat.lt_succ_self _,hwide,rfl⟩

/-- Every region has bytes, so a scan gives out fewer numbers than the document has bytes. -/
theorem Numbered.run_error {rest : Bytes} (h : s.Numbered o)
    (he : s.run o width rest = .error e) :
    TooWideBelow o (s.tokensRev.length + rest.length) e := by
  have hmono {m n : Nat} (hmn : m ≤ n) (hm : TooWideBelow o m e) : TooWideBelow o n e := by
    obtain ⟨number,shape,hlt,hwide,heq⟩ := hm
    exact ⟨number,shape,Nat.lt_of_lt_of_le hlt hmn,hwide,heq⟩
  induction s, rest using Scan.run.induct o width with
  | case1 s =>
    rw [run] at he
    cases he
  | case2 s c after r hr e' he' =>
    rw [run_of_atStart?_eq_some hr, he'] at he
    cases he
    refine hmono ?_ (h.emit_error he')
    rw [List.length_cons]
    omega
  | case3 s c after r hr s' hs _ ih =>
    rw [run_of_atStart?_eq_some hr, hs] at he
    refine hmono ?_ (ih (h.emit hs) he)
    obtain ⟨rendered,-,rfl⟩ := emit_eq_ok hs
    have hshorter := Region.atStart?_length hr
    rw [List.length_cons] at hshorter
    rw [List.length_cons, List.length_cons]
    omega
  | case4 s c after hr next ih =>
    rw [run_of_atStart?_eq_none hr] at he
    refine hmono ?_ (ih h he)
    rw [List.length_drop, List.length_cons]
    change s.tokensRev.length + _ ≤ _
    omega

end Scan

/-- A scan fails only for a token that is too wide, and its number is below the length of the
document. -/
theorem scan_error {o : Token.Options} {width : Bytes → Nat} {document : Bytes} {e : ScanError}
    (h : scan o width document = .error e) : Scan.TooWideBelow o document.length e := by
  unfold scan at h
  cases hrun : Scan.start.run o width document with
  | ok f => simp [hrun, Except.map] at h
  | error e' =>
    have he : e' = e := by simpa [hrun, Except.map] using h
    have herror := (Scan.numbered_start o).run_error hrun
    rw [he] at herror
    simpa [Scan.start] using herror

/-- With room for every number there is no failure. -/
theorem exists_scan_eq_ok {o : Token.Options} {document : Bytes}
    (h : ∀ number < document.length, ∀ shape, (o.minimalWidth number shape : Int) ≤ o.maxWidth)
    (width : Bytes → Nat) : ∃ t, scan o width document = .ok t := by
  cases hscan : scan o width document with
  | ok t => exact ⟨t,rfl⟩
  | error e =>
    obtain ⟨number,shape,hlt,hwide,-⟩ := scan_error hscan
    exact absurd (h number hlt shape) (Int.not_le.mpr hwide)

end Stencil
