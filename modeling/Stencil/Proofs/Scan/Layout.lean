import Stencil.Proofs.Restore.Substitution
import Stencil.Proofs.Scan.Regions

/-! What a scan leaves behind. A scan reads markup and regions one after the other; its placeholder
is the document with a token for each region, in the order of the regions, and its map holds these
tokens in that order. -/
namespace Stencil

namespace Markup

/-- Only the marks of comments are read in one go, and they hold no `<` after their first byte. -/
lemma ne_lt_of_mem_taken (s : State) (outputRev : Bytes) (c : UInt8) (after : Bytes) :
    ∀ d ∈ after.take ((step s outputRev c after).2 - 1), d ≠ 0x3C := by
  have hopen (h : commentOpen.isPrefixOf (c :: after)) : ∀ d ∈ after.take 3, d ≠ 0x3C := by
    obtain ⟨rest,hrest⟩ := List.isPrefixOf_iff_prefix.mp h
    obtain ⟨-,rfl⟩ := List.cons.inj hrest
    simp
  have hclose (h : commentClose.isPrefixOf (c :: after)) : ∀ d ∈ after.take 2, d ≠ 0x3C := by
    obtain ⟨rest,hrest⟩ := List.isPrefixOf_iff_prefix.mp h
    obtain ⟨-,rfl⟩ := List.cons.inj hrest
    simp
  cases s with
  | text =>
    simp only [step]
    split
    · split
      · next h => exact hopen h
      · split <;> simp
    · simp
  | tag name quote atValue => simp [step]
  | comment =>
    simp only [step]
    split
    · next h => exact hclose h
    · simp
  | rawText name =>
    simp only [step]
    split <;> simp

lemma take_step (s : State) (outputRev : Bytes) (c : UInt8) (after : Bytes) :
    (c :: after).take (step s outputRev c after).2 =
      c :: after.take ((step s outputRev c after).2 - 1) := by
  obtain ⟨n,hn⟩ := Nat.exists_eq_succ_of_ne_zero (step_pos s outputRev c after).ne'
  rw [hn, Nat.succ_eq_add_one, List.take_succ_cons, Nat.add_sub_cancel]

end Markup

namespace Part

/-- The piece of the document that the part stands for. -/
def chunk : Part → Region.Chunk
  | .markup c => .markup c
  | .token t _ => .region t.region.span.text t.region.terminated

/-- A tag is written with one space, as it was rendered. -/
def Plain : Part → Prop
  | .markup _ => True
  | .token _ blanks => blanks = [0x20]

@[simp] lemma tokens_map_markup (b : Bytes) : tokens (b.map .markup) = [] := by
  induction b with
  | nil => rfl
  | cons c b ih => rw [List.map_cons, tokens_markup, ih]

@[simp] lemma flatMap_text_markup (b : Bytes) : (b.map Part.markup).flatMap text = b := by
  induction b with
  | nil => rfl
  | cons c b ih => rw [List.map_cons, List.flatMap_cons, ih]; rfl

lemma flatMap_text_chunk (parts : List Part) :
    (parts.map chunk).flatMap Region.Chunk.text = parts.flatMap source := by
  rw [List.flatMap_map]
  exact List.flatMap_congr fun p _ => by cases p <;> rfl

lemma map_chunk_markup (b : Bytes) : (b.map Part.markup).map chunk = b.map .markup := by
  rw [List.map_map]
  rfl

end Part

namespace Scan
variable {o : Token.Options} {width : Bytes → Nat}

/-- The successful readings of the rest of a document. -/
inductive Reads (o : Token.Options) (width : Bytes → Nat) : Scan → Bytes → Scan → Prop
  | done (s : Scan) : Reads o width s [] s
  | markup {s f : Scan} {c : UInt8} {after : Bytes}
      (here : Region.atStart? (c :: after) = none)
      (rest : Reads o width
        (s.copy (Markup.step s.state s.outputRev c after).1
          ((c :: after).take (Markup.step s.state s.outputRev c after).2))
        (after.drop ((Markup.step s.state s.outputRev c after).2 - 1)) f) :
      Reads o width s (c :: after) f
  | region {s s' f : Scan} {b : Bytes} {r : Region.Extracted}
      (here : Region.atStart? b = some r) (emitted : s.emit o width r.text r.terminated = .ok s')
      (rest : Reads o width s' r.rest f) : Reads o width s b f

lemma Reads.eq_of_nil {s f : Scan} (h : Reads o width s [] f) : f = s := by
  cases h with
  | done => rfl
  | region here emitted rest => simp [Region.atStart?, Region.openerLength] at here

lemma run_of_atStart?_eq_none {s : Scan} {c : UInt8} {after : Bytes}
    (h : Region.atStart? (c :: after) = none) :
    s.run o width (c :: after) =
      (s.copy (Markup.step s.state s.outputRev c after).1
        ((c :: after).take (Markup.step s.state s.outputRev c after).2)).run o width
        (after.drop ((Markup.step s.state s.outputRev c after).2 - 1)) := by
  rw [run]
  split
  · next r hr => simp [h] at hr
  · rfl

lemma run_of_atStart?_eq_some {s : Scan} {b : Bytes} {r : Region.Extracted}
    (h : Region.atStart? b = some r) :
    s.run o width b = (s.emit o width r.text r.terminated).bind fun s' => s'.run o width r.rest := by
  cases b with
  | nil => simp [Region.atStart?, Region.openerLength] at h
  | cons c after =>
    rw [run]
    split
    · next r' hr =>
      rw [h] at hr
      obtain rfl := Option.some.inj hr
      split
      · next e he => rw [he]; rfl
      · next s' hs => rw [hs]; rfl
    · next hr => simp [h] at hr

theorem reads_of_run_eq_ok {s f : Scan} {b : Bytes} (h : s.run o width b = .ok f) :
    Reads o width s b f := by
  induction s, b using Scan.run.induct o width with
  | case1 s =>
    rw [run] at h
    cases h
    exact .done _
  | case2 s c after r hr e he =>
    rw [run_of_atStart?_eq_some hr, he] at h
    cases h
  | case3 s c after r hr s' hs _ ih =>
    rw [run_of_atStart?_eq_some hr, hs] at h
    exact .region hr hs (ih h)
  | case4 s c after hr next ih =>
    rw [run_of_atStart?_eq_none hr] at h
    exact .markup hr (ih h)

/-- The token that a scan issues for a region. -/
def issue (s : Scan) (rendered text : Bytes) (terminated : Bool) : IssuedToken where
  number := s.tokensRev.length
  shape := s.state.context.shape
  rendered := rendered
  region := ⟨⟨s.offset, text⟩, s.state.context, terminated⟩

/-- A region is read by rendering its token and adding it to the map. -/
theorem emit_eq_ok {s s' : Scan} {text : Bytes} {terminated : Bool}
    (h : s.emit o width text terminated = .ok s') :
    ∃ rendered, o.render s.tokensRev.length s.state.context.shape (width text) = .ok rendered ∧
      s' = { state := s.state.afterRegion
             outputRev := rendered.reverse ++ s.outputRev
             tokensRev := s.issue rendered text terminated :: s.tokensRev
             map := ⟨s.map.entries ++ [(rendered, text)]⟩
             offset := s.offset + text.length } := by
  cases hr : o.render s.tokensRev.length s.state.context.shape (width text) with
  | error e =>
    simp [emit, hr, Except.mapError, bind, Except.bind] at h
  | ok rendered =>
    refine ⟨rendered,rfl,?_⟩
    cases ha : s.map.add rendered text with
    | error e =>
      simp [emit, hr, ha, Except.mapError, bind, Except.bind] at h
    | ok map =>
      rw [← (Token.Map.add_eq_ok ha).2]
      simp only [emit, hr, ha, Except.mapError, bind, Except.bind, pure, Except.pure] at h
      exact (Except.ok.inj h).symm

lemma issuedBy_issue {s : Scan} {rendered b : Bytes} {r : Region.Extracted}
    (hr : Region.atStart? b = some r)
    (h : o.render s.tokensRev.length s.state.context.shape (width r.text) = .ok rendered) :
    (s.issue rendered r.text r.terminated).IssuedBy o :=
  ⟨Token.Options.render_eq_ok h,rfl,Region.openerLength_text_pos hr⟩

/-- What reading a stretch of a document adds to a scan. -/
structure Extends (o : Token.Options) (s f : Scan) (parts : List Part) : Prop where
  output : f.outputRev = (parts.flatMap Part.text).reverse ++ s.outputRev
  tokens : f.tokensRev = (Part.tokens parts).reverse ++ s.tokensRev
  entries : f.map.entries = s.map.entries ++ (Part.tokens parts).map IssuedToken.entry
  issued : ∀ t ∈ Part.tokens parts, t.IssuedBy o
  numbers : (Part.tokens parts).map (·.number) =
    List.range' s.tokensRev.length (Part.tokens parts).length
  plain : ∀ p ∈ parts, p.Plain

namespace Extends

lemma refl (s : Scan) : Extends o s s [] := by
  constructor <;> simp

lemma trans {s m f : Scan} {ps qs : List Part} (h : Extends o s m ps) (k : Extends o m f qs) :
    Extends o s f (ps ++ qs) where
  output := by simp [k.output, h.output]
  tokens := by simp [k.tokens, h.tokens]
  entries := by simp [k.entries, h.entries]
  issued t ht := by
    rw [Part.tokens_append, List.mem_append] at ht
    exact ht.elim (h.issued t) (k.issued t)
  numbers := by
    have hlen : m.tokensRev.length = s.tokensRev.length + (Part.tokens ps).length := by
      simp [h.tokens, Nat.add_comm]
    rw [Part.tokens_append, List.map_append, h.numbers, k.numbers, hlen, List.range'_append_1,
      List.length_append]
  plain p hp := (List.mem_append.mp hp).elim (h.plain p) (k.plain p)

lemma copy (s : Scan) (state : Markup.State) (markup : Bytes) :
    Extends o s (s.copy state markup) (markup.map .markup) := by
  constructor <;> simp [Scan.copy, Part.Plain]

lemma emit {s s' : Scan} {r : Region.Extracted} {b : Bytes} (hr : Region.atStart? b = some r)
    (h : s.emit o width r.text r.terminated = .ok s') :
    ∃ t, t.region.span.text = r.text ∧ t.region.terminated = r.terminated ∧
      Extends o s s' [.token t [0x20]] := by
  obtain ⟨rendered,hrender,rfl⟩ := emit_eq_ok h
  have hissued := issuedBy_issue hr hrender
  have hwritten : (s.issue rendered r.text r.terminated).written [0x20] = rendered :=
    hissued.written_blank
  refine ⟨s.issue rendered r.text r.terminated,rfl,rfl,?_⟩
  exact {
    output := by simp [Part.text, hwritten]
    tokens := by simp
    entries := by simp [IssuedToken.entry, issue]
    issued := by simp [hissued]
    numbers := by simp [issue]
    plain := by simp [Part.Plain] }

end Extends

/-- A reading lays the document out: markup stays, and each region has its token. -/
theorem Reads.extends {s f : Scan} {b : Bytes} (h : Reads o width s b f) :
    ∃ parts, Extends o s f parts ∧ parts.map Part.chunk = Region.split b := by
  induction h with
  | done s => exact ⟨[],.refl s,by simp⟩
  | @markup s f c after here rest ih =>
    obtain ⟨parts,hext,hsplit⟩ := ih
    refine ⟨_,(Extends.copy ..).trans hext,?_⟩
    rw [List.map_append, hsplit, Region.split_of_atStart?_eq_none here, Markup.take_step,
      Region.split_eq_take_append _ (Markup.ne_lt_of_mem_taken s.state s.outputRev c after),
      Part.map_chunk_markup]
    rfl
  | @region s s' f b r here emitted rest ih =>
    obtain ⟨parts,hext,hsplit⟩ := ih
    obtain ⟨t,htext,hterm,ht⟩ := Extends.emit here emitted
    refine ⟨_,ht.trans hext,?_⟩
    rw [Region.split_of_atStart?_eq_some here, ← hsplit, ← htext, ← hterm]
    rfl

end Scan

/-- Puts tokens in the places of regions, one after the other. -/
def Part.place : List Region.Chunk → List IssuedToken → List Part
  | .markup c :: chunks, ts => .markup c :: place chunks ts
  | .region _ _ :: chunks, t :: ts => .token t [0x20] :: place chunks ts
  | _, _ => []

lemma Part.place_chunks {parts : List Part} (h : ∀ p ∈ parts, p.Plain) :
    place (parts.map chunk) (tokens parts) = parts := by
  induction parts with
  | nil => rfl
  | cons p parts ih =>
    have hrest := ih (fun q hq => h q (List.mem_cons_of_mem _ hq))
    cases p with
    | markup c =>
      rw [List.map_cons, tokens_markup, chunk, place, hrest]
    | token t blanks =>
      have hb : blanks = [0x20] := h (.token t blanks) (List.mem_cons_self ..)
      rw [List.map_cons, tokens_token, chunk, place, hrest, hb]

namespace Tokenized

/-- Where the tokens stand: the document cut at its regions, with a token for each of them. -/
def layout (t : Tokenized) (document : Bytes) : List Part :=
  Part.place (Region.split document) t.tokens

/-- What one pass over a document gives. -/
structure LaidOut (o : Token.Options) (document : Bytes) (t : Tokenized) : Prop where
  series : IssuedToken.Series o t.tokens
  chunks : (t.layout document).map Part.chunk = Region.split document
  tokens : Part.tokens (t.layout document) = t.tokens
  placeholder : (t.layout document).flatMap Part.text = t.placeholder
  map : t.map = ⟨t.tokens.map IssuedToken.entry⟩
  plain : ∀ p ∈ t.layout document, p.Plain

end Tokenized

lemma exists_reads_of_scan_eq_ok {o : Token.Options} {width : Bytes → Nat} {document : Bytes}
    {t : Tokenized} (h : scan o width document = .ok t) :
    ∃ f, Scan.Reads o width .start document f ∧ f.finish = t := by
  unfold scan at h
  cases hrun : Scan.start.run o width document with
  | error e => simp [hrun, Except.map] at h
  | ok f => exact ⟨f,Scan.reads_of_run_eq_ok hrun,by simpa [hrun, Except.map] using h⟩

/-- A scan that succeeds lays the document out. -/
theorem laidOut_of_scan_eq_ok {o : Token.Options} {width : Bytes → Nat} {document : Bytes}
    {t : Tokenized} (ho : o.Legal) (h : scan o width document = .ok t) : t.LaidOut o document := by
  obtain ⟨f,hreads,ht⟩ := exists_reads_of_scan_eq_ok h
  obtain ⟨parts,hext,hchunks⟩ := hreads.extends
  have htokens : t.tokens = Part.tokens parts := by
    simp [← ht, Scan.finish, hext.tokens, Scan.start]
  have hlayout : t.layout document = parts := by
    rw [Tokenized.layout, ← hchunks, htokens, Part.place_chunks hext.plain]
  refine ⟨⟨ho,?_,?_⟩,?_,?_,?_,?_,?_⟩
  · rw [htokens]
    exact hext.issued
  · rw [htokens, hext.numbers, List.range_eq_range']
    rfl
  · rw [hlayout, hchunks]
  · rw [hlayout, htokens]
  · rw [hlayout]
    simp [← ht, Scan.finish, hext.output, Scan.start]
  · have hentries : f.map.entries = (Part.tokens parts).map IssuedToken.entry := by
      simpa [Scan.start, Token.Map.empty] using hext.entries
    rw [htokens, ← hentries, ← ht]
    rfl
  · rw [hlayout]
    exact hext.plain

/-- The result of `tryStems` is that of a scan whose placeholder restores to the document. -/
lemma tryStems_eq_ok {width : Bytes → Nat} {first last document : Bytes} {os : List Token.Options}
    {t : Tokenized} {used : Token.Options}
    (h : tryStems width first last document os = .ok (t, used)) :
    used ∈ os ∧ scan used width document = .ok t ∧ (restore t.placeholder t.map).text = document := by
  induction os generalizing last with
  | nil => simp [tryStems] at h
  | cons o os ih =>
    unfold tryStems at h
    split at h
    · contradiction
    · next t' hscan =>
      split at h
      · next hrestore =>
        obtain ⟨rfl,rfl⟩ := Prod.mk.inj (Except.ok.inj h)
        exact ⟨List.mem_cons_self ..,hscan,hrestore⟩
      · obtain ⟨hmem,hrest⟩ := ih h
        exact ⟨List.mem_cons_of_mem _ hmem,hrest⟩

/-- Tokenizing is a scan with legal options whose placeholder restores to the document. -/
theorem tokenizeWith_eq_ok {o used : Token.Options} {width : Bytes → Nat} {document : Bytes}
    {t : Tokenized} (h : tokenizeWith width o document = .ok (t, used)) :
    used.Legal ∧ scan used width document = .ok t ∧
      (restore t.placeholder t.map).text = document := by
  unfold tokenizeWith at h
  split at h
  · contradiction
  · next hvalid =>
    obtain ⟨hused,hscan,hrestore⟩ := tryStems_eq_ok h
    exact ⟨((Token.Options.validate_eq_ok_iff o).mp hvalid).1.attempts hused,hscan,hrestore⟩

end Stencil
