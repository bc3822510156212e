import Stencil.Cli.Run
import Stencil.Proofs.Config.Loading
import Stencil.Proofs.Files.Writing
import Stencil.Proofs.Restore.Sources
import Stencil.Proofs.Scan.Cutting
import Stencil.Proofs.Token.Encoding

/-! The two commands in a row. What `tokenize` prints and writes is all that `restore` needs: it
prints the document again, with U+FFFD in place of each byte of a region that belongs to no
character. -/
namespace Stencil
open Text

/-! ## The map between the commands -/

/-- Tokens are ASCII, so no byte of them is stray. -/
lemma IssuedToken.IssuedBy.isValid_rendered {o : Token.Options} {t : IssuedToken}
    (h : t.IssuedBy o) (ho : o.Legal) : Utf8.isValid t.rendered = true := by
  have hlead : ∀ c ∈ Token.lead t.shape, c.toNat < 0x80 := by cases t.shape <;> simp [Token.lead]
  have htail : ∀ c ∈ Token.tail t.shape, c.toNat < 0x80 := by cases t.shape <;> simp [Token.tail]
  have hname {c : UInt8} (hc : Markup.isNameByte c = true) : c.toNat < 0x80 := by
    simp [Markup.isNameByte, Bytes.isLetter, Bytes.isLower, Bytes.isUpper, Bytes.isDigit,
      UInt8.le_iff_toNat_le, ← UInt8.toNat_inj] at hc
    omega
  obtain ⟨p,hp⟩ := h.rendered
  refine Utf8.isValid_of_ascii fun c hc => ?_
  rw [hp, Token.Options.name, Token.Options.payload] at hc
  simp only [List.mem_append] at hc
  obtain ((hc | ((hc | hc) | hc)) | hc) | hc := hc
  · exact hlead c hc
  · exact hname (ho.stem c hc)
  · exact hname (by simp [Markup.isNameByte, Bytes.isDigit_of_mem_ofNat hc])
  · have hunderscore : c = 0x5F := by simpa using hc
    rw [hunderscore]
    decide
  · have hfiller := ho.filler
    simp only [Token.isFiller, Bool.or_eq_true, beq_iff_eq] at hfiller
    rw [List.eq_of_mem_replicate hc]
    obtain (hf | hf) | hf := hfiller <;> rw [hf] <;> decide
  · exact htail c hc

/-- Of the map that was written, the tokens are read back as they are and the sources without their
stray bytes. -/
theorem decode_map_tokenized {width : Bytes → Nat} {o used : Token.Options} {document : Bytes}
    {t : Tokenized} (h : tokenizeWith width o document = .ok (t, used)) (m : Token.Map) :
    m.decode (t.map.encodeIndented ++ "\n") = (t.map.mapSource Utf8.scrub, none) := by
  obtain ⟨hlegal,hscan,-⟩ := tokenizeWith_eq_ok h
  have hlaid := laidOut_of_scan_eq_ok hlegal hscan
  have hscrubbed : t.map.scrubbed = t.map.mapSource Utf8.scrub := by
    rw [hlaid.map]
    refine congrArg Token.Map.mk (List.map_congr_left fun e he => ?_)
    obtain ⟨s,hs,rfl⟩ := List.mem_map.mp he
    have hvalid := (hlaid.series.issued s hs).isValid_rendered hlegal
    exact congrArg (·, _) ((Utf8.scrub_eq_self_iff _).mpr hvalid)
  have hkeys : (t.map.mapSource Utf8.scrub).keys = t.tokens.map (·.rendered) := by
    simp [hlaid.map, Token.Map.keys, Token.Map.mapSource, IssuedToken.entry]
  have hblank : Json.Blanks ['\n'] := by simp [Json.Blanks, Json.isBlank]
  have hnodup : t.map.scrubbed.keys.Nodup := by
    rw [hscrubbed, hkeys]
    exact hlaid.series.nodup_rendered
  rw [← hscrubbed]
  exact Token.Map.decode_encodeIndented m hnodup hblank

/-! ## What comes back of a document -/

namespace Region

/-- The number of bytes of regions that belong to no character. -/
def strays : List Chunk → Nat
  | [] => 0
  | .markup _ :: chunks => strays chunks
  | .region text _ :: chunks => Utf8.strays text + strays chunks

lemma length_textWith_scrub (chunks : List Chunk) :
    (chunks.flatMap (Chunk.textWith Utf8.scrub)).length =
      (chunks.flatMap Chunk.text).length + 2 * strays chunks := by
  induction chunks with
  | nil => rfl
  | cons chunk chunks ih =>
    rw [List.flatMap_cons, List.flatMap_cons, List.length_append, List.length_append, ih]
    cases chunk with
    | markup c =>
      simp only [Chunk.textWith, Chunk.text, strays]
      omega
    | region text terminated =>
      simp only [Chunk.textWith, Chunk.text, strays, Utf8.length_scrub]
      omega

lemma strays_eq_zero_iff {chunks : List Chunk} :
    strays chunks = 0 ↔
      ∀ text terminated, .region text terminated ∈ chunks → Utf8.isValid text = true := by
  induction chunks with
  | nil => simp [strays]
  | cons chunk chunks ih =>
    cases chunk with
    | markup c => simp [strays, ih]
    | region text terminated =>
      rw [strays, Nat.add_eq_zero_iff, ih, ← Utf8.isValid_iff]
      constructor
      · rintro ⟨htext,hrest⟩ text' terminated' hmem
        obtain heq | hmem := List.mem_cons.mp hmem
        · cases heq
          exact htext
        · exact hrest text' terminated' hmem
      · intro h
        exact ⟨h text terminated (List.mem_cons_self ..),
          fun text' terminated' hmem => h text' terminated' (List.mem_cons_of_mem _ hmem)⟩

/-- A document comes back exactly if every region is made of characters. -/
theorem textWith_scrub_split_eq_iff (document : Bytes) :
    (split document).flatMap (Chunk.textWith Utf8.scrub) = document ↔
      ∀ text terminated, .region text terminated ∈ split document → Utf8.isValid text = true := by
  rw [← strays_eq_zero_iff]
  constructor
  · intro h
    have hlength := length_textWith_scrub (split document)
    rw [h, flatMap_text_split] at hlength
    omega
  · intro h
    refine Eq.trans (List.flatMap_congr fun chunk hchunk => ?_) (flatMap_text_split document)
    cases chunk with
    | markup c => rfl
    | region text terminated =>
      exact (Utf8.scrub_eq_self_iff text).mpr (strays_eq_zero_iff.mp h text terminated hchunk)

end Region

namespace Cli
open Session

/-! ## Running the commands -/

/-- What a command reads that is given a file or the input. -/
def given (files : FileSystem) (input file : Bytes) : Except Failure Bytes :=
  if file = standardInput then .ok input else files.read file

/-- Where `tokenize` writes its map. -/
def TokenizeRequest.mapPath (r : TokenizeRequest) : Bytes :=
  if r.tokens.isEmpty then r.file ++ ".tokens.json" else r.tokens

lemma keeps_configuration (env : Environment) (named : Bytes) {fs : FileSystem} :
    Keeps fs (configuration env named) :=
  (compositional_keeps fs).bind (fun _ hw => hw) fun _ => Config.keeps_resolve _ _ _

section
variable {input file document : Bytes} {w w' : World}

lemma run_readDocument_eq_ok (h : (readDocument input file).run.run w = (.ok document, w')) :
    given w.files input file = .ok document ∧ w'.files = w.files := by
  unfold readDocument at h
  unfold given
  split at h
  · next hfile =>
    cases h
    exact ⟨if_pos hfile,rfl⟩
  · next hfile =>
    rw [run_context, run_readFile] at h
    obtain ⟨hread,rfl⟩ := Prod.mk.inj h
    rw [if_neg hfile]
    refine ⟨?_,World.files_afterCall ..⟩
    cases hdocument : w.files.read file with
    | error e => simp [hdocument, Except.mapError] at hread
    | ok d => simpa [hdocument, Except.mapError] using hread

lemma exists_run_readDocument (h : given w.files input file = .ok document) :
    ∃ w', (readDocument input file).run.run w = (.ok document, w') := by
  unfold given at h
  unfold readDocument
  split at h
  · next hfile =>
    cases h
    exact ⟨w,by rw [if_pos hfile]; rfl⟩
  · next hfile =>
    refine ⟨w.afterCall .openFile file,?_⟩
    rw [if_neg hfile, run_context, run_readFile, h]
    rfl

lemma run_tokenizing_eq_ok {width : Bytes → Nat} {o : Token.Options} {t : Tokenized}
    (h : (tokenizing width o document).run.run w = (.ok t, w')) :
    (∃ used, tokenizeWith width o document = .ok (t, used)) ∧ w'.files = w.files := by
  unfold tokenizing at h
  cases htokenize : tokenizeWith width o document with
  | error e =>
    rw [htokenize] at h
    cases h
  | ok r =>
    rw [htokenize] at h
    cases h
    exact ⟨⟨r.2,rfl⟩,rfl⟩

end

variable {i j : Invocation} {r : TokenizeRequest} {q : RestoreRequest} {w w' : World}

/-- A document is printed with its tokens, and its map is written. -/
theorem run_tokenizeFile_eq_ok {report : Report}
    (h : (tokenizeFile i r).run.run w = (.ok report, w')) :
    ∃ o document t used, given w.files i.input r.file = .ok document ∧
      tokenizeWith i.width o document = .ok (t, used) ∧
      w.files.admits r.mapPath = .ok () ∧
      w'.files = w.files.put r.mapPath (t.map.encodeIndented ++ "\n") ∧
      report = { out := t.placeholder } := by
  unfold tokenizeFile at h
  obtain ⟨config,w₁,hconfig,hconfigured⟩ := run_bind_eq_ok.mp h
  dsimp only at hconfigured
  obtain ⟨o,w₂,ho,hchosen⟩ := run_bind_eq_ok.mp hconfigured
  obtain ⟨document,w₃,hdocument,hread⟩ := run_bind_eq_ok.mp hchosen
  obtain ⟨t,w₄,ht,htokenized⟩ := run_bind_eq_ok.mp hread
  have hfiles₁ : w₁.files = w.files := by
    have hkept := keeps_configuration i.environment r.config w rfl
    rwa [hconfig] at hkept
  have hfiles₂ : w₂ = w₁ := by
    rw [run_ofExcept] at ho
    exact (Prod.mk.inj ho).2.symm
  obtain ⟨hgiven,hfiles₃⟩ := run_readDocument_eq_ok hdocument
  obtain ⟨⟨used,hused⟩,hfiles₄⟩ := run_tokenizing_eq_ok ht
  rw [hfiles₂, hfiles₁] at hgiven hfiles₃
  rw [hfiles₃] at hfiles₄
  split at htokenized
  · cases htokenized
  · obtain ⟨u,w₅,hwrite,hreport⟩ := run_bind_eq_ok.mp htokenized
    cases hreport
    change (context _ (writeFile r.mapPath _)).run.run w₄ = _ at hwrite
    rw [run_context, run_writeFile, hfiles₄] at hwrite
    cases hadmits : w.files.admits r.mapPath with
    | error e =>
      rw [hadmits] at hwrite
      cases hwrite
    | ok _ =>
      rw [hadmits] at hwrite
      cases hwrite
      exact ⟨o,document,t,used,hgiven,hused,rfl,rfl,rfl⟩

/-- The sources of the map are put back into the document. -/
theorem exists_run_restoreFile {text document : Bytes} {map : Token.Map}
    (htext : w.files.read q.tokens = .ok text) (hmap : Token.Map.empty.decode text = (map, none))
    (hdocument : given w.files j.input q.file = .ok document) :
    ∃ w', (restoreFile j q).run.run w = (.ok
      { out := (restore document map).text
        failure := if q.strict then (restore document map).failure? else none }, w') := by
  obtain ⟨w₁,hread⟩ := exists_run_readDocument
    (w := w.afterCall .openFile q.tokens) (by rwa [World.files_afterCall])
  rw [restoreFile, run_bind, run_context, run_readFile, htext]
  dsimp only [Except.mapError]
  rw [hmap]
  exact ⟨_,run_bind_eq_ok.mpr ⟨map,_,rfl,run_bind_eq_ok.mpr ⟨document,w₁,hread,rfl⟩⟩⟩

variable {files files' : FileSystem} {debug debug' : Bool}

/-- A run that does not fail reports what its request does. -/
lemma exists_run_of_failure_eq_none {line : CommandLine}
    (h : CommandLine.read i.arguments = .ok line) (hok : (run files i).failure = none) :
    ∃ report w, (line.request.run i).run.run { files } = (.ok report, w) ∧
      (run files i).out = report.out ∧ (run files i).files = w.files := by
  unfold run at hok ⊢
  rw [h] at hok ⊢
  dsimp only at hok ⊢
  generalize (line.request.run i).run.run { files } = result at hok ⊢
  obtain ⟨r,w⟩ := result
  cases r with
  | error f => cases hok
  | ok report => exact ⟨report,w,rfl,rfl,rfl⟩

lemma run_eq_of_request {line : CommandLine} {report : Report} {w : World}
    (h : CommandLine.read i.arguments = .ok line)
    (hrun : (line.request.run i).run.run { files } = (.ok report, w))
    (hok : report.failure = none) :
    (run files i).out = report.out ∧ (run files i).failure = none := by
  unfold run
  rw [h]
  dsimp only
  rw [hrun]
  dsimp only
  rw [hok]
  exact ⟨rfl,rfl⟩

/-- Whatever `tokenize` prints, `restore` makes of it and of the map that was written the document
again, without a failure and up to bytes of regions that belong to no character. -/
theorem restore_after_tokenize
    (hi : CommandLine.read i.arguments = .ok ⟨.tokenize r, debug⟩)
    (hj : CommandLine.read j.arguments = .ok ⟨.restore q, debug'⟩)
    (hok : (run files i).failure = none) (hanchored : files.Anchored)
    (hfault : ∀ message, files.fault? .openFile r.mapPath ≠ some (.fail message))
    (hmap : files'.read q.tokens = (run files i).files.read r.mapPath)
    (hout : given files' j.input q.file = .ok (run files i).out) :
    ∃ document, given files i.input r.file = .ok document ∧
      (run files' j).failure = none ∧
      (run files' j).out =
        (Region.split document).flatMap (Region.Chunk.textWith Utf8.scrub) ∧
      ((run files' j).out = document ↔ ∀ text terminated,
        .region text terminated ∈ Region.split document → Utf8.isValid text = true) := by
  obtain ⟨report,w,hrun,hprinted,hfiles⟩ := exists_run_of_failure_eq_none hi hok
  obtain ⟨o,document,t,used,hgiven,htokenize,hadmits,hput,rfl⟩ := run_tokenizeFile_eq_ok hrun
  have hread : files'.read q.tokens = .ok (t.map.encodeIndented ++ "\n") := by
    rw [hmap, hfiles, hput]
    exact FileSystem.read_put hanchored hadmits hfault _
  have hdecode := decode_map_tokenized htokenize Token.Map.empty
  rw [hprinted] at hout
  obtain ⟨w',hrestored⟩ := exists_run_restoreFile (w := { files := files' }) hread hdecode hout
  rw [restore_tokenized_mapSource Utf8.scrub htokenize] at hrestored
  obtain ⟨hout',hfailure⟩ := run_eq_of_request hj hrestored (by cases q.strict <;> rfl)
  refine ⟨document,hgiven,hfailure,hout',?_⟩
  rw [hout']
  exact Region.textWith_scrub_split_eq_iff document

/-- A document with a byte in its region that stands for a character in Latin-1 only. -/
def sampleLatinDocument : Bytes := [0x3C, 0x3F, 0x3D, 0x20, 0x22, 0xFF, 0x22, 0x20, 0x3F, 0x3E]

def sampleLatin : FileSystem where
  entries := [("/w", .directory), ("/w/a.php", .file sampleLatinDocument)]
  workingDirectory := some "/w"

def sampleTokenize : Invocation := { arguments := ["tokenize", "a.php", "--tokens", "m.json"] }

def sampleRestore : Invocation where
  arguments := ["restore", "-", "--tokens", "m.json", "--strict"]
  input := "<php_0__ />"

/-- Nothing fails, but this document does not come back. -/
theorem restore_after_tokenize_sampleLatin :
    (run sampleLatin sampleTokenize).failure = none ∧
    (run (run sampleLatin sampleTokenize).files sampleRestore).failure = none ∧
    (run (run sampleLatin sampleTokenize).files sampleRestore).out ≠ sampleLatinDocument := by
  have hi : CommandLine.read sampleTokenize.arguments =
      .ok ⟨.tokenize ⟨"m.json", [], [], 0, "a.php"⟩, false⟩ := by decide +kernel
  have hj : CommandLine.read sampleRestore.arguments =
      .ok ⟨.restore ⟨"m.json", true, "-"⟩, false⟩ := by decide +kernel
  have hok : (run sampleLatin sampleTokenize).failure = none := by decide +kernel
  have hgiven : given sampleLatin sampleTokenize.input "a.php" = .ok sampleLatinDocument := by
    decide +kernel
  have hout : given (run sampleLatin sampleTokenize).files sampleRestore.input "-" =
      .ok (run sampleLatin sampleTokenize).out := by decide +kernel
  obtain ⟨document,hdocument,hfailure,-,hiff⟩ := restore_after_tokenize hi hj hok
    (by decide) (fun message => by simp [sampleLatin, FileSystem.fault?]) rfl hout
  obtain rfl : sampleLatinDocument = document := Except.ok.inj (hgiven.symm.trans hdocument)
  refine ⟨hok,hfailure,fun heq => ?_⟩
  have hvalid := hiff.mp heq sampleLatinDocument true (by decide +kernel)
  exact absurd hvalid (by decide +kernel)

end Cli
end Stencil
