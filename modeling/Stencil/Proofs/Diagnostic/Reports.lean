import Mathlib
import Stencil.Diagnostic.Format
import Stencil.Proofs.Json.Integers
import Stencil.Proofs.Text.Utf8
import Stencil.Text.Number

/-! Diagnostics read back out of the documents that are made of them. Both kinds of document hold
the diagnostics of all reports in order; what is lost are stray bytes, and an editor gets places one
lower, as far as there is an integer below. -/
namespace Stencil
open Text

/-! ## Reading documents -/

namespace Json

/-- The value of the first member with the name. -/
def Value.member? (name : String) : Value → Option Value
  | .object ms => ms.lookup name.toList
  | _ => none

def Value.text? : Value → Option Bytes
  | .string s => some (Utf8.encode s)
  | _ => none

def Value.int? : Value → Option Int
  | .number literal => (String.ofList literal).toInt?
  | _ => none

/-- Reads a document that is an array, item by item. -/
def readList? {α : Type} (item? : Value → Option α) (text : Bytes) : Option (List α) :=
  match read (Utf8.chars text) with
  | some (.array vs) => vs.mapM item?
  | _ => none

lemma Value.int?_ofInt (n : Int) : (ofInt n).int? = some n := by
  rw [ofInt, int?, String.ofList_toList, Int.toString_eq_repr, Int.toInt?_repr]

/-- An array is read back from its text if its items are. -/
lemma readList?_render {α β : Type} {item? : Value → Option α} {toJson : β → Value} {entry : β → α}
    (hnests : ∀ n b, Integral (n + 3) (toJson b))
    (hitem : ∀ b, item? (toJson b) = some (entry b)) (bs : List β) :
    readList? item? (Utf8.encode (render (.array (bs.map toJson)))) = some (bs.map entry) := by
  have harray : Integral depthLimit (.array (bs.map toJson)) := by
    refine Integral.array (n := depthLimit - 4 + 3) fun v hv => ?_
    obtain ⟨b,-,rfl⟩ := List.mem_map.mp hv
    exact hnests _ b
  have hentries : item? ∘ toJson = fun b => pure (entry b) := funext hitem
  rw [readList?, Utf8.chars_encode, harray.read_render]
  dsimp only
  rw [List.mapM_map, hentries, List.mapM_pure]
  rfl

end Json

/-! ## Entries -/

/-- Each of the four severities has its number, and every other one has none. -/
lemma Severity.level_eq (s : Severity) : (s.level : Int) =
    if s = error then 1 else if s = warning then 2 else if s = info then 3
    else if s = hint then 4 else 0 := by
  split_ifs with herror hwarning hinfo hhint
  · rw [herror]
    decide +kernel
  · rw [hwarning]
    decide +kernel
  · rw [hinfo]
    decide +kernel
  · rw [hhint]
    decide +kernel
  · simp only [level, levels, List.lookup, beq_false_of_ne herror, beq_false_of_ne hwarning,
      beq_false_of_ne hinfo, beq_false_of_ne hhint]
    rfl

/-- What the flat form carries of a diagnostic. -/
structure ReportEntry where
  path : Bytes
  severity : Bytes
  message : Bytes
  line : Int
  column : Int
  endLine : Int
  endColumn : Int
  deriving DecidableEq, Repr

/-- What the form for editors carries of a diagnostic. -/
structure EditorEntry where
  severity : Int
  message : Bytes
  source : Bytes
  startLine : Int
  startCharacter : Int
  endLine : Int
  endCharacter : Int
  deriving DecidableEq, Repr

def ReportEntry.ofJson? (v : Json.Value) : Option ReportEntry := do
  let path ← (← v.member? "path").text?
  let severity ← (← v.member? "severity").text?
  let message ← (← v.member? "message").text?
  let line ← (← v.member? "line").int?
  let column ← (← v.member? "column").int?
  let endLine ← (← v.member? "end_line").int?
  let endColumn ← (← v.member? "end_column").int?
  return ⟨path, severity, message, line, column, endLine, endColumn⟩

def EditorEntry.ofJson? (v : Json.Value) : Option EditorEntry := do
  let severity ← (← v.member? "severity").int?
  let message ← (← v.member? "message").text?
  let source ← (← v.member? "source").text?
  let range ← v.member? "range"
  let start ← range.member? "start"
  let stop ← range.member? "end"
  let startLine ← (← start.member? "line").int?
  let startCharacter ← (← start.member? "character").int?
  let endLine ← (← stop.member? "line").int?
  let endCharacter ← (← stop.member? "character").int?
  return ⟨severity, message, source, startLine, startCharacter, endLine, endCharacter⟩

namespace Diagnostic
variable (path : Bytes) (d : Diagnostic)

lemma text?_jsonText (b : Bytes) : (jsonText b).text? = some (Utf8.scrub b) := rfl

/-- The flat form keeps the positions, and the texts up to their stray bytes. -/
lemma ofJson?_toJson : ReportEntry.ofJson? (d.toJson path) =
    some ⟨Utf8.scrub path, Utf8.scrub d.severity.name, Utf8.scrub d.message,
      d.line, d.column, d.endLine, d.endColumn⟩ := by
  have hpath : (d.toJson path).member? "path" = some (jsonText path) := rfl
  have hseverity : (d.toJson path).member? "severity" = some (jsonText d.severity.name) := rfl
  have hmessage : (d.toJson path).member? "message" = some (jsonText d.message) := rfl
  have hline : (d.toJson path).member? "line" = some (.ofInt d.line) := rfl
  have hcolumn : (d.toJson path).member? "column" = some (.ofInt d.column) := rfl
  have hendLine : (d.toJson path).member? "end_line" = some (.ofInt d.endLine) := rfl
  have hendColumn : (d.toJson path).member? "end_column" = some (.ofInt d.endColumn) := rfl
  simp only [ReportEntry.ofJson?, hpath, hseverity, hmessage, hline, hcolumn, hendLine, hendColumn,
    text?_jsonText, Json.Value.int?_ofInt, Option.bind_eq_bind, Option.bind_some]
  rfl

/-- The form for editors lowers the positions, within 64 bits. -/
lemma ofJson?_toEditorJson : EditorEntry.ofJson? (d.toEditorJson path) =
    some ⟨d.severity.level, Utf8.scrub d.message, Utf8.scrub path, wrap64 (d.line - 1),
      wrap64 (d.column - 1), wrap64 (d.endLine - 1), wrap64 (d.endColumn - 1)⟩ := by
  have hposition (line column : Int) :
      (editorPosition line column).member? "line" = some (.ofInt (wrap64 (line - 1))) ∧
        (editorPosition line column).member? "character" = some (.ofInt (wrap64 (column - 1))) :=
    ⟨rfl,rfl⟩
  have hseverity : (d.toEditorJson path).member? "severity" = some (.ofInt d.severity.level) := rfl
  have hmessage : (d.toEditorJson path).member? "message" = some (jsonText d.message) := rfl
  have hsource : (d.toEditorJson path).member? "source" = some (jsonText path) := rfl
  obtain ⟨range,hrange,hstart,hstop⟩ : ∃ range, (d.toEditorJson path).member? "range" = some range ∧
      range.member? "start" = some (editorPosition d.line d.column) ∧
      range.member? "end" = some (editorPosition d.endLine d.endColumn) := ⟨_,rfl,rfl,rfl⟩
  simp only [EditorEntry.ofJson?, hseverity, hmessage, hsource, hrange, hstart, hstop,
    hposition, text?_jsonText, Json.Value.int?_ofInt, Option.bind_eq_bind, Option.bind_some]
  rfl

/-- Objects of strings and integers. -/
lemma integral_toJson (n : Nat) : Json.Integral (n + 1) (d.toJson path) := by
  refine .object fun m hm => ?_
  fin_cases hm
  · exact .string _ _
  · exact .string _ _
  · exact .string _ _
  all_goals exact .int _ _

lemma integral_editorPosition (n : Nat) (line column : Int) :
    Json.Integral (n + 1) (editorPosition line column) := by
  refine .object fun m hm => ?_
  fin_cases hm <;> exact .int _ _

lemma integral_toEditorJson (n : Nat) : Json.Integral (n + 3) (d.toEditorJson path) := by
  refine .object fun m hm => ?_
  fin_cases hm
  · exact .int _ _
  · exact .string _ _
  · exact .string _ _
  · refine .object fun m hm => ?_
    fin_cases hm <;> exact integral_editorPosition n _ _

end Diagnostic

/-! ## Whole documents -/

variable {files : List FileDiagnostics}

lemma readList?_json (files : List FileDiagnostics) :
    Json.readList? ReportEntry.ofJson? (DiagnosticFormat.json.renderFiles files) =
      some ((flattenDiagnostics files).map fun (path, d) =>
        ⟨Utf8.scrub path, Utf8.scrub d.severity.name, Utf8.scrub d.message,
          d.line, d.column, d.endLine, d.endColumn⟩) :=
  Json.readList?_render (fun n (path, d) => Diagnostic.integral_toJson path d (n + 2))
    (fun (path, d) => Diagnostic.ofJson?_toJson path d) (flattenDiagnostics files)

lemma readList?_vscode (files : List FileDiagnostics) :
    Json.readList? EditorEntry.ofJson? (DiagnosticFormat.vscode.renderFiles files) =
      some ((flattenDiagnostics files).map fun (path, d) =>
        ⟨d.severity.level, Utf8.scrub d.message, Utf8.scrub path, wrap64 (d.line - 1),
          wrap64 (d.column - 1), wrap64 (d.endLine - 1), wrap64 (d.endColumn - 1)⟩) :=
  Json.readList?_render (fun n (path, d) => Diagnostic.integral_toEditorJson path d n)
    (fun (path, d) => Diagnostic.ofJson?_toEditorJson path d) (flattenDiagnostics files)

/-- The errors of each report, then its warnings, then its hints, with the path of the report. -/
def reported (files : List FileDiagnostics) : List (Bytes × Diagnostic) :=
  files.flatMap fun f =>
    (f.diagnostics.elim [] fun r => r.errors ++ r.warnings ++ r.hints).map fun d => (f.path, d)

lemma flattenDiagnostics_eq (files : List FileDiagnostics) :
    flattenDiagnostics files = reported files := by
  refine congrArg (files.flatMap ·) (funext fun f => ?_)
  obtain ⟨path,diagnostics⟩ := f
  cases diagnostics <;> rfl

lemma length_reported (files : List FileDiagnostics) :
    (reported files).length = (files.map (·.size)).sum := by
  rw [← flattenDiagnostics_eq, flattenDiagnostics, List.length_flatMap]
  refine congrArg (fun size => (files.map size).sum) (funext fun f => ?_)
  obtain ⟨path,diagnostics⟩ := f
  cases diagnostics with
  | none => rfl
  | some r => exact (List.length_map ..).trans r.length_all

/-- Reports with texts that are made of characters and positions of 64 bits. -/
structure FileDiagnostics.WellFormed (f : FileDiagnostics) : Prop where
  path : Utf8.isValid f.path = true
  message : ∀ d ∈ f.all, Utf8.isValid d.message = true
  position : ∀ d ∈ f.all, ∀ p ∈ [d.line, d.column, d.endLine, d.endColumn],
    minInt64 ≤ p ∧ p ≤ maxInt64

lemma wellFormed_of_ascii (h : ∀ f ∈ files, (∀ a ∈ f.path, a.toNat < 0x80) ∧ ∀ d ∈ f.all,
      (∀ a ∈ d.message, a.toNat < 0x80) ∧
        ∀ p ∈ [d.line, d.column, d.endLine, d.endColumn], minInt64 ≤ p ∧ p ≤ maxInt64) :
    ∀ f ∈ files, f.WellFormed := by
  intro f hf
  obtain ⟨hpath,hall⟩ := h f hf
  exact ⟨Utf8.isValid_of_ascii hpath,fun d hd => Utf8.isValid_of_ascii (hall d hd).1,
    fun d hd => (hall d hd).2⟩

/-- The position an editor gets: one lower, or the greatest if there is none below. -/
def lowered (p : Int) : Int := if p = minInt64 then maxInt64 else p - 1

lemma wrap64_sub_one {p : Int} (h : minInt64 ≤ p ∧ p ≤ maxInt64) : wrap64 (p - 1) = lowered p := by
  rw [lowered]
  split
  · next heq => rw [heq]; rfl
  · next hne =>
    simp only [minInt64, maxInt64] at h hne
    exact Int.bmod_eq_of_le (by norm_num; omega) (by norm_num; omega)

lemma mem_reported {path : Bytes} {d : Diagnostic} (h : (path, d) ∈ reported files) :
    ∃ f ∈ files, f.path = path ∧ d ∈ f.all := by
  rw [← flattenDiagnostics_eq, flattenDiagnostics] at h
  obtain ⟨f,hf,hd⟩ := List.mem_flatMap.mp h
  obtain ⟨d',hd',heq⟩ := List.mem_map.mp hd
  obtain ⟨rfl,rfl⟩ := Prod.mk.inj heq
  exact ⟨f,hf,rfl,hd'⟩

/-- Both machine-readable forms hold all diagnostics of all reports, in order. The flat one gives
them back as they are, but for a severity with stray bytes; the one for editors gives them back with
lowered positions. -/
theorem reports_read_back (h : ∀ f ∈ files, f.WellFormed) :
    Json.readList? ReportEntry.ofJson? (DiagnosticFormat.json.renderFiles files) =
      some ((reported files).map fun (path, d) => {
        path
        severity :=
          if Utf8.isValid d.severity.name then d.severity.name else Utf8.scrub d.severity.name
        message := d.message
        line := d.line
        column := d.column
        endLine := d.endLine
        endColumn := d.endColumn }) ∧
    Json.readList? EditorEntry.ofJson? (DiagnosticFormat.vscode.renderFiles files) =
      some ((reported files).map fun (path, d) => {
        severity :=
          if d.severity = .error then 1
          else if d.severity = .warning then 2
          else if d.severity = .info then 3
          else if d.severity = .hint then 4
          else 0
        message := d.message
        source := path
        startLine := lowered d.line
        startCharacter := lowered d.column
        endLine := lowered d.endLine
        endCharacter := lowered d.endColumn }) ∧
    (reported files).length = (files.map (·.size)).sum ∧
    ∀ f ∈ files, f.diagnostics = none → f.size = 0 := by
  have htexts {path : Bytes} {d : Diagnostic} (hd : (path, d) ∈ reported files) :
      Utf8.scrub path = path ∧ Utf8.scrub d.message = d.message := by
    obtain ⟨f,hf,rfl,hall⟩ := mem_reported hd
    exact ⟨(Utf8.scrub_eq_self_iff _).mpr (h f hf).path,
      (Utf8.scrub_eq_self_iff _).mpr ((h f hf).message d hall)⟩
  refine ⟨?_,?_,length_reported files,?_⟩
  · rw [readList?_json, flattenDiagnostics_eq]
    refine congrArg some (List.map_congr_left fun (path, d) hd => ?_)
    obtain ⟨hpath,hmessage⟩ := htexts hd
    have hseverity : Utf8.scrub d.severity.name =
        if Utf8.isValid d.severity.name then d.severity.name else Utf8.scrub d.severity.name := by
      split
      · next hvalid => exact (Utf8.scrub_eq_self_iff _).mpr hvalid
      · rfl
    simp only [hpath, hmessage, ← hseverity]
  · rw [readList?_vscode, flattenDiagnostics_eq]
    refine congrArg some (List.map_congr_left fun (path, d) hd => ?_)
    obtain ⟨hpath,hmessage⟩ := htexts hd
    obtain ⟨f,hf,rfl,hall⟩ := mem_reported hd
    have hposition (p : Int) (hp : p ∈ [d.line, d.column, d.endLine, d.endColumn]) :
        wrap64 (p - 1) = lowered p := wrap64_sub_one ((h f hf).position d hall p hp)
    simp only [hpath, hmessage, Severity.level_eq, hposition d.line (by simp), hposition d.column (by simp),
      hposition d.endLine (by simp), hposition d.endColumn (by simp)]
  · rintro ⟨path,_⟩ - rfl
    rfl

def sampleReports : List FileDiagnostics := [
  ⟨"a.php", some {
    errors := [⟨"a \"<\"", 2, 5, 2, 6, .error⟩]
    hints := [⟨"open", 1, 1, 3, 4, .hint⟩] }⟩,
  ⟨"b.php", none⟩,
  ⟨"c.php", some { warnings := [⟨"lost\t", 7, 1, 7, 12, .ofName "notice"⟩] }⟩]

lemma sampleReports_wellFormed : ∀ f ∈ sampleReports, f.WellFormed :=
  wellFormed_of_ascii (by decide +kernel)

theorem sampleReports_read_back : (∀ f ∈ sampleReports, f.WellFormed) ∧
    Json.readList? ReportEntry.ofJson? (DiagnosticFormat.json.renderFiles sampleReports) = some [
      ⟨"a.php", "error", "a \"<\"", 2, 5, 2, 6⟩,
      ⟨"a.php", "hint", "open", 1, 1, 3, 4⟩,
      ⟨"c.php", "notice", "lost\t", 7, 1, 7, 12⟩] ∧
    Json.readList? EditorEntry.ofJson? (DiagnosticFormat.vscode.renderFiles sampleReports) = some [
      ⟨1, "a \"<\"", "a.php", 1, 4, 1, 5⟩,
      ⟨4, "open", "a.php", 0, 0, 2, 3⟩,
      ⟨0, "lost\t", "c.php", 6, 0, 6, 11⟩] ∧
    (sampleReports.map (·.size)).sum = 3 := by
  obtain ⟨hjson,hvscode,hlength,-⟩ := reports_read_back sampleReports_wellFormed
  have hascii : ∀ n ∈ [("error" : Bytes), "hint", "notice"], ∀ a ∈ n, a.toNat < 0x80 := by
    decide +kernel
  have hnames : ∀ n ∈ [("error" : Bytes), "hint", "notice"], Utf8.isValid n = true :=
    fun n hn => Utf8.isValid_of_ascii (hascii n hn)
  refine ⟨sampleReports_wellFormed,hjson.trans ?_,hvscode.trans (by decide +kernel),hlength.symm⟩
  simp [reported, sampleReports, Severity.error, Severity.hint, hnames]

/-! A position that has none below it, and a severity of a stray byte. -/

def lowestReport : List FileDiagnostics := [
  ⟨"a.php", some { errors := [⟨"m", minInt64, 1, 1, 1, .error⟩] }⟩]

def strayReport : List FileDiagnostics := [
  ⟨"a.php", some { errors := [⟨"m", 1, 1, 1, 1, .ofName [0xFF]⟩] }⟩]

theorem not_all_reports_read_back :
    ((∀ f ∈ lowestReport, f.WellFormed) ∧
      Json.readList? EditorEntry.ofJson? (DiagnosticFormat.vscode.renderFiles lowestReport) =
        some [⟨1, "m", "a.php", maxInt64, 0, 0, 0⟩] ∧
      Json.readList? EditorEntry.ofJson? (DiagnosticFormat.vscode.renderFiles lowestReport) ≠
        some [⟨1, "m", "a.php", minInt64 - 1, 0, 0, 0⟩]) ∧
    (∀ f ∈ strayReport, f.WellFormed) ∧
      Json.readList? ReportEntry.ofJson? (DiagnosticFormat.json.renderFiles strayReport) =
        some [⟨"a.php", [0xEF, 0xBF, 0xBD], "m", 1, 1, 1, 1⟩] ∧
      Json.readList? ReportEntry.ofJson? (DiagnosticFormat.json.renderFiles strayReport) ≠
        some [⟨"a.php", [0xFF], "m", 1, 1, 1, 1⟩] := by
  have hpath : Utf8.scrub "a.php" = "a.php" :=
    (Utf8.scrub_eq_self_iff _).mpr (Utf8.isValid_of_ascii (by decide +kernel))
  have hmessage : Utf8.scrub "m" = "m" :=
    (Utf8.scrub_eq_self_iff _).mpr (Utf8.isValid_of_ascii (by decide +kernel))
  have hseverity : Utf8.scrub [0xFF] = [0xEF, 0xBF, 0xBD] := by
    rw [Utf8.scrub, Utf8.chars, Utf8.runes_of_stray (by decide), Utf8.runes_nil]
    decide
  have hlowest : Json.readList? EditorEntry.ofJson?
      (DiagnosticFormat.vscode.renderFiles lowestReport) =
        some [⟨1, "m", "a.php", maxInt64, 0, 0, 0⟩] := by
    refine (readList?_vscode lowestReport).trans ?_
    change some [EditorEntry.mk 1 (Utf8.scrub "m") (Utf8.scrub "a.php") _ _ _ _] = _
    rw [hpath, hmessage]
    decide +kernel
  have hstray : Json.readList? ReportEntry.ofJson?
      (DiagnosticFormat.json.renderFiles strayReport) =
        some [⟨"a.php", [0xEF, 0xBF, 0xBD], "m", 1, 1, 1, 1⟩] := by
    refine (readList?_json strayReport).trans ?_
    change some [ReportEntry.mk (Utf8.scrub "a.php") (Utf8.scrub [0xFF]) (Utf8.scrub "m") _ _ _ _]
      = _
    rw [hpath, hmessage, hseverity]
  refine ⟨⟨wellFormed_of_ascii (by decide +kernel),hlowest,?_⟩,
    wellFormed_of_ascii (by decide +kernel),hstray,?_⟩
  · rw [hlowest]
    decide +kernel
  · rw [hstray]
    decide +kernel

end Stencil
