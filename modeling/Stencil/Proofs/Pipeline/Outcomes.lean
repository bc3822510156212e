import Stencil.Proofs.Pipeline.FileEffects

/-! Where results come from. In a run over several files each result is made at three moments, which
are far apart if other files are handled in between, and a file without a result was never started. -/
namespace Stencil

/-! ## Results and their moments -/

namespace Pipeline
variable (p : Pipeline) (o : PathOptions) (path : Bytes)

/-- The result before it is stored, of a file that is loaded and formatted in these worlds. -/
def computeAt (w₁ w₂ : World) : FileResult :=
  match ((p.load o path).run w₁).1 with
  | .error r => r
  | .ok file => ((p.reformat path file).run w₂).1

/-- The result of formatting a file that is loaded, formatted and stored in these worlds. -/
def formatFileAt (w₁ w₂ w₃ : World) : FileResult := ((store o (p.computeAt o path w₁ w₂)).run w₃).1

/-- If nothing comes in between, each part begins in the world that the one before it left. -/
theorem run_formatFile (w : World) :
    ((p.formatFile o path).run w).1 = p.formatFileAt o path w ((p.load o path).run w).2
      (match (p.load o path).run w with
        | (.error _, w₁) => w₁
        | (.ok file, w₁) => ((p.reformat path file).run w₁).2) := by
  rw [formatFile_eq, StateT.run_bind, formatFileAt, computeAt]
  generalize (p.load o path).run w = out
  obtain ⟨loaded,w₁⟩ := out
  cases loaded <;> rfl

end Pipeline

/-- Formatting told of a failure or of what became of the regions. -/
def FileResult.IsTold (r : FileResult) : Prop := r.failure ≠ none ∨ r.diagnostics ≠ none

lemma FileResult.IsTold.ne_empty {r : FileResult} (h : r.IsTold) : r ≠ {} := by
  rintro rfl
  exact h.elim (fun h => h rfl) (fun h => h rfl)

namespace Pipeline
variable {p : Pipeline} {o : PathOptions} {path : Bytes}

lemma isTold_computeAt (w₁ w₂ : World) : (p.computeAt o path w₁ w₂).IsTold := by
  rw [computeAt]
  cases hload : ((p.load o path).run w₁).1 with
  | error r =>
    rw [load, StateT.run_bind, Session.run_context, Session.run_readFile] at hload
    cases hread : w₁.files.read path with
    | error f =>
      rw [hread] at hload
      cases hload
      exact .inl (Option.some_ne_none _)
    | ok source =>
      rw [hread] at hload
      cases hload
  | ok file =>
    dsimp only
    rw [reformat, StateT.run_bind]
    generalize (p.formatWith file.html file.php file.source).run.run w₂ = out
    obtain ⟨r,w'⟩ := out
    cases r with
    | error f => exact .inl (Option.some_ne_none f)
    | ok d => exact .inr (Option.some_ne_none d.diagnostics)

/-- No result of formatting a file is empty. -/
lemma isTold_formatFileAt (w₁ w₂ w₃ : World) : (p.formatFileAt o path w₁ w₂ w₃).IsTold := by
  have htold : (p.computeAt o path w₁ w₂).IsTold := p.isTold_computeAt w₁ w₂
  rw [formatFileAt, run_store]
  split
  · exact htold
  · split
    · exact htold
    · exact .inl (Option.some_ne_none _)

end Pipeline

namespace Progress
variable {p : Pipeline} {o : PathOptions} {limit : Nat} {s₀ s s' : Progress} {path : Bytes}

/-- At this moment of the run a file was waiting, and the session was not cancelled. -/
structure CouldStart (p : Pipeline) (o : PathOptions) (limit : Nat) (path : Bytes)
    (s₀ s : Progress) : Prop where
  steps : Steps p o limit s₀ s
  waiting : (path, Stage.waiting) ∈ s.slots
  notCancelled : s.world.cancelled = false

/-- The stage of a file comes from what was done for it at earlier moments of the run. -/
def Arises (p : Pipeline) (o : PathOptions) (limit : Nat) (s₀ s : Progress) (path : Bytes) :
    Stage → Prop
  | .waiting | .skipped => True
  | .loaded file => ∃ s₁, CouldStart p o limit path s₀ s₁ ∧ Steps p o limit s₁ s ∧
      ((p.load o path).run s₁.world).1 = .ok file
  | .formatted r => ∃ s₁ s₂, CouldStart p o limit path s₀ s₁ ∧ Steps p o limit s₁ s₂ ∧
      Steps p o limit s₂ s ∧ r = p.computeAt o path s₁.world s₂.world
  | .finished r => ∃ s₁ s₂ s₃, CouldStart p o limit path s₀ s₁ ∧ Steps p o limit s₁ s₂ ∧
      Steps p o limit s₂ s₃ ∧ Steps p o limit s₃ s ∧
      r = p.formatFileAt o path s₁.world s₂.world s₃.world

lemma Arises.mono {stage : Stage} (h : Arises p o limit s₀ s path stage)
    (hsteps : Steps p o limit s s') : Arises p o limit s₀ s' path stage := by
  cases stage with
  | waiting => trivial
  | loaded file =>
    obtain ⟨s₁,hstart,h₁,hload⟩ := h
    exact ⟨s₁,hstart,h₁.trans hsteps,hload⟩
  | formatted r =>
    obtain ⟨s₁,s₂,hstart,h₁,h₂,hr⟩ := h
    exact ⟨s₁,s₂,hstart,h₁,h₂.trans hsteps,hr⟩
  | finished r =>
    obtain ⟨s₁,s₂,s₃,hstart,h₁,h₂,h₃,hr⟩ := h
    exact ⟨s₁,s₂,s₃,hstart,h₁,h₂,h₃.trans hsteps,hr⟩
  | skipped => trivial

/-- The next stage of a file is made in the world of the moment. -/
lemma Arises.advance {stage : Stage} (h : Arises p o limit s₀ s path stage)
    (hsteps : Steps p o limit s₀ s) (hslot : (path, stage) ∈ s.slots)
    (hnext : Steps p o limit s s') :
    Arises p o limit s₀ s' path ((p.advance o path stage).run s.world).1 := by
  cases stage with
  | waiting =>
    rw [p.run_advance_waiting]
    split
    · trivial
    · next hcancelled =>
      have hstart : CouldStart p o limit path s₀ s :=
        ⟨hsteps,hslot,eq_false_of_ne_true hcancelled⟩
      cases hload : (p.load o path).run s.world with
      | mk loaded w' =>
        have hloaded := congrArg Prod.fst hload
        cases loaded with
        | error r => exact ⟨s,s,hstart,.refl,hnext,by rw [Pipeline.computeAt, hloaded]⟩
        | ok file => exact ⟨s,hstart,hnext,hloaded⟩
  | loaded file =>
    obtain ⟨s₁,hstart,h₁,hload⟩ := h
    exact ⟨s₁,s,hstart,h₁,hnext,by rw [Pipeline.computeAt, hload]; rfl⟩
  | formatted r =>
    obtain ⟨s₁,s₂,hstart,h₁,h₂,rfl⟩ := h
    exact ⟨s₁,s₂,s,hstart,h₁,h₂,hnext,rfl⟩
  | finished r => exact h.mono hnext
  | skipped => trivial

theorem arises_of_steps {w : World} {files : List Bytes} (h : Steps p o limit (start w files) s) :
    ∀ slot ∈ s.slots, Arises p o limit (start w files) s slot.1 slot.2 := by
  induction h with
  | refl =>
    intro slot hslot
    obtain ⟨path,-,rfl⟩ := List.mem_map.mp hslot
    trivial
  | tail hsteps hstep ih =>
    have hone := Relation.ReflTransGen.single hstep
    cases hstep with
    | cancel w slots =>
      intro slot hslot
      exact (ih slot hslot).mono hone
    | advance w before after path stage hroom =>
      have hold : (path, stage) ∈ before ++ (path, stage) :: after := by simp
      intro slot hslot
      obtain hslot | rfl | hslot := by simpa using hslot
      · exact (ih slot (by simp [hslot])).mono hone
      · exact (ih (path, stage) hold).advance hsteps hold hone
      · exact (ih slot (by simp [hslot])).mono hone

end Progress

/-! ## Files that were not started -/

def Stage.isSkipped : Stage → Bool
  | .skipped => true
  | .waiting | .loaded _ | .formatted _ | .finished _ => false

namespace Progress
variable {p : Pipeline} {o : PathOptions} {limit : Nat} {s : Progress} {w : World}
  {files : List Bytes} {rs : List FileResult}

/-- A file was started in time and as it was at the beginning, and loaded, formatted and stored at
moments of the run with this result. -/
def Formats (p : Pipeline) (o : PathOptions) (limit : Nat) (s₀ s : Progress) (path : Bytes)
    (r : FileResult) : Prop :=
  ∃ s₁ s₂ s₃, CouldStart p o limit path s₀ s₁ ∧
    s₁.world.files.lookup path = s₀.world.files.lookup path ∧
    Steps p o limit s₁ s₂ ∧ Steps p o limit s₂ s₃ ∧ Steps p o limit s₃ s ∧
    r = p.formatFileAt o path s₁.world s₂.world s₃.world

/-- A result is empty just if its file was not started. -/
lemma isSkipped_iff (h : Steps p o limit (start w files) s) {path : Bytes} {stage : Stage}
    {r : FileResult} (hslot : (path, stage) ∈ s.slots) (hr : stage.result? = some r) :
    stage.isSkipped = true ↔ r = {} := by
  cases stage with
  | waiting => cases hr
  | loaded file => cases hr
  | formatted r => cases hr
  | skipped =>
    cases hr
    exact ⟨fun _ => rfl,fun _ => rfl⟩
  | finished r' =>
    cases hr
    obtain ⟨s₁,s₂,s₃,-,-,-,-,hr⟩ := arises_of_steps h _ hslot
    constructor
    · intro hskipped
      cases hskipped
    · intro hempty
      rw [hr] at hempty
      exact absurd hempty (p.isTold_formatFileAt s₁.world s₂.world s₃.world).ne_empty

lemma any_isSkipped_iff (h : Steps p o limit (start w files) s) (hresults : s.HasResults rs) :
    s.slots.any (·.2.isSkipped) = true ↔ {} ∈ rs := by
  rw [List.any_eq_true]
  constructor
  · rintro ⟨slot,hslot,hskipped⟩
    have hmem : slot.2.result? ∈ rs.map some := hresults ▸ List.mem_map_of_mem hslot
    obtain ⟨r,hr,hresult⟩ := List.mem_map.mp hmem
    rwa [(isSkipped_iff h hslot hresult.symm).mp hskipped] at hr
  · intro hempty
    have hmem : some {} ∈ s.slots.map (·.2.result?) := hresults ▸ List.mem_map_of_mem hempty
    obtain ⟨slot,hslot,hresult⟩ := List.mem_map.mp hmem
    exact ⟨slot,hslot,(isSkipped_iff h hslot hresult).mpr rfl⟩

/-- Results stand at the places of their files. -/
lemma Tracks.length_results {fs : FileSystem} (h : s.Tracks o fs files)
    (hresults : s.HasResults rs) : rs.length = files.length := by
  have hslots := congrArg List.length hresults
  rw [List.length_map, List.length_map] at hslots
  rw [← hslots, ← h.paths, List.length_map]

lemma Tracks.exists_slot {fs : FileSystem} (h : s.Tracks o fs files) (hresults : s.HasResults rs)
    {path : Bytes} {r : FileResult} (hmem : (path, r) ∈ files.zip rs) :
    ∃ stage, (path, stage) ∈ s.slots ∧ stage.result? = some r := by
  rw [← h.paths] at hmem
  exact exists_slot_of_mem_zip hresults hmem

section
variable (hanchored : w.files.Anchored) (hfiles : ∀ path ∈ files, w.files.IsFile path)
  (hdistinct : (files.map w.files.locate).Nodup)
include hanchored hfiles hdistinct

/-- A file is untouched while it waits, and if it was skipped. -/
lemma Tracks.lookup_of_unchanged (h : s.Tracks o w.files files) {path : Bytes} {stage : Stage}
    (hslot : (path, stage) ∈ s.slots) (hstage : stage.change? o = none) :
    s.world.files.lookup path = w.files.lookup path := by
  rw [h.lookup_of_mem hanchored hfiles hdistinct hslot, hstage]
  rfl

variable (hformatter : ∀ f ∈ p.formatter, f.KeepsFiles)
  (hresolve : ∀ resolve ∈ o.resolve, LayoutResolver.KeepsFiles resolve)
include hformatter hresolve

/-- A slot holds nothing, or what formatting its file gave. -/
theorem eq_empty_or_formats (hsteps : Steps p o limit (start w files) s) {path : Bytes}
    {stage : Stage} {r : FileResult} (hslot : (path, stage) ∈ s.slots)
    (hr : stage.result? = some r) : r = {} ∨ Formats p o limit (start w files) s path r := by
  cases stage with
  | waiting => cases hr
  | loaded file => cases hr
  | formatted r => cases hr
  | skipped =>
    cases hr
    exact .inl rfl
  | finished r =>
    cases hr
    obtain ⟨s₁,s₂,s₃,hstart,h₁,h₂,h₃,hr⟩ := arises_of_steps hsteps _ hslot
    have htracks := tracks_of_steps hformatter hresolve hanchored hfiles hdistinct hstart.steps
    have huntouched : s₁.world.files.lookup path = w.files.lookup path :=
      htracks.lookup_of_unchanged hanchored hfiles hdistinct hstart.waiting rfl
    exact .inr ⟨s₁,s₂,s₃,hstart,huntouched,h₁,h₂,h₃,hr⟩

end

end Progress

end Stencil
