import Stencil.Proofs.Files.Interrupted
import Stencil.Proofs.Pipeline.Outcomes

/-! Runs that are cancelled. A session may be cancelled at any moment: before the files are collected,
meanwhile, while files are in work, and by the formatter itself. A file that was started by then gets
the result that formatting it gives, and a file that was not is never touched. -/
namespace Stencil

/-! ## Calls of the formatter -/

/-- Formatting records no calls by itself. -/
def Formatter.IsSilent (f : Formatter) : Prop :=
  ∀ language layout text, Session.Silent (f language layout text)

/-- Settling a layout calls no formatter. -/
def LayoutResolver.IsSilent (resolve : LayoutResolver) : Prop :=
  ∀ path base w, ((resolve path base).run w).2.callsRev = w.callsRev

/-- The calls that were recorded since another world. -/
def World.callsSince (w w₀ : World) : List FormatterCall := w.calls.drop w₀.calls.length

lemma World.calls_append_callsSince {w w₀ : World} {calls : List FormatterCall}
    (h : w.callsRev = calls ++ w₀.callsRev) : w₀.calls ++ w.callsSince w₀ = w.calls := by
  have hcalls : w.calls = w₀.calls ++ calls.reverse := by
    rw [World.calls, h, List.reverse_append, World.calls]
  rw [callsSince, hcalls, List.drop_left]

lemma World.callsSince_of_eq {w w₀ : World} (h : w.callsRev = w₀.callsRev) :
    w.callsSince w₀ = [] := by
  rw [callsSince, World.calls, World.calls, h, List.drop_length]

namespace Session

lemma compositional_callsOnly : Compositional (CallsOnly fun _ => True) where
  pure a := (silent_pure a).callsOnly
  throw e := (silent_throw e).callsOnly
  bind h hnext := h.bind hnext
  context := by
    intro α doing work h w
    rw [run_context]
    exact h w
  emitAll es := (silent_emitAll es).callsOnly
  recordCall c := fun w => ⟨[c],rfl,fun _ _ => trivial⟩

end Session

namespace Stage

/-- Nothing of the file has been handed to the formatter. -/
def IsFresh : Stage → Prop
  | .waiting | .loaded _ | .skipped => True
  | .formatted _ | .finished _ => False

/-- What the worker of a file reports that it does not start any more. -/
def stopped? (stage : Stage) : Option Failure := if stage.isSkipped then some .canceled else none

end Stage

namespace Pipeline
variable {p : Pipeline} {o : PathOptions}
  (hformatter : ∀ f ∈ p.formatter, Formatter.IsSilent f)
  (hresolve : ∀ resolve ∈ o.resolve, LayoutResolver.IsSilent resolve)

include hresolve in
lemma load_callsRev (path : Bytes) (w : World) :
    ((p.load o path).run w).2.callsRev = w.callsRev := by
  have hresolve' : LayoutResolver.IsSilent (o.resolve.getD fun _ base => return base) := by
    cases h : o.resolve with
    | none => exact fun _ _ _ => rfl
    | some resolve => exact hresolve resolve h
  rw [load, StateT.run_bind, Session.run_context, Session.run_readFile]
  cases w.files.read path with
  | error f => exact World.callsRev_afterCall ..
  | ok source => exact ((hresolve' ..).trans (hresolve' ..)).trans (World.callsRev_afterCall ..)

include hformatter in
lemma reformat_callsRev (path : Bytes) (file : LoadedFile) (w : World) :
    ∃ calls, ((p.reformat path file).run w).2.callsRev = calls ++ w.callsRev := by
  have hcalls := formatWith_of_compositional Session.compositional_callsOnly
    (fun f hf language layout text => (hformatter f hf language layout text).callsOnly)
    file.html file.php file.source
  obtain ⟨calls,hcalls,-⟩ := hcalls w
  refine ⟨calls,?_⟩
  rw [← hcalls, reformat, StateT.run_bind]
  generalize (p.formatWith file.html file.php file.source).run.run w = out
  obtain ⟨r,w'⟩ := out
  cases r <;> rfl

lemma settle_callsRev (r : FileResult) (w : World) :
    ((settle o r).run w).2.callsRev = w.callsRev := by
  change ((store o r).run w).2.callsRev = w.callsRev
  rw [run_store]
  split
  · rfl
  · split <;> exact World.callsRev_afterCall ..

include hformatter hresolve in
/-- Calls are recorded only by the step that formats a file. -/
theorem advance_callsRev (path : Bytes) (stage : Stage) (w : World) :
    ∃ calls, ((p.advance o path stage).run w).2.callsRev = calls ++ w.callsRev ∧
      (((p.advance o path stage).run w).1.IsFresh → calls = []) := by
  cases stage with
  | waiting =>
    refine ⟨[],?_,fun _ => rfl⟩
    have hload := p.load_callsRev hresolve path w
    rw [p.run_advance_waiting]
    split
    · rfl
    · generalize (p.load o path).run w = out at hload
      obtain ⟨loaded,w'⟩ := out
      cases loaded <;> exact hload
  | loaded file =>
    obtain ⟨calls,hcalls⟩ := p.reformat_callsRev hformatter path file w
    exact ⟨calls,hcalls,fun h => h.elim⟩
  | formatted r => exact ⟨[],settle_callsRev r w,fun _ => rfl⟩
  | finished r => exact ⟨[],rfl,fun _ => rfl⟩
  | skipped => exact ⟨[],rfl,fun _ => rfl⟩

lemma isSkipped_advance {stage : Stage} (h : stage.isSkipped = true) (path : Bytes) (w : World) :
    ((p.advance o path stage).run w).1.isSkipped = true := by
  cases stage <;> cases h
  rfl

lemma isFresh_of_advance {path : Bytes} {stage : Stage} {w : World}
    (h : ((p.advance o path stage).run w).1.IsFresh) : stage.IsFresh := by
  cases stage with
  | waiting => trivial
  | loaded file => trivial
  | formatted r => exact h.elim
  | finished r => exact h.elim
  | skipped => trivial

end Pipeline

/-! ## Runs of all files -/

/-- A run in the middle, with a record of what was handed to the formatter for which file, and the
first failure that a worker reported. -/
structure Batch extends Progress where
  calls : List (Bytes × FormatterCall)
  failure : Option Failure

namespace Batch
variable {p : Pipeline} {o : PathOptions} {limit : Nat} {b b' : Batch}

def start (w : World) (files : List Bytes) : Batch := ⟨.start w files, [], none⟩

/-- A step of the run, with its record. -/
inductive Step (p : Pipeline) (o : PathOptions) (limit : Nat) : Batch → Batch → Prop
  | advance (w : World) (before after : List (Bytes × Stage)) (path : Bytes) (stage : Stage)
      (calls : List (Bytes × FormatterCall)) (failure : Option Failure)
      (hroom : stage = .waiting → (before ++ after).countP (·.2.isActive) < limit) :
      Step p o limit ⟨⟨w, before ++ (path, stage) :: after⟩, calls, failure⟩
        ⟨⟨((p.advance o path stage).run w).2,
            before ++ (path, ((p.advance o path stage).run w).1) :: after⟩,
          calls ++ (((p.advance o path stage).run w).2.callsSince w).map (path, ·),
          failure.or ((p.advance o path stage).run w).1.stopped?⟩
  | cancel (w : World) (slots : List (Bytes × Stage)) (calls : List (Bytes × FormatterCall))
      (failure : Option Failure) :
      Step p o limit ⟨⟨w, slots⟩, calls, failure⟩ ⟨⟨{ w with cancelled := true }, slots⟩, calls, failure⟩

/-- Any number of steps. -/
abbrev Steps (p : Pipeline) (o : PathOptions) (limit : Nat) : Batch → Batch → Prop :=
  Relation.ReflTransGen (Step p o limit)

lemma Step.progress (h : Step p o limit b b') :
    Progress.Step p o limit b.toProgress b'.toProgress := by
  cases h with
  | advance w before after path stage calls failure hroom => exact .advance w before after path stage hroom
  | cancel w slots calls failure => exact .cancel w slots

lemma Steps.progress (h : Steps p o limit b b') :
    Progress.Steps p o limit b.toProgress b'.toProgress := by
  induction h with
  | refl => exact .refl
  | tail _ hstep ih => exact ih.tail hstep.progress

/-- Every run can be recorded. -/
lemma exists_steps {s : Progress} (h : Progress.Steps p o limit b.toProgress s) :
    ∃ b', b'.toProgress = s ∧ Steps p o limit b b' := by
  induction h with
  | refl => exact ⟨b,rfl,.refl⟩
  | tail _ hstep ih =>
    obtain ⟨⟨s,calls,failure⟩,rfl,hsteps⟩ := ih
    cases hstep with
    | advance w before after path stage hroom =>
      exact ⟨_,rfl,hsteps.tail (.advance w before after path stage calls failure hroom)⟩
    | cancel w slots => exact ⟨_,rfl,hsteps.tail (.cancel w slots calls failure)⟩

/-- The failure of a run is that of a file that was not started. -/
theorem failure_eq_of_steps {w : World} {files : List Bytes} (h : Steps p o limit (start w files) b) :
    b.failure = if b.slots.any (·.2.isSkipped) then some .canceled else none := by
  induction h with
  | refl =>
    have hnone : (files.map (·, Stage.waiting)).any (·.2.isSkipped) = false := by
      simp [Stage.isSkipped]
    change none = if (files.map (·, Stage.waiting)).any (·.2.isSkipped) then some Failure.canceled
      else none
    rw [hnone]
    rfl
  | tail _ hstep ih =>
    cases hstep with
    | cancel w slots calls failure => exact ih
    | advance w before after path stage calls failure hroom =>
      have hskipped : stage.isSkipped = true →
          ((p.advance o path stage).run w).1.isSkipped = true := (p.isSkipped_advance · path w)
      dsimp only at ih ⊢
      generalize (p.advance o path stage).run w = out at hskipped ⊢
      rw [ih, Stage.stopped?]
      simp only [List.any_append, List.any_cons] at hskipped ⊢
      cases hstage : stage.isSkipped with
      | true => simp [hskipped hstage]
      | false =>
        cases before.any (·.2.isSkipped) <;> cases out.1.isSkipped <;>
          cases after.any (·.2.isSkipped) <;> rfl

/-- What is recorded is what the world holds, and nothing of it is about a file that is fresh. -/
structure Records (w : World) (files : List Bytes) (b : Batch) : Prop where
  paths : b.slots.map (·.1) = files
  calls : b.world.calls = w.calls ++ b.calls.map (·.2)
  fresh : ∀ slot ∈ b.slots, slot.2.IsFresh → ∀ c ∈ b.calls, c.1 ≠ slot.1

lemma records_start (w : World) (files : List Bytes) : (start w files).Records w files := by
  refine ⟨?_,(List.append_nil _).symm,fun _ _ _ => List.forall_mem_nil _⟩
  change (files.map (·, Stage.waiting)).map (·.1) = files
  rw [List.map_map]
  exact List.map_id _

/-- Calls for one file are not about the others. -/
lemma fresh_append {slots : List (Bytes × Stage)} {calls : List (Bytes × FormatterCall)} {path : Bytes}
    (h : ∀ slot ∈ slots, slot.2.IsFresh → ∀ c ∈ calls, c.1 ≠ slot.1)
    (hother : path ∉ slots.map (·.1)) (new : List FormatterCall) :
    ∀ slot ∈ slots, slot.2.IsFresh → ∀ c ∈ calls ++ new.map (path, ·), c.1 ≠ slot.1 := by
  intro slot hslot hfresh c hc
  obtain hc | hc := List.mem_append.mp hc
  · exact h slot hslot hfresh c hc
  · obtain ⟨call,-,rfl⟩ := List.mem_map.mp hc
    rintro rfl
    exact hother (List.mem_map_of_mem hslot)

section
variable {w : World} {files : List Bytes} (hdistinct : files.Nodup)
  (hformatter : ∀ f ∈ p.formatter, Formatter.IsSilent f)
  (hresolve : ∀ resolve ∈ o.resolve, LayoutResolver.IsSilent resolve)
include hdistinct hformatter hresolve

/-- A step for one file records its calls under its path, which no other file has. -/
theorem Records.step (h : b.Records w files) (hstep : Step p o limit b b') :
    b'.Records w files := by
  cases hstep with
  | cancel w slots calls failure => exact ⟨h.paths,h.calls,h.fresh⟩
  | advance w₁ before after path stage calls failure hroom =>
    obtain ⟨new,hnew,hfresh⟩ := p.advance_callsRev hformatter hresolve path stage w₁
    have hkept : ((p.advance o path stage).run w₁).1.IsFresh → stage.IsFresh :=
      p.isFresh_of_advance
    generalize (p.advance o path stage).run w₁ = out at hnew hfresh hkept ⊢
    obtain ⟨next,w₂⟩ := out
    dsimp only at hnew hfresh hkept ⊢
    have hpaths : before.map (·.1) ++ path :: after.map (·.1) = files := by
      rw [← h.paths, List.map_append, List.map_cons]
    have hother : path ∉ (before ++ after).map (·.1) := by
      rw [← hpaths, List.nodup_middle] at hdistinct
      rw [List.map_append]
      exact (List.nodup_cons.mp hdistinct).1
    have holder := fresh_append (fun slot hslot => h.fresh slot
      ((List.sublist_cons_self (path, stage) after).append_left before |>.subset hslot)) hother
      (w₂.callsSince w₁)
    refine ⟨?_,?_,?_⟩
    · rw [List.map_append, List.map_cons, hpaths]
    · have hcalls : w₁.calls = w.calls ++ calls.map (·.2) := h.calls
      rw [← World.calls_append_callsSince hnew, hcalls, List.append_assoc, List.map_append,
        List.map_map]
      simp [Function.comp_def]
    · intro slot hslot hslotFresh
      obtain hslot | hslot := List.mem_append.mp hslot
      · exact holder slot (List.mem_append_left _ hslot) hslotFresh
      obtain rfl | hslot := List.mem_cons.mp hslot
      · rw [hfresh hslotFresh, List.nil_append] at hnew
        rw [World.callsSince_of_eq hnew, List.map_nil, List.append_nil]
        exact h.fresh (path, stage) (by simp) (hkept hslotFresh)
      · exact holder slot (List.mem_append_right _ hslot) hslotFresh

theorem records_of_steps (h : Steps p o limit (start w files) b) : b.Records w files := by
  induction h with
  | refl => exact records_start w files
  | tail _ hstep ih => exact ih.step hdistinct hformatter hresolve hstep

end

end Batch

/-! ## From the paths to the results -/

/-- The files to format, with a cancellation from outside. -/
def Interruptible.sources (o : PathOptions) (paths : List Bytes) : Interruptible (List Bytes) := do
  check
  let files ← collectWith o.isPattern o.matchesName o.selection paths
  if files.isEmpty then throw (.plain "no source files found") else return files

lemma Interruptible.follows_sources (o : PathOptions) (paths : List Bytes) :
    Follows (sources o paths) (Session.sources o paths) := by
  refine Follows.check.bind fun _ => (follows_collectWith _ _ _ paths).bind fun files => ?_
  cases files.isEmpty with
  | true => exact .throw _
  | false => exact .pure files

/-- A run over some paths that may be cancelled at any moment. -/
structure Pipeline.CancellableRun (p : Pipeline) (o : PathOptions) (limit : Nat)
    (paths : List Bytes) (w : World) where
  /-- The number of checks before the session is cancelled from outside, if that is before the first
  file is started. -/
  moment : Option Nat
  files : List Bytes
  left : Option Nat
  /-- The world with the files collected. -/
  opened : World
  last : Batch
  results : List FileResult
  collected : (Interruptible.sources o paths moment).run.run w =
    (.ok (files, left), opened)
  steps : Batch.Steps p o limit (.start opened files) last
  ended : last.HasResults results

/-- Whatever cancels it, collecting finds files and leaves everything as it was. -/
lemma Pipeline.CancellableRun.opened_eq {p : Pipeline} {o : PathOptions} {limit : Nat}
    {paths : List Bytes} {w : World} (run : p.CancellableRun o limit paths w) :
    run.opened.files = w.files ∧ run.opened.calls = w.calls ∧
      ∀ path ∈ run.files, w.files.IsFile path := by
  have hfollows := Interruptible.follows_sources o paths
  obtain ⟨-,hcollect,-⟩ := Session.run_sources_eq_ok.mp (hfollows.completed _ _ _ _ _ run.collected)
  obtain ⟨hopened,hfiles⟩ := Session.collectWith_isFile hcollect
  have hcalls := (hfollows.readsOnly run.moment w).2
  rw [run.collected] at hcalls
  exact ⟨hopened,congrArg List.reverse hcalls,hfiles⟩

namespace Pipeline
variable {p : Pipeline} {o : PathOptions}

/-- One after the other, files are formatted until one is not started any more. -/
lemma formatFiles_stopped {files : List Bytes} {w w' : World} {rs : List FileResult}
    {stopped : Option Failure} (h : (p.formatFiles o files).run w = ((rs, stopped), w')) :
    stopped = if {} ∈ rs then some .canceled else none := by
  induction files generalizing w rs with
  | nil =>
    cases h
    rfl
  | cons path more ih =>
    cases hcancelled : w.cancelled with
    | true =>
      rw [p.run_formatFiles_of_cancelled o hcancelled] at h
      cases h
      simp
    | false =>
      have hresult : ((p.complete o path .waiting).run w).1 ≠ {} := by
        rw [p.run_complete_waiting o path hcancelled]
        change ((p.formatFile o path).run w).1 ≠ {}
        rw [p.run_formatFile o path w]
        exact (p.isTold_formatFileAt _ _ _).ne_empty
      rw [p.run_formatFiles_cons o path hcancelled] at h
      generalize (p.complete o path .waiting).run w = out at hresult h
      obtain ⟨r,w₁⟩ := out
      dsimp only at hresult h
      cases hmore : (p.formatFiles o more).run w₁ with
      | mk out w₂ =>
        obtain ⟨rs',stopped'⟩ := out
        rw [hmore] at h
        cases h
        rw [ih hmore]
        simp only [List.mem_cons, hresult.symm, false_or]

/-- Formatting one file after the other is such a run, which nothing from outside cancels. -/
lemma exists_cancellableRun {limit : Nat} (hlimit : 0 < limit) {paths : List Bytes} {w w' : World}
    {rs : List FileResult} {stopped : Option Failure}
    (h : (p.formatPaths paths o).run.run w = (.ok (rs, stopped), w')) :
    ∃ run : p.CancellableRun o limit paths w, run.moment = none ∧ run.results = rs ∧
      run.last.failure = stopped ∧ run.last.world = w' := by
  rw [p.formatPaths_eq] at h
  obtain ⟨files,w₁,hsources,h⟩ := Session.run_bind_eq_ok.mp h
  rw [Session.run_lift] at h
  have hrun : (p.formatFiles o files).run w₁ = ((rs, stopped), w') := by
    obtain ⟨hout,hw'⟩ := Prod.mk.inj h
    exact Prod.ext (Except.ok.inj hout) hw'
  obtain ⟨slots,hslots,hsteps⟩ := Progress.steps_formatFiles (p := p) (o := o) hlimit files w₁
    List.countP_nil
  rw [hrun] at hslots hsteps
  obtain ⟨b,hb,hbatch⟩ := Batch.exists_steps (b := .start w₁ files) hsteps
  have hresults : b.HasResults rs := by
    rw [hb]
    exact hslots
  have hcollected := (Interruptible.follows_sources o paths).undisturbed w
  rw [hsources] at hcollected
  refine ⟨⟨none,files,none,w₁,b,rs,hcollected,hbatch,hresults⟩,rfl,rfl,?_,by rw [hb]⟩
  have hany := Progress.any_isSkipped_iff hbatch.progress hresults
  change b.failure = stopped
  rw [Batch.failure_eq_of_steps hbatch, formatFiles_stopped hrun]
  by_cases hempty : {} ∈ rs
  · rw [if_pos hempty, if_pos (hany.mpr hempty)]
  · rw [if_neg hempty, if_neg (mt hany.mp hempty)]

/-- A run that is cancelled leaves a part of a run behind. Each file has the result of formatting it,
or an empty one; then nothing of it was handed to the formatter, and it is as it was. There is a
failure beside the results just if one of them is empty, and without results no file has changed. -/
theorem cancellation_consistent (p : Pipeline) (o : PathOptions) (paths : List Bytes) (w : World)
    (hformatter : ∀ f ∈ p.formatter, f.KeepsFiles ∧ f.IsSilent)
    (hresolve : ∀ resolve ∈ o.resolve, LayoutResolver.KeepsFiles resolve ∧
      LayoutResolver.IsSilent resolve)
    (hanchored : w.files.Anchored) :
    (∀ limit, 0 < limit → ∀ rs stopped w',
      (p.formatPaths paths o).run.run w = (.ok (rs, stopped), w') →
      ∃ run : p.CancellableRun o limit paths w, run.moment = none ∧ run.results = rs ∧
        run.last.failure = stopped ∧ run.last.world = w') ∧
    (∀ e w', (p.formatPaths paths o).run.run w = (.error e, w') →
      (Interruptible.sources o paths none).run.run w = (.error e, w')) ∧
    (∀ moment e w', (Interruptible.sources o paths moment).run.run w = (.error e, w') →
      w'.files = w.files) ∧
    ∀ limit (run : p.CancellableRun o limit paths w), (run.files.map w.files.locate).Nodup →
      run.results.length = run.files.length ∧
      (∀ path r, (path, r) ∈ run.files.zip run.results → r = {} ∨
        Progress.Formats p o limit (.start run.opened run.files) run.last.toProgress path r) ∧
      (∀ path, (path, {}) ∈ run.files.zip run.results →
        (∀ c ∈ run.last.calls, c.1 ≠ path) ∧
        run.last.world.files.lookup path = w.files.lookup path) ∧
      run.last.world.calls = w.calls ++ run.last.calls.map (·.2) ∧
      (run.last.failure ≠ none ↔ {} ∈ run.results) := by
  have hfollows := Interruptible.follows_sources o paths
  refine ⟨fun limit hlimit rs stopped w' => exists_cancellableRun hlimit,?_,?_,?_⟩
  · intro e w' h
    rw [p.formatPaths_eq, Session.run_bind] at h
    rw [hfollows.undisturbed]
    generalize (Session.sources o paths).run.run w = out at h
    obtain ⟨r,w₁⟩ := out
    cases r with
    | error e' =>
      cases h
      rfl
    | ok files => cases h
  · intro moment e w' h
    have hfiles := (hfollows.readsOnly moment w).1
    rwa [h] at hfiles
  · intro limit run hdistinct
    obtain ⟨hopened,hcalls,hfiles⟩ := run.opened_eq
    rw [← hopened] at hanchored hfiles hdistinct ⊢
    rw [← hcalls]
    have hformatter' := fun f hf => (hformatter f hf).1
    have hresolve' := fun resolve hr => (hresolve resolve hr).1
    have hsteps := run.steps.progress
    have htracks := Progress.tracks_of_steps hformatter' hresolve' hanchored hfiles hdistinct hsteps
    have hrecords := Batch.records_of_steps hdistinct.of_map (fun f hf => (hformatter f hf).2)
      (fun resolve hr => (hresolve resolve hr).2) run.steps
    refine ⟨htracks.length_results run.ended,?_,?_,hrecords.calls,?_⟩
    · intro path r hmem
      obtain ⟨stage,hslot,hresult⟩ := htracks.exists_slot run.ended hmem
      exact Progress.eq_empty_or_formats hanchored hfiles hdistinct hformatter' hresolve' hsteps
        hslot hresult
    · intro path hmem
      obtain ⟨stage,hslot,hresult⟩ := htracks.exists_slot run.ended hmem
      have hskipped := (Progress.isSkipped_iff hsteps hslot hresult).mpr rfl
      cases stage <;> cases hskipped
      exact ⟨hrecords.fresh _ hslot trivial,
        htracks.lookup_of_unchanged hanchored hfiles hdistinct hslot rfl⟩
    · rw [Batch.failure_eq_of_steps run.steps, ← Progress.any_isSkipped_iff hsteps run.ended]
      cases run.last.slots.any (·.2.isSkipped) <;> simp

end Pipeline

/-- Is cancelled by the first call of its formatter. -/
def sampleCancelling : Pipeline where
  formatter := some fun _ _ text => do
    Session.cancel
    return text ++ "\n"

def sampleCancellingResults : List FileResult := [
  { path := "./b.php", changed := true, source := "bad", formatted := "bad\n", diagnostics := some {} },
  {}]

theorem Pipeline.cancellation_consistent_sampleCancelling :
    ((sampleCancelling.formatPaths ["./b.php", "a.php"] {}).run.run { files := sampleTree }).1 =
      .ok (sampleCancellingResults, some .canceled) ∧
    ((sampleCancelling.formatPaths ["./b.php", "a.php"] {}).run.run
      { files := sampleTree }).2.files.lookup "a.php" = .ok (.file "<p>") ∧
    ∃ calls : List (Bytes × FormatterCall),
      ((sampleCancelling.formatPaths ["./b.php", "a.php"] {}).run.run { files := sampleTree }).2.calls =
        calls.map (·.2) ∧ ∀ c ∈ calls, c.1 ≠ "a.php" := by
  have hrun := Pipeline.run_formatPaths (p := sampleCancelling) (o := {}) rfl collect_sampleTree
    (List.cons_ne_nil _ _)
  have hresults : ((sampleCancelling.formatFiles {} ["./b.php", "a.php"]).run
      { files := sampleTree }).1 = (sampleCancellingResults, some .canceled) := by decide +kernel
  rw [hresults] at hrun
  have hkeeps : ∀ f ∈ sampleCancelling.formatter, f.KeepsFiles ∧ f.IsSilent := by
    rintro f hf
    obtain rfl := Option.some.inj hf
    exact ⟨fun _ _ _ _ => rfl,fun _ _ _ _ => rfl⟩
  obtain ⟨hsequential,-,-,hall⟩ := Pipeline.cancellation_consistent sampleCancelling {}
    ["./b.php", "a.php"] { files := sampleTree } hkeeps (by simp) (by decide)
  obtain ⟨run,-,hrs,-,hlast⟩ := hsequential 1 Nat.one_pos _ _ _ hrun
  have hfiles : run.files = ["./b.php", "a.php"] := by
    have hsources := (Interruptible.follows_sources _ _).completed _ _ _ _ _ run.collected
    obtain ⟨-,hcollect,-⟩ := Session.run_sources_eq_ok.mp hsources
    exact Except.ok.inj (congrArg Prod.fst (hcollect.symm.trans collect_sampleTree))
  obtain ⟨-,-,hempty,hcalls,-⟩ := hall 1 run (by rw [hfiles]; decide)
  rw [hfiles, hrs] at hempty
  obtain ⟨hfresh,huntouched⟩ := hempty "a.php" (by simp [sampleCancellingResults])
  rw [hrun, ← hlast]
  exact ⟨rfl,huntouched.trans (by decide),run.last.calls,hcalls,hfresh⟩

end Stencil
