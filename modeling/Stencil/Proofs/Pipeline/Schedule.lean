import Mathlib.Logic.Relation
import Stencil.Pipeline.Paths
import Stencil.Proofs.Files.Collected
import Stencil.Proofs.Pipeline.Calls

/-! Files in work at the same time. Each file is loaded, formatted and stored, in three steps, and
the steps of different files may come in any order as long as no more files are in work than a limit
allows. One file after the other is such an order. -/
namespace Stencil

/-- A file that was read, and the layouts for it. -/
structure LoadedFile where
  source : Bytes
  html : Layout
  php : Layout

/-- How far the work on a file has come. -/
inductive Stage where
  | waiting
  | loaded (file : LoadedFile)
  /-- The result is known, but not yet stored and reported. -/
  | formatted (r : FileResult)
  | finished (r : FileResult)
  /-- The session was cancelled before the file was started. -/
  | skipped

namespace Stage

/-- Whether a worker is busy with the file. -/
def isActive : Stage → Bool
  | .loaded _ | .formatted _ => true
  | .waiting | .finished _ | .skipped => false

/-- The number of steps that are left at most. -/
def remaining : Stage → Nat
  | .waiting => 3
  | .loaded _ => 2
  | .formatted _ => 1
  | .finished _ | .skipped => 0

/-- What has become of the file, once nothing is left to do. -/
def result? : Stage → Option FileResult
  | .finished r => some r
  | .skipped => some {}
  | .waiting | .loaded _ | .formatted _ => none

end Stage

namespace Pipeline
variable (p : Pipeline) (o : PathOptions) (path : Bytes)

/-- Reads a file and settles its layouts. A file that cannot be read has its result. -/
def load : Task (Except FileResult LoadedFile) := do
  match ← (Session.context "reading" (Session.readFile path)).run with
  | .error f => return .error { path, failure := some f }
  | .ok source =>
    let resolve : LayoutResolver := o.resolve.getD fun _ base => return base
    let html ← resolve path p.html
    let php ← resolve path p.php
    return .ok ⟨source, html, php⟩

/-- Formats what was read. -/
def reformat (file : LoadedFile) : Task FileResult := do
  match ← (p.formatWith file.html file.php file.source).run with
  | .error f => return { path, source := file.source, failure := some f }
  | .ok d =>
    return {
      path
      source := file.source
      changed := d.isChanged file.source
      formatted := d.formatted
      diagnostics := some d.diagnostics }

/-- Stores a result and reports on it. -/
def settle (r : FileResult) : Task FileResult := do
  let r ← store o r
  Session.emit r.event
  return r

/-- The next step for a file. -/
def advance : Stage → Task Stage
  | .waiting => do
    if (← getThe World).cancelled then return .skipped
    else
      match ← p.load o path with
      | .error r => return .formatted r
      | .ok file => return .loaded file
  | .loaded file => return .formatted (← p.reformat path file)
  | .formatted r => return .finished (← settle o r)
  | stage => return stage

/-- All that is left to do for a file. -/
def complete : Stage → Task FileResult
  | .waiting => do
    if (← getThe World).cancelled then return {}
    else
      match ← p.load o path with
      | .error r => settle o r
      | .ok file => do settle o (← p.reformat path file)
  | .loaded file => do settle o (← p.reformat path file)
  | .formatted r => settle o r
  | .finished r => return r
  | .skipped => return {}

/-- A step does a part of what is left to do. -/
lemma advance_bind_complete (stage : Stage) :
    (do p.complete o path (← p.advance o path stage)) = p.complete o path stage := by
  cases stage with
  | waiting =>
    simp only [advance, complete, bind_assoc]
    refine bind_congr fun w => ?_
    split
    · rfl
    · rw [bind_assoc]
      refine bind_congr fun loaded => ?_
      cases loaded <;> rfl
  | loaded file => simp [advance, complete]
  | formatted r => simp [advance, complete]
  | finished r => rfl
  | skipped => rfl

lemma complete_of_result? {stage : Stage} {r : FileResult} (h : stage.result? = some r) :
    p.complete o path stage = return r := by
  cases stage <;> cases h <;> rfl

lemma run_advance_waiting (w : World) :
    (p.advance o path .waiting).run w =
      if w.cancelled then (.skipped, w)
      else match (p.load o path).run w with
        | (.error r, w') => (.formatted r, w')
        | (.ok file, w') => (.loaded file, w') := by
  change ((if w.cancelled then (return .skipped : Task Stage) else _).run w) = _
  split
  · rfl
  · rw [StateT.run_bind]
    generalize (p.load o path).run w = out
    obtain ⟨loaded,w'⟩ := out
    cases loaded <;> rfl

/-- Every step brings the end nearer. -/
lemma remaining_advance {stage : Stage} (h : stage.result? = none) (w : World) :
    ((p.advance o path stage).run w).1.remaining < stage.remaining := by
  cases stage with
  | waiting =>
    rw [run_advance_waiting]
    split
    · exact Nat.succ_pos 2
    · generalize (p.load o path).run w = out
      obtain ⟨loaded,w'⟩ := out
      cases loaded with
      | error r => exact Nat.lt_of_succ_lt (Nat.lt_succ_self 2)
      | ok file => exact Nat.lt_succ_self 2
  | loaded file => exact Nat.lt_succ_self 1
  | formatted r => exact Nat.lt_succ_self 0
  | finished r => cases h
  | skipped => cases h

lemma store_of_unchanged {r : FileResult} (h : r.changed = false) : store o r = return r := by
  rw [store, h, Bool.not_false, Bool.or_true, if_pos rfl]

lemma run_formatContent (source : Bytes) :
    (p.formatContent o path source).run = (do
      let resolve : LayoutResolver := o.resolve.getD fun _ base => return base
      let html ← resolve path p.html
      let php ← resolve path p.php
      (p.formatWith html php source).run) := rfl

lemma formatFile_eq :
    p.formatFile o path = (do
      match ← p.load o path with
      | .error r => store o r
      | .ok file => do store o (← p.reformat path file)) := by
  simp only [formatFile, load, bind_assoc]
  refine bind_congr fun read => ?_
  cases read with
  | error f => simp [store_of_unchanged]
  | ok source =>
    simp only [run_formatContent, reformat, bind_assoc, pure_bind]
    refine bind_congr fun html => bind_congr fun php => bind_congr fun out => ?_
    cases out with
    | error f => simp [store_of_unchanged]
    | ok d => simp

lemma run_complete_waiting {w : World} (h : w.cancelled = false) :
    (p.complete o path .waiting).run w = (do
      let r ← p.formatFile o path
      Session.emit r.event
      return r : Task FileResult).run w := by
  change ((if w.cancelled then (return {} : Task FileResult) else _).run w) = _
  rw [h, if_neg Bool.false_ne_true, formatFile_eq, bind_assoc]
  refine congrFun (congrArg StateT.run (bind_congr fun loaded => ?_)) w
  cases loaded with
  | error r => rfl
  | ok file => simp [settle]

lemma run_formatFiles_of_cancelled {w : World} (h : w.cancelled = true) (files : List Bytes) :
    (p.formatFiles o files).run w =
      ((List.replicate files.length {}, if files = [] then none else some .canceled), w) := by
  cases files with
  | nil => rfl
  | cons path more =>
    rw [formatFiles]
    change ((if w.cancelled then (return _ : Task (List FileResult × Option Failure))
      else _).run w) = _
    rw [if_pos h]
    rfl

lemma run_formatFiles_cons {w : World} (h : w.cancelled = false) (more : List Bytes) :
    (p.formatFiles o (path :: more)).run w =
      match (p.complete o path .waiting).run w with
      | (r, w₁) =>
        match (p.formatFiles o more).run w₁ with
        | ((rs, stopped), w₂) => ((r :: rs, stopped), w₂) := by
  rw [p.run_complete_waiting o path h, formatFiles]
  change ((if w.cancelled then (return _ : Task (List FileResult × Option Failure)) else _).run w) = _
  rw [h, if_neg Bool.false_ne_true]
  rfl

/-- Formatting files one after the other completes each of them. -/
lemma complete_formatFiles (more : List Bytes) (w : World) :
    ((p.formatFiles o (path :: more)).run w).1.1 =
        ((p.complete o path .waiting).run w).1 ::
          ((p.formatFiles o more).run ((p.complete o path .waiting).run w).2).1.1 ∧
      ((p.formatFiles o (path :: more)).run w).2 =
        ((p.formatFiles o more).run ((p.complete o path .waiting).run w).2).2 := by
  cases hcancelled : w.cancelled with
  | true =>
    have hcomplete : (p.complete o path .waiting).run w = ({}, w) := by
      change ((if w.cancelled then (return {} : Task FileResult) else _).run w) = _
      rw [if_pos hcancelled]
      rfl
    rw [hcomplete, p.run_formatFiles_of_cancelled o hcancelled,
      p.run_formatFiles_of_cancelled o hcancelled]
    exact ⟨rfl,rfl⟩
  | false =>
    rw [p.run_formatFiles_cons o path hcancelled]
    exact ⟨rfl,rfl⟩

end Pipeline

/-- A run in the middle: the world, and each file with its stage. -/
structure Progress where
  world : World
  slots : List (Bytes × Stage)

namespace Progress

/-- No file has been started. -/
def start (w : World) (files : List Bytes) : Progress := ⟨w, files.map (·, .waiting)⟩

/-- Either one file goes on, for which there has to be room if it is not started yet, or the session
is cancelled from outside. -/
inductive Step (p : Pipeline) (o : PathOptions) (limit : Nat) : Progress → Progress → Prop
  | advance (w : World) (before after : List (Bytes × Stage)) (path : Bytes) (stage : Stage)
      (hroom : stage = .waiting → (before ++ after).countP (·.2.isActive) < limit) :
      Step p o limit ⟨w, before ++ (path, stage) :: after⟩
        ⟨((p.advance o path stage).run w).2,
          before ++ (path, ((p.advance o path stage).run w).1) :: after⟩
  | cancel (w : World) (slots : List (Bytes × Stage)) :
      Step p o limit ⟨w, slots⟩ ⟨{ w with cancelled := true }, slots⟩

/-- Any number of steps. -/
abbrev Steps (p : Pipeline) (o : PathOptions) (limit : Nat) : Progress → Progress → Prop :=
  Relation.ReflTransGen (Step p o limit)

/-- Nothing is left to do, and these are the results. -/
def HasResults (s : Progress) (rs : List FileResult) : Prop :=
  s.slots.map (·.2.result?) = rs.map some

instance (s : Progress) (rs : List FileResult) : Decidable (s.HasResults rs) :=
  inferInstanceAs (Decidable (_ = _))

end Progress

/-- All files are handled, in some order, with the results in the order of the files. -/
def Pipeline.Schedules (p : Pipeline) (o : PathOptions) (limit : Nat) (files : List Bytes)
    (w : World) (rs : List FileResult) (w' : World) : Prop :=
  ∃ s : Progress, s.world = w' ∧ s.HasResults rs ∧ Progress.Steps p o limit (.start w files) s

/-- A whole run over the files at and below some paths. -/
structure Pipeline.Runs (p : Pipeline) (o : PathOptions) (limit : Nat) (paths : List Bytes)
    (w : World) (files : List Bytes) (rs : List FileResult) (w' : World) : Prop where
  notCancelled : w.cancelled = false
  nonempty : files ≠ []
  collected : ∃ w₁, (o.collect paths).run.run w = (.ok files, w₁) ∧
    p.Schedules o limit files w₁ rs w'

/-! ## One file after the other -/

namespace Progress
variable {p : Pipeline} {o : PathOptions} {limit : Nat}

/-- With no other file in work, a file can be brought to its end. -/
lemma steps_complete (hlimit : 0 < limit) {before after : List (Bytes × Stage)}
    (hidle : (before ++ after).countP (·.2.isActive) = 0) (path : Bytes) (stage : Stage) (w : World) :
    ∃ last, last.result? = some ((p.complete o path stage).run w).1 ∧
      Steps p o limit ⟨w, before ++ (path, stage) :: after⟩
        ⟨((p.complete o path stage).run w).2, before ++ (path, last) :: after⟩ := by
  induction hn : stage.remaining using Nat.strong_induction_on generalizing stage w with
  | h n ih =>
    cases hresult : stage.result? with
    | some r =>
      rw [p.complete_of_result? o path hresult]
      exact ⟨stage,hresult,.refl⟩
    | none =>
      have hless := p.remaining_advance o path hresult w
      obtain ⟨last,hlast,hsteps⟩ := ih _ (hn ▸ hless) ((p.advance o path stage).run w).1
        ((p.advance o path stage).run w).2 rfl
      rw [← p.advance_bind_complete o path stage]
      exact ⟨last,hlast,.head (.advance w before after path stage fun _ => hidle ▸ hlimit) hsteps⟩

/-- The first of the files that are left can be brought to its end. -/
lemma steps_first (hlimit : 0 < limit) {before : List (Bytes × Stage)}
    (hidle : before.countP (·.2.isActive) = 0) (path : Bytes) (more : List Bytes) (w : World) :
    ∃ last, last.result? = some ((p.complete o path .waiting).run w).1 ∧
      (before ++ [(path, last)]).countP (·.2.isActive) = 0 ∧
      Steps p o limit ⟨w, before ++ (path :: more).map (·, .waiting)⟩
        ⟨((p.complete o path .waiting).run w).2,
          before ++ [(path, last)] ++ more.map (·, .waiting)⟩ := by
  have hwaiting : (more.map (·, Stage.waiting)).countP (·.2.isActive) = 0 := by
    simp [List.countP_eq_zero, Stage.isActive]
  have hnone : (before ++ more.map (·, Stage.waiting)).countP (·.2.isActive) = 0 := by
    rw [List.countP_append, hidle, hwaiting]
  obtain ⟨last,hlast,hsteps⟩ := steps_complete (p := p) (o := o) hlimit hnone path .waiting w
  have hdone : last.isActive = false := by
    cases last <;> simp_all [Stage.result?, Stage.isActive]
  refine ⟨last,hlast,by simp [hidle, hdone],?_⟩
  rw [List.append_assoc, List.singleton_append]
  exact hsteps

/-- One file after the other, whatever the limit. -/
lemma steps_formatFiles (hlimit : 0 < limit) (files : List Bytes) (w : World)
    {before : List (Bytes × Stage)} (hidle : before.countP (·.2.isActive) = 0) :
    ∃ slots, slots.map (·.2.result?) = ((p.formatFiles o files).run w).1.1.map some ∧
      Steps p o limit ⟨w, before ++ files.map (·, .waiting)⟩
        ⟨((p.formatFiles o files).run w).2, before ++ slots⟩ := by
  induction files generalizing w before with
  | nil => exact ⟨[],rfl,.refl⟩
  | cons path more ih =>
    obtain ⟨last,hlast,hidle,hfirst⟩ := steps_first (p := p) (o := o) hlimit hidle path more w
    obtain ⟨slots,hslots,hrest⟩ := ih ((p.complete o path .waiting).run w).2 hidle
    obtain ⟨hresults,hworld⟩ := p.complete_formatFiles o path more w
    refine ⟨(path, last) :: slots,?_,?_⟩
    · rw [hresults, List.map_cons, hlast, hslots]
      rfl
    · rw [hworld]
      rw [List.append_assoc _ _ slots] at hrest
      exact hfirst.trans hrest

end Progress

/-! ## From the paths to the files -/

/-- The files to format; there have to be some. -/
def Session.sources (o : PathOptions) (paths : List Bytes) : Session (List Bytes) := do
  checkCancelled
  let files ← o.collect paths
  if files.isEmpty then throw (.plain "no source files found") else return files

lemma Session.run_sources_eq_ok {o : PathOptions} {paths files : List Bytes} {w w' : World} :
    (sources o paths).run.run w = (.ok files, w') ↔
      w.cancelled = false ∧ (o.collect paths).run.run w = (.ok files, w') ∧ files ≠ [] := by
  rw [sources]
  constructor
  · intro h
    obtain ⟨u,w₁,hcheck,h⟩ := run_bind_eq_ok.mp h
    obtain ⟨hcancelled,rfl⟩ := checkCancelled_eq_ok hcheck
    obtain ⟨found,w₂,hcollect,h⟩ := run_bind_eq_ok.mp h
    split at h
    · cases h
    · next hne =>
      cases h
      exact ⟨hcancelled,hcollect,by simpa using hne⟩
  · rintro ⟨hcancelled,hcollect,hne⟩
    refine run_bind_eq_ok.mpr ⟨(),w,?_,run_bind_eq_ok.mpr ⟨files,w',hcollect,?_⟩⟩
    · rw [run_checkCancelled, hcancelled]
      rfl
    · rw [if_neg (by simpa using hne)]
      rfl

/-- First the files are settled, and then they are formatted. -/
lemma Pipeline.formatPaths_eq (p : Pipeline) (o : PathOptions) (paths : List Bytes) :
    p.formatPaths paths o = (do
      let files ← Session.sources o paths
      p.formatFiles o files) := by
  rw [formatPaths, Session.sources]
  simp only [bind_assoc]
  refine bind_congr fun _ => bind_congr fun files => ?_
  cases files.isEmpty with
  | true => rfl
  | false => rfl

lemma Pipeline.run_formatPaths {p : Pipeline} {o : PathOptions} {paths files : List Bytes}
    {w w₁ : World} (hcancelled : w.cancelled = false)
    (hcollect : (o.collect paths).run.run w = (.ok files, w₁))
    (hne : files ≠ []) :
    (p.formatPaths paths o).run.run w =
      (.ok ((p.formatFiles o files).run w₁).1, ((p.formatFiles o files).run w₁).2) := by
  rw [p.formatPaths_eq, Session.run_bind,
    Session.run_sources_eq_ok.mpr ⟨hcancelled,hcollect,hne⟩]
  exact Session.run_lift ..

end Stencil
