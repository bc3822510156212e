import Stencil.Proofs.Pipeline.Schedule

/-! What a run leaves behind. However the work on the files is ordered, and wherever it fails or is
cancelled, the files end up as they were but for those whose results say otherwise. -/
namespace Stencil

/-- Formatting changes no files. -/
def Formatter.KeepsFiles (f : Formatter) : Prop :=
  ∀ language layout text w, ((f language layout text).run.run w).2.files = w.files

/-- Settling a layout changes no files. -/
def LayoutResolver.KeepsFiles (resolve : LayoutResolver) : Prop :=
  ∀ path base w, ((resolve path base).run w).2.files = w.files

/-- The change that a result reports: the path and what it holds now. -/
def FileResult.change? (o : PathOptions) (r : FileResult) : Option (Bytes × Bytes) :=
  if r.failure = none ∧ r.changed ∧ !(o.check || o.stdout) then some (r.path, r.formatted) else none

/-- A result as it is before it is stored: it is about its file, and reports no change if it failed. -/
structure FileResult.IsComputed (r : FileResult) (path : Bytes) : Prop where
  path : r.path = path
  failure : r.changed = true → r.failure = none

namespace Stage

/-- The change that was made to a file. -/
def change? (o : PathOptions) (stage : Stage) : Option (Bytes × Bytes) :=
  stage.result?.bind (·.change? o)

/-- Results are about their file. -/
def IsAbout (path : Bytes) : Stage → Prop
  | .formatted r => r.IsComputed path
  | .finished r => r.path = path
  | .waiting | .loaded _ | .skipped => True

lemma path_of_change? {o : PathOptions} {path : Bytes} {stage : Stage} {c : Bytes × Bytes}
    (h : stage.IsAbout path) (hc : stage.change? o = some c) : c.1 = path := by
  obtain ⟨r,hr,hc⟩ := Option.bind_eq_some_iff.mp hc
  rw [FileResult.change?] at hc
  split at hc
  · next hreported =>
    cases hc
    cases stage <;> cases hr
    · exact h
    · simp at hreported
  · cases hc

end Stage

namespace Pipeline
open Session
variable {p : Pipeline} {o : PathOptions} {I : World → Prop}

/-! ## The steps for one file -/

/-- What holds of each call of the formatter holds of formatting a document. -/
lemma formatWith_of_compositional {P : {α : Type} → Session α → Prop} (hP : Compositional P)
    (hf : ∀ f ∈ p.formatter, ∀ language layout text, P (f language layout text))
    (html php : Layout) (source : Bytes) : P (p.formatWith html php source) := by
  cases hformatter : p.formatter with
  | none =>
    rw [formatWith, hformatter]
    exact hP.throw _
  | some f =>
    have hformatting (language : Language) (layout : Layout) (text : Bytes) :
        P (formatting f language layout text) :=
      hP.bind (hP.recordCall _) fun _ => hP.context _ (hf f hformatter language layout text)
    rw [formatWith_of_formatter _ _ _ _ hformatter, tokenizing_bind]
    cases tokenizeWith p.width p.tokens source with
    | error e => exact hP.bind (hP.emitAll _) fun _ => hP.throw _
    | ok r =>
      refine hP.bind (hP.emitAll _) fun _ => hP.bind (hformatting _ _ _) fun markup => ?_
      refine hP.bind (hP.bind (hP.emitAll _) fun _ => hP.pure (restore markup r.1.map)) fun restored => ?_
      refine hP.bind ?_ fun formatted => ?_
      · rw [secondPass]
        split
        · exact hP.pure _
        · exact hformatting _ _ _
      · rw [Pipeline.conclude]
        cases diagnoseRestored source r.1 restored with
        | error e => exact hP.bind (hP.throw _) fun _ => hP.bind (hP.emitAll [_]) fun _ => hP.pure _
        | ok ds => exact hP.bind (hP.pure _) fun _ => hP.bind (hP.emitAll [_]) fun _ => hP.pure _

lemma load_files (hresolve : ∀ resolve ∈ o.resolve, LayoutResolver.KeepsFiles resolve)
    (path : Bytes) (w : World) : ((p.load o path).run w).2.files = w.files := by
  have hresolve' : LayoutResolver.KeepsFiles (o.resolve.getD fun _ base => return base) := by
    cases h : o.resolve with
    | none => exact fun _ _ _ => rfl
    | some resolve => exact hresolve resolve h
  rw [load, StateT.run_bind, run_context, run_readFile]
  cases w.files.read path with
  | error f => exact World.files_afterCall ..
  | ok source => exact ((hresolve' ..).trans (hresolve' ..)).trans (World.files_afterCall ..)

lemma reformat_files (hformatter : ∀ f ∈ p.formatter, f.KeepsFiles) (path : Bytes)
    (file : LoadedFile) (w : World) : ((p.reformat path file).run w).2.files = w.files := by
  have hkept := formatWith_of_compositional
    (compositional_preserves (I := fun w' => w'.files = w.files) fun _ _ _ h => h)
    (fun f hf language layout text w' h => (hformatter f hf language layout text w').trans h)
    file.html file.php file.source w rfl
  rw [reformat, StateT.run_bind]
  generalize (p.formatWith file.html file.php file.source).run.run w = out at hkept
  obtain ⟨r,w'⟩ := out
  cases r <;> exact hkept

lemma run_store (r : FileResult) (w : World) :
    (store o r).run w =
      if o.check || o.stdout || !r.changed then (r, w)
      else match w.files.admits r.path with
        | .ok () => (r, { w.afterCall .stat r.path with files := w.files.put r.path r.formatted })
        | .error f => ({ r with failure := some (f.wrap "writing") }, w.afterCall .stat r.path) := by
  rw [store]
  split
  · rfl
  · rw [StateT.run_bind, run_stat]
    change StateT.run (_ >>= _) (w.afterCall .stat r.path) = _
    rw [StateT.run_bind, run_context, run_writeFile, World.files_afterCall]
    cases w.files.admits r.path <;> rfl

/-- The file of a result is changed if the result says so, and no other is. -/
lemma settle_files {r : FileResult} {path : Bytes} (hr : r.IsComputed path) (w : World) :
    ((settle o r).run w).1.path = path ∧
      ((settle o r).run w).2.files =
        w.files.putAll (((settle o r).run w).1.change? o).toList := by
  change ((store o r).run w).1.path = path ∧
    ((store o r).run w).2.files = w.files.putAll (((store o r).run w).1.change? o).toList
  rw [run_store]
  split
  · next hkept =>
    have hchange : r.change? o = none := by
      rw [FileResult.change?, if_neg]
      intro hreported
      simp_all
    rw [hchange]
    exact ⟨hr.path,rfl⟩
  · next hstored =>
    obtain ⟨⟨hcheck,hstdout⟩,hchanged⟩ : (o.check = false ∧ o.stdout = false) ∧ r.changed = true := by
      simpa using hstored
    cases w.files.admits r.path with
    | ok u =>
      have hchange : r.change? o = some (r.path, r.formatted) := by
        rw [FileResult.change?, hcheck, hstdout, hchanged, hr.failure hchanged]
        rfl
      dsimp only
      rw [hchange]
      exact ⟨hr.path,rfl⟩
    | error f =>
      have hchange : { r with failure := some (f.wrap "writing") }.change? o = none := by
        simp [FileResult.change?]
      dsimp only
      rw [hchange]
      exact ⟨hr.path,World.files_afterCall ..⟩

lemma isComputed_of_load {path : Bytes} {w : World} {r : FileResult}
    (h : ((p.load o path).run w).1 = .error r) : r.IsComputed path := by
  rw [load, StateT.run_bind, run_context, run_readFile] at h
  cases hread : w.files.read path with
  | error f =>
    rw [hread] at h
    cases h
    exact ⟨rfl,fun h => by cases h⟩
  | ok source =>
    rw [hread] at h
    cases h

lemma isComputed_reformat (path : Bytes) (file : LoadedFile) (w : World) :
    ((p.reformat path file).run w).1.IsComputed path := by
  rw [reformat, StateT.run_bind]
  generalize (p.formatWith file.html file.php file.source).run.run w = out
  obtain ⟨r,w'⟩ := out
  cases r with
  | error f => exact ⟨rfl,fun h => by cases h⟩
  | ok d => exact ⟨rfl,fun _ => rfl⟩

lemma advance_of_result? {path : Bytes} {stage : Stage} {r : FileResult}
    (h : stage.result? = some r) : p.advance o path stage = return stage := by
  cases stage <;> cases h <;> rfl

/-- One step for a file changes no other file. -/
theorem advance_files (hformatter : ∀ f ∈ p.formatter, f.KeepsFiles)
    (hresolve : ∀ resolve ∈ o.resolve, LayoutResolver.KeepsFiles resolve) {path : Bytes}
    {stage : Stage} (hstage : stage.IsAbout path) (hopen : stage.result? = none) (w : World) :
    ((p.advance o path stage).run w).1.IsAbout path ∧
      ((p.advance o path stage).run w).2.files =
        w.files.putAll (((p.advance o path stage).run w).1.change? o).toList := by
  cases stage with
  | waiting =>
    rw [run_advance_waiting]
    split
    · have hnone : Stage.skipped.change? o = none := by
        simp [Stage.change?, Stage.result?, FileResult.change?]
      rw [hnone]
      exact ⟨trivial,rfl⟩
    · have hfiles := load_files (p := p) hresolve path w
      have hcomputed (r : FileResult) :
          ((p.load o path).run w).1 = .error r → r.IsComputed path := isComputed_of_load
      generalize (p.load o path).run w = out at hfiles hcomputed
      obtain ⟨loaded,w'⟩ := out
      cases loaded with
      | error r => exact ⟨hcomputed r rfl,hfiles⟩
      | ok file => exact ⟨trivial,hfiles⟩
  | loaded file => exact ⟨isComputed_reformat path file w,reformat_files hformatter path file w⟩
  | formatted r => exact settle_files hstage w
  | finished r => cases hopen
  | skipped => cases hopen

end Pipeline

/-! ## Whole runs -/

namespace Progress
variable {p : Pipeline} {o : PathOptions} {limit : Nat} {fs : FileSystem} {files : List Bytes}

/-- The changes that were made, in the order of the files. -/
def changes (o : PathOptions) (slots : List (Bytes × Stage)) : List (Bytes × Bytes) :=
  slots.filterMap (·.2.change? o)

lemma changes_append (o : PathOptions) (before after : List (Bytes × Stage)) :
    changes o (before ++ after) = changes o before ++ changes o after := List.filterMap_append

lemma changes_cons (o : PathOptions) (slot : Bytes × Stage) (slots : List (Bytes × Stage)) :
    changes o (slot :: slots) = (slot.2.change? o).toList ++ changes o slots := by
  rw [changes, List.filterMap_cons]
  cases slot.2.change? o <;> rfl

/-- The files are what they were at the beginning, with the changes that were made. -/
structure Tracks (o : PathOptions) (fs : FileSystem) (files : List Bytes) (s : Progress) : Prop where
  paths : s.slots.map (·.1) = files
  isAbout : ∀ slot ∈ s.slots, slot.2.IsAbout slot.1
  world : s.world.files = fs.putAll (changes o s.slots)

lemma sublist_changes {slots : List (Bytes × Stage)} (h : ∀ slot ∈ slots, slot.2.IsAbout slot.1) :
    ((changes o slots).map (·.1)).Sublist (slots.map (·.1)) := by
  induction slots with
  | nil => exact .slnil
  | cons slot slots ih =>
    have ih := ih fun s hs => h s (List.mem_cons_of_mem _ hs)
    rw [changes_cons, List.map_append, List.map_cons]
    cases hc : slot.2.change? o with
    | none => exact ih.cons _
    | some c =>
      rw [← Stage.path_of_change? (h slot (List.mem_cons_self ..)) hc]
      exact ih.cons_cons _

lemma independent_changes {slots : List (Bytes × Stage)} (hpaths : slots.map (·.1) = files)
    (hfiles : ∀ path ∈ files, fs.IsFile path) (hdistinct : (files.map fs.locate).Nodup)
    (h : ∀ slot ∈ slots, slot.2.IsAbout slot.1) : fs.Independent (changes o slots) := by
  have hsub := sublist_changes (o := o) h
  rw [hpaths] at hsub
  refine ⟨fun c hc => hfiles _ (hsub.subset (List.mem_map_of_mem hc)),?_⟩
  have hnodup := hdistinct.sublist (hsub.map fs.locate)
  rwa [List.map_map] at hnodup

lemma tracks_start (o : PathOptions) (w : World) (files : List Bytes) :
    (start w files).Tracks o w.files files := by
  refine ⟨?_,?_,?_⟩
  · rw [start, List.map_map]
    exact List.map_id _
  · intro slot hslot
    obtain ⟨path,-,rfl⟩ := List.mem_map.mp hslot
    trivial
  · have hnone : changes o (files.map (·, .waiting)) = [] := by
      rw [changes, List.filterMap_map]
      exact List.filterMap_eq_nil_iff.mpr fun _ _ => rfl
    rw [start, hnone]
    rfl

section
variable (hanchored : fs.Anchored) (hfiles : ∀ path ∈ files, fs.IsFile path)
  (hdistinct : (files.map fs.locate).Nodup)
include hanchored hfiles hdistinct

lemma Tracks.lookup_of_not_mem {s : Progress} (h : s.Tracks o fs files) {q : Bytes}
    (hq : fs.locate q ∉ files.map fs.locate) : s.world.files.lookup q = fs.lookup q := by
  have hindependent := independent_changes (o := o) h.paths hfiles hdistinct h.isAbout
  rw [h.world]
  refine hindependent.lookup_putAll_of_not_mem hanchored fun hmem => hq ?_
  have hsub := (sublist_changes (o := o) h.isAbout).map fs.locate
  rw [h.paths, List.map_map] at hsub
  exact hsub.subset hmem

/-- A file is what its slot says. -/
lemma Tracks.lookup_of_mem {s : Progress} (h : s.Tracks o fs files) {path : Bytes} {stage : Stage}
    (hslot : (path, stage) ∈ s.slots) :
    s.world.files.lookup path = ((stage.change? o).map fun c => .ok (.file c.2)).getD
      (fs.lookup path) := by
  have hindependent := independent_changes (o := o) h.paths hfiles hdistinct h.isAbout
  rw [h.world]
  cases hc : stage.change? o with
  | some c =>
    have hpath := Stage.path_of_change? (h.isAbout _ hslot) hc
    have hmem : c ∈ changes o s.slots := List.mem_filterMap.mpr ⟨_,hslot,hc⟩
    obtain ⟨q,content⟩ := c
    obtain rfl : q = path := hpath
    exact hindependent.lookup_putAll_of_mem hanchored hmem
  | none =>
    refine hindependent.lookup_putAll_of_not_mem hanchored fun hmem => ?_
    obtain ⟨c,hcmem,hlocate⟩ := List.mem_map.mp hmem
    obtain ⟨slot,hslot',hc'⟩ := List.mem_filterMap.mp hcmem
    have hpath := Stage.path_of_change? (h.isAbout _ hslot') hc'
    have hnodup : (s.slots.map fun slot => fs.locate slot.1).Nodup := by
      rw [← h.paths, List.map_map] at hdistinct
      exact hdistinct
    have hsame : slot = (path, stage) :=
      List.inj_on_of_nodup_map hnodup hslot' hslot (by rw [← hpath, hlocate])
    rw [hsame, hc] at hc'
    cases hc'

variable (hformatter : ∀ f ∈ p.formatter, f.KeepsFiles)
  (hresolve : ∀ resolve ∈ o.resolve, LayoutResolver.KeepsFiles resolve)
include hformatter hresolve

/-- One step keeps track. -/
theorem Tracks.step {s s' : Progress} (h : s.Tracks o fs files) (hstep : Step p o limit s s') :
    s'.Tracks o fs files := by
  cases hstep with
  | cancel w slots => exact ⟨h.paths,h.isAbout,h.world⟩
  | advance w before after path stage hroom =>
    cases hresult : stage.result? with
    | some r =>
      rw [Pipeline.advance_of_result? hresult]
      exact h
    | none =>
      have hstage := h.isAbout (path, stage) (by simp)
      obtain ⟨hnext,hworld⟩ := p.advance_files hformatter hresolve hstage hresult w
      generalize (p.advance o path stage).run w = out at hnext hworld
      obtain ⟨next,w'⟩ := out
      dsimp only at hnext hworld ⊢
      have hpaths : (before ++ (path, next) :: after).map (·.1) = files := by
        rw [← h.paths]
        simp
      have habout : ∀ slot ∈ before ++ (path, next) :: after, slot.2.IsAbout slot.1 := by
        intro slot hslot
        obtain hslot | rfl | hslot := by simpa using hslot
        · exact h.isAbout slot (by simp [hslot])
        · exact hnext
        · exact h.isAbout slot (by simp [hslot])
      have hnone : stage.change? o = none := by
        rw [Stage.change?, hresult, Option.bind_none]
      have hindependent := independent_changes (o := o) hpaths hfiles hdistinct habout
      refine ⟨hpaths,habout,?_⟩
      rw [hworld, h.world, ← FileSystem.putAll_append]
      refine (hindependent.putAll_perm hanchored ?_).symm
      simp only [changes_append, changes_cons, hnone, Option.toList_none, List.nil_append,
        List.append_assoc]
      exact List.perm_append_comm.append_left _

theorem Tracks.steps {s s' : Progress} (h : s.Tracks o fs files) (hsteps : Steps p o limit s s') :
    s'.Tracks o fs files := by
  induction hsteps with
  | refl => exact h
  | tail _ hstep ih => exact ih.step hanchored hfiles hdistinct hformatter hresolve hstep

end

lemma changes_of_results {slots : List (Bytes × Stage)} {rs : List FileResult}
    (h : slots.map (·.2.result?) = rs.map some) :
    changes o slots = rs.filterMap (·.change? o) := by
  have hresults := congrArg (List.filterMap fun r? => r?.bind (·.change? o)) h
  simp only [List.filterMap_map] at hresults
  exact hresults

lemma exists_slot_of_mem_zip {slots : List (Bytes × Stage)} {rs : List FileResult}
    (h : slots.map (·.2.result?) = rs.map some) {path : Bytes} {r : FileResult}
    (hmem : (path, r) ∈ (slots.map (·.1)).zip rs) :
    ∃ stage, (path, stage) ∈ slots ∧ stage.result? = some r := by
  induction slots generalizing rs with
  | nil => simp at hmem
  | cons slot slots ih =>
    cases rs with
    | nil => simp at hmem
    | cons r' rs =>
      obtain ⟨hr',hrest⟩ := List.cons.inj h
      obtain heq | hmem := List.mem_cons.mp hmem
      · cases heq
        exact ⟨slot.2,List.mem_cons_self ..,hr'⟩
      · obtain ⟨stage,hstage,hresult⟩ := ih hrest hmem
        exact ⟨stage,List.mem_cons_of_mem _ hstage,hresult⟩

end Progress

/-- Every run keeps track. -/
lemma Progress.tracks_of_steps {p : Pipeline} {o : PathOptions} {limit : Nat} {files : List Bytes}
    {w : World} {s : Progress} (hformatter : ∀ f ∈ p.formatter, f.KeepsFiles)
    (hresolve : ∀ resolve ∈ o.resolve, LayoutResolver.KeepsFiles resolve)
    (hanchored : w.files.Anchored) (hfiles : ∀ path ∈ files, w.files.IsFile path)
    (hdistinct : (files.map w.files.locate).Nodup)
    (hsteps : Progress.Steps p o limit (.start w files) s) : s.Tracks o w.files files :=
  (Progress.tracks_start o w files).steps hanchored hfiles hdistinct hformatter hresolve hsteps

/-- Three files, one of them holding what the formatter refuses. -/
def sampleTree : FileSystem where
  entries := [
    ("/site", .directory),
    ("/site/a.php", .file "<p>"),
    ("/site/b.php", .file "bad"),
    ("/site/c.php", .file "<b>")]
  workingDirectory := some "/site"

lemma collect_sampleTree :
    (({} : PathOptions).collect ["./b.php", "a.php"]).run.run { files := sampleTree } =
      (.ok ["./b.php", "a.php"], { files := sampleTree }) := by
  have hfound : (List.mapM (Session.collectPath Glob.isMatch ⟨[], []⟩) ["./b.php", "a.php"]).run.run
      { files := sampleTree } = (.ok [["./b.php"], ["a.php"]], { files := sampleTree }) :=
    Prod.ext (by decide +kernel) (by decide +kernel)
  exact Session.run_collectWith_of_sorted (by decide) hfound (by decide)

end Stencil
