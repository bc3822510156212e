import Stencil.Proofs.EditorConfig.Consulted
import Stencil.Proofs.Pipeline.FileEffects

/-! The order of the work makes no difference. What becomes of a file is foreseen in the world at
the beginning: the formatter depends on its texts alone, and what is read for one file is written
for no other. -/
namespace Stencil

/-- The formatter changes nothing but the record of calls and events, and while the session goes on
its answer depends on the language, the layout and the text alone. -/
structure Formatter.IsFunction (f : Formatter) : Prop where
  keepsFiles : f.KeepsFiles
  keepsCancelled (language : Language) (layout : Layout) (text : Bytes) (w : World) :
    ((f language layout text).run.run w).2.cancelled = w.cancelled
  answer (language : Language) (layout : Layout) (text : Bytes) : ∃ r, ∀ w, w.cancelled = false →
    ((f language layout text).run.run w).1 = r

/-- While the session goes on, the work gives the same in every world and does not cancel it. -/
def Task.Determined {α : Type} (work : Task α) : Prop :=
  ∃ a, ∀ w, w.cancelled = false → (work.run w).1 = a ∧ (work.run w).2.cancelled = false

lemma Task.determined_pure {α : Type} (a : α) : Task.Determined (pure a) :=
  ⟨a,fun _ h => ⟨rfl,h⟩⟩

lemma Task.Determined.bind {α β : Type} {work : Task α} {next : α → Task β}
    (h : Task.Determined work) (hnext : ∀ a, Task.Determined (next a)) :
    Task.Determined (work >>= next) := by
  obtain ⟨a,ha⟩ := h
  obtain ⟨b,hb⟩ := hnext a
  refine ⟨b,fun w hw => ?_⟩
  obtain ⟨hresult,hcancelled⟩ := ha w hw
  rw [← hresult] at hb
  exact hb _ hcancelled

lemma Session.compositional_determined : Compositional fun work => Task.Determined work.run where
  pure a := Task.determined_pure (Except.ok a)
  throw e := Task.determined_pure (Except.error e)
  bind h hnext := by
    rw [ExceptT.run_bind]
    refine h.bind fun r => ?_
    cases r with
    | error e => exact Task.determined_pure _
    | ok a => exact hnext a
  context doing work h := h.bind fun r => Task.determined_pure _
  emitAll _ := ⟨.ok (),fun _ h => ⟨rfl,h⟩⟩
  recordCall _ := ⟨.ok (),fun _ h => ⟨rfl,h⟩⟩

/-- The configuration files that the layouts of a file depend on, if any are read at all. -/
def layoutFiles (read : Option (Bytes → Option EditorConfig.ConfigFile)) (fs : FileSystem)
    (path : Bytes) : List Bytes :=
  match read with
  | none => []
  | some read => EditorConfig.consulted read fs path

/-- The results say the same, but for a failure to write. -/
def FileResult.SameButForWriting (r checked : FileResult) : Prop :=
  r = checked ∨ checked.failure = none ∧ checked.changed ∧
    ∃ f : Failure, r = { checked with failure := some (f.wrap "writing") }

namespace Pipeline
variable {p : Pipeline} {o : PathOptions} {path : Bytes} {w w' : World}
  {read : Option (Bytes → Option EditorConfig.ConfigFile)}

/-! ## Steps in worlds that are alike -/

lemma reformat_determined (hformatter : ∀ f ∈ p.formatter, f.IsFunction) (path : Bytes)
    (file : LoadedFile) : Task.Determined (p.reformat path file) := by
  have hformat := formatWith_of_compositional Session.compositional_determined
    (fun f hf language layout text => by
      obtain ⟨r,hr⟩ := (hformatter f hf).answer language layout text
      exact ⟨r,fun w hw => ⟨hr w hw,((hformatter f hf).keepsCancelled _ _ _ w).trans hw⟩⟩)
    file.html file.php file.source
  refine hformat.bind fun r => ?_
  cases r <;> exact Task.determined_pure _

/-- What the layout of a file is settled by. -/
lemma resolve_alike (hresolve : o.resolve = read.map EditorConfig.resolveWith) {reads : List Bytes}
    (h : World.Alike reads w w') (hreads : layoutFiles read w.files path ⊆ reads) (base : Layout) :
    let resolve : LayoutResolver := o.resolve.getD fun _ base => return base
    ((resolve path base).run w').1 = ((resolve path base).run w).1 ∧
      World.Alike reads ((resolve path base).run w).2 ((resolve path base).run w').2 ∧
      ((resolve path base).run w).2.files = w.files := by
  rw [hresolve]
  cases read with
  | none => exact ⟨rfl,h,rfl⟩
  | some read =>
    obtain ⟨hlayout,halike⟩ := EditorConfig.resolveWith_alike path base h hreads
    exact ⟨hlayout,halike,EditorConfig.keepsFiles_resolveWith path base w⟩

lemma keepsFiles_of_resolve (hresolve : o.resolve = read.map EditorConfig.resolveWith) :
    ∀ resolve ∈ o.resolve, LayoutResolver.KeepsFiles resolve := by
  rw [hresolve]
  rintro resolve hmem path base w
  obtain ⟨read,-,rfl⟩ := Option.map_eq_some_iff.mp hmem
  exact EditorConfig.keepsFiles_resolveWith path base w

lemma load_alike (hresolve : o.resolve = read.map EditorConfig.resolveWith)
    (h : World.Alike (path :: layoutFiles read w.files path) w w') :
    ((p.load o path).run w').1 = ((p.load o path).run w).1 ∧
      ((p.load o path).run w').2.cancelled = ((p.load o path).run w).2.cancelled := by
  rw [load, StateT.run_bind, StateT.run_bind, Session.run_context, Session.run_context,
    Session.run_readFile, Session.run_readFile, h.read_eq (List.mem_cons_self ..)]
  have hread := h.afterCall .openFile path
  have hfiles := World.files_afterCall w .openFile path
  cases w.files.read path with
  | error f => exact ⟨rfl,hread.cancelled⟩
  | ok source =>
    obtain ⟨hhtml,halike,hkept⟩ := resolve_alike hresolve hread
      (by rw [hfiles]; exact List.subset_cons_self ..) p.html
    obtain ⟨hphp,hlast,-⟩ := resolve_alike hresolve halike
      (by rw [hkept, hfiles]; exact List.subset_cons_self ..) p.php
    have hloaded := congrArg₂
      (fun html php => (Except.ok ⟨source, html, php⟩ : Except FileResult LoadedFile)) hhtml hphp
    exact ⟨hloaded,hlast.cancelled⟩

lemma settle_alike {r : FileResult} (hr : r.IsComputed path) (hfile : w.files.IsFile path)
    (h : World.Alike [path] w w') :
    ((settle o r).run w').1 = ((settle o r).run w).1 ∧
      ((settle o r).run w').2.cancelled = ((settle o r).run w).2.cancelled := by
  have hfile' : w'.files.IsFile path := by
    obtain ⟨content,hcontent⟩ := hfile
    exact ⟨content,(h.lookup path (List.mem_singleton_self _)).trans hcontent⟩
  change ((store o r).run w').1 = ((store o r).run w).1 ∧
    ((store o r).run w').2.cancelled = ((store o r).run w).2.cancelled
  rw [run_store, run_store, hr.path, hfile.admits_eq, hfile'.admits_eq, h.setting.readOnly]
  have hstat := (h.afterCall .stat path).cancelled
  split
  · exact ⟨rfl,h.cancelled⟩
  · split <;> exact ⟨rfl,hstat⟩

/-! ## What becomes of a file -/

/-- What becomes of a file if the rest of the work on it is done in this world, and whether the
session is cancelled then. -/
def outlook (p : Pipeline) (o : PathOptions) (path : Bytes) (stage : Stage) (w : World) :
    FileResult × Bool :=
  (((p.complete o path stage).run w).1, ((p.complete o path stage).run w).2.cancelled)

lemma outlook_advance (p : Pipeline) (o : PathOptions) (path : Bytes) (stage : Stage) (w : World) :
    p.outlook o path stage w = p.outlook o path ((p.advance o path stage).run w).1
      ((p.advance o path stage).run w).2 := by
  rw [outlook, ← p.advance_bind_complete o path stage]
  rfl

lemma advance_waiting_world (hw : w.cancelled = false) :
    ((p.advance o path .waiting).run w).2 = ((p.load o path).run w).2 := by
  rw [run_advance_waiting, hw, if_neg Bool.false_ne_true]
  generalize (p.load o path).run w = out
  obtain ⟨loaded,v⟩ := out
  cases loaded <;> rfl

lemma advance_waiting_alike (hresolve : o.resolve = read.map EditorConfig.resolveWith)
    (h : World.Alike (path :: layoutFiles read w.files path) w w') :
    ((p.advance o path .waiting).run w').1 = ((p.advance o path .waiting).run w).1 := by
  rw [run_advance_waiting, run_advance_waiting, h.cancelled]
  obtain ⟨hloaded,-⟩ := load_alike (p := p) hresolve h
  split
  · rfl
  · generalize (p.load o path).run w' = out' at hloaded
    generalize (p.load o path).run w = out at hloaded
    obtain ⟨loaded,v⟩ := out
    obtain ⟨loaded',v'⟩ := out'
    obtain rfl : loaded' = loaded := hloaded
    cases loaded' <;> rfl

section
variable (hformatter : ∀ f ∈ p.formatter, f.IsFunction)
include hformatter

/-- What comes after loading depends on what was loaded. -/
lemma outlook_loaded (path : Bytes) (file : LoadedFile) :
    ∃ r, r.IsComputed path ∧ ∀ w, w.cancelled = false →
      ((p.reformat path file).run w).1 = r ∧
      ∃ w₁, w₁.files = w.files ∧ w₁.cancelled = false ∧
        p.outlook o path (.loaded file) w = p.outlook o path (.formatted r) w₁ := by
  obtain ⟨r,hr⟩ := reformat_determined hformatter path file
  have hcomputed : r.IsComputed path := by
    have hsome := isComputed_reformat (p := p) path file { files := { entries := [] } }
    rwa [(hr _ rfl).1] at hsome
  refine ⟨r,hcomputed,fun w hw => ⟨(hr w hw).1,((p.reformat path file).run w).2,?_,(hr w hw).2,?_⟩⟩
  · exact reformat_files (fun f hf => (hformatter f hf).keepsFiles) path file w
  · rw [← (hr w hw).1]
    rfl

/-- Worlds that are alike hold the same for a file, once it is loaded. -/
lemma outlook_alike {stage : Stage} (hstage : stage.IsAbout path) (hwaiting : stage ≠ .waiting)
    (hfile : w.files.IsFile path) (hw : w.cancelled = false) (h : World.Alike [path] w w') :
    p.outlook o path stage w' = p.outlook o path stage w := by
  have hformatted {r : FileResult} (hr : r.IsComputed path) {v v' : World}
      (hfile : v.files.IsFile path) (h : World.Alike [path] v v') :
      p.outlook o path (.formatted r) v' = p.outlook o path (.formatted r) v :=
    Prod.ext (settle_alike hr hfile h).1 (settle_alike hr hfile h).2
  cases stage with
  | waiting => contradiction
  | loaded file =>
    obtain ⟨r,hr,hnext⟩ := outlook_loaded (o := o) hformatter path file
    obtain ⟨-,v,hv,hvcancelled,hout⟩ := hnext w hw
    obtain ⟨-,v',hv',hvcancelled',hout'⟩ := hnext w' (h.cancelled.trans hw)
    rw [hout, hout']
    refine hformatted hr (hv ▸ hfile) ⟨?_,?_,hvcancelled'.trans hvcancelled.symm⟩
    · rw [hv, hv']
      exact h.setting
    · rw [hv, hv']
      exact h.lookup
  | formatted r => exact hformatted hstage hfile h
  | finished r => exact Prod.ext rfl h.cancelled
  | skipped => exact Prod.ext rfl h.cancelled

/-- What is foreseen for a file at this stage is what was foreseen at the beginning, and loading it
did not cancel the session. -/
structure Foreseen (p : Pipeline) (o : PathOptions) (w : World) (path : Bytes) (stage : Stage) :
    Prop where
  outlook : p.outlook o path stage w = p.outlook o path .waiting w
  load : stage ≠ .waiting → ((p.load o path).run w).2.cancelled = false

section
variable (hresolve : o.resolve = read.map EditorConfig.resolveWith) (hfile : w.files.IsFile path)
  (hw : w.cancelled = false)
include hresolve hfile hw

/-- A file that has not been started holds the same in worlds that are alike. -/
lemma outlook_waiting (hload : ((p.load o path).run w).2.cancelled = false)
    (h : World.Alike (path :: layoutFiles read w.files path) w w') :
    p.outlook o path .waiting w' =
      p.outlook o path ((p.advance o path .waiting).run w).1 w := by
  have hkeeps := keepsFiles_of_resolve hresolve
  have hstage : Stage.waiting.IsAbout path := trivial
  have hopen : Stage.waiting.result? = none := rfl
  obtain ⟨habout,-⟩ := p.advance_files (fun f hf => (hformatter f hf).keepsFiles) hkeeps hstage
    hopen w
  rw [outlook_advance, advance_waiting_alike hresolve h,
    advance_waiting_world (h.cancelled.trans hw)]
  have hloaded := (load_alike (p := p) hresolve h).2.trans hload
  have hfiles := load_files (p := p) hkeeps path w'
  refine outlook_alike hformatter habout ?_ hfile hw ⟨?_,?_,hloaded.trans hw.symm⟩
  · intro hwaiting
    have hless := p.remaining_advance o path hopen w
    rw [hwaiting] at hless
    exact Nat.lt_irrefl _ hless
  · rw [hfiles]
    exact h.setting
  · rw [hfiles]
    exact fun q hq => h.lookup q (List.mem_cons.mpr (.inl (List.mem_singleton.mp hq)))

/-- A step for a file brings what was foreseen. -/
theorem Foreseen.advance {stage : Stage} (h : Foreseen p o w path stage)
    (hstage : stage.IsAbout path)
    (halike : World.Alike (path :: layoutFiles read w.files path) w w')
    (hnext : ((p.advance o path stage).run w').2.cancelled = false) :
    Foreseen p o w path ((p.advance o path stage).run w').1 := by
  cases stage with
  | waiting =>
    rw [advance_waiting_world (halike.cancelled.trans hw)] at hnext
    have hload := (load_alike (p := p) hresolve halike).2.symm.trans hnext
    refine ⟨?_,fun _ => hload⟩
    rw [advance_waiting_alike hresolve halike,
      outlook_waiting hformatter hresolve hfile hw hload (.refl _ w)]
  | loaded file =>
    obtain ⟨r,hr,hgives⟩ := outlook_loaded (o := o) hformatter path file
    obtain ⟨-,v,hv,hvcancelled,hout⟩ := hgives w hw
    have hstage : ((p.advance o path (.loaded file)).run w').1 = .formatted r :=
      congrArg Stage.formatted (hgives w' (halike.cancelled.trans hw)).1
    have hcomputed : (Stage.formatted r).IsAbout path := hr
    refine ⟨?_,fun _ => h.load (by simp)⟩
    rw [hstage, ← h.outlook, hout]
    refine (outlook_alike hformatter hcomputed (by simp) hfile hw
      ⟨?_,?_,hvcancelled.trans hw.symm⟩).symm
    · rw [hv]
      exact .refl _
    · rw [hv]
      exact fun _ _ => rfl
  | formatted r =>
    obtain ⟨hresult,hcancelled⟩ := settle_alike (o := o) hstage hfile
      (halike.mono (List.cons_subset_cons _ (List.nil_subset _)))
    refine ⟨?_,fun _ => h.load (by simp)⟩
    rw [← h.outlook]
    exact Prod.ext hresult (hw.trans (hcancelled.symm.trans hnext).symm)
  | finished r => exact h
  | skipped => exact h

end
end
lemma settle_check {r : FileResult} (hr : r.IsComputed path) (w : World) :
    FileResult.SameButForWriting ((settle o r).run w).1
      ((settle { o with check := true } r).run w).1 := by
  change FileResult.SameButForWriting ((store o r).run w).1
    ((store { o with check := true } r).run w).1
  rw [run_store, run_store, Bool.true_or, Bool.true_or, if_pos rfl]
  split
  · exact .inl rfl
  · next hstored =>
    have hchanged : r.changed = true := by simp_all
    cases w.files.admits r.path with
    | ok u => exact .inl rfl
    | error f => exact .inr ⟨hr.failure hchanged,hchanged,f,rfl⟩

/-- What is only checked comes out as it would be written. -/
lemma outlook_check (path : Bytes) (w : World) :
    FileResult.SameButForWriting (p.outlook o path .waiting w).1
      (p.outlook { o with check := true } path .waiting w).1 := by
  have hsame : p.advance { o with check := true } path .waiting = p.advance o path .waiting := rfl
  rw [outlook_advance, outlook_advance p { o with check := true }, hsame, run_advance_waiting]
  split
  · exact .inl rfl
  · have hcomputed (r : FileResult) :
        ((p.load o path).run w).1 = .error r → r.IsComputed path := isComputed_of_load
    generalize (p.load o path).run w = out at hcomputed
    obtain ⟨loaded,v⟩ := out
    cases loaded with
    | error r => exact settle_check (hcomputed r rfl) v
    | ok file => exact settle_check (isComputed_reformat path file v) _

/-- A session that was cancelled stays so. -/
lemma preserves_cancelled_advance (hformatter : ∀ f ∈ p.formatter, f.IsFunction) (path : Bytes)
    (stage : Stage) :
    Task.Preserves (fun w => w.cancelled = true) (p.advance o path stage) := by
  cases stage with
  | waiting =>
    intro w hw
    rw [run_advance_waiting, hw]
    exact hw
  | loaded file =>
    have hformat := formatWith_of_compositional
      (Session.compositional_preserves (I := fun w => w.cancelled = true) fun _ _ _ h => h)
      (fun f hf language layout text w h =>
        ((hformatter f hf).keepsCancelled language layout text w).trans h)
      file.html file.php file.source
    refine Task.Preserves.bind (hformat.bind fun r => ?_) fun _ => Task.preserves_pure _
    cases r <;> exact Task.preserves_pure _
  | formatted r =>
    intro w hw
    change ((store o r).run w).2.cancelled = true
    have hstat : (w.afterCall .stat r.path).cancelled = true := World.cancelled_afterCall hw ..
    rw [run_store]
    split
    · exact hw
    · split
      · exact hstat
      · exact hstat
  | finished r => exact Task.preserves_pure _
  | skipped => exact Task.preserves_pure _

end Pipeline

/-! ## Whole runs -/

namespace Progress
variable {p : Pipeline} {o : PathOptions} {limit : Nat} {files : List Bytes} {w : World}
  {read : Option (Bytes → Option EditorConfig.ConfigFile)}

/-- What a file depends on is as it was at the beginning until the file is stored. -/
lemma Tracks.alike {s : Progress} (h : s.Tracks o w.files files) (hanchored : w.files.Anchored)
    (hfiles : ∀ path ∈ files, w.files.IsFile path) (hdistinct : (files.map w.files.locate).Nodup)
    (hapart : ∀ path ∈ files, ∀ q ∈ layoutFiles read w.files path,
      w.files.locate q ∉ files.map w.files.locate)
    {path : Bytes} {stage : Stage} (hslot : (path, stage) ∈ s.slots) (hopen : stage.result? = none)
    (hcancelled : s.world.cancelled = w.cancelled) :
    World.Alike (path :: layoutFiles read w.files path) w s.world := by
  have hpath : path ∈ files := by
    rw [← h.paths]
    exact List.mem_map_of_mem hslot
  have hindependent := independent_changes (o := o) h.paths hfiles hdistinct h.isAbout
  refine ⟨?_,fun q hq => ?_,hcancelled⟩
  · rw [h.world]
    exact (hindependent.sameShape hanchored).toSameSetting
  · obtain rfl | hq := List.mem_cons.mp hq
    · rw [h.lookup_of_mem hanchored hfiles hdistinct hslot, Stage.change?, hopen]
      rfl
    · exact h.lookup_of_not_mem hanchored hfiles hdistinct (hapart path hpath q hq)

section
variable (hformatter : ∀ f ∈ p.formatter, f.IsFunction)
  (hresolve : o.resolve = read.map EditorConfig.resolveWith)
  (hanchored : w.files.Anchored) (hfiles : ∀ path ∈ files, w.files.IsFile path)
  (hdistinct : (files.map w.files.locate).Nodup)
  (hapart : ∀ path ∈ files, ∀ q ∈ layoutFiles read w.files path,
    w.files.locate q ∉ files.map w.files.locate)
include hformatter hresolve hanchored hfiles hdistinct hapart

/-- As long as nothing is cancelled, every file stays on the way that was foreseen for it. -/
theorem foreseen_of_steps {s : Progress} (hsteps : Steps p o limit (start w files) s)
    (hcancelled : s.world.cancelled = false) :
    w.cancelled = false ∧ ∀ slot ∈ s.slots, p.Foreseen o w slot.1 slot.2 := by
  induction hsteps with
  | refl =>
    refine ⟨hcancelled,fun slot hslot => ?_⟩
    obtain ⟨path,-,rfl⟩ := List.mem_map.mp hslot
    exact ⟨rfl,fun h => absurd rfl h⟩
  | @tail s₁ s₂ hsteps hstep ih =>
    have htracks := tracks_of_steps (fun f hf => (hformatter f hf).keepsFiles)
      (Pipeline.keepsFiles_of_resolve hresolve) hanchored hfiles hdistinct hsteps
    cases hstep with
    | cancel v slots => cases hcancelled
    | advance v before after path stage hroom =>
      have hv : v.cancelled = false := by
        by_contra hv
        have hlater := Pipeline.preserves_cancelled_advance (o := o) hformatter path stage v
          (eq_true_of_ne_false hv)
        exact Bool.false_ne_true (hcancelled.symm.trans hlater)
      obtain ⟨hw,hforeseen⟩ := ih hv
      refine ⟨hw,fun slot hslot => ?_⟩
      have hmem : (path, stage) ∈ before ++ (path, stage) :: after := by simp
      obtain hslot | rfl | hslot := by simpa using hslot
      · exact hforeseen slot (by simp [hslot])
      · have hold := hforeseen _ hmem
        cases hresult : stage.result? with
        | some r =>
          rw [Pipeline.advance_of_result? hresult]
          exact hold
        | none =>
          have hfile : w.files.IsFile path := hfiles path (by
            rw [← htracks.paths]
            exact List.mem_map_of_mem hmem)
          exact hold.advance hformatter hresolve hfile hw (htracks.isAbout _ hmem)
            (htracks.alike hanchored hfiles hdistinct hapart hmem hresult (hv.trans hw.symm))
            hcancelled
      · exact hforeseen slot (by simp [hslot])

omit hformatter hresolve hanchored hfiles hdistinct hapart in
/-- The results are those that were foreseen. -/
lemma HasResults.foreseen {s : Progress} {rs : List FileResult} (h : s.HasResults rs)
    (hw : w.cancelled = false) (hforeseen : ∀ slot ∈ s.slots, p.Foreseen o w slot.1 slot.2) :
    rs = s.slots.map (fun slot => (p.outlook o slot.1 .waiting w).1) ∧
      ∀ slot ∈ s.slots, (p.outlook o slot.1 .waiting w).2 = false ∧
        ((p.load o slot.1).run w).2.cancelled = false := by
  have hslot : ∀ slot ∈ s.slots,
      slot.2.result? = some (p.outlook o slot.1 .waiting w).1 ∧
        (p.outlook o slot.1 .waiting w).2 = false ∧
        ((p.load o slot.1).run w).2.cancelled = false := by
    intro slot hmem
    obtain ⟨r,-,hr⟩ := List.mem_map.mp
      (h ▸ List.mem_map_of_mem (f := fun slot : Bytes × Stage => slot.2.result?) hmem)
    have houtlook : p.outlook o slot.1 slot.2 w = (r, false) := by
      rw [Pipeline.outlook, p.complete_of_result? o slot.1 hr.symm]
      exact Prod.ext rfl hw
    rw [(hforeseen slot hmem).outlook] at houtlook
    rw [houtlook]
    refine ⟨hr.symm,rfl,(hforeseen slot hmem).load ?_⟩
    rintro hwaiting
    rw [hwaiting] at hr
    cases hr
  refine ⟨?_,fun slot hmem => (hslot slot hmem).2⟩
  have hsome : rs.map some =
      (s.slots.map fun slot => (p.outlook o slot.1 .waiting w).1).map some := by
    rw [← h, List.map_map]
    exact List.map_congr_left fun slot hmem => (hslot slot hmem).1
  exact List.map_injective_iff.mpr (fun _ _ => Option.some.inj) hsome

/-- Files whose outlook is not to be cancelled have the results that were foreseen one after the
other. -/
lemma run_formatFiles_of_outlook {more : List Bytes} {v : World} {before : List (Bytes × Stage)}
    (htracks : Tracks o w.files files ⟨v, before ++ more.map (·, .waiting)⟩)
    (hidle : before.countP (·.2.isActive) = 0) (hw : w.cancelled = false) (hv : v.cancelled = false)
    (houtlook : ∀ path ∈ more, (p.outlook o path .waiting w).2 = false ∧
      ((p.load o path).run w).2.cancelled = false) :
    ((p.formatFiles o more).run v).1 = (more.map fun path => (p.outlook o path .waiting w).1, none) := by
  induction more generalizing v before with
  | nil => rfl
  | cons path more ih =>
    have hmem : (path, Stage.waiting) ∈ before ++ (path :: more).map (·, .waiting) := by simp
    have hpath : path ∈ files := by
      rw [← htracks.paths]
      exact List.mem_map_of_mem hmem
    have halike := htracks.alike hanchored hfiles hdistinct hapart hmem rfl (hv.trans hw.symm)
    obtain ⟨hcalm,hload⟩ := houtlook path (List.mem_cons_self ..)
    have hsame : p.outlook o path .waiting v = p.outlook o path .waiting w := by
      rw [Pipeline.outlook_waiting hformatter hresolve (hfiles path hpath) hw hload halike,
        Pipeline.outlook_waiting hformatter hresolve (hfiles path hpath) hw hload (.refl _ w)]
    obtain ⟨last,-,hidle,hsteps⟩ := steps_first (p := p) (o := o) Nat.one_pos hidle path more v
    have hnext := ih (htracks.steps hanchored hfiles hdistinct
      (fun f hf => (hformatter f hf).keepsFiles) (Pipeline.keepsFiles_of_resolve hresolve) hsteps)
      hidle ((congrArg Prod.snd hsame).trans hcalm)
      fun path' hpath' => houtlook path' (List.mem_cons_of_mem _ hpath')
    have hfirst : (p.outlook o path .waiting v).1 = (p.outlook o path .waiting w).1 := by
      rw [hsame]
    rw [p.run_formatFiles_cons o path hv, List.map_cons, ← hfirst, Pipeline.outlook]
    generalize (p.complete o path .waiting).run v = out at hnext
    obtain ⟨r,v₁⟩ := out
    dsimp only at hnext ⊢
    generalize (p.formatFiles o more).run v₁ = out at hnext
    obtain ⟨⟨rs,stopped⟩,v₂⟩ := out
    obtain ⟨rfl,rfl⟩ := Prod.mk.inj hnext
    rfl

end

/-- The file with this index goes on. -/
def next (p : Pipeline) (o : PathOptions) (s : Progress) (i : Nat) : Progress :=
  match s.slots[i]? with
  | none => s
  | some (path, stage) =>
    ⟨((p.advance o path stage).run s.world).2,
      s.slots.set i (path, ((p.advance o path stage).run s.world).1)⟩

/-- With room for all files, they can go on in any order. -/
lemma steps_next {s : Progress} (hroom : s.slots.length ≤ limit) (order : List Nat) :
    Steps p o limit s (order.foldl (next p o) s) := by
  induction order generalizing s with
  | nil => exact .refl
  | cons i order ih =>
    rw [List.foldl_cons]
    unfold next
    split
    · exact ih hroom
    · next path stage hslot =>
      obtain ⟨w,slots⟩ := s
      obtain ⟨before,after,hslots,rfl⟩ : ∃ before after,
          slots = before ++ (path, stage) :: after ∧ i = before.length := by
        obtain ⟨hi,hget⟩ := List.getElem?_eq_some_iff.mp hslot
        refine ⟨slots.take i,slots.drop (i + 1),?_,(List.length_take_of_le (Nat.le_of_lt hi)).symm⟩
        rw [← hget, List.getElem_cons_drop, List.take_append_drop]
      subst hslots
      have hcount : (before ++ after).countP (·.2.isActive) < limit := by
        have hle := List.countP_le_length (p := fun slot : Bytes × Stage => slot.2.isActive)
          (l := before ++ after)
        simp at hroom hle ⊢
        omega
      have hstep := Step.advance (p := p) (o := o) w before after path stage fun _ => hcount
      refine .head ?_ (ih (by simpa using hroom))
      simpa using hstep

end Progress

/-- What a run gives was foreseen once the files were collected. -/
lemma Pipeline.Runs.foreseen {p : Pipeline} {o : PathOptions} {limit : Nat}
    {read : Option (Bytes → Option EditorConfig.ConfigFile)} {paths files : List Bytes}
    {rs : List FileResult} {w w' : World} (h : p.Runs o limit paths w files rs w')
    (hcancelled : w'.cancelled = false) (hformatter : ∀ f ∈ p.formatter, f.IsFunction)
    (hresolve : o.resolve = read.map EditorConfig.resolveWith) (hanchored : w.files.Anchored)
    (hdistinct : (files.map w.files.locate).Nodup)
    (hapart : ∀ path ∈ files, ∀ q ∈ layoutFiles read w.files path,
      w.files.locate q ∉ files.map w.files.locate) :
    ∃ w₁, (o.collect paths).run.run w = (.ok files, w₁) ∧
      w₁.files = w.files ∧ w₁.cancelled = false ∧
      w'.files = w.files.putAll (rs.filterMap (·.change? o)) ∧
      rs = files.map (fun path => (p.outlook o path .waiting w₁).1) ∧
      ∀ path ∈ files, (p.outlook o path .waiting w₁).2 = false ∧
        ((p.load o path).run w₁).2.cancelled = false := by
  obtain ⟨w₁,hcollect,s,rfl,hresults,hsteps⟩ := h.collected
  obtain ⟨hw₁,hfiles⟩ := Session.collectWith_isFile hcollect
  rw [← hw₁] at hanchored hfiles hdistinct hapart ⊢
  have htracks := Progress.tracks_of_steps (fun f hf => (hformatter f hf).keepsFiles)
    (keepsFiles_of_resolve hresolve) hanchored hfiles hdistinct hsteps
  obtain ⟨hw₁,hforeseen⟩ := Progress.foreseen_of_steps hformatter hresolve hanchored hfiles hdistinct
    hapart hsteps hcancelled
  obtain ⟨hrs,hcalm⟩ := hresults.foreseen hw₁ hforeseen
  refine ⟨w₁,hcollect,rfl,hw₁,?_,?_,?_⟩
  · rw [htracks.world, Progress.changes_of_results hresults]
  · rw [hrs, ← htracks.paths, List.map_map]
    rfl
  · rw [← htracks.paths]
    intro path hpath
    obtain ⟨slot,hslot,rfl⟩ := List.mem_map.mp hpath
    exact hcalm slot hslot

/-- The order in which the work on different files goes on makes no difference, as long as the
session is not cancelled: the results and the files at the end are those of one file after the
other, whatever the limit. And but for failures to write, files that are only checked have the same
results. -/
theorem interleaving_irrelevant (p : Pipeline) (o : PathOptions)
    (read : Option (Bytes → Option EditorConfig.ConfigFile)) (paths : List Bytes) (w : World)
    (files : List Bytes) (hformatter : ∀ f ∈ p.formatter, f.IsFunction)
    (hresolve : o.resolve = read.map EditorConfig.resolveWith) (hanchored : w.files.Anchored)
    (hdistinct : (files.map w.files.locate).Nodup)
    (hapart : ∀ path ∈ files, ∀ q ∈ layoutFiles read w.files path,
      w.files.locate q ∉ files.map w.files.locate) :
    (∀ limit rs w', p.Runs o limit paths w files rs w' → w'.cancelled = false →
      ∃ w'', (p.formatPaths paths o).run.run w = (.ok (rs, none), w'') ∧ w''.files = w'.files) ∧
    ∀ limit limit' rs rs' w' w'', p.Runs o limit paths w files rs w' → w'.cancelled = false →
      p.Runs { o with check := true } limit' paths w files rs' w'' → w''.cancelled = false →
      List.Forall₂ FileResult.SameButForWriting rs rs' := by
  refine ⟨fun limit rs w' hrun hcancelled => ?_,
    fun limit limit' rs rs' w' w'' hrun hcancelled hcheck hcancelled' => ?_⟩
  · obtain ⟨w₁,hcollect,hw₁,hgoes,hfilesAfter,hrs,hcalm⟩ :=
      hrun.foreseen hcancelled hformatter hresolve hanchored hdistinct hapart
    have hfiles := (Session.collectWith_isFile hcollect).2
    rw [← hw₁] at hanchored hdistinct hapart hfiles
    have hkeeps : ∀ f ∈ p.formatter, f.KeepsFiles := fun f hf => (hformatter f hf).keepsFiles
    have hsequential := Progress.run_formatFiles_of_outlook hformatter hresolve hanchored hfiles
      hdistinct hapart (Progress.tracks_start o w₁ files) List.countP_nil hgoes hgoes hcalm
    rw [← hrs] at hsequential
    refine ⟨((p.formatFiles o files).run w₁).2,?_,?_⟩
    · rw [Pipeline.run_formatPaths hrun.notCancelled hcollect hrun.nonempty, hsequential]
    · obtain ⟨slots,hresults,hsteps⟩ :=
        Progress.steps_formatFiles (p := p) (o := o) Nat.one_pos files w₁ List.countP_nil
      have htracks := Progress.tracks_of_steps hkeeps (Pipeline.keepsFiles_of_resolve hresolve)
        hanchored hfiles hdistinct hsteps
      rw [hsequential] at hresults
      rw [hfilesAfter, ← hw₁, ← Progress.changes_of_results hresults]
      exact htracks.world
  · obtain ⟨w₁,hcollect,-,-,-,hrs,-⟩ :=
      hrun.foreseen hcancelled hformatter hresolve hanchored hdistinct hapart
    obtain ⟨w₂,hcollect',-,-,-,hrs',-⟩ :=
      hcheck.foreseen hcancelled' hformatter hresolve hanchored hdistinct hapart
    obtain rfl : w₁ = w₂ := congrArg Prod.snd (hcollect.symm.trans hcollect')
    rw [hrs, hrs', List.forall₂_map_left_iff, List.forall₂_map_right_iff, List.forall₂_same]
    exact fun path _ => Pipeline.outlook_check path w₁

/-- Two files below a configuration file. -/
def sampleConfigured : World where
  files := {
    entries := [
      ("/site", .directory),
      ("/site/.editorconfig", .file "root = true\n[*.php]\nindent_size = 3\n"),
      ("/site/a.php", .file "<p>"),
      ("/site/b.php", .file "<b>")]
    workingDirectory := some "/site" }

/-- Indents a text once. -/
def sampleIndenting : Pipeline where
  formatter := some fun _ layout text => return List.replicate layout.tabWidth.toNat 0x20 ++ text

def sampleResolving : PathOptions where
  resolve := some EditorConfig.resolve

def sampleIndented : List FileResult := [
  { path := "a.php", changed := true, source := "<p>", formatted := "   <p>", diagnostics := some {} },
  { path := "b.php", changed := true, source := "<b>", formatted := "   <b>", diagnostics := some {} }]

/-- Both files are loaded before one of them is stored. -/
def sampleInterleaved (o : PathOptions) : Progress :=
  [0, 1, 1, 0, 0, 1].foldl (Progress.next sampleIndenting o)
    (.start sampleConfigured ["a.php", "b.php"])

lemma runs_sampleInterleaved {o : PathOptions} (ho : o.selection = ⟨[], []⟩)
    (hresults : (sampleInterleaved o).HasResults sampleIndented) :
    sampleIndenting.Runs o 2 ["a.php", "b.php"] sampleConfigured ["a.php", "b.php"] sampleIndented
      (sampleInterleaved o).world := by
  have hfound : (List.mapM (Session.collectPath o.matchesName ⟨[], []⟩) ["a.php", "b.php"]).run.run
      sampleConfigured = (.ok [["a.php"], ["b.php"]], sampleConfigured) := rfl
  have hcollect : (o.collect ["a.php", "b.php"]).run.run sampleConfigured =
      (.ok ["a.php", "b.php"], sampleConfigured) := by
    rw [PathOptions.collect, ho]
    exact Session.run_collectWith_of_sorted rfl hfound (by decide)
  refine ⟨rfl,List.cons_ne_nil _ _,sampleConfigured,hcollect,_,rfl,hresults,?_⟩
  exact Progress.steps_next (Nat.le_refl 2) _

theorem interleaving_irrelevant_sampleInterleaved :
    (sampleInterleaved sampleResolving).world.files =
      (sampleConfigured.files.put "a.php" "   <p>").put "b.php" "   <b>" ∧
    (∃ w, (sampleIndenting.formatPaths ["a.php", "b.php"] sampleResolving).run.run sampleConfigured =
        (.ok (sampleIndented, none), w) ∧
      w.files = (sampleInterleaved sampleResolving).world.files) ∧
    List.Forall₂ FileResult.SameButForWriting sampleIndented sampleIndented := by
  have hfunction : ∀ f ∈ sampleIndenting.formatter, f.IsFunction := by
    rintro f hf
    obtain rfl := Option.some.inj hf
    exact ⟨fun _ _ _ _ => rfl,fun _ _ _ _ => rfl,fun _ _ _ => ⟨_,fun _ _ => rfl⟩⟩
  obtain ⟨hsequential,hcheck⟩ := interleaving_irrelevant sampleIndenting sampleResolving
    (some EditorConfig.ConfigFile.read) ["a.php", "b.php"] sampleConfigured ["a.php", "b.php"]
    hfunction rfl (by decide) (by decide) (by decide +kernel)
  -- all there is to know about a run, so that it is evaluated once
  let ending (s : Progress) := (s.slots.map (·.2.result?), s.world.cancelled, s.world.files)
  have hwritten : ending (sampleInterleaved sampleResolving) =
      (sampleIndented.map some, false,
        (sampleConfigured.files.put "a.php" "   <p>").put "b.php" "   <b>") := by decide +kernel
  have hchecked : ending (sampleInterleaved { sampleResolving with check := true }) =
      (sampleIndented.map some, false, sampleConfigured.files) := by decide +kernel
  obtain ⟨hresults,hcancelled,hfiles⟩ : _ ∧ _ ∧ _ := by simpa only [ending, Prod.mk.injEq] using hwritten
  obtain ⟨hresults',hcancelled',-⟩ : _ ∧ _ ∧ _ := by simpa only [ending, Prod.mk.injEq] using hchecked
  have hruns := runs_sampleInterleaved (o := sampleResolving) rfl hresults
  have hruns' := runs_sampleInterleaved (o := { sampleResolving with check := true }) rfl hresults'
  exact ⟨hfiles,hsequential _ _ _ hruns hcancelled,
    hcheck _ _ _ _ _ _ hruns hcancelled hruns' hcancelled'⟩

end Stencil
