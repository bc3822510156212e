import Stencil.EditorConfig.Resolve
import Stencil.Proofs.Files.Reading

/-! Which files a layout depends on: the configuration files above a path, up to one marked as
root. -/
namespace Stencil.EditorConfig
variable {α : Type} {read : Bytes → Option ConfigFile} {reads : List Bytes} {w w' : World}
  {I : World → Prop}

/-- The configuration files that are read, starting from some directories. -/
def consultedFrom (read : Bytes → Option ConfigFile) (fs : FileSystem) : List Bytes → List Bytes
  | [] => []
  | directory :: above =>
    let file := Path.join [directory, fileName]
    file ::
      match (fs.read file).toOption.bind read with
      | none => consultedFrom read fs above
      | some config => if config.isRoot then [] else consultedFrom read fs above

/-- The path by which a file is matched with configuration files. -/
def subject (fs : FileSystem) (path : Bytes) : Bytes :=
  if fs.workingDirectory.isSome then fs.locate path else path

/-- The configuration files that are read for a file. -/
def consulted (read : Bytes → Option ConfigFile) (fs : FileSystem) (path : Bytes) : List Bytes :=
  consultedFrom read fs (Path.ancestors (Path.dir (subject fs path)))

lemma run_configOf (directory : Bytes) (w : World) :
    (configOf read directory).run w =
      ((w.files.read (Path.join [directory, fileName])).toOption.bind read,
        w.afterCall .openFile (Path.join [directory, fileName])) := by
  rw [configOf, StateT.run_bind, Session.run_readFile]
  cases w.files.read (Path.join [directory, fileName]) <;> rfl

/-- What is put together from the configuration file of a directory and of those above it. -/
lemma run_definitions_cons (path directory : Bytes) (above : List Bytes) (w : World) :
    (definitions read path (directory :: above)).run w =
      let file := Path.join [directory, fileName]
      let w₁ := w.afterCall .openFile file
      match (w.files.read file).toOption.bind read with
      | none => (definitions read path above).run w₁
      | some config =>
        let here := ((Path.relative? directory path).bind fun name =>
          config.definition? (Path.slash :: name)).toList
        if config.isRoot then (here, w₁)
        else (here ++ ((definitions read path above).run w₁).1,
          ((definitions read path above).run w₁).2) := by
  rw [definitions, StateT.run_bind, run_configOf]
  dsimp only
  cases (w.files.read (Path.join [directory, fileName])).toOption.bind read with
  | none => rfl
  | some config =>
    change StateT.run (if config.isRoot then pure _ else (_ >>= _ : Task (List Definition))) _ = _
    dsimp only
    split <;> rfl

lemma preserves_definitions (hI : ∀ w q, I w → I (w.afterCall .openFile q)) (path : Bytes)
    (dirs : List Bytes) : Task.Preserves I (definitions read path dirs) := by
  induction dirs with
  | nil => exact Task.preserves_pure _
  | cons directory above ih =>
    intro w hw
    rw [run_definitions_cons]
    have hw₁ := hI w (Path.join [directory, fileName]) hw
    dsimp only
    split
    · exact ih _ hw₁
    · split
      · exact hw₁
      · exact ih _ hw₁

lemma preserves_resolveWith (hI : ∀ w q, I w → I (w.afterCall .openFile q)) (path : Bytes)
    (base : Layout) : Task.Preserves I (resolveWith read path base) :=
  fun w hw => preserves_definitions hI _ _ w hw

lemma keepsFiles_resolveWith (path : Bytes) (base : Layout) (w : World) :
    ((resolveWith read path base).run w).2.files = w.files :=
  preserves_resolveWith (I := fun v => v.files = w.files)
    (fun _ _ hv => (World.files_afterCall ..).trans hv) path base w rfl

/-- Worlds that are alike in the files that are read give the same definitions. -/
lemma definitions_alike (path : Bytes) {dirs : List Bytes} (h : World.Alike reads w w')
    (hreads : consultedFrom read w.files dirs ⊆ reads) :
    ((definitions read path dirs).run w').1 = ((definitions read path dirs).run w).1 ∧
      World.Alike reads ((definitions read path dirs).run w).2
        ((definitions read path dirs).run w').2 := by
  induction dirs generalizing w w' with
  | nil => exact ⟨rfl,h⟩
  | cons directory above ih =>
    have hfile : Path.join [directory, fileName] ∈ reads := hreads (List.mem_cons_self ..)
    have hafter := h.afterCall .openFile (Path.join [directory, fileName])
    unfold consultedFrom at hreads
    rw [run_definitions_cons, run_definitions_cons]
    dsimp only at hreads ⊢
    rw [h.read_eq hfile]
    cases hconfig : (w.files.read (Path.join [directory, fileName])).toOption.bind read with
    | none =>
      rw [hconfig] at hreads
      refine ih hafter ?_
      rw [World.files_afterCall]
      exact (List.cons_subset.mp hreads).2
    | some config =>
      rw [hconfig] at hreads
      dsimp only at hreads ⊢
      split
      · exact ⟨rfl,hafter⟩
      · next hroot =>
        rw [if_neg hroot] at hreads
        obtain ⟨hdefinitions,halike⟩ := ih hafter (by
          rw [World.files_afterCall]
          exact (List.cons_subset.mp hreads).2)
        exact ⟨by rw [hdefinitions],halike⟩

/-- A layout depends on no more than the configuration files that are read for the path. -/
theorem resolveWith_alike (path : Bytes) (base : Layout) (h : World.Alike reads w w')
    (hreads : consulted read w.files path ⊆ reads) :
    ((resolveWith read path base).run w').1 = ((resolveWith read path base).run w).1 ∧
      World.Alike reads ((resolveWith read path base).run w).2
        ((resolveWith read path base).run w').2 := by
  have hsubject : subject w'.files path = subject w.files path := by
    rw [subject, subject, h.setting.workingDirectory, h.setting.locate_eq]
  have hrun (w : World) : (resolveWith read path base).run w =
      (overlay base ((definitions read (subject w.files path)
          (Path.ancestors (Path.dir (subject w.files path)))).run w).1,
        ((definitions read (subject w.files path)
          (Path.ancestors (Path.dir (subject w.files path)))).run w).2) := rfl
  rw [hrun, hrun, hsubject]
  obtain ⟨hdefinitions,halike⟩ := definitions_alike (subject w.files path) h hreads
  exact ⟨by rw [hdefinitions],halike⟩

end Stencil.EditorConfig
