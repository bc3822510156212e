import Stencil.Config.Load
import Stencil.Proofs.Session.Runs

/-! Loading a configuration changes no file. -/
namespace Stencil

namespace Session
variable {α : Type} {fs : FileSystem}

/-- The work leaves the files as they are. -/
abbrev Keeps (fs : FileSystem) (work : Session α) : Prop :=
  Task.Preserves (fun w => w.files = fs) work.run

lemma compositional_keeps (fs : FileSystem) : Compositional fun work => Keeps fs work :=
  compositional_preserves fun _ _ _ h => h

lemma keeps_ofExcept (r : Except Failure α) : Keeps fs (MonadExcept.ofExcept r : Session α) := by
  intro w hw
  rwa [run_ofExcept]

lemma keeps_readFile (path : Bytes) : Keeps fs (readFile path) := by
  intro w hw
  rwa [run_readFile, World.files_afterCall]

lemma keeps_openNode (path : Bytes) : Keeps fs (openNode path) := by
  intro w hw
  rwa [run_openNode, World.files_afterCall]

lemma keeps_exists? (path : Bytes) : Keeps fs (exists? path) := by
  have hP := compositional_keeps fs
  refine hP.bind (fun w hw => ?_) fun _ => hP.bind (fun w hw => hw) fun w => ?_
  · rw [run_applyFaults]
    exact (World.files_afterCall ..).trans hw
  · dsimp only
    split
    · exact hP.pure true
    · exact hP.pure false
    · exact hP.throw _

end Session

namespace Config
open Session
variable {fs : FileSystem}

lemma keeps_firstExisting (paths : List Bytes) : Keeps fs (firstExisting paths) := by
  have hP := compositional_keeps fs
  induction paths with
  | nil => exact hP.pure none
  | cons path paths ih =>
    refine hP.bind (hP.context _ (keeps_exists? path)) fun found => ?_
    split
    · exact hP.pure _
    · exact ih

lemma keeps_environment (process : Environment) (dir : Bytes) :
    Keeps fs (environment process dir) := by
  have hP := compositional_keeps fs
  refine hP.bind (hP.context _ (keeps_exists? _)) fun found => ?_
  split
  · refine hP.bind (hP.context _ (keeps_openNode _)) fun node => ?_
    refine hP.bind (fun w hw => hw) fun w => ?_
    dsimp only
    cases Environment.Assignments.read node.content with
    | none =>
      split
      · exact hP.bind (hP.throw _) fun _ => hP.throw _
      · exact hP.throw _
    | some vars =>
      split
      · exact hP.bind (hP.throw _) fun _ => hP.pure _
      · exact hP.pure _
  · exact hP.pure process

lemma keeps_load (process env : Environment) (path : Option Bytes) :
    Keeps fs (load process env path) := by
  have hP := compositional_keeps fs
  cases path with
  | none => exact hP.bind (hP.pure _) fun c => keeps_ofExcept _
  | some path =>
    refine hP.bind ?_ fun c => keeps_ofExcept _
    exact hP.bind (hP.context _ (keeps_readFile path)) fun text => keeps_ofExcept _

/-- Finding and reading a configuration changes no file. -/
lemma keeps_resolve (process : Environment) (dir : Bytes) (named : Option Bytes) :
    Keeps fs (resolve process dir named) := by
  have hP := compositional_keeps fs
  refine hP.bind (keeps_environment process dir) fun env => ?_
  cases named with
  | some path => exact hP.context _ (keeps_load process env (some path))
  | none =>
    refine hP.bind (keeps_firstExisting _) fun path => ?_
    cases path with
    | none => exact keeps_load process env none
    | some path => exact hP.context _ (keeps_load process env (some path))

end Config
end Stencil
