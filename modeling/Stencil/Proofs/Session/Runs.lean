import Mathlib.Tactic.Common
import Stencil.Session

/-! How sessions run. Work is run on a world by running its steps one after the other; what each
call on the file system gives is a function of the files alone, and of the world a call changes at
most whether the session is cancelled. -/
namespace Stencil

namespace Session
variable {α β : Type}

lemma run_bind (work : Session α) (next : α → Session β) (w : World) :
    ((work >>= next).run.run w) = match work.run.run w with
      | (.ok a, w') => (next a).run.run w'
      | (.error e, w') => (.error e, w') := by
  rw [ExceptT.run_bind, StateT.run_bind]
  generalize work.run.run w = out
  obtain ⟨r,w'⟩ := out
  cases r <;> rfl

/-- Steps in a row succeed if each of them does. -/
theorem run_bind_eq_ok {work : Session α} {next : α → Session β} {w w' : World} {b : β} :
    (work >>= next).run.run w = (.ok b, w') ↔
      ∃ a w₁, work.run.run w = (.ok a, w₁) ∧ (next a).run.run w₁ = (.ok b, w') := by
  rw [run_bind]
  generalize work.run.run w = out
  obtain ⟨r,w₁⟩ := out
  cases r with
  | error e =>
    constructor
    · intro h
      cases h
    · rintro ⟨a,w₂,ha,-⟩
      cases ha
  | ok a =>
    constructor
    · intro h
      exact ⟨a,w₁,rfl,h⟩
    · rintro ⟨a',w₂,ha,h⟩
      cases ha
      exact h

@[simp] lemma run_pure (a : α) (w : World) : (pure a : Session α).run.run w = (.ok a, w) := rfl

@[simp] lemma run_throw (e : Failure) (w : World) :
    (throw e : Session α).run.run w = (.error e, w) := rfl

@[simp] lemma run_lift (task : Task α) (w : World) :
    (liftM task : Session α).run.run w = (.ok (task.run w).1, (task.run w).2) := rfl

@[simp] lemma run_ofExcept (r : Except Failure α) (w : World) :
    (MonadExcept.ofExcept r : Session α).run.run w = (r, w) := by cases r <;> rfl

lemma run_checkCancelled (w : World) :
    checkCancelled.run.run w = (if w.cancelled then .error .canceled else .ok (), w) := by
  change (if w.cancelled then throw .canceled else pure () : Session Unit).run.run w = _
  split <;> rfl

/-- Context changes no more than the text of a failure. -/
@[simp] lemma run_context (doing : Bytes) (work : Session α) (w : World) :
    (context doing work).run.run w =
      ((work.run.run w).1.mapError (·.wrap doing), (work.run.run w).2) := by
  change (StateT.run (Except.mapError (·.wrap doing) <$> work.run) w) = _
  rw [StateT.run_map]
  rfl

end Session

/-- Once the work begins with this, it ends with it. -/
def Task.Preserves {α : Type} (I : World → Prop) (work : Task α) : Prop :=
  ∀ w, I w → I (work.run w).2

section
variable {α β : Type} {I : World → Prop}

lemma Task.preserves_pure (a : α) : Task.Preserves I (pure a) := fun _ h => h

lemma Task.Preserves.bind {work : Task α} {next : α → Task β} (h : Task.Preserves I work)
    (hnext : ∀ a, Task.Preserves I (next a)) : Task.Preserves I (work >>= next) :=
  fun w hw => hnext _ _ (h w hw)

/-- A property of work that passes from the parts of some work to the whole. -/
structure Session.Compositional (P : {α : Type} → Session α → Prop) : Prop where
  pure {α : Type} (a : α) : P (pure a)
  throw {α : Type} (e : Failure) : P (throw e : Session α)
  bind {α β : Type} {work : Session α} {next : α → Session β} :
    P work → (∀ a, P (next a)) → P (work >>= next)
  context {α : Type} (doing : Bytes) {work : Session α} : P work → P (context doing work)
  emitAll (es : List Log.Event) : P (liftM (emitAll es) : Session Unit)
  recordCall (c : FormatterCall) : P (liftM (recordCall c) : Session Unit)

lemma Session.compositional_preserves
    (hI : ∀ w calls log, I w → I { w with callsRev := calls, logRev := log }) :
    Compositional fun work => Task.Preserves I work.run where
  pure _ := fun _ h => h
  throw _ := fun _ h => h
  bind := by
    intro α β work next h hnext w hw
    have hw' := h w hw
    rw [run_bind]
    generalize work.run.run w = out at hw'
    obtain ⟨r,w'⟩ := out
    cases r with
    | error e => exact hw'
    | ok a => exact hnext a w' hw'
  context doing work h w hw := by
    rw [run_context]
    exact h w hw
  emitAll _ := fun w h => hI w _ _ h
  recordCall _ := fun w h => hI w _ _ h

end

namespace FileSystem

/-- What a call on a path finds. -/
def find (fs : FileSystem) (call : FileCall) (path : Bytes) : Except Failure Node :=
  match fs.fault? call path with
  | some (.fail message) => .error (.plain message)
  | _ =>
    match fs.node? path with
    | some n => .ok n
    | none => .error (fs.missing call path)

/-- What reading a file gives. -/
def read (fs : FileSystem) (path : Bytes) : Except Failure Bytes :=
  match fs.find .openFile path with
  | .error e => .error e
  | .ok n =>
    if n.isDirectory && fs.workingDirectory.isSome then
      .error (.plain ("read " ++ path ++ ": is a directory"))
    else .ok n.content

/-- Whether a path can be written to. -/
def admits (fs : FileSystem) (path : Bytes) : Except Failure Unit :=
  let isDirectory := Failure.plain ("open " ++ path ++ ": is a directory")
  if fs.readOnly then .error ⟨.permission, "operation not permitted"⟩
  else if fs.workingDirectory.isSome then
    match fs.lookup path with
    | .ok (.directory _) => .error isDirectory
    | .ok (.file _) => .ok ()
    | .error .notDirectory => .error (fs.missing .openFile path)
    | .error .missing =>
      if path.isEmpty || (fs.node? (above path)).isNone then .error (fs.missing .openFile path)
      else if path.getLast? = some Path.slash then .error isDirectory
      else .ok ()
  else .ok ()

end FileSystem

/-- The world after a call on a path, which may have cancelled the session. -/
def World.afterCall (w : World) (call : FileCall) (path : Bytes) : World :=
  if w.files.fault? call path = some .cancel then { w with cancelled := true } else w

@[simp] lemma World.files_afterCall (w : World) (call : FileCall) (path : Bytes) :
    (w.afterCall call path).files = w.files := by
  unfold afterCall
  split <;> rfl

@[simp] lemma World.callsRev_afterCall (w : World) (call : FileCall) (path : Bytes) :
    (w.afterCall call path).callsRev = w.callsRev := by
  unfold afterCall
  split <;> rfl

lemma World.cancelled_afterCall {w : World} (h : w.cancelled = true) (call : FileCall)
    (path : Bytes) : (w.afterCall call path).cancelled = true := by
  unfold afterCall
  split
  · rfl
  · exact h

namespace Session

lemma run_applyFaults (call : FileCall) (path : Bytes) (w : World) :
    (applyFaults call path).run.run w =
      (match w.files.fault? call path with
        | some (.fail message) => .error (.plain message)
        | _ => .ok (), w.afterCall call path) := by
  rw [applyFaults, World.afterCall, run_bind]
  change StateT.run (ExceptT.run (_ : Session Unit)) w = _
  cases w.files.fault? call path with
  | none => rfl
  | some effect => cases effect <;> rfl

/-- The node at a path, once the faults have acted. -/
lemma run_find {work : Session Node} {call : FileCall} {path : Bytes}
    (h : work = (do
      applyFaults call path
      let fs := (← getThe World).files
      match fs.node? path with
      | some n => return n
      | none => throw (fs.missing call path))) (w : World) :
    work.run.run w = (w.files.find call path, w.afterCall call path) := by
  have hnode : (do
      let fs := (← getThe World).files
      match fs.node? path with
      | some n => return n
      | none => throw (fs.missing call path) : Session Node).run.run (w.afterCall call path) =
        (match w.files.node? path with
          | some n => .ok n
          | none => .error (w.files.missing call path), w.afterCall call path) := by
    change (match (w.afterCall call path).files.node? path with
      | some n => pure n
      | none => throw ((w.afterCall call path).files.missing call path) : Session Node).run.run
        (w.afterCall call path) = _
    rw [World.files_afterCall]
    cases w.files.node? path <;> rfl
  rw [h, run_bind, run_applyFaults, FileSystem.find]
  cases w.files.fault? call path with
  | none => exact hnode
  | some effect =>
    cases effect with
    | fail message => rfl
    | cancel => exact hnode

lemma run_stat (path : Bytes) (w : World) :
    (stat path).run.run w = (w.files.find .stat path, w.afterCall .stat path) := run_find rfl w

lemma run_openNode (path : Bytes) (w : World) :
    (openNode path).run.run w = (w.files.find .openFile path, w.afterCall .openFile path) :=
  run_find rfl w

/-- Reading depends on the files alone. -/
theorem run_readFile (path : Bytes) (w : World) :
    (readFile path).run.run w = (w.files.read path, w.afterCall .openFile path) := by
  rw [readFile, run_bind, run_openNode, FileSystem.read]
  cases w.files.find .openFile path with
  | error e => rfl
  | ok n =>
    change ((if n.isDirectory && (w.afterCall .openFile path).files.workingDirectory.isSome then
      throw (.plain ("read " ++ path ++ ": is a directory")) else pure n.content :
        Session Bytes).run.run (w.afterCall .openFile path)) = _
    rw [World.files_afterCall]
    dsimp only
    split <;> rfl

/-- A write replaces the content at its path or leaves everything as it was. -/
theorem run_writeFile (path content : Bytes) (w : World) :
    (writeFile path content).run.run w =
      match w.files.admits path with
      | .ok () => (.ok (), { w with files := w.files.put path content })
      | .error e => (.error e, w) := by
  unfold writeFile FileSystem.admits
  rw [run_bind]
  change StateT.run (ExceptT.run (_ : Session Unit)) w = _
  dsimp only
  cases w.files.readOnly with
  | true => rfl
  | false =>
    cases w.files.workingDirectory.isSome with
    | false => rfl
    | true =>
      cases w.files.lookup path with
      | ok n => cases n <;> rfl
      | error absence =>
        cases absence with
        | notDirectory => rfl
        | missing =>
          by_cases hparent : (path.isEmpty || (w.files.node? (FileSystem.above path)).isNone) = true
          · simp only [hparent, if_true]
            rfl
          · by_cases hslash : path.getLast? = some Path.slash
            · simp only [hparent, hslash, if_true]
              rfl
            · simp only [hparent, hslash, if_false]
              rfl

end Session
end Stencil
