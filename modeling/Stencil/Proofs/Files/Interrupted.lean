import Stencil.Proofs.Files.Collected

/-! Collecting that is cancelled from outside. A session asks whether it is cancelled at certain
points only, so whenever the cancellation comes, it takes effect at the next of them: it either comes
too late to matter or ends the work with a failure. -/
namespace Stencil

namespace Session
variable {α : Type}

/-- The work looks at the files; it neither changes them nor records calls of the formatter. -/
def ReadsOnly (work : Session α) : Prop :=
  ∀ w, (work.run.run w).2.files = w.files ∧ (work.run.run w).2.callsRev = w.callsRev

lemma readsOnly_stat (path : Bytes) : ReadsOnly (stat path) := by
  intro w
  rw [run_stat]
  exact ⟨World.files_afterCall ..,World.callsRev_afterCall ..⟩

lemma readsOnly_listDirectory (path : Bytes) : ReadsOnly (listDirectory path) := by
  intro w
  rw [listDirectory, run_bind, run_openNode]
  cases w.files.find .openFile path <;>
    exact ⟨World.files_afterCall ..,World.callsRev_afterCall ..⟩

lemma readsOnly_relativeName (root path : Bytes) : ReadsOnly (relativeName root path) := by
  intro w
  rw [relativeName]
  split <;> exact ⟨rfl,rfl⟩

lemma ReadsOnly.context {work : Session α} (h : ReadsOnly work) (doing : Bytes) :
    ReadsOnly (context doing work) := by
  intro w
  rw [run_context]
  exact h w

end Session

/-- Work that may be cancelled from outside: the state is the number of checks that the cancellation
comes after, if it comes at all. -/
abbrev Interruptible := StateT (Option Nat) Session

namespace Interruptible
variable {α β : Type}

/-- Fails once the session is cancelled. A cancellation that is due comes right before. -/
def check : Interruptible Unit := fun moment =>
  match moment with
  | none => do
    Session.checkCancelled
    return ((), none)
  | some 0 => do
    Session.cancel
    Session.checkCancelled
    return ((), some 0)
  | some (n + 1) => do
    Session.checkCancelled
    return ((), some n)

def context (doing : Bytes) (work : Interruptible α) : Interruptible α := fun moment =>
  Session.context doing (work moment)

/-- Visits a node and what is below it. -/
def visit (isMatch : Bytes → Bytes → Bool) (s : Selection) (root : Bytes) :
    (fuel : Nat) → (path : Bytes) → Node → Interruptible (List Bytes)
  | 0, _, _ => return []
  | fuel + 1, path, node => do
    check
    let name ← liftM (Session.relativeName root path)
    match node with
    | .file _ => return if s.selectsFile isMatch name then [path] else []
    | .directory _ =>
      if s.prunesDirectory isMatch name then return []
      else
        let names ← liftM (Session.listDirectory path)
        let found ← names.mapM fun name => do
          let child := Path.join [path, name]
          let node ← liftM (Session.stat child)
          visit isMatch s root fuel child node
        return found.flatten

/-- The wanted files at and below a path. -/
def collectPath (isMatch : Bytes → Bytes → Bool) (s : Selection) (root : Bytes) :
    Interruptible (List Bytes) := do
  check
  match ← liftM (Session.context ("stat " ++ root) (Session.stat root)) with
  | .file _ => return [root]
  | .directory _ =>
    context ("walking " ++ root) do
      let node ← liftM (Session.stat root)
      let w ← liftM (getThe World : Session World)
      visit isMatch s root (Session.walkFuel w.files) root node

/-- The wanted files of several paths. -/
def collectWith (isValid : Bytes → Bool) (isMatch : Bytes → Bytes → Bool) (s : Selection)
    (paths : List Bytes) : Interruptible (List Bytes) :=
  match s.invalidPattern? isValid with
  | some p => throw (.plain ("invalid glob pattern " ++ Text.quote p))
  | none => do
    let found ← paths.mapM (collectPath isMatch s)
    return found.flatten.eraseDups.mergeSort Bytes.le

lemma run_bind (work : Interruptible α) (next : α → Interruptible β) (moment : Option Nat)
    (w : World) :
    ((work >>= next) moment).run.run w = match (work moment).run.run w with
      | (.ok (a, moment'), w') => (next a moment').run.run w'
      | (.error e, w') => (.error e, w') := by
  change (work moment >>= fun out => next out.1 out.2).run.run w = _
  rw [Session.run_bind]
  generalize (work moment).run.run w = out
  obtain ⟨r,w'⟩ := out
  cases r <;> rfl

lemma run_lift (plain : Session α) (moment : Option Nat) (w : World) :
    ((liftM plain : Interruptible α) moment).run.run w = match plain.run.run w with
      | (.ok a, w') => (.ok (a, moment), w')
      | (.error e, w') => (.error e, w') :=
  Session.run_bind plain (fun a => pure (a, moment)) w

lemma run_context (doing : Bytes) (work : Interruptible α) (moment : Option Nat) (w : World) :
    (context doing work moment).run.run w =
      (((work moment).run.run w).1.mapError (·.wrap doing), ((work moment).run.run w).2) :=
  Session.run_context doing (work moment) w

/-- A check that the cancellation is due at fails. -/
lemma run_check (moment : Option Nat) (w : World) :
    (check moment).run.run w = match moment with
      | none => (if w.cancelled then .error .canceled else .ok ((), none), w)
      | some 0 => (.error .canceled, { w with cancelled := true })
      | some (n + 1) => (if w.cancelled then .error .canceled else .ok ((), some n), w) := by
  obtain _ | n | n := moment
  · rw [check, Session.run_bind, Session.run_checkCancelled]
    cases w.cancelled <;> rfl
  · rfl
  · rw [check, Session.run_bind, Session.run_checkCancelled]
    cases w.cancelled <;> rfl

/-- What may be cancelled from outside is other work that is not, as long as it does not fail. -/
structure Follows (work : Interruptible α) (plain : Session α) : Prop where
  undisturbed : ∀ w, (work none).run.run w = match plain.run.run w with
    | (.ok a, w') => (.ok (a, none), w')
    | (.error e, w') => (.error e, w')
  completed : ∀ moment w a moment' w', (work moment).run.run w = (.ok (a, moment'), w') →
    plain.run.run w = (.ok a, w')
  readsOnly : ∀ moment, Session.ReadsOnly (work moment)

namespace Follows

lemma pure (a : α) : Follows (pure a) (Pure.pure a) := by
  refine ⟨fun _ => rfl,?_,fun _ _ => ⟨rfl,rfl⟩⟩
  intro moment w b moment' w' h
  cases h
  rfl

lemma throw (e : Failure) : Follows (throw e : Interruptible α) (MonadExcept.throw e) := by
  refine ⟨fun _ => rfl,?_,fun _ _ => ⟨rfl,rfl⟩⟩
  intro moment w b moment' w' h
  cases h

lemma lift {plain : Session α} (h : Session.ReadsOnly plain) : Follows (liftM plain) plain := by
  refine ⟨run_lift plain none,?_,?_⟩
  · intro moment w a moment' w' hok
    rw [run_lift] at hok
    generalize plain.run.run w = out at hok ⊢
    obtain ⟨r,w₁⟩ := out
    cases r with
    | error e => cases hok
    | ok b =>
      cases hok
      rfl
  · intro moment w
    have hw := h w
    rw [run_lift]
    generalize plain.run.run w = out at hw ⊢
    obtain ⟨r,w₁⟩ := out
    cases r <;> exact hw

lemma bind {work : Interruptible α} {plain : Session α} {next : α → Interruptible β}
    {more : α → Session β} (h : Follows work plain) (hnext : ∀ a, Follows (next a) (more a)) :
    Follows (work >>= next) (plain >>= more) := by
  refine ⟨?_,?_,?_⟩
  · intro w
    rw [run_bind, Session.run_bind, h.undisturbed]
    generalize plain.run.run w = out
    obtain ⟨r,w₁⟩ := out
    cases r with
    | error e => rfl
    | ok a => exact (hnext a).undisturbed w₁
  · intro moment w b moment' w' hok
    rw [run_bind] at hok
    rw [Session.run_bind]
    cases hwork : (work moment).run.run w with
    | mk r w₁ =>
      rw [hwork] at hok
      cases r with
      | error e => cases hok
      | ok out =>
        obtain ⟨a,moment₁⟩ := out
        rw [h.completed moment w a moment₁ w₁ hwork]
        exact (hnext a).completed moment₁ w₁ b moment' w' hok
  · intro moment w
    have hw := h.readsOnly moment w
    rw [run_bind]
    generalize (work moment).run.run w = out at hw ⊢
    obtain ⟨r,w₁⟩ := out
    cases r with
    | error e => exact hw
    | ok out =>
      obtain ⟨hfiles,hcalls⟩ := (hnext out.1).readsOnly out.2 w₁
      exact ⟨hfiles.trans hw.1,hcalls.trans hw.2⟩

lemma context {work : Interruptible α} {plain : Session α} (h : Follows work plain)
    (doing : Bytes) : Follows (context doing work) (Session.context doing plain) := by
  refine ⟨?_,?_,?_⟩
  · intro w
    rw [run_context, Session.run_context, h.undisturbed]
    generalize plain.run.run w = out
    obtain ⟨r,w₁⟩ := out
    cases r <;> rfl
  · intro moment w a moment' w' hok
    rw [run_context] at hok
    rw [Session.run_context]
    cases hwork : (work moment).run.run w with
    | mk r w₁ =>
      rw [hwork] at hok
      cases r with
      | error e => cases hok
      | ok out =>
        cases hok
        rw [h.completed moment w a moment' _ hwork]
        rfl
  · intro moment w
    rw [run_context]
    exact h.readsOnly moment w

lemma mapM {f : α → Interruptible β} {g : α → Session β} (h : ∀ a, Follows (f a) (g a))
    (as : List α) : Follows (as.mapM f) (as.mapM g) := by
  induction as with
  | nil =>
    rw [List.mapM_nil, List.mapM_nil]
    exact .pure []
  | cons a as ih =>
    rw [List.mapM_cons, List.mapM_cons]
    exact (h a).bind fun b => ih.bind fun bs => .pure (b :: bs)

lemma check : Follows check Session.checkCancelled := by
  refine ⟨?_,?_,?_⟩
  · intro w
    rw [run_check, Session.run_checkCancelled]
    cases w.cancelled <;> rfl
  · intro moment w u moment' w' hok
    rw [run_check] at hok
    rw [Session.run_checkCancelled]
    obtain _ | n | n := moment
    · cases hcancelled : w.cancelled <;> rw [hcancelled] at hok <;> cases hok
      rfl
    · cases hok
    · cases hcancelled : w.cancelled <;> rw [hcancelled] at hok <;> cases hok
      rfl
  · intro moment w
    rw [run_check]
    obtain _ | n | n := moment <;> exact ⟨rfl,rfl⟩

end Follows

open Session

lemma follows_visit (isMatch : Bytes → Bytes → Bool) (s : Selection) (root : Bytes) (fuel : Nat)
    (path : Bytes) (node : Node) :
    Follows (visit isMatch s root fuel path node) (Session.visit isMatch s root fuel path node) := by
  induction fuel generalizing path node with
  | zero => exact .pure []
  | succ fuel ih =>
    refine Follows.check.bind fun _ => ?_
    refine (Follows.lift (readsOnly_relativeName root path)).bind fun name => ?_
    cases node with
    | file content => exact .pure _
    | directory content =>
      dsimp only
      split
      · exact .pure []
      · refine (Follows.lift (readsOnly_listDirectory path)).bind fun names => ?_
        refine (Follows.mapM (fun name => ?_) names).bind fun found => .pure found.flatten
        exact (Follows.lift (readsOnly_stat _)).bind fun child => ih _ child

lemma follows_collectPath (isMatch : Bytes → Bytes → Bool) (s : Selection) (root : Bytes) :
    Follows (collectPath isMatch s root) (Session.collectPath isMatch s root) := by
  refine Follows.check.bind fun _ => ?_
  refine (Follows.lift ((readsOnly_stat root).context _)).bind fun node => ?_
  cases node with
  | file content => exact .pure [root]
  | directory content =>
    apply Follows.context
    refine (Follows.lift (readsOnly_stat root)).bind fun node => ?_
    refine (Follows.lift fun _ => ⟨rfl,rfl⟩).bind fun w => ?_
    exact follows_visit isMatch s root (walkFuel w.files) root node

/-- Collecting that is cancelled from outside is collecting, unless it fails. -/
theorem follows_collectWith (isValid : Bytes → Bool) (isMatch : Bytes → Bytes → Bool)
    (s : Selection) (paths : List Bytes) :
    Follows (collectWith isValid isMatch s paths) (Session.collectWith isValid isMatch s paths) := by
  rw [collectWith, Session.collectWith]
  cases s.invalidPattern? isValid with
  | some p => exact .throw _
  | none =>
    exact (Follows.mapM (follows_collectPath isMatch s) paths).bind fun found => .pure _

end Interruptible
end Stencil
