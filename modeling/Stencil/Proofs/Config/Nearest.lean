import Stencil.Config.Load
import Stencil.Proofs.Files.Ancestors
import Stencil.Proofs.Session.Runs

/-! The nearest configuration file. The search goes through the directories from the inside out and
through the names in the order of preference, and it ends at the first path at which something is or
at which one cannot tell. -/
namespace Stencil

/-- What one learns of a path by asking whether something is there. -/
def FileSystem.presence (fs : FileSystem) (path : Bytes) : Except Failure Bool :=
  match fs.fault? .stat path with
  | some (.fail message) => .error (.plain message)
  | _ =>
    match fs.lookup path with
    | .ok _ => .ok true
    | .error .missing => .ok false
    | .error .notDirectory => .error (fs.missing .stat path)

lemma Session.run_exists? (path : Bytes) (w : World) :
    (exists? path).run.run w = (w.files.presence path, w.afterCall .stat path) := by
  have hlookup : (do
      let fs := (← getThe World).files
      match fs.lookup path with
      | .ok _ => return true
      | .error .missing => return false
      | .error .notDirectory => throw (fs.missing .stat path) : Session Bool).run.run
        (w.afterCall .stat path) =
      (match w.files.lookup path with
        | .ok _ => .ok true
        | .error .missing => .ok false
        | .error .notDirectory => .error (w.files.missing .stat path), w.afterCall .stat path) := by
    change (match (w.afterCall .stat path).files.lookup path with
      | .ok _ => pure true
      | .error .missing => pure false
      | .error .notDirectory => throw ((w.afterCall .stat path).files.missing .stat path) :
        Session Bool).run.run (w.afterCall .stat path) = _
    rw [World.files_afterCall]
    cases w.files.lookup path with
    | ok n => rfl
    | error absence => cases absence <;> rfl
  rw [exists?, run_bind, run_applyFaults, FileSystem.presence]
  cases w.files.fault? .stat path with
  | none => exact hlookup
  | some effect =>
    cases effect with
    | fail message => rfl
    | cancel => exact hlookup

namespace Config
open Session

/-- The outcome of the search once it has come to a path, if it ends there. -/
def verdict? (fs : FileSystem) (path : Bytes) : Option (Except Failure Bytes) :=
  match fs.presence path with
  | .ok true => some (.ok path)
  | .ok false => none
  | .error e => some (.error (e.wrap ("checking " ++ path)))

lemma verdict?_eq_ok_iff {fs : FileSystem} {path found : Bytes} :
    verdict? fs path = some (.ok found) ↔ fs.presence path = .ok true ∧ found = path := by
  unfold verdict?
  constructor
  · intro h
    split at h
    · next hpresence => exact ⟨hpresence,(Except.ok.inj (Option.some.inj h)).symm⟩
    · cases h
    · cases h
  · rintro ⟨hpresence,rfl⟩
    rw [hpresence]

lemma verdict?_eq_error_iff {fs : FileSystem} {path : Bytes} {e : Failure} :
    verdict? fs path = some (.error e) ↔
      ∃ reason, fs.presence path = .error reason ∧ e = reason.wrap ("checking " ++ path) := by
  unfold verdict?
  constructor
  · intro h
    split at h
    · cases h
    · cases h
    · next reason hpresence => exact ⟨reason,hpresence,(Except.error.inj (Option.some.inj h)).symm⟩
  · rintro ⟨reason,hpresence,rfl⟩
    rw [hpresence]

lemma verdict?_eq_none_iff {fs : FileSystem} {path : Bytes} :
    verdict? fs path = none ↔ fs.presence path = .ok false := by
  unfold verdict?
  constructor
  · intro h
    split at h
    · cases h
    · next hpresence => exact hpresence
    · cases h
  · intro hpresence
    rw [hpresence]

/-- The first path with a verdict decides. -/
lemma run_firstExisting (paths : List Bytes) (w : World) :
    ((firstExisting paths).run.run w).1 = match paths.findSome? (verdict? w.files) with
      | some (.ok path) => .ok (some path)
      | some (.error e) => .error e
      | none => .ok none := by
  induction paths generalizing w with
  | nil => rfl
  | cons path paths ih =>
    have ih := ih (w.afterCall .stat path)
    rw [World.files_afterCall] at ih
    rw [firstExisting, run_bind, run_context, run_exists?, List.findSome?_cons, verdict?]
    cases w.files.presence path with
    | error e => rfl
    | ok found =>
      cases found with
      | true => rfl
      | false => exact ih

/-- Nothing is at the paths before this one, and this is what one learns of it. -/
def FirstAnswer (fs : FileSystem) (paths : List Bytes) (path : Bytes)
    (answer : Except Failure Bool) : Prop :=
  ∃ before after, paths = before ++ path :: after ∧
    (∀ p ∈ before, fs.presence p = .ok false) ∧ fs.presence path = answer

lemma findSome?_eq_ok_iff {fs : FileSystem} {paths : List Bytes} {found : Bytes} :
    paths.findSome? (verdict? fs) = some (.ok found) ↔ FirstAnswer fs paths found (.ok true) := by
  simp only [List.findSome?_eq_some_iff, verdict?_eq_ok_iff, verdict?_eq_none_iff]
  constructor
  · rintro ⟨before,path,after,hpaths,⟨hpath,rfl⟩,hbefore⟩
    exact ⟨before,after,hpaths,hbefore,hpath⟩
  · rintro ⟨before,after,hpaths,hbefore,hpath⟩
    exact ⟨before,found,after,hpaths,⟨hpath,rfl⟩,hbefore⟩

lemma findSome?_eq_error_iff {fs : FileSystem} {paths : List Bytes} {e : Failure} :
    paths.findSome? (verdict? fs) = some (.error e) ↔
      ∃ path reason, FirstAnswer fs paths path (.error reason) ∧
        e = reason.wrap ("checking " ++ path) := by
  simp only [List.findSome?_eq_some_iff, verdict?_eq_error_iff, verdict?_eq_none_iff]
  constructor
  · rintro ⟨before,path,after,hpaths,⟨reason,hpath,he⟩,hbefore⟩
    exact ⟨path,reason,⟨before,after,hpaths,hbefore,hpath⟩,he⟩
  · rintro ⟨path,reason,⟨before,after,hpaths,hbefore,hpath⟩,he⟩
    exact ⟨before,path,after,hpaths,⟨reason,hpath,he⟩,hbefore⟩

/-- The search for a configuration file goes from a directory up to the first one that is its own
parent, in each of them through the names in order. It finds the first path at which something is,
fails at the first one that cannot be asked about, whichever of the two comes first, and finds
nothing exactly if nothing is at any of the paths. -/
theorem find_nearest (dir : Bytes) (w : World) :
    ∃ n, IsLeast {i | Path.dir (Path.dir^[i] (Path.clean dir)) = Path.dir^[i] (Path.clean dir)} n ∧
      candidates dir = (List.iterate Path.dir (Path.clean dir) (n + 1)).flatMap (fun d =>
        [".htmlphpfmt.hcl", ".htmlphpfmt.yaml", ".htmlphpfmt.yml", ".htmlphpfmt.toml"].map
          fun name => Path.join [d, name]) ∧
      (∀ path, ((find dir).run.run w).1 = .ok (some path) ↔
        FirstAnswer w.files (candidates dir) path (.ok true)) ∧
      (∀ e, ((find dir).run.run w).1 = .error e ↔
        ∃ path reason, FirstAnswer w.files (candidates dir) path (.error reason) ∧
          e = reason.wrap ("checking " ++ path)) ∧
      (((find dir).run.run w).1 = .ok none ↔
        ∀ path ∈ candidates dir, w.files.presence path = .ok false) := by
  obtain ⟨n,hn,hancestors⟩ := Path.exists_ancestors_clean dir
  refine ⟨n,hn,by rw [candidates, hancestors]; rfl,?_⟩
  simp only [← findSome?_eq_ok_iff, ← findSome?_eq_error_iff, ← verdict?_eq_none_iff,
    ← List.findSome?_eq_none_iff]
  rw [find, run_firstExisting]
  -- Each outcome of the search shows which verdict it came from.
  cases (candidates dir).findSome? (verdict? w.files) with
  | none => simp
  | some verdict => cases verdict <;> simp [eq_comm]

/-- In the inner directory one cannot ask about the second name; the third would be there. -/
def sampleNested : FileSystem :=
  { (({ entries := [] } : FileSystem).addFile "/a/b/.htmlphpfmt.yml" "").addFile
      "/.htmlphpfmt.hcl" "" with
    faults := [⟨.stat, "/a/b/.htmlphpfmt.yaml", .fail "denied"⟩] }

theorem find_nearest_sampleNested :
    ((find "/a/b/../c").run.run { files := sampleNested }).1 = .ok (some "/.htmlphpfmt.hcl") ∧
      ((find "/a//b/").run.run { files := sampleNested }).1 =
        .error (.plain "checking /a/b/.htmlphpfmt.yaml: denied") ∧
      ((find "a/..").run.run { files := sampleNested }).1 = .ok none := by
  obtain ⟨-,-,-,hfound,-,-⟩ := find_nearest "/a/b/../c" { files := sampleNested }
  obtain ⟨-,-,-,-,hfails,-⟩ := find_nearest "/a//b/" { files := sampleNested }
  obtain ⟨-,-,-,-,-,hnone⟩ := find_nearest "a/.." { files := sampleNested }
  refine ⟨(hfound _).mpr ?_,(hfails _).mpr ?_,hnone.mpr (by decide)⟩
  · exact ⟨(candidates "/a/b/../c").take 8,(candidates "/a/b/../c").drop 9,by decide,by decide,
      by decide⟩
  · exact ⟨"/a/b/.htmlphpfmt.yaml",.plain "denied",⟨["/a/b/.htmlphpfmt.hcl"],
      (candidates "/a//b/").drop 2,by decide,by decide,by decide⟩,by decide⟩

end Config
end Stencil
