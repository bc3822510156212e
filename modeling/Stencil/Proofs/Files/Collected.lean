import Stencil.Files.Collect
import Stencil.Proofs.Files.Reading

/-! What is collected. Collecting only looks at the files, and every path that it finds leads to a
file. -/
namespace Stencil

namespace Bytes
variable {a b c : Bytes}

/-! ## Byte order -/

lemma lt_iff : lt a b = true ↔ a < b := by
  induction a generalizing b with
  | nil => cases b <;> simp [lt]
  | cons x a ih => cases b <;> simp [lt, ih, List.cons_lt_cons_iff]

lemma le_iff : le a b = true ↔ a ≤ b := by
  rw [le, Bool.not_eq_true', ← Bool.not_eq_true, lt_iff, List.not_lt]

lemma nodup_eraseDups (l : List Bytes) : l.eraseDups.Nodup := by
  induction hn : l.length using Nat.strongRecOn generalizing l with
  | ind n ih =>
    cases l with
    | nil => simp
    | cons x l =>
      have hlength : (l.filter fun y => !y == x).length < n := by
        rw [← hn, List.length_cons]
        exact Nat.lt_succ_of_le (List.length_filter_le _ _)
      rw [List.eraseDups_cons, List.nodup_cons]
      exact ⟨by simp [List.mem_eraseDups],ih _ hlength _ rfl⟩

/-- Sorted texts, each once, are in strict order. -/
lemma pairwise_mergeSort_eraseDups (l : List Bytes) :
    (l.eraseDups.mergeSort le).Pairwise (lt · ·) := by
  have hsorted : (l.eraseDups.mergeSort le).Pairwise (le · ·) := by
    refine List.pairwise_mergeSort (fun a b c hab hbc => ?_) (fun a b => ?_) _
    · exact le_iff.mpr (Std.le_trans (le_iff.mp hab) (le_iff.mp hbc))
    · rw [Bool.or_eq_true, le_iff, le_iff]
      exact Std.le_total
  have hnodup : (l.eraseDups.mergeSort le).Nodup :=
    (List.mergeSort_perm _ _).nodup_iff.mpr (nodup_eraseDups l)
  refine (hsorted.and hnodup).imp fun ⟨hle,hne⟩ => ?_
  exact lt_iff.mpr (Std.lt_of_le_of_ne (le_iff.mp hle) hne)

end Bytes

namespace Session
variable {α β : Type} {fs : FileSystem}

/-- What every step of a walk over a list keeps and gives, the whole walk does. -/
lemma mapM_invariant {f : α → Session β} {I : World → Prop} {P : α → β → Prop} {as : List α}
    (hf : ∀ a w b w', I w → (f a).run.run w = (.ok b, w') → I w' ∧ P a b) {w w' : World}
    {bs : List β} (hw : I w) (h : (as.mapM f).run.run w = (.ok bs, w')) :
    I w' ∧ (∀ b ∈ bs, ∃ a ∈ as, P a b) ∧ ∀ a ∈ as, ∃ b ∈ bs, P a b := by
  induction as generalizing w bs with
  | nil =>
    rw [List.mapM_nil] at h
    cases h
    exact ⟨hw,by simp,by simp⟩
  | cons a as ih =>
    rw [List.mapM_cons] at h
    obtain ⟨b,w₁,hb,h⟩ := run_bind_eq_ok.mp h
    obtain ⟨bs',w₂,hbs,h⟩ := run_bind_eq_ok.mp h
    cases h
    obtain ⟨hw₁,hPb⟩ := hf a w b w₁ hw hb
    obtain ⟨hw₂,hright,hleft⟩ := ih hw₁ hbs
    refine ⟨hw₂,fun x hx => ?_,fun x hx => ?_⟩
    · obtain rfl | hx := List.mem_cons.mp hx
      · exact ⟨a,List.mem_cons_self ..,hPb⟩
      · obtain ⟨y,hy,hP⟩ := hright x hx
        exact ⟨y,List.mem_cons_of_mem _ hy,hP⟩
    · obtain rfl | hx := List.mem_cons.mp hx
      · exact ⟨b,List.mem_cons_self ..,hPb⟩
      · obtain ⟨y,hy,hP⟩ := hleft x hx
        exact ⟨y,List.mem_cons_of_mem _ hy,hP⟩

lemma checkCancelled_eq_ok {w w' : World} {u : Unit}
    (h : checkCancelled.run.run w = (.ok u, w')) : w.cancelled = false ∧ w = w' := by
  rw [run_checkCancelled] at h
  cases hcancelled : w.cancelled with
  | true =>
    rw [hcancelled] at h
    cases h
  | false => exact ⟨rfl,(Prod.mk.inj h).2⟩

lemma stat_eq_ok {path : Bytes} {w w' : World} {n : Node} (h : (stat path).run.run w = (.ok n, w')) :
    w'.files = w.files ∧ w.files.lookup path = .ok n := by
  rw [run_stat] at h
  obtain ⟨hn,rfl⟩ := Prod.mk.inj h
  exact ⟨World.files_afterCall ..,FileSystem.lookup_of_find hn⟩

lemma context_eq_ok {doing : Bytes} {work : Session α} {w w' : World} {a : α}
    (h : (context doing work).run.run w = (.ok a, w')) : work.run.run w = (.ok a, w') := by
  rw [run_context] at h
  generalize work.run.run w = out at h
  obtain ⟨r,w₁⟩ := out
  cases r <;> cases h
  rfl

/-- Visiting what is at a path finds files only. -/
lemma visit_isFile {isMatch : Bytes → Bytes → Bool} {s : Selection} {root : Bytes} {fuel : Nat}
    {path : Bytes} {n : Node} {w w' : World} {found : List Bytes} (hfiles : w.files = fs)
    (hn : fs.lookup path = .ok n)
    (h : (visit isMatch s root fuel path n).run.run w = (.ok found, w')) :
    w'.files = fs ∧ ∀ p ∈ found, fs.IsFile p := by
  induction fuel generalizing path n w w' found with
  | zero =>
    cases h
    exact ⟨hfiles,by simp⟩
  | succ fuel ih =>
    rw [visit] at h
    obtain ⟨u,w₁,hcheck,h⟩ := run_bind_eq_ok.mp h
    obtain ⟨-,rfl⟩ := checkCancelled_eq_ok hcheck
    obtain ⟨name,w₂,hname,h⟩ := run_bind_eq_ok.mp h
    obtain rfl : w = w₂ := by
      unfold relativeName at hname
      split at hname <;> cases hname
      rfl
    cases n with
    | file content =>
      cases h
      refine ⟨hfiles,fun p hp => ?_⟩
      split at hp
      · obtain rfl := List.mem_singleton.mp hp
        exact ⟨content,hn⟩
      · simp at hp
    | directory content =>
      dsimp only at h
      split at h
      · cases h
        exact ⟨hfiles,by simp⟩
      · obtain ⟨names,w₃,hnames,h⟩ := run_bind_eq_ok.mp h
        obtain ⟨lists,w₄,hlists,h⟩ := run_bind_eq_ok.mp h
        cases h
        have hw₃ : w₃.files = fs := by
          rw [listDirectory] at hnames
          obtain ⟨n,w₅,hopen,hnames⟩ := run_bind_eq_ok.mp hnames
          rw [run_openNode] at hopen
          cases hnames
          rw [← hfiles, ← (Prod.mk.inj hopen).2, World.files_afterCall]
        have hall := mapM_invariant (I := fun w => w.files = fs)
          (P := fun _ list => ∀ p ∈ list, fs.IsFile p) ?_ hw₃ hlists
        · refine ⟨hall.1,fun p hp => ?_⟩
          obtain ⟨list,hlist,hp⟩ := List.mem_flatten.mp hp
          obtain ⟨-,-,hfile⟩ := hall.2.1 list hlist
          exact hfile p hp
        · intro name w₅ list w₆ hw₅ hlist
          obtain ⟨node,w₇,hstat,hlist⟩ := run_bind_eq_ok.mp hlist
          obtain ⟨hw₇,hnode⟩ := stat_eq_ok hstat
          exact ih (hw₇.trans hw₅) (hw₅ ▸ hnode) hlist

lemma collectPath_isFile {isMatch : Bytes → Bytes → Bool} {s : Selection} {root : Bytes}
    {w w' : World} {found : List Bytes} (hfiles : w.files = fs)
    (h : (collectPath isMatch s root).run.run w = (.ok found, w')) :
    w'.files = fs ∧ ∀ p ∈ found, fs.IsFile p := by
  rw [collectPath] at h
  obtain ⟨u,w₁,hcheck,h⟩ := run_bind_eq_ok.mp h
  obtain ⟨-,rfl⟩ := checkCancelled_eq_ok hcheck
  obtain ⟨n,w₂,hstat,h⟩ := run_bind_eq_ok.mp h
  obtain ⟨hw₂,hn⟩ := stat_eq_ok (context_eq_ok hstat)
  rw [hfiles] at hw₂ hn
  cases n with
  | file content =>
    cases h
    refine ⟨hw₂,fun p hp => ?_⟩
    obtain rfl := List.mem_singleton.mp hp
    exact ⟨content,hn⟩
  | directory content =>
    obtain ⟨m,w₃,hstat,h⟩ := run_bind_eq_ok.mp (context_eq_ok h)
    obtain ⟨hw₃,hm⟩ := stat_eq_ok hstat
    obtain ⟨w₄,w₅,hget,h⟩ := run_bind_eq_ok.mp h
    cases hget
    exact visit_isFile (hw₃.trans hw₂) (hw₂ ▸ hm) h

/-- Everything that is collected is a file, and collecting changes none. -/
theorem collectWith_isFile {isValid : Bytes → Bool} {isMatch : Bytes → Bytes → Bool} {s : Selection}
    {paths files : List Bytes} {w w' : World}
    (h : (collectWith isValid isMatch s paths).run.run w = (.ok files, w')) :
    w'.files = w.files ∧ ∀ path ∈ files, w.files.IsFile path := by
  rw [collectWith] at h
  split at h
  · cases h
  · obtain ⟨lists,w₁,hlists,h⟩ := run_bind_eq_ok.mp h
    cases h
    have hall := mapM_invariant (I := fun w₁ => w₁.files = w.files)
      (P := fun _ list => ∀ p ∈ list, w.files.IsFile p)
      (fun _ _ _ _ hw => collectPath_isFile hw) rfl hlists
    refine ⟨hall.1,fun p hp => ?_⟩
    rw [List.mem_mergeSort, List.mem_eraseDups] at hp
    obtain ⟨list,hlist,hp⟩ := List.mem_flatten.mp hp
    obtain ⟨-,-,hfile⟩ := hall.2.1 list hlist
    exact hfile p hp

/-- What is found in byte order already is collected as it is. -/
lemma run_collectWith_of_sorted {isValid : Bytes → Bool} {isMatch : Bytes → Bytes → Bool}
    {s : Selection} {paths : List Bytes} {found : List (List Bytes)} {w w' : World}
    (hvalid : s.invalidPattern? isValid = none)
    (hfound : (paths.mapM (collectPath isMatch s)).run.run w = (.ok found, w'))
    (hsorted : found.flatten.eraseDups.Pairwise (Bytes.le · ·)) :
    (collectWith isValid isMatch s paths).run.run w = (.ok found.flatten.eraseDups, w') := by
  rw [collectWith, hvalid]
  dsimp only
  rw [run_bind, hfound]
  dsimp only
  rw [run_pure, List.mergeSort_of_pairwise hsorted]

end Session
end Stencil
