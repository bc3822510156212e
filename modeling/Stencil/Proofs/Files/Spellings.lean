import Mathlib.Data.List.Nodup
import Stencil.Proofs.Files.Collected
import Stencil.Proofs.Files.Trees

/-! Under which paths files are collected. The walk comes to every file under the normal form of its
path, and only an argument is taken as it is written. So a file is collected twice exactly if an
argument that is not in normal form leads to a file that is collected under another path, too. -/
namespace Stencil

lemma Path.clean_join {parts : List Bytes} (h : ∃ part ∈ parts, part ≠ []) :
    clean (join parts) = join parts := by
  have hsome : (parts.filter (!·.isEmpty)).isEmpty = false := by
    obtain ⟨part,hmem,hne⟩ := h
    exact List.isEmpty_eq_false_iff_exists_mem.mpr
      ⟨part,List.mem_filter.mpr ⟨hmem,by simpa using hne⟩⟩
  rw [join, hsome]
  exact clean_clean _

lemma FileSystem.ne_nil_of_mem_names {fs : FileSystem} {dir name : Bytes}
    (h : name ∈ fs.names dir) : name ≠ [] := by
  obtain ⟨p,-,-,-,rfl⟩ := mem_names.mp h
  obtain hslash | helement := Path.base_eq_slash_or_areElements p
  · rw [hslash]
    exact List.cons_ne_nil _ _
  · exact (helement _ (List.mem_singleton_self _)).1

namespace Session
variable {isValid : Bytes → Bool} {isMatch : Bytes → Bytes → Bool} {s : Selection} {w w' : World}

/-- Below a directory, and at a path in normal form, everything is found in normal form. -/
lemma visit_clean {root path : Bytes} {fuel : Nat} {n : Node} {found : List Bytes}
    (hpath : Path.clean path = path ∨ n.isDirectory = true)
    (h : (visit isMatch s root fuel path n).run.run w = (.ok found, w')) :
    ∀ p ∈ found, Path.clean p = p := by
  induction fuel generalizing path n w w' found with
  | zero =>
    cases h
    simp
  | succ fuel ih =>
    rw [visit] at h
    obtain ⟨u,w₁,-,h⟩ := run_bind_eq_ok.mp h
    obtain ⟨name,w₂,-,h⟩ := run_bind_eq_ok.mp h
    intro p hp
    cases n with
    | file content =>
      cases h
      split at hp
      · obtain rfl := List.mem_singleton.mp hp
        exact hpath.resolve_right Bool.false_ne_true
      · cases hp
    | directory content =>
      dsimp only at h
      split at h
      · cases h
        simp at hp
      · obtain ⟨names,w₃,hnames,h⟩ := run_bind_eq_ok.mp h
        obtain ⟨lists,w₄,hlists,h⟩ := run_bind_eq_ok.mp h
        cases h
        have hall := mapM_invariant (I := fun _ => True)
          (P := fun name list => name ≠ [] → ∀ p ∈ list, Path.clean p = p) ?_ trivial hlists
        · obtain ⟨list,hlist,hp⟩ := List.mem_flatten.mp hp
          obtain ⟨name,hname,hclean⟩ := hall.2.1 list hlist
          refine hclean ?_ p hp
          rw [listDirectory] at hnames
          obtain ⟨n,w₅,-,hnames⟩ := run_bind_eq_ok.mp hnames
          cases hnames
          exact FileSystem.ne_nil_of_mem_names hname
        · rintro name w₅ list w₆ - hlist
          obtain ⟨node,w₇,-,hlist⟩ := run_bind_eq_ok.mp hlist
          refine ⟨trivial,fun hne => ih (.inl (Path.clean_join ⟨name,?_,hne⟩)) hlist⟩
          exact List.mem_cons_of_mem _ (List.mem_singleton_self _)

/-- What is found for an argument is in normal form, or it is the argument as it is written. -/
lemma collectPath_clean {fs : FileSystem} {argument : Bytes} {found : List Bytes}
    (hfiles : w.files = fs)
    (h : (collectPath isMatch s argument).run.run w = (.ok found, w')) :
    w'.files = fs ∧ (∀ p ∈ found, Path.clean p = p ∨ p = argument ∧ fs.IsFile argument) ∧
      (fs.IsFile argument → argument ∈ found) := by
  refine ⟨(collectPath_isFile hfiles h).1,?_⟩
  rw [collectPath] at h
  obtain ⟨u,w₁,hcheck,h⟩ := run_bind_eq_ok.mp h
  obtain ⟨-,rfl⟩ := checkCancelled_eq_ok hcheck
  obtain ⟨n,w₂,hstat,h⟩ := run_bind_eq_ok.mp h
  obtain ⟨hw₂,hn⟩ := stat_eq_ok (context_eq_ok hstat)
  rw [hfiles] at hw₂ hn
  cases n with
  | file content =>
    cases h
    refine ⟨fun p hp => .inr ⟨List.mem_singleton.mp hp,content,hn⟩,fun _ => ?_⟩
    exact List.mem_singleton_self _
  | directory content =>
    obtain ⟨m,w₃,hstat,h⟩ := run_bind_eq_ok.mp (context_eq_ok h)
    obtain ⟨-,hm⟩ := stat_eq_ok hstat
    obtain ⟨w₄,w₅,-,h⟩ := run_bind_eq_ok.mp h
    rw [hw₂, hn] at hm
    cases hm
    refine ⟨fun p hp => .inl (visit_clean (.inr rfl) h p hp),?_⟩
    rintro ⟨c,hc⟩
    cases hn.symm.trans hc

/-- Every path is collected once. A file is collected twice exactly if an argument that leads to it is
not in normal form and the file is collected under another path, too. -/
theorem collectWith_spellings {paths files : List Bytes}
    (h : (collectWith isValid isMatch s paths).run.run w = (.ok files, w')) :
    files.Nodup ∧ ((files.map Path.clean).Nodup ↔ ¬∃ argument ∈ paths, w.files.IsFile argument ∧
      Path.clean argument ≠ argument ∧
        ∃ p ∈ files, p ≠ argument ∧ Path.clean p = Path.clean argument) := by
  rw [collectWith] at h
  split at h
  · cases h
  obtain ⟨found,w₁,hfound,h⟩ := run_bind_eq_ok.mp h
  cases h
  obtain ⟨-,hentries,harguments⟩ := mapM_invariant (I := fun w₁ => w₁.files = w.files)
    (fun _ _ _ _ hw => collectPath_clean hw) rfl hfound
  have hmem (p : Bytes) :
      p ∈ found.flatten.eraseDups.mergeSort Bytes.le ↔ ∃ list ∈ found, p ∈ list := by
    rw [List.mem_mergeSort, List.mem_eraseDups, List.mem_flatten]
  have hnodup : (found.flatten.eraseDups.mergeSort Bytes.le).Nodup :=
    (List.mergeSort_perm _ _).nodup_iff.mpr (Bytes.nodup_eraseDups _)
  have hspelled (p : Bytes) (hp : p ∈ found.flatten.eraseDups.mergeSort Bytes.le)
      (hclean : Path.clean p ≠ p) : p ∈ paths ∧ w.files.IsFile p := by
    obtain ⟨list,hlist,hp⟩ := (hmem p).mp hp
    obtain ⟨argument,hargument,hall,-⟩ := hentries list hlist
    obtain ⟨rfl,hfile⟩ := (hall p hp).resolve_left hclean
    exact ⟨hargument,hfile⟩
  refine ⟨hnodup,?_⟩
  rw [List.nodup_map_iff_inj_on hnodup]
  constructor
  · rintro hinj ⟨argument,hargument,hfile,-,p,hp,hne,hsame⟩
    obtain ⟨list,hlist,-,htaken⟩ := harguments argument hargument
    exact hne (hinj p hp argument ((hmem _).mpr ⟨list,hlist,htaken hfile⟩) hsame)
  · intro hnone p hp q hq hsame
    by_contra hne
    by_cases hclean : Path.clean p = p
    · have hclean' : Path.clean q ≠ q := fun heq => hne (hclean.symm.trans (hsame.trans heq))
      obtain ⟨hargument,hfile⟩ := hspelled q hq hclean'
      exact hnone ⟨q,hargument,hfile,hclean',p,hp,hne,hsame⟩
    · obtain ⟨hargument,hfile⟩ := hspelled p hp hclean
      exact hnone ⟨p,hargument,hfile,hclean,q,hq,Ne.symm hne,hsame.symm⟩

def sampleDetour : FileSystem :=
  (({ entries := [] } : FileSystem).addFile "/a.php" "x").makeDirectory "/b"

theorem collectWith_spellings_sampleDetour :
    (collectWith Glob.isValid Glob.isMatch ⟨[], []⟩ ["/a.php", "/b/../a.php"]).run.run
        { files := sampleDetour } =
      (.ok ["/a.php", "/b/../a.php"], { files := sampleDetour }) ∧
    ([("/a.php" : Bytes), "/b/../a.php"]).Nodup ∧
    ¬([("/a.php" : Bytes), "/b/../a.php"].map Path.clean).Nodup := by
  have hfound : (List.mapM (collectPath Glob.isMatch ⟨[], []⟩) ["/a.php", "/b/../a.php"]).run.run
      { files := sampleDetour } = (.ok [["/a.php"], ["/b/../a.php"]], { files := sampleDetour }) := by
    rfl
  have hvalid : Selection.invalidPattern? Glob.isValid ⟨[], []⟩ = none := rfl
  have hrun := run_collectWith_of_sorted hvalid hfound (by decide)
  obtain ⟨hnodup,hdouble⟩ := collectWith_spellings hrun
  refine ⟨hrun,hnodup,fun hclean => hdouble.mp hclean ?_⟩
  have hfile : sampleDetour.IsFile "/b/../a.php" := ⟨"x",by decide⟩
  exact ⟨"/b/../a.php",by decide,hfile,by decide,"/a.php",by decide,by decide,by decide⟩

end Session
end Stencil
