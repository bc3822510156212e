import Mathlib
import Stencil.Proofs.Files.Collected
import Stencil.Proofs.Files.Trees

/-! Which files are collected. In a tree in memory the walk comes to exactly the files below a
directory whose names the patterns want, so what is collected is told by the paths and the patterns
alone. -/
namespace Stencil
open Stencil.Path (AreNames ofNames)

namespace Selection
variable (isMatch : Bytes → Bytes → Bool) (s : Selection)

/-- One of the excludes matches the name. -/
def Excludes (name : Bytes) : Prop := ∃ pattern ∈ s.excludes, isMatch pattern name = true

/-- The patterns want what is at these names below a directory: some include and no exclude matches
the names with slashes between them, and no exclude matches the way to any directory that is passed,
with or without a slash. -/
structure Wants (names : List Bytes) : Prop where
  included : ∃ pattern ∈ s.includes, isMatch pattern (Bytes.joinWith [Path.slash] names) = true
  not_excluded : ¬s.Excludes isMatch (Bytes.joinWith [Path.slash] names)
  passes (above below : List Bytes) : names = above ++ below → above ≠ [] → below ≠ [] →
    ¬s.Excludes isMatch (Bytes.joinWith [Path.slash] above) ∧
      ¬s.Excludes isMatch (Bytes.joinWith [Path.slash] above ++ [Path.slash])

/-- The path is the argument itself, a file, or a file that is wanted below it, a directory. -/
def Selects (fs : FileSystem) (argument path : Bytes) : Prop :=
  fs.IsFile path ∧ (path = argument ∨ fs.IsDirectory argument ∧ ∃ names, names ≠ [] ∧
    AreNames names ∧ path = Path.join (argument :: names) ∧ s.Wants isMatch names)

/-! ## The walk and the names on it -/

/-- From the directory at the first names, the walk goes on by the others and wants what is there. -/
def Finds : (above names : List Bytes) → Prop
  | above, [] => s.selectsFile isMatch (Path.ofElements false above) = true
  | above, name :: names =>
    s.prunesDirectory isMatch (Path.ofElements false above) = false ∧ Finds (above ++ [name]) names

variable {isMatch s}

lemma finds_iff {above names : List Bytes} : s.Finds isMatch above names ↔
    s.selectsFile isMatch (Path.ofElements false (above ++ names)) = true ∧
      ∀ passed below, names = passed ++ below → below ≠ [] →
        s.prunesDirectory isMatch (Path.ofElements false (above ++ passed)) = false := by
  induction names generalizing above with
  | nil =>
    rw [Finds, List.append_nil, iff_self_and]
    rintro - passed below hnil hne
    exact absurd (List.append_eq_nil_iff.mp hnil.symm).2 hne
  | cons name names ih =>
    rw [Finds, ih, List.append_assoc, List.singleton_append]
    constructor
    · rintro ⟨hhere,hselects,hpasses⟩
      refine ⟨hselects,fun passed below hsplit hne => ?_⟩
      cases passed with
      | nil => rwa [List.append_nil]
      | cons first passed =>
        obtain ⟨rfl,htail⟩ := List.cons.inj hsplit
        rw [List.append_cons]
        exact hpasses passed below htail hne
    · rintro ⟨hselects,hpasses⟩
      refine ⟨?_,hselects,fun passed below hsplit hne => ?_⟩
      · simpa using hpasses [] (name :: names) rfl (List.cons_ne_nil _ _)
      · rw [List.append_assoc, List.singleton_append]
        exact hpasses (name :: passed) below (by rw [hsplit, List.cons_append]) hne

lemma matchesAny_iff {patterns : List Bytes} {name : Bytes} :
    matchesAny isMatch patterns name = true ↔ ∃ pattern ∈ patterns, isMatch pattern name = true :=
  List.any_eq_true

/-- Names stand for a directory of their own, not for the one they start from. -/
lemma joinWith_ne_dot {names : List Bytes} (h : AreNames names) (hne : names ≠ []) :
    Bytes.joinWith [Path.slash] names ≠ Path.dot := by
  intro hdot
  have helements := Path.elements_joinWith hne h.areElements
  rw [hdot] at helements
  obtain rfl : names = [Path.dot] := helements.symm
  exact h.ne_dot (List.mem_singleton_self _)

lemma prunesDirectory_eq_false_iff {names : List Bytes} (h : AreNames names) (hne : names ≠ []) :
    s.prunesDirectory isMatch (Bytes.joinWith [Path.slash] names) = false ↔
      ¬s.Excludes isMatch (Bytes.joinWith [Path.slash] names) ∧
        ¬s.Excludes isMatch (Bytes.joinWith [Path.slash] names ++ [Path.slash]) := by
  have hdot : (Bytes.joinWith [Path.slash] names != Path.dot) = true :=
    bne_iff_ne.mpr (joinWith_ne_dot h hne)
  rw [prunesDirectory, hdot, Bool.true_and, Bool.or_eq_false_iff, ← Bool.not_eq_true,
    ← Bool.not_eq_true, matchesAny_iff, matchesAny_iff]
  rfl

/-- The walk comes to what is wanted. -/
lemma finds_nil_iff {names : List Bytes} (h : AreNames names) (hne : names ≠ []) :
    s.Finds isMatch [] names ↔ s.Wants isMatch names := by
  have hrelative {l : List Bytes} (hl : l ≠ []) :
      Path.ofElements false l = Bytes.joinWith [Path.slash] l := by
    rw [Path.ofElements, if_neg Bool.false_ne_true, if_neg (by simpa using hl)]
  simp only [finds_iff, List.nil_append]
  rw [hrelative hne, selectsFile, Bool.and_eq_true, Bool.not_eq_true', ← Bool.not_eq_true,
    matchesAny_iff, matchesAny_iff]
  constructor
  · rintro ⟨⟨hincluded,hexcluded⟩,hpasses⟩
    refine ⟨hincluded,hexcluded,fun above below hsplit habove hbelow => ?_⟩
    have hprunes := hpasses above below hsplit hbelow
    subst hsplit
    rw [hrelative habove] at hprunes
    exact (prunesDirectory_eq_false_iff h.left habove).mp hprunes
  · rintro ⟨hincluded,hexcluded,hpasses⟩
    refine ⟨⟨hincluded,hexcluded⟩,fun above below hsplit hbelow => ?_⟩
    obtain rfl | habove := eq_or_ne above []
    · rfl
    · have hprunes := hpasses above below hsplit habove hbelow
      subst hsplit
      rw [hrelative habove]
      exact (prunesDirectory_eq_false_iff h.left habove).mpr hprunes

/-! ## What is found below a directory -/

/-- The path is a file that the walk below the root finds when it is at the names above. -/
def Found (isMatch : Bytes → Bytes → Bool) (s : Selection) (fs : FileSystem)
    (root above : List Bytes) (path : Bytes) : Prop :=
  ∃ names, AreNames (root ++ above ++ names) ∧ path = ofNames (root ++ above ++ names) ∧
    fs.IsFile path ∧ s.Finds isMatch above names

section
variable {fs : FileSystem} {root above : List Bytes} {path content : Bytes} (h : fs.Rooted)
include h

/-- Below a file is nothing. -/
lemma found_of_file (hnames : AreNames (root ++ above))
    (hentry : fs.entry? (ofNames (root ++ above)) = some (.file content)) :
    s.Found isMatch fs root above path ↔
      path = ofNames (root ++ above) ∧
        s.selectsFile isMatch (Path.ofElements false above) = true := by
  constructor
  · rintro ⟨names,hall,rfl,⟨found,hfound⟩,hfinds⟩
    have hempty : names = [] := by
      by_contra hne
      have hsome := Option.isSome_of_eq_some ((h.lookup_ofNames hall).mp hfound)
      have hdirectory := h.hasDirectory hall hne hsome
      rw [FileSystem.HasDirectory, hentry] at hdirectory
      cases hdirectory
    subst hempty
    rw [List.append_nil]
    exact ⟨rfl,hfinds⟩
  · rintro ⟨rfl,hselects⟩
    have hall : AreNames (root ++ above ++ []) := by rwa [List.append_nil]
    refine ⟨[],hall,by rw [List.append_nil],?_,hselects⟩
    exact ⟨content,(h.lookup_ofNames hnames).mpr hentry⟩

/-- Below a directory, what is found is what is selected. -/
lemma selects_iff_found (hnames : AreNames root)
    (hentry : fs.entry? (ofNames root) = some (.directory content)) :
    s.Selects isMatch fs (ofNames root) path ↔ s.Found isMatch fs root [] path := by
  have hdirectory : fs.IsDirectory (ofNames root) := ⟨content,(h.lookup_ofNames hnames).mpr hentry⟩
  have hno_file : ¬fs.IsFile (ofNames root) := by
    rintro ⟨found,hfound⟩
    rw [h.lookup_ofNames hnames, hentry] at hfound
    cases hfound
  unfold Selects Found
  rw [List.append_nil]
  constructor
  · rintro ⟨hfile,rfl | ⟨-,names,hne,hbelow,rfl,hwants⟩⟩
    · exact absurd hfile hno_file
    · have hall := hnames.append hbelow
      rw [Path.join_ofNames hall] at hfile ⊢
      exact ⟨names,hall,rfl,hfile,(finds_nil_iff hbelow hne).mpr hwants⟩
  · rintro ⟨names,hall,rfl,hfile,hfinds⟩
    have hne : names ≠ [] := by
      rintro rfl
      rw [List.append_nil] at hfile
      exact hno_file hfile
    refine ⟨hfile,.inr ⟨hdirectory,names,hne,hall.right,?_,?_⟩⟩
    · exact (Path.join_ofNames hall).symm
    · exact (finds_nil_iff hall.right hne).mp hfinds

/-- What is found at a directory is found at one of the names that it lists, unless the directory is
left out. -/
lemma found_of_directory (hnames : AreNames (root ++ above))
    (hroot : root = [] → fs.RootNamesFound)
    (hentry : fs.entry? (ofNames (root ++ above)) = some (.directory content)) :
    s.Found isMatch fs root above path ↔
      s.prunesDirectory isMatch (Path.ofElements false above) = false ∧
        ∃ name ∈ fs.names (ofNames (root ++ above)),
          s.Found isMatch fs root (above ++ [name]) path := by
  have hlisted {name : Bytes} : name ∈ fs.names (ofNames (root ++ above)) ↔
      AreNames (root ++ above ++ [name]) ∧
        (fs.entry? (ofNames (root ++ above ++ [name]))).isSome :=
    h.mem_names_iff hnames fun hnil => hroot (List.append_eq_nil_iff.mp hnil).1
  constructor
  · rintro ⟨names,hall,rfl,⟨found,hfound⟩,hfinds⟩
    cases names with
    | nil =>
      have hfile := (h.lookup_ofNames hall).mp hfound
      rw [List.append_nil, hentry] at hfile
      cases hfile
    | cons name names =>
      obtain ⟨hprunes,hfinds⟩ := hfinds
      have hsplit : root ++ above ++ name :: names = root ++ (above ++ [name]) ++ names := by simp
      have hsplit' : root ++ above ++ name :: names = root ++ above ++ [name] ++ names := by simp
      have hsome := Option.isSome_of_eq_some ((h.lookup_ofNames hall).mp hfound)
      have hhere : (fs.entry? (ofNames (root ++ above ++ [name]))).isSome := by
        obtain rfl | hne := eq_or_ne names []
        · exact hsome
        · rw [hsplit'] at hall hsome
          exact (h.hasDirectory hall hne hsome).isSome
      refine ⟨hprunes,name,hlisted.mpr ⟨?_,hhere⟩,names,hsplit ▸ hall,by rw [hsplit],?_,hfinds⟩
      · exact (hsplit' ▸ hall).left
      · exact ⟨found,hfound⟩
  · rintro ⟨hprunes,name,-,names,hall,rfl,hfile,hfinds⟩
    have hsplit : root ++ above ++ name :: names = root ++ (above ++ [name]) ++ names := by simp
    exact ⟨name :: names,hsplit ▸ hall,by rw [hsplit],hfile,hprunes,hfinds⟩

end

end Selection

namespace Session
variable {α β : Type} {isMatch : Bytes → Bytes → Bool} {s : Selection} {w : World}

/-! ## Undisturbed runs -/

/-- Nothing comes in between: the session is not cancelled and no call is made to go wrong. -/
structure Undisturbed (w : World) : Prop where
  cancelled : w.cancelled = false
  faults : w.files.faults = []

namespace Undisturbed
variable (h : Undisturbed w)
include h

lemma fault?_eq (call : FileCall) (path : Bytes) : w.files.fault? call path = none := by
  rw [FileSystem.fault?, h.faults]
  rfl

lemma afterCall_eq (call : FileCall) (path : Bytes) : w.afterCall call path = w := by
  rw [World.afterCall, h.fault?_eq]
  exact if_neg (by simp)

lemma find_eq {call : FileCall} {path : Bytes} {n : Node} (hn : w.files.lookup path = .ok n) :
    w.files.find call path = .ok n := by
  rw [FileSystem.find, h.fault?_eq, FileSystem.node?, hn]
  rfl

lemma run_checkCancelled : checkCancelled.run.run w = (.ok (), w) := by
  rw [Session.run_checkCancelled, h.cancelled]
  rfl

lemma run_stat {path : Bytes} {n : Node} (hn : w.files.lookup path = .ok n) :
    (stat path).run.run w = (.ok n, w) := by
  rw [Session.run_stat, h.find_eq hn, h.afterCall_eq]

lemma run_listDirectory {path : Bytes} {n : Node} (hn : w.files.lookup path = .ok n) :
    (listDirectory path).run.run w = (.ok (w.files.names path), w) := by
  rw [listDirectory, run_bind, run_openNode, h.find_eq hn, h.afterCall_eq]
  rfl

/-- From a directory, the session can go down by every name that the directory lists. -/
lemma run_stat_child (hrooted : w.files.Rooted) {names : List Bytes} {name : Bytes}
    (hnames : AreNames names) (hroot : names = [] → w.files.RootNamesFound)
    (hname : name ∈ w.files.names (ofNames names)) :
    AreNames (names ++ [name]) ∧ ∃ n, w.files.entry? (ofNames (names ++ [name])) = some n ∧
      (stat (Path.join [ofNames names, name])).run.run w = (.ok n, w) := by
  obtain ⟨hbelow,hsome⟩ := (hrooted.mem_names_iff hnames hroot).mp hname
  obtain ⟨n,hn⟩ := Option.isSome_iff_exists.mp hsome
  refine ⟨hbelow,n,hn,?_⟩
  rw [Path.join_ofNames hbelow]
  exact h.run_stat ((hrooted.lookup_ofNames hbelow).mpr hn)

end Undisturbed

/-- If every step of a walk over a list finds something, so does the whole walk. -/
lemma run_mapM_flatten {f : α → Session (List β)} {Q : α → β → Prop} {as : List α}
    (h : ∀ a ∈ as, ∃ bs, (f a).run.run w = (.ok bs, w) ∧ ∀ b, b ∈ bs ↔ Q a b) :
    ∃ found, (as.mapM f).run.run w = (.ok found, w) ∧
      ∀ b, b ∈ found.flatten ↔ ∃ a ∈ as, Q a b := by
  induction as with
  | nil => exact ⟨[],rfl,by simp⟩
  | cons a as ih =>
    obtain ⟨bs,hbs,hmem⟩ := h a (List.mem_cons_self ..)
    obtain ⟨found,hfound,hflatten⟩ := ih fun x hx => h x (List.mem_cons_of_mem _ hx)
    refine ⟨bs :: found,?_,fun b => ?_⟩
    · rw [List.mapM_cons, run_bind_eq_ok]
      refine ⟨bs,w,hbs,?_⟩
      rw [run_bind_eq_ok]
      exact ⟨found,w,hfound,rfl⟩
    · rw [List.flatten_cons, List.mem_append, hmem, hflatten]
      simp

/-! ## The walk -/

lemma run_relativeName {root path name : Bytes} (h : Path.relative? root path = some name)
    (w : World) : (relativeName root path).run.run w = (.ok name, w) := by
  rw [relativeName, h]
  rfl

/-- A visit finds what there is to be found, as long as the fuel lasts for the depth of the tree. -/
lemma run_visit (hw : Undisturbed w) (h : w.files.Rooted) {root above : List Bytes} {fuel : Nat}
    {n : Node} (hroot : root = [] → w.files.RootNamesFound) (hnames : AreNames (root ++ above))
    (hn : w.files.entry? (ofNames (root ++ above)) = some n)
    (hfuel : w.files.entries.length < fuel + (root ++ above).length) :
    ∃ found, (visit isMatch s (ofNames root) fuel (ofNames (root ++ above)) n).run.run w =
        (.ok found, w) ∧
      ∀ p, p ∈ found ↔ s.Found isMatch w.files root above p := by
  induction fuel generalizing above n with
  | zero =>
    have hdepth := h.length_le hnames (Option.isSome_of_eq_some hn)
    omega
  | succ fuel ih =>
    rw [visit, run_bind, hw.run_checkCancelled]
    dsimp only
    rw [run_bind, run_relativeName (Path.relative?_ofNames hnames)]
    dsimp only
    cases n with
    | file content =>
      refine ⟨_,run_pure _ w,fun p => ?_⟩
      rw [Selection.found_of_file h hnames hn]
      split
      · next hselects => simp [hselects]
      · next hselects => simp [hselects]
    | directory content =>
      dsimp only
      split
      · next hprunes =>
        refine ⟨[],rfl,fun p => ?_⟩
        rw [Selection.found_of_directory h hnames hroot hn, hprunes]
        simp
      · next hprunes =>
        have hlookup := (h.lookup_ofNames hnames).mpr hn
        have hchild (name : Bytes) (hname : name ∈ w.files.names (ofNames (root ++ above))) :
            ∃ found, (do
                let child := Path.join [ofNames (root ++ above), name]
                visit isMatch s (ofNames root) fuel child (← stat child) :
                  Session (List Bytes)).run.run w = (.ok found, w) ∧
              ∀ p, p ∈ found ↔ s.Found isMatch w.files root (above ++ [name]) p := by
          obtain ⟨hbelow,m,hm,hstat⟩ := hw.run_stat_child h hnames
            (fun hnil => hroot (List.append_eq_nil_iff.mp hnil).1) hname
          rw [run_bind, hstat]
          dsimp only
          rw [Path.join_ofNames hbelow, List.append_assoc]
          rw [List.append_assoc] at hbelow hm
          refine ih hbelow hm ?_
          simp only [List.length_append, List.length_singleton] at hfuel ⊢
          omega
        obtain ⟨found,hrun,hmem⟩ := run_mapM_flatten hchild
        rw [run_bind, hw.run_listDirectory hlookup]
        dsimp only
        rw [run_bind, hrun]
        refine ⟨found.flatten,rfl,fun p => ?_⟩
        rw [hmem, Selection.found_of_directory h hnames hroot hn]
        simp [hprunes]

/-- An argument gives what it selects. -/
lemma run_collectPath (hw : Undisturbed w) (h : w.files.Rooted) {argument : Bytes}
    (habsolute : Path.isAbsolute argument = true) (hclean : Path.clean argument = argument)
    (hsome : (w.files.node? argument).isSome)
    (hroot : argument = [Path.slash] → w.files.RootNamesFound) :
    ∃ found, (collectPath isMatch s argument).run.run w = (.ok found, w) ∧
      ∀ p, p ∈ found ↔ s.Selects isMatch w.files argument p := by
  obtain ⟨n,hlookup⟩ : ∃ n, w.files.lookup argument = .ok n := by
    unfold FileSystem.node? at hsome
    cases hlookup : w.files.lookup argument with
    | ok n => exact ⟨n,rfl⟩
    | error a => simp [hlookup, Except.toOption] at hsome
  have hstat := hw.run_stat hlookup
  have hcontext : (context ("stat " ++ argument) (stat argument)).run.run w = (.ok n, w) := by
    rw [run_context, hstat]
    rfl
  rw [collectPath]
  cases n with
  | file content =>
    refine ⟨[argument],?_,fun p => ?_⟩
    · exact run_bind_eq_ok.mpr ⟨(),w,hw.run_checkCancelled,
        run_bind_eq_ok.mpr ⟨_,w,hcontext,rfl⟩⟩
    · rw [List.mem_singleton]
      constructor
      · rintro rfl
        exact ⟨⟨content,hlookup⟩,.inl rfl⟩
      · rintro ⟨-,rfl | ⟨⟨c,hc⟩,-⟩⟩
        · rfl
        · cases hlookup.symm.trans hc
  | directory content =>
    obtain ⟨root,hnames,rfl⟩ := Path.exists_ofNames habsolute hclean
    have hentry := (h.lookup_ofNames hnames).mp hlookup
    have hfuel : w.files.entries.length < walkFuel w.files + (root ++ []).length := by
      rw [walkFuel]
      omega
    obtain ⟨found,hrun,hmem⟩ : ∃ found, (visit isMatch s (ofNames root) (walkFuel w.files)
          (ofNames (root ++ [])) (.directory content)).run.run w = (.ok found, w) ∧
        ∀ p, p ∈ found ↔ s.Found isMatch w.files root [] p :=
      run_visit hw h (fun hnil => hroot (by rw [hnil]; rfl)) (by rwa [List.append_nil])
        (by rwa [List.append_nil]) hfuel
    rw [List.append_nil] at hrun
    refine ⟨found,?_,fun p => ?_⟩
    · have hwalk : (do
          let node ← stat (ofNames root)
          visit isMatch s (ofNames root) (walkFuel (← getThe World).files) (ofNames root) node :
            Session (List Bytes)).run.run w = (.ok found, w) :=
        run_bind_eq_ok.mpr ⟨_,w,hstat,run_bind_eq_ok.mpr ⟨w,w,rfl,hrun⟩⟩
      refine run_bind_eq_ok.mpr ⟨(),w,hw.run_checkCancelled,
        run_bind_eq_ok.mpr ⟨_,w,hcontext,?_⟩⟩
      dsimp only
      rw [run_context, hwalk]
      rfl
    · rw [hmem, Selection.selects_iff_found h hnames hentry]

/-- From a tree in memory, what is collected is what the arguments select, in byte order, whatever
order they come in and however often each comes. -/
theorem collectWith_selects (isValid : Bytes → Bool) (isMatch : Bytes → Bytes → Bool)
    (s : Selection) (w : World) (paths : List Bytes) (htree : w.files.InMemory)
    (hvalid : s.invalidPattern? isValid = none)
    (hcancelled : w.cancelled = false) (hfaults : w.files.faults = [])
    (hpaths : ∀ path ∈ paths, Path.isAbsolute path = true ∧ Path.clean path = path ∧
      (w.files.node? path).isSome)
    (hroot : [Path.slash] ∈ paths → w.files.RootNamesFound) :
    ∃ files, files.Pairwise (Bytes.lt · ·) ∧
      (∀ p, p ∈ files ↔ ∃ path ∈ paths, s.Selects isMatch w.files path p) ∧
      ∀ again, (∀ path, path ∈ again ↔ path ∈ paths) →
        (collectWith isValid isMatch s again).run.run w = (.ok files, w) := by
  have hw : Undisturbed w := ⟨hcancelled,hfaults⟩
  have hfound (again : List Bytes) (hagain : ∀ path, path ∈ again ↔ path ∈ paths) :
      ∃ files, (collectWith isValid isMatch s again).run.run w = (.ok files, w) ∧
        files.Pairwise (Bytes.lt · ·) ∧
        ∀ p, p ∈ files ↔ ∃ path ∈ paths, s.Selects isMatch w.files path p := by
    have hargument (path : Bytes) (hpath : path ∈ again) :
        ∃ found, (collectPath isMatch s path).run.run w = (.ok found, w) ∧
          ∀ p, p ∈ found ↔ s.Selects isMatch w.files path p := by
      rw [hagain] at hpath
      obtain ⟨habsolute,hclean,hsome⟩ := hpaths path hpath
      exact run_collectPath hw htree.rooted habsolute hclean hsome fun hslash =>
        hroot (hslash ▸ hpath)
    obtain ⟨found,hrun,hmem⟩ := run_mapM_flatten hargument
    refine ⟨_,?_,Bytes.pairwise_mergeSort_eraseDups found.flatten,fun p => ?_⟩
    · rw [collectWith, hvalid]
      dsimp only
      rw [run_bind, hrun]
      rfl
    · rw [List.mem_mergeSort, List.mem_eraseDups, hmem]
      simp only [hagain]
  obtain ⟨files,-,hsorted,hmem⟩ := hfound paths fun _ => Iff.rfl
  refine ⟨files,hsorted,hmem,fun again hagain => ?_⟩
  obtain ⟨files',hrun,hsorted',hmem'⟩ := hfound again hagain
  have hsame : files' = files := (hsorted'.imp Bytes.lt_iff.mp).eq_of_mem_iff
    (hsorted.imp Bytes.lt_iff.mp) fun p => (hmem' p).trans (hmem p).symm
  rw [hrun, hsame]

/-- The walk leaves out a directory, but a file of it is an argument. -/
def sampleShop : FileSystem :=
  (((({ entries := [] } : FileSystem).addFile "/index.php" "1").addFile "/cache/page.php" "2").addFile
    "/lib/deep/tax.php" "3").addFile "/lib/notes.md" "4"

def sampleSelection : Selection := ⟨["**/*.php"], ["cache/"]⟩

def sampleArguments : List Bytes := ["/lib", "/", "/cache/page.php", "/lib"]

theorem collectWith_selects_sampleShop :
    sampleShop.InMemory ∧ sampleSelection.invalidPattern? Glob.isValid = none ∧ sampleShop.RootNamesFound ∧
    (∀ path ∈ sampleArguments, Path.isAbsolute path = true ∧ Path.clean path = path ∧
      (sampleShop.node? path).isSome) ∧
    ∃ files, files.Pairwise (Bytes.lt · ·) ∧
      (∀ p, p ∈ files ↔
        ∃ path ∈ sampleArguments, sampleSelection.Selects Glob.isMatch sampleShop path p) ∧
      (Bytes.ofString "/cache/page.php") ∈ files ∧
      ∀ again, (∀ path, path ∈ again ↔ path ∈ sampleArguments) →
        (collectWith Glob.isValid Glob.isMatch sampleSelection again).run.run { files := sampleShop } =
          (.ok files, { files := sampleShop }) := by
  have htree : sampleShop.InMemory :=
    .addFile _ _ (.addFile _ _ (.addFile _ _ (.addFile _ _ (.empty false []))))
  have hvalid : sampleSelection.invalidPattern? Glob.isValid = none := by cbv
  have hroot : sampleShop.RootNamesFound := by decide
  have hpaths : ∀ path ∈ sampleArguments, Path.isAbsolute path = true ∧ Path.clean path = path ∧
      (sampleShop.node? path).isSome := by decide
  obtain ⟨files,hsorted,hmem,hrun⟩ := collectWith_selects Glob.isValid Glob.isMatch
    sampleSelection { files := sampleShop } sampleArguments htree hvalid rfl rfl hpaths
    fun _ => hroot
  have hpage : sampleShop.IsFile "/cache/page.php" := ⟨"2",by decide⟩
  exact ⟨htree,hvalid,hroot,hpaths,files,hsorted,hmem,
    (hmem _).mpr ⟨_,by decide,hpage,.inl rfl⟩,hrun⟩

/-- The root lists a name without a slash, which no absolute path leads to. -/
def sampleRelative : FileSystem :=
  (({ entries := [] } : FileSystem).addFile "/b" "x").addFile "a" "x"

theorem collectWith_sampleRelative :
    sampleRelative.InMemory ∧ sampleRelative.faults = [] ∧
    Selection.invalidPattern? Glob.isValid ⟨["*"], []⟩ = none ∧
    Path.isAbsolute "/" = true ∧ Path.clean "/" = Bytes.ofString "/" ∧
    (sampleRelative.node? "/").isSome ∧
    (collectWith Glob.isValid Glob.isMatch ⟨["*"], []⟩ ["/"]).run.run { files := sampleRelative } =
      (.error ⟨.notExist, "walking /: open /a: file does not exist"⟩,
        { files := sampleRelative }) := by
  refine ⟨.addFile _ _ (.addFile _ _ (.empty false [])),rfl,?_,by decide,by decide,by decide,?_⟩
  · cbv
  · cbv

end Session
end Stencil
