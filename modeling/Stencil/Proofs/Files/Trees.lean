import Mathlib.Data.List.Nodup
import Stencil.Proofs.Files.Absolute
import Stencil.Proofs.Files.Lookup

/-! Trees in memory. What is at an absolute path has a directory above it, up to the root, and a
directory lists what is one name below it. The root lists the names without a slash, too. -/
namespace Stencil.FileSystem
open Stencil.Path (AreNames ofNames)
variable {fs fs' : FileSystem} {es : List Bytes} {p : Bytes}

/-- A tree in memory is made by adding files and directories to an empty one and by writing to what
is there. Nothing is removed from it or renamed in it, as no command does either. -/
inductive InMemory : FileSystem → Prop where
  | empty (readOnly : Bool) (faults : List Fault) :
      InMemory { entries := [], readOnly := readOnly, faults := faults }
  | makeDirectory {fs : FileSystem} (path : Bytes) : InMemory fs → InMemory (fs.makeDirectory path)
  | addFile {fs : FileSystem} (path content : Bytes) :
      InMemory fs → InMemory (fs.addFile path content)
  | put {fs : FileSystem} {path : Bytes} (content : Bytes) :
      InMemory fs → (fs.entry? (fs.locate path)).isSome → InMemory (fs.put path content)

/-- At the path through these names there is a directory. -/
def HasDirectory (fs : FileSystem) (es : List Bytes) : Prop :=
  (fs.entry? (ofNames es)).map Node.isDirectory = some true

/-- Every absolute path in the tree starts from the root, and whatever it goes through is a
directory. -/
structure Rooted (fs : FileSystem) : Prop where
  detached : fs.workingDirectory = none
  root : fs.HasDirectory []
  exists_names (p : Bytes) : Path.isAbsolute p = true → (fs.entry? p).isSome →
    ∃ es, AreNames es ∧ ofNames es = p
  above (es : List Bytes) (e : Bytes) : AreNames (es ++ [e]) →
    (fs.entry? (ofNames (es ++ [e]))).isSome → fs.HasDirectory es

/-! ## What is added on the way to a path -/

/-- The second tree has the directories of the first. Of absolute paths it has, besides, at most some
that lead to what is at these names. -/
structure Extends (es : List Bytes) (fs fs' : FileSystem) : Prop where
  setting : SameSetting fs fs'
  directory (above : List Bytes) : fs.HasDirectory above → fs'.HasDirectory above
  known (p : Bytes) : Path.isAbsolute p = true → (fs'.entry? p).isSome →
    (fs.entry? p).isSome ∨ ∃ above, above <+: es ∧ ofNames above = p

namespace Extends
variable {fs₁ fs₂ fs₃ : FileSystem}

lemma refl (es : List Bytes) (fs : FileSystem) : Extends es fs fs :=
  ⟨.refl fs,fun _ h => h,fun _ _ h => .inl h⟩

lemma trans (h : Extends es fs₁ fs₂) (k : Extends es fs₂ fs₃) : Extends es fs₁ fs₃ := by
  refine ⟨h.setting.trans k.setting,fun above ha => k.directory above (h.directory above ha),?_⟩
  intro p habsolute hp
  obtain hp | hp := k.known p habsolute hp
  · exact h.known p habsolute hp
  · exact .inr hp

lemma mono {more : List Bytes} (h : Extends es fs fs') (hstart : es <+: more) :
    Extends more fs fs' := by
  refine ⟨h.setting,h.directory,fun p habsolute hp => ?_⟩
  obtain hp | ⟨above,habove,hp⟩ := h.known p habsolute hp
  · exact .inl hp
  · exact .inr ⟨above,habove.trans hstart,hp⟩

/-- One place of the tree gets a node, and a directory stays one. -/
lemma place {n : Node} (hsetting : SameSetting fs fs')
    (hentry : ∀ q, fs'.entry? q = if q = p then some n else fs.entry? q)
    (hn : (fs.entry? p).map Node.isDirectory = some true → n.isDirectory = true)
    (hp : Path.isAbsolute p = true → ∃ above, above <+: es ∧ ofNames above = p) :
    Extends es fs fs' := by
  refine ⟨hsetting,fun above habove => ?_,fun q habsolute hq => ?_⟩
  · unfold HasDirectory at habove ⊢
    rw [hentry]
    split
    · next hplace => rw [Option.map_some, hn (hplace ▸ habove)]
    · exact habove
  · rw [hentry] at hq
    split at hq
    · next hplace =>
      subst hplace
      exact .inr (hp habsolute)
    · exact .inl hq

end Extends

/-- A tree stays rooted if everything that leads to a new path is added with it. -/
lemma Rooted.extend (h : fs.Rooted) (hes : AreNames es) (hextends : Extends es fs fs')
    (hmade : ∀ above, above <+: es → above ≠ es → fs'.HasDirectory above) : fs'.Rooted := by
  refine ⟨hextends.setting.workingDirectory.trans h.detached,hextends.directory [] h.root,?_,?_⟩
  · intro p habsolute hp
    obtain hp | ⟨above,⟨below,rfl⟩,hp⟩ := hextends.known p habsolute hp
    · exact h.exists_names p habsolute hp
    · exact ⟨above,hes.left,hp⟩
  · intro above e hnames hentry
    obtain hold | ⟨new,hnew,heq⟩ := hextends.known _ (Path.isAbsolute_ofNames _) hentry
    · exact hextends.directory above (h.above above e hnames hold)
    · obtain ⟨below,rfl⟩ := hnew
      obtain rfl := hes.left.inj hnames heq
      rw [List.append_assoc] at hmade
      exact hmade above (List.prefix_append _ _) (by simp)

/-! ## The directories above a path -/

lemma locate_ofNames (h : fs.workingDirectory = none) (hes : AreNames es) :
    fs.locate (ofNames es) = ofNames es := by
  have hne : ¬(ofNames es = Path.dot ∨ ofNames es = Path.dotDot) := by
    simp [ofNames, Path.ofElements, Path.dot, Path.dotDot, Path.slash]
  unfold locate
  rw [h]
  dsimp only
  rw [hes.clean_eq, if_neg hne]

/-- Paths lead to names from the root or are relative. -/
lemma locate_cases (h : fs.workingDirectory = none) (path : Bytes) :
    (∃ es, AreNames es ∧ ofNames es = fs.locate path) ∨ Path.isAbsolute (fs.locate path) = false := by
  unfold locate
  rw [h]
  dsimp only
  split
  · exact .inl ⟨[],.nil,rfl⟩
  · cases habsolute : Path.isAbsolute (Path.clean path) with
    | false => exact .inr rfl
    | true => exact .inl (Path.exists_ofNames habsolute (Path.clean_clean path))

lemma parent_ofNames (h : fs.workingDirectory = none) {e : Bytes} (hes : AreNames (es ++ [e])) :
    fs.parent (ofNames (es ++ [e])) = ofNames es := by
  rw [parent, Path.dir_ofNames hes, locate_ofNames h hes.left]

lemma parent_root (h : fs.workingDirectory = none) : fs.parent (ofNames []) = ofNames [] := by
  rw [parent, Path.dir_root, locate_ofNames h .nil]

/-- A relative path lies in what another relative path leads to, or in the root. -/
lemma parent_relative (h : fs.workingDirectory = none) (hp : Path.isAbsolute p = false) :
    fs.parent p = ofNames [] ∨ Path.isAbsolute (fs.parent p) = false := by
  have hdir : Path.isAbsolute (Path.dir p) = false := by
    rw [Path.dir, Path.isAbsolute_clean]
    obtain ⟨before,hbefore⟩ : p.reverse.dropWhile (· != Path.slash) <:+ p.reverse :=
      List.dropWhile_suffix _
    rw [← List.reverse_reverse p, ← hbefore, List.reverse_append] at hp
    cases hdir : (p.reverse.dropWhile (· != Path.slash)).reverse with
    | nil => rfl
    | cons c rest =>
      rw [hdir] at hp
      exact hp
  unfold parent locate
  rw [h]
  dsimp only
  split
  · exact .inl rfl
  · exact .inr ((Path.isAbsolute_clean _).trans hdir)

lemma entry?_ensureDirectory (fs : FileSystem) (p : Bytes) : ∃ content, ∀ q,
    entry? (fs.ensureDirectory p) q = if q = p then some (.directory content) else fs.entry? q := by
  unfold ensureDirectory
  cases hentry : fs.entry? p with
  | none => exact ⟨_,entry?_set fs p _⟩
  | some n =>
    cases n with
    | file content => exact ⟨content,entry?_set fs p _⟩
    | directory content =>
      refine ⟨content,fun q => ?_⟩
      by_cases hq : q = p
      · rw [if_pos hq, hq]
        exact hentry
      · rw [if_neg hq]

lemma SameSetting.ensureDirectory (fs : FileSystem) (p : Bytes) :
    SameSetting fs (fs.ensureDirectory p) := by
  unfold FileSystem.ensureDirectory
  split
  · exact .refl fs
  · exact .set fs p _
  · exact .set fs p _

lemma extends_ensureDirectory (fs : FileSystem)
    (hp : Path.isAbsolute p = true → ∃ above, above <+: es ∧ ofNames above = p) :
    Extends es fs (fs.ensureDirectory p) := by
  obtain ⟨content,hentry⟩ := entry?_ensureDirectory fs p
  exact .place (.ensureDirectory fs p) hentry (fun _ => rfl) hp

lemma hasDirectory_ensureDirectory (fs : FileSystem) (es : List Bytes) :
    (fs.ensureDirectory (ofNames es)).HasDirectory es := by
  obtain ⟨content,hentry⟩ := entry?_ensureDirectory fs (ofNames es)
  unfold HasDirectory
  rw [hentry, if_pos rfl]
  rfl

lemma extends_addDirectory (fs : FileSystem)
    (hp : Path.isAbsolute p = true → ∃ above, above <+: es ∧ ofNames above = p) :
    Extends es fs (fs.addDirectory p) := by
  unfold addDirectory
  split
  · exact .refl es fs
  · exact .place (.set fs p _) (entry?_set fs p _) (fun _ => rfl) hp

lemma extends_put (fs : FileSystem) {path : Bytes} (content : Bytes)
    (hp : Path.isAbsolute (fs.locate path) = true →
      ∃ above, above <+: es ∧ ofNames above = fs.locate path) :
    Extends es fs (fs.put path content) := by
  refine .place (.put fs path content) (n := ((fs.entry? (fs.locate path)).getD
    (.file content)).write content) (fun q => ?_) (fun hdirectory => ?_) hp
  · rw [entry?_put]
    by_cases hq : q = fs.locate path
    · rw [if_pos hq, if_pos hq, hq]
    · rw [if_neg hq, if_neg hq]
  · obtain ⟨n,hn,hkind⟩ := Option.map_eq_some_iff.mp hdirectory
    rw [hn, Option.getD_some]
    cases n with
    | file _ => exact hkind
    | directory _ => rfl

/-- All that is above some names gets a directory. -/
lemma addParents_ofNames (h : fs.workingDirectory = none) (hes : AreNames es) {fuel : Nat}
    (hfuel : es.length ≤ fuel) :
    Extends es fs (addParents fuel fs (ofNames es)) ∧
      ∀ above, above <+: es → above ≠ es → (addParents fuel fs (ofNames es)).HasDirectory above := by
  induction es using List.reverseRecOn generalizing fs fuel with
  | nil =>
    have hroot : addParents fuel fs (ofNames []) = fs := by
      cases fuel with
      | zero => rfl
      | succ fuel => rw [addParents]; exact if_pos (parent_root h)
    rw [hroot]
    exact ⟨.refl [] fs,fun above hstart hne => absurd (List.prefix_nil.mp hstart) hne⟩
  | append_singleton es e ih =>
    obtain ⟨k,rfl⟩ : ∃ k, fuel = k + 1 := Nat.exists_eq_add_one.mpr (by simp at hfuel; omega)
    have hne : ofNames es ≠ ofNames (es ++ [e]) := by
      intro heq
      simpa using hes.left.inj hes heq
    have hparents : addParents (k + 1) fs (ofNames (es ++ [e])) =
        addParents k (fs.ensureDirectory (ofNames es)) (ofNames es) := by
      rw [addParents, parent_ofNames h hes]
      exact if_neg hne
    have hplace : Extends es fs (fs.ensureDirectory (ofNames es)) :=
      extends_ensureDirectory fs fun _ => ⟨es,List.prefix_rfl,rfl⟩
    have hk : es.length ≤ k := by simpa using hfuel
    obtain ⟨hextends,hmade⟩ := ih (hplace.setting.workingDirectory.trans h) hes.left hk
    rw [hparents]
    refine ⟨(hplace.trans hextends).mono (List.prefix_append _ _),fun above hstart hne => ?_⟩
    have hstart := (List.prefix_concat_iff.mp hstart).resolve_left hne
    obtain rfl | hne := eq_or_ne above es
    · exact hextends.directory above (hasDirectory_ensureDirectory fs above)
    · exact hmade above hstart hne

/-- Above a relative path, the root is the only absolute one. -/
lemma addParents_relative (h : fs.workingDirectory = none) (hp : Path.isAbsolute p = false)
    (fuel : Nat) : Extends [] fs (addParents fuel fs p) := by
  induction fuel generalizing fs p with
  | zero => exact .refl [] fs
  | succ fuel ih =>
    rw [addParents]
    split
    · exact .refl [] fs
    · have hparent := parent_relative h hp
      have hplace : Extends [] fs (fs.ensureDirectory (fs.parent p)) := by
        refine extends_ensureDirectory fs fun habsolute => ?_
        obtain hroot | hrelative := hparent
        · exact ⟨[],List.prefix_rfl,hroot.symm⟩
        · simp [hrelative] at habsolute
      have hdetached := hplace.setting.workingDirectory.trans h
      refine hplace.trans ?_
      obtain hroot | hrelative := hparent
      · have hnames := (addParents_ofNames hdetached .nil (Nat.zero_le fuel)).1
        rwa [← hroot] at hnames
      · exact ih hdetached hrelative

/-! ## Trees in memory are rooted -/

/-- What is above a path is there before the path itself. -/
lemma Rooted.exists_parents (h : fs.Rooted) (path : Bytes) : ∃ es, AreNames es ∧
    (Path.isAbsolute (fs.locate path) = true → ofNames es = fs.locate path) ∧
    Extends es fs (addParents ((fs.locate path).length + 1) fs (fs.locate path)) ∧
    ∀ above, above <+: es → above ≠ es →
      (addParents ((fs.locate path).length + 1) fs (fs.locate path)).HasDirectory above := by
  obtain ⟨es,hes,hlocate⟩ | hrelative := locate_cases h.detached path
  · refine ⟨es,hes,fun _ => hlocate,?_⟩
    rw [← hlocate]
    exact addParents_ofNames h.detached hes
      ((Path.length_le_length_ofNames hes.areElements).trans (Nat.le_succ _))
  · refine ⟨[],.nil,fun habsolute => ?_,addParents_relative h.detached hrelative _,?_⟩
    · simp [hrelative] at habsolute
    · exact fun above hstart hne => absurd (List.prefix_nil.mp hstart) hne

/-- A tree stays rooted if nothing is added but a path and what is above it. -/
lemma Rooted.place (h : fs.Rooted) (path : Bytes)
    (hplace : ∀ es, (Path.isAbsolute (fs.locate path) = true →
        ∃ above, above <+: es ∧ ofNames above = fs.locate path) →
      Extends es (addParents ((fs.locate path).length + 1) fs (fs.locate path)) fs') :
    fs'.Rooted := by
  obtain ⟨es,hes,hlocate,hextends,hmade⟩ := h.exists_parents path
  have hplace := hplace es fun habsolute => ⟨es,List.prefix_rfl,hlocate habsolute⟩
  exact h.extend hes (hextends.trans hplace) fun above hstart hne =>
    hplace.directory above (hmade above hstart hne)

lemma Rooted.makeDirectory (h : fs.Rooted) (path : Bytes) : (fs.makeDirectory path).Rooted :=
  h.place path fun _ hp => extends_addDirectory _ hp

lemma Rooted.addFile (h : fs.Rooted) (path content : Bytes) : (fs.addFile path content).Rooted := by
  refine h.place path fun es hp => extends_put _ content ?_
  obtain ⟨_,_,_,hextends,_⟩ := h.exists_parents path
  rwa [hextends.setting.locate_eq]

lemma Rooted.of_sameShape (h : fs.Rooted) (hshape : SameShape fs fs') : fs'.Rooted := by
  have hsome (q : Bytes) : (fs'.entry? q).isSome = (fs.entry? q).isSome := by
    rw [← Option.isSome_map (f := Node.isDirectory), hshape.isDirectory, Option.isSome_map]
  refine ⟨hshape.workingDirectory.trans h.detached,(hshape.isDirectory _).trans h.root,?_,?_⟩
  · intro p habsolute hp
    exact h.exists_names p habsolute (hsome p ▸ hp)
  · intro es e hnames hp
    exact (hshape.isDirectory _).trans (h.above es e hnames (hsome _ ▸ hp))

lemma eq_root_of_empty (h : fs.entries = []) (hp : (fs.entry? p).isSome) : p = ofNames [] := by
  by_contra hne
  have hroot : p ≠ [Path.slash] := hne
  unfold entry? at hp
  rw [h, if_neg hroot] at hp
  cases hp

/-- Whatever is added to a tree in memory, the directories above it are there, too. -/
theorem InMemory.rooted (h : fs.InMemory) : fs.Rooted := by
  induction h with
  | empty readOnly faults =>
    refine ⟨rfl,rfl,fun p _ hp => ⟨[],.nil,(eq_root_of_empty rfl hp).symm⟩,?_⟩
    intro es e hnames hp
    have hnil := hnames.inj .nil (eq_root_of_empty rfl hp)
    simp at hnil
  | makeDirectory path h ih => exact ih.makeDirectory path
  | addFile path content h ih => exact ih.addFile path content
  | put content h hsome ih => exact ih.of_sameShape (.put hsome content)

/-! ## What a directory lists -/

lemma HasDirectory.isSome (h : fs.HasDirectory es) : (fs.entry? (ofNames es)).isSome := by
  rw [← Option.isSome_map (f := Node.isDirectory), h]
  rfl

lemma isSome_lookup_of_ne_root (hp : p ≠ ofNames []) (h : (fs.entry? p).isSome) :
    (fs.entries.lookup p).isSome := by
  have hlisted : fs.entry? p = fs.entries.lookup p := by
    have hroot : p ≠ [Path.slash] := hp
    unfold entry?
    rw [if_neg hroot]
    cases fs.entries.lookup p <;> rfl
  rwa [← hlisted]

lemma mem_names {dir name : Bytes} : name ∈ fs.names dir ↔
    ∃ p, (fs.entries.lookup p).isSome ∧ p ≠ [Path.slash] ∧ fs.parent p = fs.locate dir ∧
      Path.base p = name := by
  unfold names
  simp only [List.mem_mergeSort, List.mem_map, List.mem_filter, List.lookup_isSome_iff]
  constructor
  · rintro ⟨⟨p,n⟩,⟨hmem,hp⟩,hname⟩
    simp only [Bool.and_eq_true, bne_iff_ne, beq_iff_eq] at hp
    exact ⟨p,⟨(p, n),hmem,beq_self_eq_true p⟩,hp.1,hp.2,hname⟩
  · rintro ⟨p,⟨⟨q,n⟩,hmem,hq⟩,hne,hparent,hname⟩
    obtain rfl : p = q := beq_iff_eq.mp hq
    exact ⟨(p, n),⟨hmem,by simp [hne, hparent]⟩,hname⟩

/-- The path leads to a directory. -/
def IsDirectory (fs : FileSystem) (path : Bytes) : Prop :=
  ∃ content, fs.lookup path = .ok (.directory content)

/-- Every name that the root lists is that of an absolute path. -/
def RootNamesFound (fs : FileSystem) : Prop :=
  ∀ name ∈ fs.names [Path.slash], (fs.entry? (Path.slash :: name)).isSome

lemma rootNamesFound_iff (fs : FileSystem) : fs.RootNamesFound ↔
    ∀ entry ∈ fs.entries, entry.1 ≠ [Path.slash] → fs.parent entry.1 = fs.locate [Path.slash] →
      (fs.entry? (Path.slash :: Path.base entry.1)).isSome := by
  unfold RootNamesFound
  simp only [mem_names, List.lookup_isSome_iff, beq_iff_eq]
  constructor
  · intro h entry hentry hne hparent
    exact h _ ⟨entry.1,⟨entry,hentry,rfl⟩,hne,hparent,rfl⟩
  · rintro h name ⟨p,⟨entry,hentry,rfl⟩,hne,hparent,rfl⟩
    exact h entry hentry hne hparent

instance (fs : FileSystem) : Decidable fs.RootNamesFound :=
  decidable_of_iff' _ (rootNamesFound_iff fs)

namespace Rooted
variable (h : fs.Rooted)
include h

lemma lookup_ofNames (hes : AreNames es) {n : Node} :
    fs.lookup (ofNames es) = .ok n ↔ fs.entry? (ofNames es) = some n := by
  unfold lookup
  rw [h.detached]
  dsimp only
  rw [locate_ofNames h.detached hes, follow]
  cases fs.entry? (ofNames es) <;> simp

/-- All that is above something is a directory. -/
lemma hasDirectory {below : List Bytes} (hnames : AreNames (es ++ below)) (hne : below ≠ [])
    (hentry : (fs.entry? (ofNames (es ++ below))).isSome) : fs.HasDirectory es := by
  induction below using List.reverseRecOn with
  | nil => contradiction
  | append_singleton below e ih =>
    rw [← List.append_assoc] at hnames hentry
    have habove := h.above _ e hnames hentry
    obtain rfl | hbelow := eq_or_ne below []
    · rwa [List.append_nil] at habove
    · exact ih hnames.left hbelow habove.isSome

/-- A tree is at most as deep as it has entries. -/
theorem length_le (hnames : AreNames es) (hentry : (fs.entry? (ofNames es)).isSome) :
    es.length ≤ fs.entries.length := by
  have htake (i : Nat) : AreNames (es.take i) := hnames.mono (List.take_subset i es)
  -- what is at the names and each directory above it but the root is an entry of its own
  let way := (List.range es.length).map fun i => ofNames (es.take (i + 1))
  have hnodup : way.Nodup := by
    refine List.Nodup.map_on (fun i hi j hj heq => ?_) List.nodup_range
    have hlength := congrArg List.length ((htake _).inj (htake _) heq)
    rw [List.mem_range] at hi hj
    rw [List.length_take, List.length_take] at hlength
    omega
  have hsubset : way ⊆ fs.entries.map Prod.fst := by
    intro p hp
    obtain ⟨i,hi,rfl⟩ := List.mem_map.mp hp
    rw [List.mem_range] at hi
    have hsplit : es.take (i + 1) ++ es.drop (i + 1) = es := List.take_append_drop _ _
    have hsome : (fs.entry? (ofNames (es.take (i + 1)))).isSome := by
      obtain hdrop | hdrop := eq_or_ne (es.drop (i + 1)) []
      · rw [hdrop, List.append_nil] at hsplit
        rwa [hsplit]
      · rw [← hsplit] at hnames hentry
        exact (h.hasDirectory hnames hdrop hentry).isSome
    have hne : ofNames (es.take (i + 1)) ≠ ofNames [] := by
      intro heq
      have hlength := congrArg List.length ((htake _).inj .nil heq)
      rw [List.length_take, List.length_nil] at hlength
      omega
    obtain ⟨⟨q,n⟩,hmem,hq⟩ := List.lookup_isSome_iff.mp (isSome_lookup_of_ne_root hne hsome)
    exact List.mem_map.mpr ⟨(q, n),hmem,(beq_iff_eq.mp hq).symm⟩
  simpa [way] using hnodup.length_le_of_subset hsubset

/-- A directory lists the names that are in the tree below it. -/
theorem mem_names_iff (hes : AreNames es) (hroot : es = [] → fs.RootNamesFound) {name : Bytes} :
    name ∈ fs.names (ofNames es) ↔
      AreNames (es ++ [name]) ∧ (fs.entry? (ofNames (es ++ [name]))).isSome := by
  constructor
  · intro hname
    obtain ⟨p,hp,hne,hparent,hbase⟩ := mem_names.mp hname
    have hentry : (fs.entry? p).isSome := by
      obtain ⟨n,hn⟩ := Option.isSome_iff_exists.mp hp
      unfold entry?
      rw [hn]
      rfl
    rw [locate_ofNames h.detached hes] at hparent
    cases habsolute : Path.isAbsolute p with
    | true =>
      obtain ⟨above,habove,rfl⟩ := h.exists_names p habsolute hentry
      induction above using List.reverseRecOn with
      | nil => contradiction
      | append_singleton above e _ =>
        rw [parent_ofNames h.detached habove] at hparent
        rw [Path.base_ofNames habove] at hbase
        obtain rfl := habove.left.inj hes hparent
        exact hbase ▸ ⟨habove,hentry⟩
    | false =>
      obtain hparent' | hrelative := parent_relative h.detached habsolute
      · obtain rfl := hes.inj .nil (hparent.symm.trans hparent')
        have hentry : (fs.entry? (ofNames [name])).isSome := hroot rfl name hname
        obtain ⟨above,habove,heq⟩ := h.exists_names (ofNames [name]) rfl hentry
        have helements := congrArg Path.elements heq
        rw [Path.elements_ofNames habove.areElements] at helements
        obtain hslash | helement := Path.base_eq_slash_or_areElements p
        · obtain rfl : name = [Path.slash] := hbase.symm.trans hslash
          obtain rfl : above = [] := helements
          cases heq
        · rw [hbase] at helement
          rw [Path.elements_ofNames helement] at helements
          exact ⟨helements ▸ habove,hentry⟩
      · rw [hparent] at hrelative
        cases hrelative
  · rintro ⟨hnames,hentry⟩
    have hne : ofNames (es ++ [name]) ≠ ofNames [] := by
      intro heq
      simpa using hnames.inj .nil heq
    refine mem_names.mpr ⟨_,isSome_lookup_of_ne_root hne hentry,hne,?_,Path.base_ofNames hnames⟩
    rw [parent_ofNames h.detached hnames, locate_ofNames h.detached hes]

end Rooted

end Stencil.FileSystem
