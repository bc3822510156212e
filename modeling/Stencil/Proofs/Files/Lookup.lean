import Stencil.Files.FileSystem
import Stencil.Proofs.Files.Paths

/-! Where paths lead in a file tree, and what writing changes. A path that leads anywhere leads to
its normal form, so a write to one file is seen under every path with that normal form and under no
other. -/
namespace Stencil.FileSystem
variable {fs fs' : FileSystem} {path : Bytes}

/-- The directory that relative paths start from, if there is one, has a name. -/
def Anchored (fs : FileSystem) : Prop := fs.workingDirectory ≠ some []

instance (fs : FileSystem) : Decidable fs.Anchored := inferInstanceAs (Decidable (_ ≠ _))

/-! ## Following a path -/

/-- Where following some elements ends, if all of them are there. -/
def reach : Bytes → List Bytes → Bytes
  | here, [] => here
  | here, element :: rest => reach (Path.clean (here ++ [Path.slash] ++ element)) rest

/-- Where following a path starts. -/
def origin (fs : FileSystem) (path : Bytes) : Bytes :=
  match fs.workingDirectory with
  | some dir => if Path.isAbsolute path then [Path.slash] else Path.clean dir
  | none => fs.locate path

/-- The elements that are followed one by one. -/
def way (fs : FileSystem) (path : Bytes) : List Bytes :=
  match fs.workingDirectory with
  | some _ => steps path
  | none => []

lemma lookup_eq (fs : FileSystem) (path : Bytes) :
    fs.lookup path =
      if fs.workingDirectory.isSome && path.isEmpty then .error .missing
      else fs.follow (fs.origin path) (fs.way path) := by
  unfold lookup origin way
  cases fs.workingDirectory <;> rfl

lemma reach_normal (absolute : Bool) {es more : List Bytes} (hes : Path.AreElements es)
    (hmore : Path.AreElements more) :
    reach (Path.normal absolute es) more = Path.normal absolute (es ++ more) := by
  induction more generalizing es with
  | nil => rw [reach, List.append_nil]
  | cons e more ih =>
    have he : Path.AreElements [e] := fun x hx => hmore x (by simp [List.mem_singleton.mp hx])
    rw [reach, List.append_assoc, List.singleton_append, Path.clean_normal_append absolute hes,
      Path.elements_of_areElements he,
      ih (hes.append he) fun x hx => hmore x (List.mem_cons_of_mem _ hx), List.append_assoc]
    rfl

lemma areElements_steps (path : Bytes) : Path.AreElements (steps path) := by
  refine (Path.areElements_elements path).append fun e he => ?_
  split at he
  · obtain rfl := List.mem_singleton.mp he
    decide
  · simp at he

lemma normal_append_steps (absolute : Bool) (es : List Bytes) (path : Bytes) :
    Path.normal absolute (es ++ steps path) = Path.normal absolute (es ++ Path.elements path) := by
  rw [steps]
  split
  · rw [← List.append_assoc, Path.normal_append_dot]
  · rw [List.append_nil]

/-- A path leads to its normal form. -/
theorem reach_way (h : fs.Anchored) (path : Bytes) :
    reach (fs.origin path) (fs.way path) = fs.locate path := by
  unfold origin way locate
  cases hdir : fs.workingDirectory with
  | none => rfl
  | some dir =>
    have hne : dir ≠ [] := by
      rintro rfl
      exact h hdir
    dsimp only
    split
    · next habsolute =>
      change reach (Path.normal true []) (steps path) = _
      rw [reach_normal true (fun e he => by simp at he) (areElements_steps path),
        normal_append_steps, Path.clean_eq_normal, habsolute]
      rfl
    · rw [Path.clean_eq_normal dir, reach_normal _ (Path.areElements_elements dir)
        (areElements_steps path), normal_append_steps, List.append_assoc, List.singleton_append,
        Path.clean_append hne]

lemma follow_concat (fs : FileSystem) (here : Bytes) (es : List Bytes) (e : Bytes) :
    fs.follow here (es ++ [e]) =
      match fs.follow here es with
      | .error a => .error a
      | .ok (.file _) => .error .notDirectory
      | .ok (.directory _) =>
        match fs.entry? (Path.clean (reach here es ++ [Path.slash] ++ e)) with
        | some n => .ok n
        | none => .error .missing := by
  induction es generalizing here with
  | nil =>
    simp only [List.nil_append, follow, reach]
    cases fs.entry? here with
    | none => rfl
    | some n => cases n <;> rfl
  | cons x es ih =>
    simp only [List.cons_append, follow, reach]
    cases fs.entry? here with
    | none => rfl
    | some n =>
      cases n with
      | file content => rfl
      | directory content => exact ih _

/-- What is found on a path is what stands at its end. -/
lemma entry?_of_follow {here : Bytes} {es : List Bytes} {n : Node}
    (h : fs.follow here es = .ok n) : fs.entry? (reach here es) = some n := by
  induction es generalizing here with
  | nil =>
    rw [follow] at h
    cases hentry : fs.entry? here with
    | none => simp [hentry] at h
    | some m => simpa [hentry, reach] using h
  | cons e es ih =>
    rw [follow] at h
    cases hentry : fs.entry? here with
    | none => simp [hentry] at h
    | some m =>
      cases m with
      | file content => simp [hentry] at h
      | directory content =>
        rw [hentry] at h
        exact ih h

theorem entry?_of_lookup (h : fs.Anchored) {n : Node} (hn : fs.lookup path = .ok n) :
    fs.entry? (fs.locate path) = some n := by
  rw [lookup_eq] at hn
  split at hn
  · simp at hn
  · rw [← reach_way h path]
    exact entry?_of_follow hn

/-! ## Writing -/

lemma lookup_map_replace {p q : Bytes} {n : Node} (entries : List (Bytes × Node)) :
    (entries.map fun (r, m) => if r = p then (r, n) else (r, m)).lookup q =
      if q = p then (entries.lookup q).map fun _ => n else entries.lookup q := by
  induction entries with
  | nil => simp
  | cons e entries ih =>
    obtain ⟨r,m⟩ := e
    by_cases hqr : q = r
    · subst hqr
      by_cases hqp : q = p <;> simp [hqp]
    · have hbeq : (q == r) = false := beq_false_of_ne hqr
      rw [List.lookup_cons, hbeq, ← ih, List.map_cons]
      dsimp only
      split <;> rw [List.lookup_cons, hbeq]

theorem entry?_set (fs : FileSystem) (p : Bytes) (n : Node) (q : Bytes) :
    entry? (fs.set p n) q = if q = p then some n else fs.entry? q := by
  unfold set entry?
  by_cases hp : (fs.entries.lookup p).isSome = true
  · rw [if_pos hp]
    simp only [lookup_map_replace]
    split
    · next hq =>
      subst hq
      obtain ⟨m,hm⟩ := Option.isSome_iff_exists.mp hp
      simp [hm]
    · rfl
  · rw [if_neg hp]
    have hnone := Option.not_isSome_iff_eq_none.mp hp
    simp only [List.lookup_append, List.lookup_cons, List.lookup_nil]
    by_cases hq : q = p
    · simp [hq, hnone]
    · simp [hq, beq_false_of_ne hq]

/-- Writing replaces the content at one place. -/
theorem entry?_put (fs : FileSystem) (path content q : Bytes) :
    entry? (fs.put path content) q =
      if q = fs.locate path then some (((fs.entry? q).getD (.file content)).write content)
      else fs.entry? q := by
  unfold put
  by_cases hq : q = fs.locate path
  · subst hq
    cases hentry : fs.entry? (fs.locate path) with
    | none => simp [hentry, entry?_set, Node.write]
    | some n => simp [hentry, entry?_set]
  · cases hentry : fs.entry? (fs.locate path) with
    | none => simp [hentry, entry?_set, hq]
    | some n => simp [hentry, entry?_set, hq]

/-- What a write leaves alone. -/
structure SameSetting (fs fs' : FileSystem) : Prop where
  workingDirectory : fs'.workingDirectory = fs.workingDirectory
  readOnly : fs'.readOnly = fs.readOnly
  faults : fs'.faults = fs.faults

namespace SameSetting

lemma refl (fs : FileSystem) : SameSetting fs fs := ⟨rfl,rfl,rfl⟩

lemma trans {fs₁ fs₂ fs₃ : FileSystem} (h : SameSetting fs₁ fs₂) (k : SameSetting fs₂ fs₃) :
    SameSetting fs₁ fs₃ :=
  ⟨k.1.trans h.1,k.2.trans h.2,k.3.trans h.3⟩

lemma set (fs : FileSystem) (p : Bytes) (n : Node) : SameSetting fs (fs.set p n) := by
  unfold FileSystem.set
  split <;> exact ⟨rfl,rfl,rfl⟩

lemma put (fs : FileSystem) (path content : Bytes) : SameSetting fs (fs.put path content) := by
  unfold FileSystem.put
  dsimp only
  split <;> exact .set _ _ _

variable (h : SameSetting fs fs')
include h

lemma locate_eq (path : Bytes) : fs'.locate path = fs.locate path := by
  unfold locate
  rw [h.workingDirectory]

lemma origin_eq (path : Bytes) : fs'.origin path = fs.origin path := by
  unfold origin
  rw [h.workingDirectory, h.locate_eq]

lemma way_eq (path : Bytes) : fs'.way path = fs.way path := by
  unfold way
  rw [h.workingDirectory]

lemma fault?_eq (call : FileCall) (path : Bytes) : fs'.fault? call path = fs.fault? call path := by
  unfold fault?
  rw [h.faults]

lemma anchored (hanchored : fs.Anchored) : fs'.Anchored := by
  unfold Anchored
  rwa [h.workingDirectory]

end SameSetting

/-! ## Reading what was written -/

/-- The trees have the same files and the same directories, whatever is in the files. -/
structure SameShape (fs fs' : FileSystem) : Prop extends SameSetting fs fs' where
  isDirectory (q : Bytes) :
    (fs'.entry? q).map Node.isDirectory = (fs.entry? q).map Node.isDirectory

namespace SameShape

lemma refl (fs : FileSystem) : SameShape fs fs := ⟨.refl fs,fun _ => rfl⟩

lemma trans {fs₁ fs₂ fs₃ : FileSystem} (h : SameShape fs₁ fs₂) (k : SameShape fs₂ fs₃) :
    SameShape fs₁ fs₃ :=
  ⟨h.toSameSetting.trans k.toSameSetting,fun q => (k.isDirectory q).trans (h.isDirectory q)⟩

/-- Writing to what is there makes no new file. -/
lemma put (h : (fs.entry? (fs.locate path)).isSome) (content : Bytes) :
    SameShape fs (fs.put path content) := by
  refine ⟨.put _ _ _,fun q => ?_⟩
  rw [entry?_put]
  split
  · next hq =>
    obtain ⟨n,hn⟩ := Option.isSome_iff_exists.mp h
    subst hq
    rw [hn]
    cases n <;> rfl
  · rfl

variable (h : SameShape fs fs')
include h

/-- A way is followed alike in both trees, up to the content at its end. -/
lemma follow_eq (here : Bytes) (es : List Bytes) :
    fs'.follow here es =
      (fs.follow here es).map fun n => (fs'.entry? (reach here es)).getD n := by
  induction es generalizing here with
  | nil =>
    have hkind := h.isDirectory here
    simp only [follow, reach]
    cases hentry : fs.entry? here <;> cases hentry' : fs'.entry? here <;>
      simp_all [Except.map]
  | cons e es ih =>
    have hkind := h.isDirectory here
    simp only [follow, reach]
    cases hentry : fs.entry? here with
    | none =>
      obtain hentry' : fs'.entry? here = none := by simpa [hentry] using hkind
      rw [hentry']
      rfl
    | some n =>
      obtain ⟨m,hentry',hm⟩ : ∃ m, fs'.entry? here = some m ∧ m.isDirectory = n.isDirectory := by
        simpa [hentry] using hkind
      rw [hentry']
      cases n <;> cases m <;> simp [Node.isDirectory] at hm
      · rfl
      · exact ih _

/-- A path leads to the same in both trees if its end is the same. -/
theorem lookup_eq (hanchored : fs.Anchored)
    (hentry : fs'.entry? (fs.locate path) = fs.entry? (fs.locate path)) :
    fs'.lookup path = fs.lookup path := by
  rw [FileSystem.lookup_eq, FileSystem.lookup_eq, h.workingDirectory, h.origin_eq, h.way_eq]
  split
  · rfl
  · rw [h.follow_eq, reach_way hanchored, hentry]
    cases hfollow : fs.follow (fs.origin path) (fs.way path) with
    | error e => rfl
    | ok n => rw [← reach_way hanchored, entry?_of_follow hfollow]; rfl

/-- A path that leads to something leads to what the other tree has there. -/
theorem lookup_eq_of_entry? (hanchored : fs.Anchored) {n m : Node} (hn : fs.lookup path = .ok n)
    (hentry : fs'.entry? (fs.locate path) = some m) : fs'.lookup path = .ok m := by
  rw [FileSystem.lookup_eq] at hn ⊢
  rw [h.workingDirectory, h.origin_eq, h.way_eq]
  split at hn
  · simp at hn
  · rw [if_neg ‹_›, h.follow_eq, reach_way hanchored, hn, hentry]
    rfl

end SameShape

/-! ## Writing to several files -/

/-- The path leads to a file. -/
def IsFile (fs : FileSystem) (path : Bytes) : Prop := ∃ content, fs.lookup path = .ok (.file content)

namespace IsFile
variable (hfile : fs.IsFile path) (h : fs.Anchored)
include hfile h

lemma entry?_eq : ∃ content, fs.entry? (fs.locate path) = some (.file content) := by
  obtain ⟨content,hcontent⟩ := hfile
  exact ⟨content,entry?_of_lookup h hcontent⟩

lemma isSome_entry? : (fs.entry? (fs.locate path)).isSome := by
  obtain ⟨content,hcontent⟩ := hfile.entry?_eq h
  rw [hcontent]
  rfl

/-- Only the root can be there without being listed, and it is a directory then. -/
lemma isSome_lookup : (fs.entries.lookup (fs.locate path)).isSome := by
  obtain ⟨content,hcontent⟩ := hfile.entry?_eq h
  unfold FileSystem.entry? at hcontent
  cases hlisted : fs.entries.lookup (fs.locate path) with
  | some n => rfl
  | none =>
    rw [hlisted] at hcontent
    simp at hcontent

lemma put_eq (content : Bytes) : fs.put path content = fs.set (fs.locate path) (.file content) := by
  obtain ⟨old,hold⟩ := hfile.entry?_eq h
  rw [put, hold]
  rfl

lemma of_sameShape (hshape : SameShape fs fs') : fs'.IsFile path := by
  obtain ⟨content,hcontent⟩ := hfile.entry?_eq h
  obtain ⟨m,hm,hkind⟩ : ∃ m, fs'.entry? (fs.locate path) = some m ∧ m.isDirectory = false := by
    simpa [hcontent, Node.isDirectory] using hshape.isDirectory (fs.locate path)
  obtain ⟨old,hold⟩ := hfile
  cases m with
  | directory _ => simp [Node.isDirectory] at hkind
  | file new => exact ⟨new,hshape.lookup_eq_of_entry? h hold hm⟩

end IsFile

lemma set_comm {p q : Bytes} (hp : (fs.entries.lookup p).isSome) (hq : (fs.entries.lookup q).isSome)
    (hne : p ≠ q) (m n : Node) : (fs.set p m).set q n = (fs.set q n).set p m := by
  have hp' : ((fs.set q n).entries.lookup p).isSome := by
    rw [set, if_pos hq]
    simpa only [lookup_map_replace, if_neg hne] using hp
  have hq' : ((fs.set p m).entries.lookup q).isSome := by
    rw [set, if_pos hp]
    simpa only [lookup_map_replace, if_neg hne.symm] using hq
  rw [set, if_pos hq', set, if_pos hp, set, if_pos hp', set, if_pos hq]
  simp only [List.map_map, FileSystem.mk.injEq, and_true]
  refine List.map_congr_left fun e _ => ?_
  obtain ⟨r,k⟩ := e
  by_cases hrp : r = p
  · simp [hrp, hne]
  · by_cases hrq : r = q <;> simp [hrp, hrq, hne.symm]

/-- Writes to different files can be swapped. -/
lemma put_comm (h : fs.Anchored) {a b : Bytes} (ha : fs.IsFile a) (hb : fs.IsFile b)
    (hne : fs.locate a ≠ fs.locate b) (x y : Bytes) :
    (fs.put a x).put b y = (fs.put b y).put a x := by
  have hshape_a := SameShape.put (ha.isSome_entry? h) x
  have hshape_b := SameShape.put (hb.isSome_entry? h) y
  rw [(hb.of_sameShape h hshape_a).put_eq (hshape_a.anchored h),
    (ha.of_sameShape h hshape_b).put_eq (hshape_b.anchored h), hshape_a.locate_eq,
    hshape_b.locate_eq, ha.put_eq h, hb.put_eq h,
    set_comm (ha.isSome_lookup h) (hb.isSome_lookup h) hne]

/-- The tree with other contents at some paths, written one after the other. -/
def putAll (fs : FileSystem) (changes : List (Bytes × Bytes)) : FileSystem :=
  changes.foldl (fun fs (path, content) => fs.put path content) fs

@[simp] lemma putAll_nil (fs : FileSystem) : fs.putAll [] = fs := rfl

@[simp] lemma putAll_cons (fs : FileSystem) (path content : Bytes) (changes : List (Bytes × Bytes)) :
    fs.putAll ((path, content) :: changes) = (fs.put path content).putAll changes := rfl

lemma putAll_append (fs : FileSystem) (changes more : List (Bytes × Bytes)) :
    fs.putAll (changes ++ more) = (fs.putAll changes).putAll more := List.foldl_append

/-- Changes to files of a tree, no two of them to the same file. -/
structure Independent (fs : FileSystem) (changes : List (Bytes × Bytes)) : Prop where
  isFile : ∀ c ∈ changes, fs.IsFile c.1
  nodup : (changes.map fun c => fs.locate c.1).Nodup

namespace Independent
variable {content : Bytes} {changes : List (Bytes × Bytes)}

/-- After the first of the changes the others can still be made. -/
lemma tail (h : Independent fs ((path, content) :: changes)) (hanchored : fs.Anchored) :
    SameShape fs (fs.put path content) ∧ Independent (fs.put path content) changes := by
  have hpath : fs.IsFile path := h.isFile _ (List.mem_cons_self ..)
  have hshape := SameShape.put (hpath.isSome_entry? hanchored) content
  refine ⟨hshape,fun c hc => ?_,?_⟩
  · exact (h.isFile c (List.mem_cons_of_mem _ hc)).of_sameShape hanchored hshape
  · simp only [hshape.locate_eq]
    exact (List.nodup_cons.mp h.nodup).2

lemma sameShape (h : Independent fs changes) (hanchored : fs.Anchored) :
    SameShape fs (fs.putAll changes) := by
  induction changes generalizing fs with
  | nil => exact .refl fs
  | cons c changes ih =>
    obtain ⟨hshape,hrest⟩ := h.tail hanchored
    exact hshape.trans (ih hrest (hshape.anchored hanchored))

lemma perm {more : List (Bytes × Bytes)} (h : Independent fs changes) (hperm : changes.Perm more) :
    Independent fs more :=
  ⟨fun c hc => h.isFile c (hperm.mem_iff.mpr hc),(hperm.map _).nodup_iff.mp h.nodup⟩

/-- Changes to different files can be made in any order. -/
theorem putAll_perm {more : List (Bytes × Bytes)} (h : Independent fs changes)
    (hanchored : fs.Anchored) (hperm : changes.Perm more) : fs.putAll changes = fs.putAll more := by
  induction hperm generalizing fs with
  | nil => rfl
  | cons c _ ih =>
    obtain ⟨hshape,hrest⟩ := h.tail hanchored
    exact ih hrest (hshape.anchored hanchored)
  | swap c d changes =>
    have hne : fs.locate d.1 ≠ fs.locate c.1 := by
      intro heq
      simpa [heq] using h.nodup
    change ((fs.put d.1 d.2).put c.1 c.2).putAll changes =
      ((fs.put c.1 c.2).put d.1 d.2).putAll changes
    rw [put_comm hanchored (h.isFile d (by simp)) (h.isFile c (by simp)) hne]
  | trans hperm _ ih ih' => rw [ih h hanchored, ih' (h.perm hperm) hanchored]

/-- No other file is changed. -/
lemma entry?_putAll_of_not_mem {q : Bytes} (hq : q ∉ changes.map fun c => fs.locate c.1)
    (h : Independent fs changes) (hanchored : fs.Anchored) :
    entry? (fs.putAll changes) q = fs.entry? q := by
  induction changes generalizing fs with
  | nil => rfl
  | cons c changes ih =>
    obtain ⟨hshape,hrest⟩ := h.tail hanchored
    obtain ⟨hhere,hmore⟩ := not_or.mp (List.mem_cons.not.mp hq)
    rw [putAll_cons, ih (by simpa only [hshape.locate_eq] using hmore) hrest
      (hshape.anchored hanchored), entry?_put, if_neg hhere]

lemma lookup_putAll_of_not_mem {q : Bytes} (h : Independent fs changes) (hanchored : fs.Anchored)
    (hq : fs.locate q ∉ changes.map fun c => fs.locate c.1) :
    (fs.putAll changes).lookup q = fs.lookup q :=
  (h.sameShape hanchored).lookup_eq hanchored (h.entry?_putAll_of_not_mem hq hanchored)

/-- Each change is found under its path. -/
lemma lookup_putAll_of_mem (h : Independent fs changes) (hanchored : fs.Anchored)
    (hmem : (path, content) ∈ changes) : (fs.putAll changes).lookup path = .ok (.file content) := by
  induction changes generalizing fs with
  | nil => simp at hmem
  | cons c changes ih =>
    obtain ⟨hshape,hrest⟩ := h.tail hanchored
    rw [putAll_cons]
    obtain rfl | hmem := List.mem_cons.mp hmem
    · obtain ⟨old,hold⟩ := h.isFile (path, content) (List.mem_cons_self ..)
      rw [hrest.lookup_putAll_of_not_mem (hshape.anchored hanchored)]
      · refine hshape.lookup_eq_of_entry? hanchored hold ?_
        rw [entry?_put, if_pos rfl, entry?_of_lookup hanchored hold]
        rfl
      · simp only [hshape.locate_eq]
        exact (List.nodup_cons.mp h.nodup).1
    · exact ih hrest (hshape.anchored hanchored) hmem

end Independent
end Stencil.FileSystem
