import Stencil.Proofs.Files.Reading

/-! Reading what was written. A path that could be written to leads to what was written there, also
if the file is new. -/
namespace Stencil.FileSystem
variable {fs : FileSystem} {path : Bytes}

/-! ## The directory of a new file -/

lemma above_append_element (dir : Bytes) {e : Bytes} (he : Path.AreElements [e]) :
    above (dir ++ e) =
      if (dir.reverse.dropWhile (· != Path.slash)).isEmpty then Path.dot
      else (dir.reverse.dropWhile (· != Path.slash)).reverse := by
  rw [above, Path.trimRight_append_element dir he, List.reverse_append,
    List.dropWhile_append_of_pos he.ne_slash, List.isEmpty_reverse]

/-- A path that does not end in a slash is the path of its directory and one more element. -/
lemma steps_above {path : Bytes} (hne : path ≠ []) (hslash : path.getLast? ≠ some Path.slash) :
    ∃ es e, steps path = es ++ [e] ∧ steps (above path) = es ++ [Path.dot] ∧
      Path.isAbsolute (above path) = Path.isAbsolute path ∧ above path ≠ [] := by
  have hsteps : steps path = Path.elements path := by rw [steps, if_neg hslash, List.append_nil]
  by_cases hmem : Path.slash ∈ path
  · obtain ⟨as,bs,hreverse,has⟩ := List.eq_append_cons_of_mem (List.mem_reverse.mpr hmem)
    obtain rfl : path = bs.reverse ++ Path.slash :: as.reverse := by
      rw [← List.reverse_reverse path, hreverse]
      simp
    have he : Path.AreElements [as.reverse] := by
      intro e he
      rw [List.mem_singleton.mp he]
      refine ⟨?_,fun hc => has (List.mem_reverse.mp hc)⟩
      intro hnil
      rw [hnil, List.getLast?_concat] at hslash
      exact hslash rfl
    have habove : above (bs.reverse ++ Path.slash :: as.reverse) = bs.reverse ++ [Path.slash] := by
      rw [← List.singleton_append, ← List.append_assoc, above_append_element _ he]
      simp
    refine ⟨Path.elements bs.reverse,as.reverse,?_,?_,?_,?_⟩
    · rw [hsteps, Path.elements_append, Path.elements_of_areElements he]
    · rw [habove, steps, List.getLast?_concat, if_pos rfl, Path.elements_append]
      simp [Path.elements, Bytes.splitByte]
    · rw [habove]
      cases bs.reverse <;> rfl
    · rw [habove]
      simp
  · have he : Path.AreElements [path] := by simpa [Path.AreElements] using ⟨hne,hmem⟩
    have habove : above path = Path.dot := above_append_element [] he
    refine ⟨[],path,?_,?_,?_,?_⟩
    · rw [hsteps, Path.elements_of_areElements he]
      rfl
    · rw [habove]
      rfl
    · rw [habove]
      obtain ⟨c,rest,rfl⟩ := List.exists_cons_of_ne_nil hne
      have hc : c ≠ Path.slash := fun hc => hmem (hc ▸ List.mem_cons_self ..)
      have habsolute : Path.isAbsolute (c :: rest) = false := by simpa [Path.isAbsolute] using hc
      rw [habsolute]
      rfl
    · rw [habove]
      decide

/-! ## New files -/

/-- A way that leads to something is not changed by a new file. -/
lemma follow_put {here : Bytes} {es : List Bytes} {n : Node} (hnew : fs.entry? (fs.locate path) = none)
    (h : fs.follow here es = .ok n) (content : Bytes) :
    (fs.put path content).follow here es = .ok n := by
  have hkept {q : Bytes} {m : Node} (hq : fs.entry? q = some m) :
      entry? (fs.put path content) q = some m := by
    rw [entry?_put, if_neg, hq]
    rintro rfl
    cases hnew.symm.trans hq
  induction es generalizing here with
  | nil =>
    rw [follow] at h ⊢
    cases hentry : fs.entry? here with
    | none => simp [hentry] at h
    | some m => rw [hkept hentry, ← h, hentry]
  | cons e es ih =>
    rw [follow] at h ⊢
    cases hentry : fs.entry? here with
    | none => simp [hentry] at h
    | some m =>
      rw [hkept hentry]
      rw [hentry] at h
      cases m with
      | file c => cases h
      | directory c => exact ih h

lemma reach_concat (here : Bytes) (es : List Bytes) (e : Bytes) :
    reach here (es ++ [e]) = Path.clean (reach here es ++ [Path.slash] ++ e) := by
  induction es generalizing here with
  | nil => rfl
  | cons x es ih => exact ih _

/-- Whatever stands before the last element is a directory. -/
lemma directory_of_follow_concat {here e : Bytes} {es : List Bytes} {n : Node}
    (h : fs.follow here (es ++ [e]) = .ok n) : ∃ c, fs.follow here es = .ok (.directory c) := by
  rw [follow_concat] at h
  split at h
  · cases h
  · cases h
  · next c hc => exact ⟨c,hc⟩

lemma lookup_of_workingDirectory {dir : Bytes} (hdir : fs.workingDirectory = some dir)
    (hne : path ≠ []) : fs.lookup path = fs.follow (fs.origin path) (steps path) := by
  rw [lookup_eq, way, hdir]
  simp [hne]

/-- A new file is found under its path. -/
lemma lookup_put_of_missing {dir : Bytes} (h : fs.Anchored) (hdir : fs.workingDirectory = some dir)
    (hmissing : fs.lookup path = .error .missing) (hne : path ≠ [])
    (habove : (fs.node? (above path)).isSome) (hslash : path.getLast? ≠ some Path.slash)
    (content : Bytes) : (fs.put path content).lookup path = .ok (.file content) := by
  obtain ⟨es,e,hsteps,hstepsAbove,habsolute,hneAbove⟩ := steps_above hne hslash
  have horigin : fs.origin (above path) = fs.origin path := by
    rw [origin, origin, hdir]
    dsimp only
    rw [habsolute]
  have hreach : Path.clean (reach (fs.origin path) es ++ [Path.slash] ++ e) = fs.locate path := by
    have hway : fs.way path = steps path := by rw [way, hdir]
    rw [← reach_way h path, hway, hsteps, reach_concat]
  obtain ⟨c,hc⟩ : ∃ c, fs.follow (fs.origin path) es = .ok (.directory c) := by
    rw [node?, lookup_of_workingDirectory hdir hneAbove, hstepsAbove, horigin] at habove
    cases hfollow : fs.follow (fs.origin path) (es ++ [Path.dot]) with
    | error a => simp [hfollow, Except.toOption] at habove
    | ok n => exact directory_of_follow_concat hfollow
  have hnew : fs.entry? (fs.locate path) = none := by
    rw [lookup_of_workingDirectory hdir hne, hsteps, follow_concat, hc, hreach] at hmissing
    cases hentry : fs.entry? (fs.locate path) with
    | none => rfl
    | some n => simp [hentry] at hmissing
  have hsetting := SameSetting.put fs path content
  rw [lookup_of_workingDirectory (hsetting.workingDirectory.trans hdir) hne, hsetting.origin_eq,
    hsteps, follow_concat, follow_put hnew hc]
  dsimp only
  rw [hreach, entry?_put, if_pos rfl, hnew]
  rfl

/-! ## Reading it back -/

/-- From a working directory, a path can be written to if it leads to a file, or if its directory is
there for a new one. -/
lemma admits_eq_ok {dir : Bytes} (hdir : fs.workingDirectory = some dir)
    (h : fs.admits path = .ok ()) :
    fs.IsFile path ∨ fs.lookup path = .error .missing ∧ path ≠ [] ∧
      (fs.node? (above path)).isSome ∧ path.getLast? ≠ some Path.slash := by
  simp only [admits, hdir, Option.isSome_some, if_true] at h
  split at h
  · cases h
  · split at h
    · cases h
    · next content hfile => exact .inl ⟨content,hfile⟩
    · cases h
    · next hmissing =>
      split at h
      · cases h
      · next habove =>
        split at h
        · cases h
        · next hslash =>
          simp only [Bool.or_eq_true, List.isEmpty_iff, not_or, Option.isNone_iff_eq_none] at habove
          exact .inr ⟨hmissing,habove.1,Option.isSome_iff_ne_none.mpr habove.2,hslash⟩

/-- What was written is found under its path; from a working directory it is a file. -/
theorem lookup_put (h : fs.Anchored) (hadmits : fs.admits path = .ok ()) (content : Bytes) :
    ∃ n, (fs.put path content).lookup path = .ok n ∧ n.content = content ∧
      (n.isDirectory && fs.workingDirectory.isSome) = false := by
  cases hdir : fs.workingDirectory with
  | none =>
    have hsetting := SameSetting.put fs path content
    have hput := entry?_put fs path content (fs.locate path)
    rw [if_pos rfl] at hput
    refine ⟨((fs.entry? (fs.locate path)).getD (.file content)).write content,?_,?_,?_⟩
    · rw [lookup, hsetting.workingDirectory, hdir]
      dsimp only
      rw [hsetting.locate_eq, follow, hput]
    · cases (fs.entry? (fs.locate path)).getD (.file content) <;> rfl
    · exact Bool.and_false _
  | some dir =>
    refine ⟨.file content,?_,rfl,rfl⟩
    obtain ⟨old,hold⟩ | ⟨hmissing,hne,habove,hslash⟩ := admits_eq_ok hdir hadmits
    · have hentry := entry?_of_lookup h hold
      have hshape : SameShape fs (fs.put path content) := .put (hentry ▸ rfl) content
      refine hshape.lookup_eq_of_entry? h hold ?_
      rw [entry?_put, if_pos rfl, hentry]
      rfl
    · exact lookup_put_of_missing h hdir hmissing hne habove hslash content

/-- What was written is read back, if the file can be opened. -/
theorem read_put (h : fs.Anchored) (hadmits : fs.admits path = .ok ())
    (hfault : ∀ message, fs.fault? .openFile path ≠ some (.fail message)) (content : Bytes) :
    (fs.put path content).read path = .ok content := by
  obtain ⟨n,hn,hcontent,hfile⟩ := lookup_put h hadmits content
  have hsetting := SameSetting.put fs path content
  have hfind : (fs.put path content).find .openFile path = .ok n := by
    unfold find node?
    rw [hsetting.fault?_eq, hn]
    split
    · next message hmessage => exact absurd hmessage (hfault message)
    · rfl
  unfold read
  rw [hfind, hsetting.workingDirectory]
  dsimp only
  rw [hfile, hcontent]
  rfl

end Stencil.FileSystem
