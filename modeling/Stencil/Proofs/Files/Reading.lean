import Stencil.Proofs.Files.Lookup
import Stencil.Proofs.Session.Runs

/-! What reading and writing depend on: of the whole tree, only on where the path leads. -/
namespace Stencil

namespace FileSystem
variable {fs fs' : FileSystem} {path : Bytes}

lemma lookup_of_find {call : FileCall} {n : Node} (h : fs.find call path = .ok n) :
    fs.lookup path = .ok n := by
  unfold find at h
  split at h
  · cases h
  · unfold node? at h
    cases hlookup : fs.lookup path with
    | error e => simp [hlookup, Except.toOption] at h
    | ok m => simpa [hlookup, Except.toOption] using h

namespace SameSetting
variable (h : SameSetting fs fs') (hlookup : fs'.lookup path = fs.lookup path)
include h hlookup

lemma find_eq (call : FileCall) : fs'.find call path = fs.find call path := by
  unfold find node? missing
  rw [h.fault?_eq, h.workingDirectory, h.locate_eq, hlookup]

lemma read_eq : fs'.read path = fs.read path := by
  unfold read
  rw [h.find_eq hlookup, h.workingDirectory]

end SameSetting

/-- A file can be written to unless the whole tree cannot. -/
lemma IsFile.admits_eq (h : fs.IsFile path) :
    fs.admits path =
      if fs.readOnly then .error ⟨.permission, "operation not permitted"⟩ else .ok () := by
  obtain ⟨content,hcontent⟩ := h
  unfold admits
  rw [hcontent]
  dsimp only
  split
  · rfl
  · split <;> rfl

end FileSystem

namespace World
variable {reads : List Bytes} {w w' : World}

/-- The worlds cannot be told apart by reading these paths. -/
structure Alike (reads : List Bytes) (w w' : World) : Prop where
  setting : w.files.SameSetting w'.files
  lookup : ∀ q ∈ reads, w'.files.lookup q = w.files.lookup q
  cancelled : w'.cancelled = w.cancelled

namespace Alike

lemma refl (reads : List Bytes) (w : World) : Alike reads w w := ⟨.refl _,fun _ _ => rfl,rfl⟩

lemma read_eq (h : Alike reads w w') {q : Bytes} (hq : q ∈ reads) :
    w'.files.read q = w.files.read q := h.setting.read_eq (h.lookup q hq)

lemma afterCall (h : Alike reads w w') (call : FileCall) (q : Bytes) :
    Alike reads (w.afterCall call q) (w'.afterCall call q) := by
  unfold World.afterCall
  rw [h.setting.fault?_eq]
  split
  · exact ⟨h.setting,h.lookup,rfl⟩
  · exact h

lemma mono {more : List Bytes} (h : Alike more w w') (hsub : reads ⊆ more) : Alike reads w w' :=
  ⟨h.setting,fun q hq => h.lookup q (hsub hq),h.cancelled⟩

end Alike
end World
end Stencil
