import Mathlib.Logic.Function.Basic
import Stencil.Proofs.Token.Encoding

/-! Histories of a token map. A map may as well be kept in two places, its tokens in order and apart
from them what each stands for; whatever is done to it, and whatever of that fails, the two places
stay in step with each other and with the list of entries. -/
namespace Stencil.Token

/-! ## Reading entries -/

section Errors
variable {α β : Type} {e : DecodeError}

lemma bind_eq_error {x : Except DecodeError α} {f : α → Except DecodeError β}
    (h : x >>= f = .error e) : x = .error e ∨ ∃ a, x = .ok a ∧ f a = .error e := by
  cases x with
  | error e' =>
    cases h
    exact .inl rfl
  | ok a => exact .inr ⟨a,rfl,h⟩

lemma exists_of_mapM_eq_error {f : α → Except DecodeError β} {items : List α}
    (h : items.mapM f = .error e) : ∃ v ∈ items, f v = .error e := by
  induction items with
  | nil => cases h
  | cons v items ih =>
    rw [List.mapM_cons] at h
    obtain hv | ⟨b,-,h⟩ := bind_eq_error h
    · exact ⟨v,List.mem_cons_self ..,hv⟩
    obtain hitems | ⟨bs,-,h⟩ := bind_eq_error h
    · obtain ⟨w,hw,he⟩ := ih hitems
      exact ⟨w,List.mem_cons_of_mem _ hw,he⟩
    · cases h

lemma exists_of_foldlM_eq_error {f : β → α → Except DecodeError β} {items : List α} {b : β}
    (h : items.foldlM f b = .error e) : ∃ c, ∃ v ∈ items, f c v = .error e := by
  induction items generalizing b with
  | nil => cases h
  | cons v items ih =>
    rw [List.foldlM_cons] at h
    obtain hv | ⟨b',-,h⟩ := bind_eq_error h
    · exact ⟨b,v,List.mem_cons_self ..,hv⟩
    · obtain ⟨c,w,hw,he⟩ := ih h
      exact ⟨c,w,List.mem_cons_of_mem _ hw,he⟩

end Errors

lemma readText_eq_error {old : Bytes} {v : Json.Value} {e : DecodeError}
    (h : readText old v = .error e) : e = .wrongShape := by
  cases v <;> cases h <;> rfl

lemma readMember_eq_error {entry : Bytes × Bytes} {member : List Char × Json.Value}
    {e : DecodeError} (h : readMember entry member = .error e) : e = .wrongShape := by
  rw [readMember] at h
  split at h
  · obtain htext | ⟨text,-,h⟩ := bind_eq_error h
    · exact readText_eq_error htext
    · cases h
  · split at h
    · obtain htext | ⟨text,-,h⟩ := bind_eq_error h
      · exact readText_eq_error htext
      · cases h
    · cases h

lemma readEntry_eq_error {v : Json.Value} {e : DecodeError} (h : readEntry v = .error e) :
    e = .wrongShape := by
  cases v with
  | object members =>
    obtain ⟨entry,member,-,he⟩ := exists_of_foldlM_eq_error h
    exact readMember_eq_error he
  | null => cases h
  | _ => cases h; rfl

/-- The shape is all that can be wrong with a document of its own. -/
lemma readEntries_eq_error {v : Json.Value} {e : DecodeError} (h : readEntries v = .error e) :
    e = .wrongShape := by
  cases v with
  | array items =>
    obtain ⟨item,-,he⟩ := exists_of_mapM_eq_error h
    exact readEntry_eq_error he
  | null => cases h
  | _ => cases h; rfl

/-- The entries that a text lists, in order. -/
def parseEntries (text : Bytes) : Except DecodeError (List (Bytes × Bytes)) :=
  match Json.read (Text.Utf8.chars text) with
  | none => .error .syntaxError
  | some value => readEntries value

/-- Entries are listed with or without repetition. -/
lemma parseEntries_eq_error {text : Bytes} {e : DecodeError} (h : parseEntries text = .error e)
    (c : Collision) : e ≠ .collision c := by
  rw [parseEntries] at h
  split at h
  · cases h
    intro hc
    cases hc
  · rw [readEntries_eq_error h]
    intro hc
    cases hc

/-! ## Adding up to the first repetition -/

/-- These entries come before the first that repeats a token. -/
structure FirstRepeat (entries before : List (Bytes × Bytes)) (token : Bytes) : Prop where
  split : ∃ source after, entries = before ++ (token, source) :: after
  nodup : (before.map (·.1)).Nodup
  mem : token ∈ before.map (·.1)

namespace Map
variable {m m' : Map} {token source text : Bytes} {c : Collision}

lemma addAll_eq_ok {entries : List (Bytes × Bytes)} (h : m.addAll entries = (m', none)) :
    m' = ⟨m.entries ++ entries⟩ := by
  induction entries generalizing m with
  | nil =>
    cases h
    rw [List.append_nil]
  | cons e entries ih =>
    obtain ⟨token,source⟩ := e
    rw [addAll] at h
    split at h
    · next hadd =>
      obtain ⟨-,rfl⟩ := add_eq_ok hadd
      rw [ih h, List.append_assoc, List.singleton_append]
    · cases h

/-- What is added before a collision are the entries before the first that repeats a token. -/
lemma addAll_eq_error (hm : m.keys.Nodup) {entries : List (Bytes × Bytes)}
    (h : m.addAll entries = (m', some c)) : FirstRepeat (m.entries ++ entries) m'.entries c.token := by
  induction entries generalizing m with
  | nil => cases h
  | cons e entries ih =>
    obtain ⟨token,source⟩ := e
    rw [addAll] at h
    split at h
    · next m₁ hadd =>
      have hm₁ := ((built_iff m).mpr hm).add hadd
      obtain ⟨-,rfl⟩ := add_eq_ok hadd
      have hrest := ih hm₁.nodup_keys h
      rwa [List.append_assoc, List.singleton_append] at hrest
    · next hadd =>
      cases h
      obtain ⟨hmem,rfl⟩ := add_eq_error hadd
      exact ⟨⟨source,entries,rfl⟩,hm,hmem⟩

lemma decode_of_error {e : DecodeError} (h : parseEntries text = .error e) (m : Map) :
    m.decode text = (m, some e) := by
  rw [decode]
  cases hread : Json.read (Text.Utf8.chars text) with
  | none =>
    rw [parseEntries, hread] at h
    cases h
    rfl
  | some value =>
    have hentries : readEntries value = .error e := by rwa [parseEntries, hread] at h
    dsimp only
    rw [hentries]

lemma decode_of_ok {entries : List (Bytes × Bytes)} (h : parseEntries text = .ok entries)
    (m : Map) : m.decode text =
      ((empty.addAll entries).1, (empty.addAll entries).2.map .collision) := by
  rw [decode]
  cases hread : Json.read (Text.Utf8.chars text) with
  | none =>
    rw [parseEntries, hread] at h
    cases h
  | some value =>
    have hentries : readEntries value = .ok entries := by rwa [parseEntries, hread] at h
    dsimp only
    rw [hentries]
    dsimp only
    obtain ⟨left,_ | c⟩ := empty.addAll entries <;> rfl

/-- Reading fails on the form of the text, and the map stays, or at the first entry that repeats a
token, and the entries before it are left. -/
theorem decode_eq_error {e : DecodeError} (h : m.decode text = (m', some e)) :
    ((∀ c, e ≠ .collision c) ∧ parseEntries text = .error e ∧ m' = m) ∨
    ∃ c entries, e = .collision c ∧ parseEntries text = .ok entries ∧
      FirstRepeat entries m'.entries c.token := by
  cases hparse : parseEntries text with
  | error e' =>
    rw [decode_of_error hparse] at h
    cases h
    exact .inl ⟨parseEntries_eq_error hparse,rfl,rfl⟩
  | ok entries =>
    rw [decode_of_ok hparse] at h
    obtain ⟨hm',he⟩ := Prod.mk.inj h
    obtain ⟨c,hc,rfl⟩ := Option.map_eq_some_iff.mp he
    exact .inr ⟨c,entries,rfl,rfl,addAll_eq_error (m := empty) List.nodup_nil (Prod.ext hm' hc)⟩

/-- A text that is read to its end gives the entries it lists. -/
theorem decode_eq_ok (h : m.decode text = (m', none)) : parseEntries text = .ok m'.entries := by
  cases hparse : parseEntries text with
  | error e =>
    rw [decode_of_error hparse] at h
    cases h
  | ok entries =>
    rw [decode_of_ok hparse] at h
    obtain ⟨hm',he⟩ := Prod.mk.inj h
    rw [addAll_eq_ok (Prod.ext hm' (Option.map_eq_none_iff.mp he))]
    rfl

/-! ## What is looked up -/

lemma isSome_get?_iff (m : Map) (token : Bytes) : (m.get? token).isSome ↔ token ∈ m.keys := by
  rw [get?, List.lookup_isSome_iff, keys, List.mem_map]
  simp only [beq_iff_eq, @eq_comm _ token]

lemma get?_eq_some (hm : m.keys.Nodup) (h : (token, source) ∈ m.entries) :
    m.get? token = some source := by
  obtain ⟨before,after,hentries⟩ := List.append_of_mem h
  refine List.lookup_eq_some_iff.mpr ⟨before,after,hentries,?_⟩
  intro p hp
  rw [keys, hentries, List.map_append, List.nodup_append] at hm
  exact bne_iff_ne.mpr (hm.2.2 _ (List.mem_map_of_mem hp) token (List.mem_cons_self ..)).symm

/-- The entries are the tokens, each with what is looked up for it. -/
lemma map_keys (hm : m.keys.Nodup) :
    m.keys.map (fun token => (token, (m.get? token).getD [])) = m.entries := by
  have hentry : ∀ e ∈ m.entries, (e.1, (m.get? e.1).getD []) = id e := by
    intro e he
    rw [get?_eq_some hm he, Option.getD_some, id]
  rw [keys, List.map_map]
  exact (List.map_congr_left hentry).trans (List.map_id _)

lemma get?_concat (h : token ∉ m.keys) (other : Bytes) :
    get? ⟨m.entries ++ [(token, source)]⟩ other =
      Function.update m.get? token (some source) other := by
  have hnone : m.get? token = none := by
    rwa [← Option.not_isSome_iff_eq_none, isSome_get?_iff]
  rw [get?, List.lookup_append]
  by_cases heq : other = token
  · subst heq
    rw [Function.update_self, ← get?, hnone]
    simp
  · rw [Function.update_of_ne heq, ← get?, List.lookup_cons, beq_false_of_ne heq]
    exact Option.or_none

end Map

/-! ## A map kept in two places -/

/-- The tokens of a map in order, and apart from them what each stands for, which has no place of
its own before the first token is added. -/
structure Ledger where
  keys : List Bytes
  sources : Option (Bytes → Option Bytes)

namespace Ledger
variable {l : Ledger} {m : Map}

/-- No token, and no place for sources yet. -/
def zero : Ledger := ⟨[], none⟩

def new : Ledger := ⟨[], some fun _ => none⟩

def get? (l : Ledger) (token : Bytes) : Option Bytes := l.sources.bind (· token)

def size (l : Ledger) : Nat := l.keys.length

/-- The tokens in order, each with what is looked up for it. -/
def all (l : Ledger) : List (Bytes × Bytes) :=
  l.keys.map fun token => (token, (l.get? token).getD [])

def add (l : Ledger) (token source : Bytes) : Ledger × Option Collision :=
  let sources := l.sources.getD fun _ => none
  if (sources token).isSome then (⟨l.keys, some sources⟩, some ⟨token⟩)
  else (⟨l.keys ++ [token], some (Function.update sources token (some source))⟩, none)

def addAll (l : Ledger) : List (Bytes × Bytes) → Ledger × Option Collision
  | [] => (l, none)
  | (token, source) :: more =>
    match l.add token source with
    | (l, none) => addAll l more
    | (l, some c) => (l, some c)

def decode (l : Ledger) (text : Bytes) : Ledger × Option DecodeError :=
  match parseEntries text with
  | .error e => (l, some e)
  | .ok entries => ((new.addAll entries).1, (new.addAll entries).2.map .collision)

/-- Each token has a source, and nothing else has one. -/
structure Consistent (l : Ledger) : Prop where
  nodup : l.keys.Nodup
  mem_keys : ∀ token, token ∈ l.keys ↔ (l.get? token).isSome

/-- Both places are in step with a list of entries. -/
structure Keeps (l : Ledger) (m : Map) : Prop where
  keys : l.keys = m.keys
  get? : l.get? = m.get?

/-- They answer every question alike. -/
structure Shows (l : Ledger) (m : Map) : Prop where
  keys : l.keys = m.keys
  size : l.size = m.size
  get? : l.get? = m.get?
  all : l.all = m.entries

lemma keeps_new : new.Keeps .empty := ⟨rfl,rfl⟩

lemma keeps_zero : zero.Keeps .empty := ⟨rfl,rfl⟩

lemma getD_sources (l : Ledger) : l.sources.getD (fun _ => none) = l.get? := by
  funext token
  rw [get?]
  cases l.sources <;> rfl

namespace Keeps
variable {token source : Bytes}

lemma consistent (h : l.Keeps m) (hm : m.Built) : l.Consistent where
  nodup := h.keys ▸ hm.nodup_keys
  mem_keys token := by rw [h.keys, h.get?, m.isSome_get?_iff]

lemma shows (h : l.Keeps m) (hm : m.Built) : l.Shows m where
  keys := h.keys
  size := by rw [size, h.keys, m.length_keys]
  get? := h.get?
  all := by rw [all, h.keys, h.get?, Map.map_keys hm.nodup_keys]

/-- A token is added to both places or to none. -/
theorem add_ok (h : l.Keeps m) {m' : Map} (hadd : m.add token source = .ok m') :
    (l.add token source).1.Keeps m' ∧ (l.add token source).2 = none := by
  obtain ⟨hnew,rfl⟩ := Map.add_eq_ok hadd
  rw [← m.isSome_get?_iff, ← h.get?] at hnew
  rw [Ledger.add, getD_sources, if_neg hnew]
  refine ⟨⟨?_,?_⟩,rfl⟩
  · simp [Map.keys, h.keys]
  · funext other
    rw [h.get?, m.isSome_get?_iff] at hnew
    rw [Map.get?_concat hnew, h.get?]
    rfl

/-- A token that collides has a source, so there was a place for it. -/
theorem add_error (h : l.Keeps m) {c : Collision} (hadd : m.add token source = .error c) :
    l.add token source = (l, some c) := by
  obtain ⟨hmem,rfl⟩ := Map.add_eq_error hadd
  rw [← m.isSome_get?_iff, ← h.get?] at hmem
  obtain ⟨keys,_ | sources⟩ := l
  · cases hmem
  · exact if_pos hmem

theorem addAll (h : l.Keeps m) (entries : List (Bytes × Bytes)) :
    (l.addAll entries).1.Keeps (m.addAll entries).1 ∧
      (l.addAll entries).2 = (m.addAll entries).2 := by
  induction entries generalizing l m with
  | nil => exact ⟨h,rfl⟩
  | cons e entries ih =>
    obtain ⟨token,source⟩ := e
    rw [Ledger.addAll, Map.addAll]
    cases hadd : m.add token source with
    | ok m' =>
      obtain ⟨hkeeps,hnone⟩ := h.add_ok hadd
      rw [show l.add token source = ((l.add token source).1, none) from Prod.ext rfl hnone]
      exact ih hkeeps
    | error c =>
      rw [h.add_error hadd]
      exact ⟨h,rfl⟩

theorem decode (h : l.Keeps m) (text : Bytes) :
    (l.decode text).1.Keeps (m.decode text).1 ∧ (l.decode text).2 = (m.decode text).2 := by
  rw [Ledger.decode]
  cases hparse : parseEntries text with
  | error e =>
    rw [Map.decode_of_error hparse]
    exact ⟨h,rfl⟩
  | ok entries =>
    obtain ⟨hkeeps,hanswer⟩ := keeps_new.addAll entries
    rw [Map.decode_of_ok hparse, ← hanswer]
    exact ⟨hkeeps,rfl⟩

end Keeps
end Ledger

/-! ## Histories -/

/-- What changes a map. -/
inductive Operation where
  | add (token source : Bytes)
  | decode (text : Bytes)
  deriving DecidableEq, Repr

def Map.perform (m : Map) : Operation → Map × Option DecodeError
  | .add token source =>
    match m.add token source with
    | .ok m => (m, none)
    | .error c => (m, some (.collision c))
  | .decode text => m.decode text

/-- Performs operations one after the other, whether they fail or not. -/
def Map.performAll (m : Map) (ops : List Operation) : Map :=
  ops.foldl (fun m op => (m.perform op).1) m

def Ledger.perform (l : Ledger) : Operation → Ledger × Option DecodeError
  | .add token source => ((l.add token source).1, (l.add token source).2.map .collision)
  | .decode text => l.decode text

def Ledger.performAll (l : Ledger) (ops : List Operation) : Ledger :=
  ops.foldl (fun l op => (l.perform op).1) l

section Histories
variable {m : Map} {l : Ledger}

lemma Map.Built.perform (h : m.Built) (op : Operation) : (m.perform op).1.Built := by
  cases op with
  | add token source =>
    rw [Map.perform]
    split
    · next hadd => exact h.add hadd
    · exact h
  | decode text => exact h.decode text

lemma Map.Built.performAll (h : m.Built) (ops : List Operation) : (m.performAll ops).Built := by
  induction ops generalizing m with
  | nil => exact h
  | cons op ops ih => exact ih (h.perform op)

/-- An operation changes both places alike and gives the same answer. -/
theorem Ledger.Keeps.perform (h : l.Keeps m) (op : Operation) :
    (l.perform op).1.Keeps (m.perform op).1 ∧ (l.perform op).2 = (m.perform op).2 := by
  cases op with
  | add token source =>
    rw [Ledger.perform, Map.perform]
    cases hadd : m.add token source with
    | ok m' =>
      obtain ⟨hkeeps,hnone⟩ := h.add_ok hadd
      rw [hnone]
      exact ⟨hkeeps,rfl⟩
    | error c =>
      rw [h.add_error hadd]
      exact ⟨h,rfl⟩
  | decode text => exact h.decode text

theorem Ledger.Keeps.performAll (h : l.Keeps m) (ops : List Operation) :
    (l.performAll ops).Keeps (m.performAll ops) := by
  induction ops generalizing l m with
  | nil => exact h
  | cons op ops ih => exact ih (h.perform op).1

/-- After any history the tokens are exactly what has a source, each once, and both places show one
list of entries. A new token comes last, and a text that is read to its end gives the entries it
lists. A token that collides changes nothing, nor does a text of the wrong form; a text that repeats
a token leaves the entries before the repetition. -/
theorem history_in_step {start : Ledger} (hstart : start = .new ∨ start = .zero)
    (ops : List Operation) (hl : start.performAll ops = l) (hm : Map.empty.performAll ops = m) :
    l.Consistent ∧ l.Shows m ∧
    (∀ op, (l.perform op).2 = (m.perform op).2 ∧ (l.perform op).1.Shows (m.perform op).1) ∧
    (∀ token source m', m.add token source = .ok m' →
      token ∉ l.keys ∧ m'.entries = m.entries ++ [(token, source)]) ∧
    (∀ token source c, m.add token source = .error c →
      token ∈ l.keys ∧ l.add token source = (l, some c)) ∧
    (∀ text, (m.decode text).2 = none → parseEntries text = .ok (m.decode text).1.entries) ∧
    (∀ text e, (∀ c, e ≠ .collision c) → (m.decode text).2 = some e →
      m.decode text = (m, some e) ∧ l.decode text = (l, some e)) ∧
    ∀ text c, (m.decode text).2 = some (.collision c) → ∃ entries,
      parseEntries text = .ok entries ∧
      FirstRepeat entries (m.decode text).1.entries c.token := by
  have hkeeps : l.Keeps m := by
    rw [← hl, ← hm]
    obtain rfl | rfl := hstart
    · exact Ledger.keeps_new.performAll ops
    · exact Ledger.keeps_zero.performAll ops
  have hbuilt : m.Built := hm ▸ Map.Built.empty.performAll ops
  refine ⟨hkeeps.consistent hbuilt,hkeeps.shows hbuilt,?_,?_,?_,?_,?_,?_⟩
  · intro op
    obtain ⟨hnext,hanswer⟩ := hkeeps.perform op
    exact ⟨hanswer,hnext.shows (hbuilt.perform op)⟩
  · intro token source m' hadd
    obtain ⟨hnew,rfl⟩ := Map.add_eq_ok hadd
    exact ⟨hkeeps.keys ▸ hnew,rfl⟩
  · intro token source c hadd
    exact ⟨hkeeps.keys ▸ (Map.add_eq_error hadd).1,hkeeps.add_error hadd⟩
  · intro text hanswer
    exact Map.decode_eq_ok (Prod.ext rfl hanswer)
  · intro text e he hanswer
    obtain ⟨-,hparse,-⟩ | ⟨c,-,rfl,-⟩ := Map.decode_eq_error (Prod.ext rfl hanswer)
    · refine ⟨Map.decode_of_error hparse m,?_⟩
      rw [Ledger.decode, hparse]
    · exact absurd rfl (he c)
  · intro text c hanswer
    obtain ⟨he,-⟩ | ⟨c',entries,he,hparse,hrepeat⟩ := Map.decode_eq_error (Prod.ext rfl hanswer)
    · exact absurd rfl (he c)
    · cases he
      exact ⟨entries,hparse,hrepeat⟩

/-- Two tokens are added, one of them twice, and a text of another shape is read in between. -/
def sampleHistory : List Operation :=
  [.add "a" "1", .decode "[1]", .add "a" "2", .add "b" ""]

/-- The first entry comes again behind another one. -/
def sampleRepeating : Bytes :=
  "[\x7b\"token\":\"x\"\x7d, null, \x7b\"token\":\"x\"\x7d, \x7b\"token\":\"y\"\x7d]"

theorem history_in_step_sampleHistory :
    Map.empty.performAll sampleHistory = ⟨[("a", "1"), ("b", "")]⟩ ∧
    (Ledger.zero.performAll sampleHistory).Consistent ∧
    (Ledger.zero.performAll sampleHistory).all = ([("a", "1"), ("b", "")] : List (Bytes × Bytes)) ∧
    (Ledger.zero.performAll sampleHistory).add "a" "3" =
      (Ledger.zero.performAll sampleHistory, some ⟨"a"⟩) ∧
    (Map.empty.performAll sampleHistory).decode sampleRepeating =
      (⟨[("x", ""), ("", "")]⟩, some (.collision ⟨"x"⟩)) ∧
    ∃ entries, parseEntries sampleRepeating = .ok entries ∧
      FirstRepeat entries [("x", ""), ("", "")] "x" := by
  have hm : Map.empty.performAll sampleHistory = ⟨[("a", "1"), ("b", "")]⟩ := by decide +kernel
  have hdecode : Map.decode ⟨[("a", "1"), ("b", "")]⟩ sampleRepeating =
      (⟨[("x", ""), ("", "")]⟩, some (.collision ⟨"x"⟩)) := by decide +kernel
  obtain ⟨hconsistent,hshows,-,-,hadd,-,-,hrepeat⟩ :=
    history_in_step (.inr rfl) sampleHistory rfl hm
  have hfirst := hrepeat sampleRepeating ⟨"x"⟩ (by rw [hdecode])
  rw [hdecode] at hfirst
  rw [hm]
  exact ⟨rfl,hconsistent,hshows.all,(hadd "a" "3" ⟨"a"⟩ (by decide)).2,hdecode,hfirst⟩

end Histories
end Stencil.Token
