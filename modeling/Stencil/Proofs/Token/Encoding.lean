import Mathlib.Data.List.Forall2
import Mathlib.Data.List.Nodup
import Stencil.Proofs.Json.RoundTrip
import Stencil.Proofs.Text.Utf8
import Stencil.Token.Map

/-! The JSON form of token maps. A map is read back from any text that spells it, with its tokens in
order; what does not come back of a text are the bytes that belong to no character. -/
namespace Stencil.Token
open Text

/-- The objects that stand for an entry: its two members come in either order. -/
inductive EntryForm (e : Bytes × Bytes) : Json.Value → Prop
  | tokenFirst : EntryForm e (.object [("token".toList, .string (Utf8.chars e.1)),
      ("source".toList, .string (Utf8.chars e.2))])
  | sourceFirst : EntryForm e (.object [("source".toList, .string (Utf8.chars e.2)),
      ("token".toList, .string (Utf8.chars e.1))])

lemma EntryForm.readEntry {e : Bytes × Bytes} {v : Json.Value} (h : EntryForm e v) :
    readEntry v = .ok (Utf8.scrub e.1, Utf8.scrub e.2) := by
  cases h with
  | tokenFirst => rfl
  | sourceFirst => rfl

namespace Map
variable {m m' : Map} {token source text : Bytes}

/-! ## Adding tokens -/

/-- The maps that adding tokens to the empty one gives. -/
inductive Built : Map → Prop
  | empty : Built empty
  | add {m m' : Map} {token source : Bytes} : Built m → m.add token source = .ok m' → Built m'

lemma Built.nodup_keys (h : m.Built) : m.keys.Nodup := by
  induction h with
  | empty => exact List.nodup_nil
  | @add m m' token source _ hadd ih =>
    obtain ⟨hnew,rfl⟩ := add_eq_ok hadd
    have hkeys : keys ⟨m.entries ++ [(token, source)]⟩ = m.keys.concat token := by simp [keys]
    rw [hkeys]
    exact List.Nodup.concat hnew ih

lemma Built.addAll (h : m.Built) (entries : List (Bytes × Bytes)) :
    (m.addAll entries).1.Built := by
  induction entries generalizing m with
  | nil => exact h
  | cons e entries ih =>
    obtain ⟨token,source⟩ := e
    rw [Map.addAll]
    split
    · next hadd => exact ih (h.add hadd)
    · exact h

/-- New tokens that differ from each other are all added. -/
lemma addAll_of_nodup (m : Map) {entries : List (Bytes × Bytes)}
    (h : (m.keys ++ entries.map (·.1)).Nodup) : m.addAll entries = (⟨m.entries ++ entries⟩, none) := by
  induction entries generalizing m with
  | nil => rw [List.append_nil]; rfl
  | cons e entries ih =>
    obtain ⟨token,source⟩ := e
    have hnew : m.contains token = false := by
      rw [contains, List.contains_eq_mem, decide_eq_false_iff_not]
      intro hmem
      exact (List.nodup_append.mp h).2.2 token hmem token (List.mem_cons_self ..) rfl
    rw [Map.addAll, add, hnew, if_neg Bool.false_ne_true]
    dsimp only
    rw [ih]
    · rw [List.append_assoc, List.singleton_append]
    · simpa [keys] using h

/-- They are the maps without a repeated token. -/
theorem built_iff (m : Map) : m.Built ↔ m.keys.Nodup := by
  refine ⟨Built.nodup_keys,fun h => ?_⟩
  have hbuilt := Built.empty.addAll m.entries
  rwa [addAll_of_nodup Map.empty h] at hbuilt

/-- Reading leaves such a map behind, also if it fails. -/
theorem Built.decode (h : m.Built) (text : Bytes) : (m.decode text).1.Built := by
  rw [Map.decode]
  split
  · exact h
  split
  · exact h
  · next entries _ =>
    have hbuilt := Built.empty.addAll entries
    split
    · next heq => rwa [heq] at hbuilt
    · next heq => rwa [heq] at hbuilt

/-! ## Reading a map back -/

/-- The map with U+FFFD in place of each stray byte. -/
def scrubbed (m : Map) : Map := ⟨m.entries.map fun e => (Utf8.scrub e.1, Utf8.scrub e.2)⟩

/-- Without stray bytes it is the map itself. -/
lemma scrubbed_eq_self (h : ∀ e ∈ m.entries, Utf8.isValid e.1 = true ∧ Utf8.isValid e.2 = true) :
    m.scrubbed = m := by
  have hentry : ∀ e ∈ m.entries, (Utf8.scrub e.1, Utf8.scrub e.2) = id e := by
    intro e he
    obtain ⟨htoken,hsource⟩ := h e he
    rw [(Utf8.scrub_eq_self_iff e.1).mpr htoken, (Utf8.scrub_eq_self_iff e.2).mpr hsource, id]
  rw [scrubbed, List.map_congr_left hentry, List.map_id]

/-- The documents that stand for a map: its entries in order. -/
def HasForm (m : Map) (v : Json.Value) : Prop :=
  ∃ items, v = .array items ∧ List.Forall₂ EntryForm m.entries items

/-- The texts that spell such a document, with any blanks between its parts. -/
def SpelledBy (m : Map) (text : Bytes) : Prop :=
  ∃ v t, m.HasForm v ∧ Json.Spells Json.depthLimit v t ∧
    ∃ b, Json.Blanks b ∧ text = Utf8.encode (t ++ b)

/-- The entries are read off their objects one by one. -/
lemma mapM_readEntry {entries : List (Bytes × Bytes)} {items : List Json.Value}
    (h : List.Forall₂ EntryForm entries items) :
    items.mapM readEntry = .ok (entries.map fun e => (Utf8.scrub e.1, Utf8.scrub e.2)) := by
  induction h with
  | nil => rfl
  | cons he _ ih =>
    rw [List.mapM_cons, he.readEntry, ih]
    rfl

lemma HasForm.readEntries {v : Json.Value} (h : m.HasForm v) :
    readEntries v = .ok m.scrubbed.entries := by
  obtain ⟨items,rfl,hitems⟩ := h
  exact mapM_readEntry hitems

/-- A text that spells a map is read as this map, whatever was there before. -/
theorem decode_of_spelledBy (m₀ : Map) (h : m.scrubbed.keys.Nodup) (htext : m.SpelledBy text) :
    m₀.decode text = (m.scrubbed, none) := by
  obtain ⟨v,t,hform,hspells,b,hb,rfl⟩ := htext
  have hadd := addAll_of_nodup empty h
  rw [Map.decode, Utf8.chars_encode, hspells.read_append hb]
  dsimp only
  rw [hform.readEntries]
  dsimp only
  rw [hadd]
  rfl

lemma hasForm_toJson (m : Map) : m.HasForm m.toJson := by
  refine ⟨_,rfl,List.forall₂_map_right_iff.mpr ?_⟩
  exact List.forall₂_same.mpr fun e _ => .tokenFirst

lemma nests_toJson (n : Nat) (m : Map) : Json.Nests (n + 2) m.toJson := by
  refine .array fun v hv => ?_
  obtain ⟨e,-,rfl⟩ := List.mem_map.mp hv
  refine .object fun member hmember => ?_
  obtain rfl | hmember := List.mem_cons.mp hmember
  · exact .string _ _
  · rw [List.mem_singleton.mp hmember]
    exact .string _ _

lemma spelledBy_encode (m : Map) : m.SpelledBy m.encode :=
  ⟨_,_,m.hasForm_toJson,(nests_toJson 9998 m).spells_render,[],Json.blanks_nil,by
    rw [List.append_nil, encode]⟩

lemma spelledBy_encodeIndented (m : Map) {b : List Char} (hb : Json.Blanks b) :
    m.SpelledBy (m.encodeIndented ++ Utf8.encode b) :=
  ⟨_,_,m.hasForm_toJson,(nests_toJson 9998 m).spells_renderIndented 0,b,hb,by
    rw [encodeIndented, Utf8.encode_append]⟩

/-- The form on one line is read back. -/
theorem decode_encode (m₀ : Map) (h : m.scrubbed.keys.Nodup) :
    m₀.decode m.encode = (m.scrubbed, none) := decode_of_spelledBy m₀ h m.spelledBy_encode

/-- So is the form on several lines, also if blanks follow. -/
theorem decode_encodeIndented (m₀ : Map) (h : m.scrubbed.keys.Nodup) {b : List Char}
    (hb : Json.Blanks b) : m₀.decode (m.encodeIndented ++ Utf8.encode b) = (m.scrubbed, none) :=
  decode_of_spelledBy m₀ h (m.spelledBy_encodeIndented hb)

/-- A map of texts without stray bytes survives its JSON form, on one line, on several, or with
other blanks and another order of the members; what it is read into does not matter. -/
theorem decode_written (hm : m.Built)
    (htexts : ∀ e ∈ m.entries, Utf8.isValid e.1 = true ∧ Utf8.isValid e.2 = true) (m₀ : Map) :
    m₀.decode m.encode = (m, none) ∧ m₀.decode m.encodeIndented = (m, none) ∧
      ∀ text, m.SpelledBy text → m₀.decode text = (m, none) := by
  have hself := scrubbed_eq_self htexts
  have hnodup : m.scrubbed.keys.Nodup := by
    rw [hself]
    exact hm.nodup_keys
  refine ⟨?_,?_,fun text htext => ?_⟩
  · rw [decode_encode m₀ hnodup, hself]
  · have hindented := decode_encodeIndented m₀ hnodup Json.blanks_nil
    rwa [Utf8.encode_nil, List.append_nil, hself] at hindented
  · rw [decode_of_spelledBy m₀ hnodup htext, hself]

/-- Tokens of every kind of character: escaped by a letter, by its code, or not at all. -/
def sampleWritten : Map :=
  ⟨[(Utf8.encode ['<', '"', '\x5c', Char.ofNat 7], Utf8.encode ['&', '>', '\n', Char.ofNat 0x2028]),
    (Utf8.encode [Char.ofNat 0xFFFD], Utf8.encode [Char.ofNat 0x1F600, Char.ofNat 0x2029]),
    ([], [])]⟩

theorem decode_written_sampleWritten :
    sampleWritten.Built ∧ sampleWritten.decode sampleWritten.encode = (sampleWritten, none) := by
  have hm : sampleWritten.Built := (built_iff _).mpr (by decide)
  have htexts : ∀ e ∈ sampleWritten.entries,
      Utf8.isValid e.1 = true ∧ Utf8.isValid e.2 = true := by
    intro e he
    simp only [sampleWritten, List.mem_cons, List.not_mem_nil, or_false] at he
    obtain rfl | rfl | rfl := he
    · exact ⟨Utf8.isValid_encode _,Utf8.isValid_encode _⟩
    · exact ⟨Utf8.isValid_encode _,Utf8.isValid_encode _⟩
    · exact ⟨Utf8.isValid_encode [],Utf8.isValid_encode []⟩
  exact ⟨hm,(decode_written hm htexts sampleWritten).1⟩

end Map
end Stencil.Token
