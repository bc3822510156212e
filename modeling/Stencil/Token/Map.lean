import Stencil.Json.Reader
import Stencil.Json.Writer
import Stencil.Text.Fold
import Stencil.Text.Quoted

/-! Token maps: which text each token stands for, in the order the tokens were issued. -/
namespace Stencil.Token

/-- An ordered mapping from tokens to the texts they replace. -/
structure Map where
  entries : List (Bytes × Bytes)
  deriving DecidableEq, Repr

/-- A token that was to be added a second time. -/
structure Collision where
  token : Bytes
  deriving DecidableEq, Repr

def Collision.message (c : Collision) : Bytes := "token collision: " ++ Text.quote c.token

namespace Map

def empty : Map := ⟨[]⟩

instance : Inhabited Map := ⟨empty⟩

def size (m : Map) : Nat := m.entries.length

def keys (m : Map) : List Bytes := m.entries.map (·.1)

def get? (m : Map) (token : Bytes) : Option Bytes := m.entries.lookup token

def contains (m : Map) (token : Bytes) : Bool := m.keys.contains token

/-- Appends a token; one that is present collides. -/
def add (m : Map) (token source : Bytes) : Except Collision Map :=
  if m.contains token then .error ⟨token⟩ else .ok ⟨m.entries ++ [(token, source)]⟩

/-- Adds tokens up to the first that collides. The map holds what was added before it. -/
def addAll (m : Map) : List (Bytes × Bytes) → Map × Option Collision
  | [] => (m, none)
  | (token, source) :: more =>
    match m.add token source with
    | .ok m => addAll m more
    | .error c => (m, some c)

/-- The map of a list of entries, unless a token repeats. -/
def ofEntries (entries : List (Bytes × Bytes)) : Except Collision Map :=
  match addAll empty entries with
  | (m, none) => .ok m
  | (_, some c) => .error c

@[simp] theorem keys_empty : empty.keys = [] := rfl

@[simp] theorem size_empty : empty.size = 0 := rfl

theorem length_keys (m : Map) : m.keys.length = m.size := by simp [keys, size]

/-- A token that is added is new, and comes last. -/
theorem add_eq_ok {m m' : Map} {token source : Bytes} (h : m.add token source = .ok m') :
    token ∉ m.keys ∧ m' = ⟨m.entries ++ [(token, source)]⟩ := by
  rw [add, contains, List.contains_eq_mem] at h
  split at h
  · cases h
  · next hnew =>
    cases h
    exact ⟨fun hmem => hnew (decide_eq_true hmem),rfl⟩

theorem add_eq_error {m : Map} {token source : Bytes} {c : Collision}
    (h : m.add token source = .error c) : token ∈ m.keys ∧ c = ⟨token⟩ := by
  rw [add, contains, List.contains_eq_mem] at h
  split at h
  · next hmem =>
    cases h
    exact ⟨of_decide_eq_true hmem,rfl⟩
  · cases h

end Map

/-! ## JSON form -/

/-- The array keeps the order; a byte that starts no character is written as U+FFFD. -/
def Map.toJson (m : Map) : Json.Value :=
  .array (m.entries.map fun (token, source) => .object [
    ("token".toList, .string (Text.Utf8.chars token)),
    ("source".toList, .string (Text.Utf8.chars source))])

/-- Why a text is not the JSON form of a map. -/
inductive DecodeError where
  /-- There is no map to read into. -/
  | noMap
  /-- The text is no JSON at all. -/
  | syntaxError
  /-- The text is JSON of another shape. -/
  | wrongShape
  | collision (c : Collision)
  deriving DecidableEq, Repr

def DecodeError.message : DecodeError → Bytes
  | .noMap => "json: Unmarshal(nil *placeholder.TokenMap)"
  | .syntaxError => "invalid JSON"
  | .wrongShape => "decoding token map: not an array of tokens and sources"
  | .collision c => c.message

/-- Reads a string member; null leaves what is there. -/
def readText (old : Bytes) : Json.Value → Except DecodeError Bytes
  | .string s => .ok (Text.Utf8.encode s)
  | .null => .ok old
  | _ => .error .wrongShape

/-- Reads the members of one entry. Names are compared without case, unknown ones are skipped, and
the last of two wins. -/
def readMember (entry : Bytes × Bytes) (member : List Char × Json.Value) :
    Except DecodeError (Bytes × Bytes) :=
  if Text.eqFold member.1 "token".toList then do return (← readText entry.1 member.2, entry.2)
  else if Text.eqFold member.1 "source".toList then do return (entry.1, ← readText entry.2 member.2)
  else .ok entry

/-- An entry is an object, or null for an empty one. -/
def readEntry : Json.Value → Except DecodeError (Bytes × Bytes)
  | .object members => members.foldlM readMember ([], [])
  | .null => .ok ([], [])
  | _ => .error .wrongShape

/-- The entries are an array, or null for none. -/
def readEntries : Json.Value → Except DecodeError (List (Bytes × Bytes))
  | .array items => items.mapM readEntry
  | .null => .ok []
  | _ => .error .wrongShape

namespace Map

def encode (m : Map) : Bytes := Text.Utf8.encode (Json.render m.toJson)

/-- The JSON form with one entry member on a line. -/
def encodeIndented (m : Map) : Bytes := Text.Utf8.encode (Json.renderIndented 0 m.toJson)

/-- Replaces the map by the one a text describes. A text of the wrong form leaves the map as it
was; a repeated token leaves the entries before it. -/
def decode (m : Map) (text : Bytes) : Map × Option DecodeError :=
  match Json.read (Text.Utf8.chars text) with
  | none => (m, some .syntaxError)
  | some value =>
    match readEntries value with
    | .error e => (m, some e)
    | .ok entries =>
      match addAll empty entries with
      | (m, none) => (m, none)
      | (m, some c) => (m, some (.collision c))

/-- Replaces a map that may be missing. -/
def decode? (m : Option Map) (text : Bytes) : Option Map × Option DecodeError :=
  match m with
  | none => (none, some .noMap)
  | some m =>
    let (m, error) := m.decode text
    (some m, error)

end Map
end Stencil.Token
