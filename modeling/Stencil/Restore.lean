import Stencil.Token.Map
import Stencil.Token.Options

/-! Putting the sources back: every token of a map that a document holds is replaced by the text
it stands for, in one pass and without reading restored text again. -/
namespace Stencil

/-- Recognises one token of a map. -/
structure Matcher where
  index : Nat
  token : Bytes
  source : Bytes
  deriving DecidableEq, Repr

namespace Matcher

/-- A token that looks like a self-closing tag. -/
def isTag (m : Matcher) : Bool :=
  (Token.lead .tag).isPrefixOf m.token && (Token.tail .tag).isSuffixOf m.token

/-- The token up to the blank before `/>`, and the whole token if it is no tag. -/
def name (m : Matcher) : Bytes :=
  if m.isTag then m.token.take (m.token.length - (Token.tail .tag).length) else m.token

/-- Length of the occurrence at the start of a text, 0 for none. A tag may have any blanks before
its `/>`, but at least one. -/
def matchLength (m : Matcher) (b : Bytes) : Nat :=
  if m.name.isPrefixOf b then
    if m.isTag then
      let after := b.drop m.name.length
      let blanks := after.takeWhile Bytes.isSpace
      if !blanks.isEmpty && [0x2F, 0x3E].isPrefixOf (after.drop blanks.length) then
        m.name.length + blanks.length + 2
      else 0
    else m.name.length
  else 0

/-- The matchers of a map, in its order. -/
def ofMap (m : Token.Map) : List Matcher :=
  m.entries.zipIdx.map fun ((token, source), index) => ⟨index, token, source⟩

/-- A longer name comes first. -/
def before (a b : Matcher) : Bool := b.name.length ≤ a.name.length

end Matcher

/-- Matchers grouped by the first bytes of their names, as many as the shortest name has. -/
structure MatcherIndex where
  keyLength : Nat
  buckets : List (Bytes × List Matcher)
  deriving DecidableEq, Repr

namespace MatcherIndex

def shortestName : List Matcher → Nat
  | [] => 0
  | [m] => m.name.length
  | m :: more => min m.name.length (shortestName more)

/-- In a bucket the longer name comes first, so that no token hides behind one it starts with. -/
def build (ms : List Matcher) : MatcherIndex :=
  let keyLength := shortestName ms
  let keys := (ms.map (·.name.take keyLength)).eraseDups
  ⟨keyLength, keys.map fun k =>
    (k, (ms.filter (·.name.take keyLength == k)).mergeSort Matcher.before)⟩

/-- The matcher that wins at the start of a text. -/
def find? (t : MatcherIndex) (b : Bytes) : Option Matcher :=
  if t.keyLength = 0 then none
  else match t.buckets.lookup (b.take t.keyLength) with
    | none => none
    | some candidates => candidates.find? (fun m => 0 < m.matchLength b)

end MatcherIndex

/-- A document cut up for restoring. -/
inductive Segment where
  | literal (b : UInt8)
  | hit (m : Matcher)
  deriving DecidableEq, Repr

/-- Cuts a document into tokens and the bytes between them. -/
def MatcherIndex.segments (t : MatcherIndex) (document : Bytes) : List Segment :=
  match document with
  | [] => []
  | b :: rest =>
    match t.find? (b :: rest) with
    | some m => .hit m :: t.segments (rest.drop (m.matchLength (b :: rest) - 1))
    | none => .literal b :: t.segments rest
termination_by document.length
decreasing_by all_goals simp; try omega

namespace Segment

def text : Segment → Bytes
  | .literal b => [b]
  | .hit m => m.source

def isHit : Segment → Bool
  | .hit _ => true
  | .literal _ => false

def hits (m : Matcher) : Segment → Bool
  | .hit m' => m'.index == m.index
  | .literal _ => false

end Segment

/-- A token that a document does not hold. -/
structure Miss where
  index : Nat
  token : Bytes
  source : Bytes
  deriving DecidableEq, Repr

/-- The token and the size of the region that is lost with it. -/
def Miss.message (m : Miss) : Bytes :=
  "token not found: " ++ Text.quote m.token ++ " (original " ++ Bytes.ofNat m.source.length
    ++ " bytes)"

/-- A document with its sources put back. -/
structure Restored where
  text : Bytes
  /-- The number of tokens replaced; a token that occurs twice counts twice. -/
  replaced : Nat
  /-- The tokens never seen, in the order of the map. -/
  misses : List Miss
  deriving DecidableEq, Repr

def Restored.ofSegments (ms : List Matcher) (segments : List Segment) : Restored where
  text := segments.flatMap Segment.text
  replaced := segments.countP Segment.isHit
  misses := (ms.filter fun m => !segments.any (·.hits m)).map fun m => ⟨m.index, m.token, m.source⟩

/-- Puts the sources of a map back into a document. -/
def restore (document : Bytes) (map : Token.Map) : Restored :=
  let ms := Matcher.ofMap map
  .ofSegments ms ((MatcherIndex.build ms).segments document)

end Stencil
