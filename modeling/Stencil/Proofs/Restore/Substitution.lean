import Stencil.Proofs.Restore.Matching

/-! Restoring is substitution. A document is laid out as bytes of markup and tokens, each with
blanks of its own; if no token is found where a byte of markup stands, restoring puts the source of
every token in its place and leaves the markup alone. -/
namespace Stencil

/-- What a document with tokens is made of. -/
inductive Part where
  | markup (c : UInt8)
  /-- A token, with these blanks before its `/>` if it is a tag. -/
  | token (t : IssuedToken) (blanks : Bytes)
  deriving DecidableEq, Repr

namespace Part

def text : Part → Bytes
  | .markup c => [c]
  | .token t blanks => t.written blanks

/-- What stands there in the document that was tokenized. -/
def source : Part → Bytes
  | .markup c => [c]
  | .token t _ => t.region.span.text

def token? : Part → Option IssuedToken
  | .markup _ => none
  | .token t _ => some t

/-- The tokens in the order in which they stand. -/
def tokens (parts : List Part) : List IssuedToken := parts.filterMap token?

@[simp] lemma tokens_nil : tokens [] = [] := rfl

@[simp] lemma tokens_markup (c : UInt8) (parts : List Part) :
    tokens (.markup c :: parts) = tokens parts := rfl

@[simp] lemma tokens_token (t : IssuedToken) (blanks : Bytes) (parts : List Part) :
    tokens (.token t blanks :: parts) = t :: tokens parts := rfl

@[simp] lemma tokens_append (ps qs : List Part) : tokens (ps ++ qs) = tokens ps ++ tokens qs :=
  List.filterMap_append

/-- How restoring is to read it. -/
def segment : Part → Segment
  | .markup c => .literal c
  | .token t _ => .hit t.matcher

/-- The token is one of these, and is written in a way that can be read back. -/
def Fits (ts : List IssuedToken) : Part → Prop
  | .markup _ => True
  | .token t blanks => t ∈ ts ∧ (t.shape = .tag → IsBlankRun blanks)

/-- No matcher fits where a byte of markup stands. -/
def Quiet (ms : List Matcher) (parts : List Part) : Prop :=
  ∀ before c after, parts = before ++ .markup c :: after →
    ∀ m ∈ ms, m.matchLength (c :: after.flatMap text) = 0

lemma Quiet.tail {ms : List Matcher} {p : Part} {parts : List Part} (h : Quiet ms (p :: parts)) :
    Quiet ms parts := by
  intro before c after hparts
  exact h (p :: before) c after (by rw [hparts, List.cons_append])

end Part

namespace IssuedToken

def entry (t : IssuedToken) : Bytes × Bytes := (t.rendered, t.region.span.text)

def miss (t : IssuedToken) : Miss := ⟨t.number, t.rendered, t.region.span.text⟩

namespace Series
variable {o : Token.Options} {ts : List IssuedToken} {parts : List Part}

lemma number_getElem (h : Series o ts) (i : Nat) (hi : i < ts.length) : ts[i].number = i := by
  have hn : (ts.map (·.number))[i]? = (List.range ts.length)[i]? := by rw [h.numbers]
  simpa [hi] using hn

/-- The numbers of the tokens are their places in the map. -/
lemma ofMap_entries (h : Series o ts) : Matcher.ofMap ⟨ts.map entry⟩ = ts.map matcher := by
  apply List.ext_getElem
  · simp [Matcher.ofMap]
  · intro i h₁ h₂
    simp [Matcher.ofMap, entry, matcher, h.number_getElem i (by simpa using h₂)]

/-- The parse that restoring makes is the way the document was laid out. -/
theorem segments_parts (h : Series o ts) (hfit : ∀ p ∈ parts, p.Fits ts)
    (hq : Part.Quiet (ts.map matcher) parts) :
    (MatcherIndex.build (ts.map matcher)).segments (parts.flatMap Part.text) =
      parts.map Part.segment := by
  induction parts with
  | nil => simp [MatcherIndex.segments]
  | cons p parts ih =>
    have hrest := ih (fun q hq => hfit q (List.mem_cons_of_mem _ hq)) hq.tail
    cases p with
    | markup c =>
      have hnone := (MatcherIndex.find?_build_eq_none_iff h.name_matcher_ne_nil _).mpr
        (hq [] c parts rfl)
      simp only [List.flatMap_cons, Part.text, List.singleton_append, List.map_cons, Part.segment]
      rw [MatcherIndex.segments, hnone, hrest]
    | token t blanks =>
      obtain ⟨ht,hb⟩ := hfit _ (List.mem_cons_self ..)
      simp only [List.flatMap_cons, Part.text, List.map_cons, Part.segment]
      rw [h.segments_written ht hb, hrest]

/-- A matcher counts as seen if its token is among the parts. -/
lemma any_hits_segment (parts : List Part) (t : IssuedToken) :
    ((parts.map Part.segment).any fun s => s.hits t.matcher) =
      decide (t.number ∈ (Part.tokens parts).map (·.number)) := by
  induction parts with
  | nil => simp
  | cons p parts ih =>
    cases p with
    | markup c => rw [List.map_cons, List.any_cons, ih]; rfl
    | token s blanks =>
      rw [List.map_cons, List.any_cons, ih]
      simp [Part.segment, Segment.hits, matcher, eq_comm, beq_eq_decide]

/-- Restoring a document that is laid out this way, field by field. -/
theorem restore_parts (h : Series o ts) (hfit : ∀ p ∈ parts, p.Fits ts)
    (hq : Part.Quiet (Matcher.ofMap ⟨ts.map entry⟩) parts) :
    restore (parts.flatMap Part.text) ⟨ts.map entry⟩ =
      { text := parts.flatMap Part.source
        replaced := (Part.tokens parts).length
        misses := (ts.filter fun t =>
          t.number ∉ (Part.tokens parts).map (·.number)).map miss } := by
  rw [h.ofMap_entries] at hq
  simp only [restore, h.ofMap_entries, h.segments_parts hfit hq, Restored.ofSegments]
  congr 1
  · rw [List.flatMap_map]
    exact List.flatMap_congr fun p _ => by cases p <;> rfl
  · rw [List.countP_map, Part.tokens, List.length_filterMap_eq_countP]
    exact List.countP_congr fun p _ => by cases p <;> simp [Part.segment, Part.token?, Segment.isHit]
  · rw [List.filter_map, List.map_map]
    congr 1
    refine List.filter_congr fun t _ => ?_
    rw [Function.comp_apply, any_hits_segment, decide_not]

end Series
end IssuedToken
end Stencil
