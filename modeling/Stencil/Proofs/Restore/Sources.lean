import Stencil.Proofs.RoundTrip

/-! Restoring with other sources. Which tokens are found does not depend on what they stand for: if
the sources of a map are changed, the same tokens are replaced in the same places. -/
namespace Stencil
variable (f : Bytes → Bytes)

/-- The matcher with another source. -/
def Matcher.mapSource (m : Matcher) : Matcher := { m with source := f m.source }

/-- The map with other sources for its tokens. -/
def Token.Map.mapSource (m : Token.Map) : Token.Map := ⟨m.entries.map fun e => (e.1, f e.2)⟩

lemma Matcher.ofMap_mapSource (m : Token.Map) :
    ofMap (m.mapSource f) = (ofMap m).map (mapSource f) := by
  apply List.ext_getElem
  · simp [ofMap, Token.Map.mapSource]
  · intro i h₁ h₂
    simp [ofMap, Token.Map.mapSource, mapSource]

/-- The segment with another source for its token. -/
def Segment.mapSource : Segment → Segment
  | .literal b => .literal b
  | .hit m => .hit (m.mapSource f)

namespace MatcherIndex

lemma shortestName_mapSource (ms : List Matcher) :
    shortestName (ms.map (Matcher.mapSource f)) = shortestName ms := by
  induction ms with
  | nil => rfl
  | cons m ms ih =>
    cases ms with
    | nil => rfl
    | cons m' ms => exact congrArg (min m.name.length) ih

lemma find?_build_mapSource (ms : List Matcher) (b : Bytes) :
    (build (ms.map (Matcher.mapSource f))).find? b =
      ((build ms).find? b).map (Matcher.mapSource f) := by
  by_cases hz : shortestName ms = 0
  · simp [find?, build, shortestName_mapSource, hz]
  · rw [find?_build _ _ hz, find?_build _ _ (by rwa [shortestName_mapSource]),
      shortestName_mapSource, List.filter_map]
    change (((ms.filter fun m => m.name.take (shortestName ms) == b.take (shortestName ms)).map
      (Matcher.mapSource f)).mergeSort Matcher.before).find? _ = _
    -- names decide the order in a bucket, and they are the same
    rw [← List.map_mergeSort (f := Matcher.mapSource f) (r := Matcher.before) fun _ _ _ _ => rfl,
      List.find?_map]
    rfl

/-- A document is cut at the same tokens. -/
theorem segments_build_mapSource (ms : List Matcher) (document : Bytes) :
    (build (ms.map (Matcher.mapSource f))).segments document =
      ((build ms).segments document).map (Segment.mapSource f) := by
  induction document using MatcherIndex.segments.induct (build ms) with
  | case1 => simp [segments]
  | case2 b rest m hfind ih =>
    rw [segments, segments, find?_build_mapSource, hfind]
    exact congrArg (_ :: ·) ih
  | case3 b rest hfind ih =>
    rw [segments, segments, find?_build_mapSource, hfind]
    exact congrArg (_ :: ·) ih

end MatcherIndex

/-- Other sources are put in the same places, and the same tokens are missed. -/
theorem restore_mapSource (document : Bytes) (m : Token.Map) :
    restore document (m.mapSource f) =
      { text := ((MatcherIndex.build (Matcher.ofMap m)).segments document).flatMap
          fun s => (s.mapSource f).text
        replaced := (restore document m).replaced
        misses := (restore document m).misses.map fun miss => { miss with source := f miss.source } }
    := by
  have hhits (m : Matcher) (s : Segment) : (s.mapSource f).hits (m.mapSource f) = s.hits m := by
    cases s <;> rfl
  rw [restore, Matcher.ofMap_mapSource, MatcherIndex.segments_build_mapSource, restore]
  simp only [Restored.ofSegments]
  congr 1
  · rw [List.flatMap_map]
  · rw [List.countP_map]
    exact List.countP_congr fun s _ => by cases s <;> exact Iff.rfl
  · rw [List.filter_map, List.map_map, List.map_map]
    simp only [Function.comp_def, List.any_map, hhits]
    rfl

/-- The text of a chunk, with something else in place of a region. -/
def Region.Chunk.textWith : Region.Chunk → Bytes
  | .markup c => [c]
  | .region text _ => f text

/-- With other sources, a placeholder restores to the document with other regions. -/
theorem restore_tokenized_mapSource {width : Bytes → Nat} {o used : Token.Options} {document : Bytes}
    {t : Tokenized} (h : tokenizeWith width o document = .ok (t, used)) :
    restore t.placeholder (t.map.mapSource f) =
      ⟨(Region.split document).flatMap (Region.Chunk.textWith f), t.tokens.length, []⟩ := by
  obtain ⟨hlegal,hscan,hdocument⟩ := tokenizeWith_eq_ok h
  have hlaid := laidOut_of_scan_eq_ok hlegal hscan
  have hquiet := hlaid.quiet hdocument
  have hrestore := hlaid.restore_parts hlaid.fits hquiet hlaid.tokens
  have hsegments : (MatcherIndex.build (Matcher.ofMap t.map)).segments
      ((t.layout document).flatMap Part.text) = (t.layout document).map Part.segment := by
    rw [hlaid.map, hlaid.series.ofMap_entries] at hquiet ⊢
    exact hlaid.series.segments_parts hlaid.fits hquiet
  rw [← hlaid.placeholder, restore_mapSource, hsegments, hrestore, ← hlaid.chunks, List.flatMap_map,
    List.flatMap_map]
  congr 1
  exact List.flatMap_congr fun p _ => by cases p <;> rfl

end Stencil
