import Mathlib.Tactic.IntervalCases
import Stencil.Proofs.Restore.Plain
import Stencil.Proofs.Token.Encoding

/-! Tokens that start with other tokens. The longer name is tried first, so that no token hides
behind one it starts with. But a tag is three bytes longer than its name: if another token goes on
into these bytes without being a tag itself, it is tried first, and hides the tag. -/
namespace Stencil

namespace Matcher
variable {a b m x : Matcher} {ms : List Matcher} {text : Bytes}

lemma name_eq_token (h : m.isTag = false) : m.name = m.token := by
  rw [name, if_neg (by rw [h]; exact Bool.false_ne_true)]

lemma name_append_tail (h : m.isTag = true) : m.name ++ [0x20, 0x2F, 0x3E] = m.token := by
  rw [name, if_pos h]
  rw [isTag, Bool.and_eq_true, List.isSuffixOf_iff_suffix] at h
  obtain ⟨-,y,hy⟩ := h
  rw [← hy, List.length_append, Nat.add_sub_cancel, List.take_left]
  rfl

/-- A tag is longer than its name by what closes it, and no other token is. -/
lemma length_token (m : Matcher) :
    m.token.length = m.name.length + if m.isTag = true then 3 else 0 := by
  cases h : m.isTag with
  | true => rw [← name_append_tail h, List.length_append]; rfl
  | false => rw [name_eq_token h]; rfl

/-- A token fits where it stands as it was written. -/
theorem fits_of_token_prefix (hne : m.token ≠ []) (h : m.token <+: text) :
    0 < m.matchLength text := by
  obtain ⟨rest,rfl⟩ := h
  cases htag : m.isTag with
  | true =>
    rw [← name_append_tail htag]
    simp [matchLength, htag, Bytes.isSpace]
  | false =>
    have hname := name_eq_token htag
    rw [← hname] at hne ⊢
    simp [matchLength, htag, List.length_pos_iff.mpr hne]

/-- Goes on behind the name of a tag, but is no tag, so that it is tried before the tag. -/
def Hides (a b : Matcher) : Prop :=
  a.isTag = false ∧ b.isTag = true ∧
    (a.token = b.name ∧ a.index < b.index ∨ a.token = b.name ++ [0x20] ∨
      a.token = b.name ++ [0x20, 0x2F])

instance (a b : Matcher) : Decidable (a.Hides b) := inferInstanceAs (Decidable (_ ∧ _ ∧ _))

/-- What hides a tag is tried before it, although the tag starts with it. -/
lemma Hides.comes (h : a.Hides b) : a.Comes b ∧ a.token <+: b.token ∧ a.token ≠ b.token := by
  obtain ⟨ha,hb,htoken⟩ := h
  rw [← name_append_tail hb]
  have hname := name_eq_token ha
  rw [Comes, hname]
  obtain ⟨hn,hindex⟩ | hn | hn := htoken
  · rw [hn]
    exact ⟨.inr ⟨rfl,hindex⟩,List.prefix_append _ _,by simp⟩
  · rw [hn]
    exact ⟨.inl (by simp),by simp,by simp⟩
  · rw [hn]
    exact ⟨.inl (by simp),by simp,by simp⟩

/-- Only the bytes that close a tag make a token longer than its name, so the one that starts with
the other is tried later only if it is a tag and the other ends among these bytes. -/
theorem hides_of_comes (hcomes : a.Comes b) (hpre : a.token <+: b.token) (hne : a.token ≠ b.token) :
    a.Hides b := by
  have hlt : a.token.length < b.token.length := by
    refine Nat.lt_of_le_of_ne hpre.length_le fun heq => hne ?_
    exact hpre.eq_of_length heq
  have hla := a.length_token
  have hlb := b.length_token
  unfold Comes at hcomes
  cases hb : b.isTag with
  | false =>
    rw [hb, if_neg Bool.false_ne_true] at hlb
    omega
  | true =>
    rw [hb, if_pos rfl] at hlb
    cases ha : a.isTag with
    | true =>
      rw [ha, if_pos rfl] at hla
      omega
    | false =>
      rw [ha, if_neg Bool.false_ne_true] at hla
      refine ⟨ha,hb,?_⟩
      obtain ⟨k,hk⟩ := Nat.exists_eq_add_of_le (show b.name.length ≤ a.token.length by omega)
      have htoken : a.token = b.name ++ [0x20, 0x2F, 0x3E].take k := by
        rw [List.prefix_iff_eq_take.mp hpre, ← name_append_tail hb, hk, List.take_length_add_append]
      have hk3 : k < 3 := by omega
      interval_cases k
      · left
        exact ⟨by simpa using htoken,by omega⟩
      · exact .inr (.inl htoken)
      · exact .inr (.inr htoken)

/-- So this is all that can keep the longer of two tokens from being tried first. -/
theorem hides_iff : a.Hides b ↔ a.Comes b ∧ a.token <+: b.token ∧ a.token ≠ b.token :=
  ⟨Hides.comes,fun ⟨hcomes,hpre,hne⟩ => hides_of_comes hcomes hpre hne⟩

/-- It fits wherever the tag is written. -/
lemma Hides.fits (h : a.Hides b) (hhere : b.token <+: text) : 0 < a.matchLength text := by
  obtain ⟨hcomes,hpre,-⟩ := h.comes
  refine fits_of_token_prefix ?_ (hpre.trans hhere)
  have hb : b.token ≠ [] := by
    rw [← name_append_tail h.2.1]
    exact List.append_ne_nil_of_right_ne_nil _ (List.cons_ne_nil _ _)
  have hpos := List.length_pos_iff.mpr (name_ne_nil hb)
  have hle := hcomes.length_le
  rw [← name_eq_token h.1]
  exact List.length_pos_iff.mp (by omega)

/-- A token that fits where another one is written is the start of it, or the same tag: the other
token has no room for more blanks than one. -/
lemma token_prefix_of_fits (hfits : 0 < m.matchLength x.token)
    (hlong : x.name.length ≤ m.name.length) : m.token <+: x.token := by
  cases htag : m.isTag with
  | false =>
    rw [← name_eq_token htag]
    exact name_prefix_of_matchLength_pos hfits
  | true =>
    obtain ⟨blanks,hblanks,hpre⟩ := exists_blanks_of_matchLength_pos htag hfits
    have hpos := List.length_pos_iff.mpr hblanks.ne_nil
    have hlen := hpre.length_le
    have hx := x.length_token
    simp only [List.length_append, List.length_cons, List.length_nil] at hlen
    have htagx : x.isTag = true := by
      by_contra hnot
      rw [if_neg hnot] at hx
      omega
    rw [if_pos htagx] at hx
    have hm := m.length_token
    rw [if_pos htag] at hm
    have hwhole := hpre.eq_of_length (by simp; omega)
    have hname : m.name = x.name := by
      rw [← name_append_tail htagx, List.append_assoc] at hwhole
      exact List.append_inj_left hwhole (by omega)
    rw [← name_append_tail htag, ← name_append_tail htagx, hname]

lemma map_token_ofMap (map : Token.Map) : (ofMap map).map (·.token) = map.keys := by
  rw [ofMap, List.map_map, Token.Map.keys]
  nth_rewrite 2 [← List.zipIdx_map_fst 0 map.entries]
  rw [List.map_map]
  rfl

lemma token_ne_nil {map : Token.Map} (hne : ∀ token ∈ map.keys, token ≠ [])
    (hx : x ∈ ofMap map) : x.token ≠ [] :=
  hne _ (map_token_ofMap map ▸ List.mem_map_of_mem hx)

/-- A map without a repeated token has one matcher for each. -/
lemma eq_of_token_eq {map : Token.Map} (hmap : map.Built) (ha : a ∈ ofMap map)
    (hb : b ∈ ofMap map) (h : a.token = b.token) : a = b :=
  List.inj_on_of_nodup_map (map_token_ofMap map ▸ hmap.nodup_keys) ha hb h

end Matcher

/-! ## Where a token is replaced -/

/-- The parts of a document that begins at this offset, each with its own offset. -/
def MatcherIndex.placed (t : MatcherIndex) (offset : Nat) (document : Bytes) :
    List (Nat × Segment) :=
  match document with
  | [] => []
  | b :: rest =>
    match t.find? (b :: rest) with
    | some m =>
      let more := m.matchLength (b :: rest) - 1
      (offset, .hit m) :: t.placed (offset + 1 + more) (rest.drop more)
    | none => (offset, .literal b) :: t.placed (offset + 1) rest
termination_by document.length
decreasing_by all_goals simp; try omega

namespace MatcherIndex
variable {t : MatcherIndex} {m : Matcher}

/-- They are the parts that restoring cuts the document into. -/
lemma map_snd_placed (t : MatcherIndex) (offset : Nat) (document : Bytes) :
    (t.placed offset document).map (·.2) = t.segments document := by
  induction document using segments.induct t generalizing offset with
  | case1 => rw [placed, segments, List.map_nil]
  | case2 b rest m hfind ih =>
    rw [placed, segments, hfind]
    exact congrArg (_ :: ·) (ih _)
  | case3 b rest hfind ih =>
    rw [placed, segments, hfind]
    exact congrArg (_ :: ·) (ih _)

/-- A token that is cut off somewhere is found there, and the document is cut up anew from there. -/
lemma find?_of_mem_placed {offset k : Nat} {document : Bytes}
    (h : (k, .hit m) ∈ t.placed offset document) :
    ∃ i before, k = offset + i ∧ document.drop i ≠ [] ∧ t.find? (document.drop i) = some m ∧
      t.segments document = before ++ t.segments (document.drop i) := by
  induction document using segments.induct t generalizing offset with
  | case1 => simp [placed] at h
  | case2 b rest m' hfind ih =>
    rw [placed, hfind] at h
    obtain h | h := List.mem_cons.mp h
    · cases h
      exact ⟨0,[],rfl,List.cons_ne_nil b rest,hfind,rfl⟩
    · obtain ⟨i,before,rfl,hne,hi,hsegments⟩ := ih h
      rw [List.drop_drop] at hne hi hsegments
      refine ⟨m'.matchLength (b :: rest) - 1 + i + 1,.hit m' :: before,by omega,hne,hi,?_⟩
      rw [segments, hfind]
      exact congrArg (_ :: ·) hsegments
  | case3 b rest hfind ih =>
    rw [placed, hfind] at h
    obtain h | h := List.mem_cons.mp h
    · cases h
    · obtain ⟨i,before,rfl,hne,hi,hsegments⟩ := ih h
      refine ⟨i + 1,.literal b :: before,by omega,hne,hi,?_⟩
      rw [segments_of_find?_eq_none hfind]
      exact congrArg (_ :: ·) hsegments

lemma mem_placed_of_find?_eq_some {offset : Nat} {document : Bytes} (hne : document ≠ [])
    (h : t.find? document = some m) : (offset, .hit m) ∈ t.placed offset document := by
  obtain ⟨b,rest,rfl⟩ := List.exists_cons_of_ne_nil hne
  rw [placed, h]
  exact List.mem_cons_self ..

end MatcherIndex

section Shadowing
variable {map : Token.Map} {document : Bytes} {i : Nat} {m x : Matcher}

/-- Restoring puts the source of this token at this offset of the document. -/
def Replaces (map : Token.Map) (document : Bytes) (i : Nat) (m : Matcher) : Prop :=
  (i, .hit m) ∈ (MatcherIndex.build (Matcher.ofMap map)).placed 0 document

/-- What restoring gives is made of the placed parts. -/
lemma restore_eq_ofSegments_placed (document : Bytes) (map : Token.Map) :
    restore document map = .ofSegments (Matcher.ofMap map)
      (((MatcherIndex.build (Matcher.ofMap map)).placed 0 document).map (·.2)) := by
  rw [MatcherIndex.map_snd_placed]
  rfl

/-- The source stands in the text between what comes of the document before the offset and what
restoring gives for the rest behind the match. -/
lemma Replaces.restore_text (h : Replaces map document i m) :
    ∃ before, (restore document map).text = before ++ (restore (document.drop i) map).text ∧
      (restore (document.drop i) map).text =
        m.source ++ (restore (document.drop (i + m.matchLength (document.drop i))) map).text := by
  obtain ⟨i,before,rfl,hne,hfind,hsegments⟩ := MatcherIndex.find?_of_mem_placed h
  rw [Nat.zero_add]
  refine ⟨before.flatMap Segment.text,?_,?_⟩
  · rw [restore, Restored.ofSegments, hsegments, List.flatMap_append]
    rfl
  · have hpos := (MatcherIndex.find?_build_eq_some hfind).2
    rw [restore, Restored.ofSegments, MatcherIndex.segments_of_find?_eq_some hfind hne hpos,
      List.drop_drop]
    rfl

/-- No empty token is in the map, as with it nothing is replaced; so the first that fits is. -/
lemma Replaces.wins (h : Replaces map document i m) :
    Matcher.Wins (Matcher.ofMap map) (document.drop i) m := by
  obtain ⟨i,-,rfl,-,hfind,-⟩ := MatcherIndex.find?_of_mem_placed h
  rw [Nat.zero_add]
  by_cases hne : ∀ x ∈ Matcher.ofMap map, x.name ≠ []
  · exact (MatcherIndex.find?_build_eq_some_iff hne (Matcher.pairwise_index_ofMap map)).mp hfind
  · push Not at hne
    obtain ⟨x,hx,hnil⟩ := hne
    have hzero := MatcherIndex.keyLength_build_of_name_eq_nil hx hnil
    rw [MatcherIndex.find?, if_pos hzero] at hfind
    cases hfind

/-- A token is replaced where a longer one, that starts with it, is written. -/
structure Shadowed (map : Token.Map) (document : Bytes) (i : Nat) (m x : Matcher) : Prop where
  replaced : Replaces map document i m
  starts : m.token <+: x.token
  ne : m.token ≠ x.token
  here : x.token <+: document.drop i

/-- What is replaced instead of a longer token hides it. -/
lemma Shadowed.hides (h : Shadowed map document i m x) (hx : x ∈ Matcher.ofMap map) :
    m.Hides x := by
  have hne : x.token ≠ [] := by
    intro hnil
    have hpre := h.starts
    rw [hnil, List.prefix_nil] at hpre
    exact h.ne (hpre.trans hnil.symm)
  have hfits := Matcher.fits_of_token_prefix hne h.here
  obtain rfl | hcomes := h.replaced.wins.first x hx hfits
  · exact absurd rfl h.ne
  · exact Matcher.hides_iff.mpr ⟨hcomes,h.starts,h.ne⟩

/-- Where a hidden tag is written, what hides it comes first; so the tag is not replaced. -/
lemma Matcher.Hides.not_replaces (h : m.Hides x) (hm : m ∈ Matcher.ofMap map)
    (hhere : x.token <+: document.drop i) : ¬Replaces map document i x := by
  intro hreplaces
  have hcomes := h.comes.1
  obtain rfl | hlater := hreplaces.wins.first m hm (h.fits hhere)
  · exact hcomes.asymm hcomes
  · exact hcomes.asymm hlater

/-- The token alone is a document where it is shadowed. -/
lemma Matcher.Hides.shadowed (h : m.Hides x) (hmap : map.Built)
    (hne : ∀ token ∈ map.keys, token ≠ []) (hm : m ∈ Matcher.ofMap map)
    (hx : x ∈ Matcher.ofMap map) : ∃ w, Shadowed map x.token 0 w x := by
  have hnames : ∀ y ∈ Matcher.ofMap map, y.name ≠ [] := by
    intro y hy
    exact Matcher.name_ne_nil (Matcher.token_ne_nil hne hy)
  have htoken := Matcher.token_ne_nil hne hx
  obtain ⟨w,hw⟩ : ∃ w, (MatcherIndex.build (Matcher.ofMap map)).find? x.token = some w := by
    apply Option.ne_none_iff_exists'.mp
    rw [Ne, MatcherIndex.find?_build_eq_none_iff hnames]
    intro hnone
    exact (Matcher.fits_of_token_prefix htoken List.prefix_rfl).ne' (hnone x hx)
  have hwins := (MatcherIndex.find?_build_eq_some_iff hnames
    (Matcher.pairwise_index_ofMap map)).mp hw
  have hcomes := h.comes.1
  have hwcomes : w.Comes x := by
    obtain rfl | hwm := hwins.first m hm (h.fits List.prefix_rfl)
    · exact hcomes
    · exact hwm.trans hcomes
  refine ⟨w,MatcherIndex.mem_placed_of_find?_eq_some htoken hw,
    Matcher.token_prefix_of_fits hwins.fits hwcomes.length_le,?_,List.prefix_rfl⟩
  intro heq
  obtain rfl := Matcher.eq_of_token_eq hmap hwins.mem hx heq
  exact hwcomes.asymm hwcomes

/-- Restoring replaces tokens where its parts are placed: there the source stands for what matches,
and the rest is restored by itself. Only a tag can be shadowed, by a token that
goes on into the bytes that close the tag and is no tag itself; and where the map holds such a token,
the tag is never replaced where it is written. -/
theorem shadowed_iff_hidden (hx : x ∈ Matcher.ofMap map) :
    (∀ document, restore document map = .ofSegments (Matcher.ofMap map)
      (((MatcherIndex.build (Matcher.ofMap map)).placed 0 document).map (·.2))) ∧
    (∀ document i m, Replaces map document i m → ∃ before,
      (restore document map).text = before ++ (restore (document.drop i) map).text ∧
      (restore (document.drop i) map).text =
        m.source ++ (restore (document.drop (i + m.matchLength (document.drop i))) map).text) ∧
    (∀ document i m, Shadowed map document i m x → m ∈ Matcher.ofMap map ∧ m.Hides x) ∧
    (∀ m ∈ Matcher.ofMap map, m.Hides x → ∀ document i, x.token <+: document.drop i →
      ¬Replaces map document i x) ∧
    (map.Built → (∀ token ∈ map.keys, token ≠ []) →
      ((∃ document i m, Shadowed map document i m x) ↔ ∃ m ∈ Matcher.ofMap map, m.Hides x)) := by
  refine ⟨fun document => restore_eq_ofSegments_placed document map,
    fun _ _ _ hreplaces => hreplaces.restore_text,?_,?_,?_⟩
  · intro document i m hshadowed
    exact ⟨hshadowed.replaced.wins.mem,hshadowed.hides hx⟩
  · intro m hm hhides document i hhere
    exact hhides.not_replaces hm hhere
  · intro hmap hne
    constructor
    · rintro ⟨document,i,m,hshadowed⟩
      exact ⟨m,hshadowed.replaced.wins.mem,hshadowed.hides hx⟩
    · rintro ⟨m,hm,hhides⟩
      obtain ⟨w,hshadowed⟩ := hhides.shadowed hmap hne hm hx
      exact ⟨x.token,0,w,hshadowed⟩

/-- A tag and its name: the name is replaced where the tag stands, and `" />"` is left over. -/
def sampleShadowed : Token.Map := ⟨[("<php_0__", "A"), ("<php_0__ />", "B")]⟩

theorem shadowed_iff_hidden_sampleShadowed :
    ⟨1, "<php_0__ />", "B"⟩ ∈ Matcher.ofMap sampleShadowed ∧
    sampleShadowed.Built ∧ (∀ token ∈ sampleShadowed.keys, token ≠ []) ∧
    Shadowed sampleShadowed "<php_0__ />" 0 ⟨0, "<php_0__", "A"⟩ ⟨1, "<php_0__ />", "B"⟩ ∧
    (∃ m ∈ Matcher.ofMap sampleShadowed, m.Hides ⟨1, "<php_0__ />", "B"⟩) ∧
    restore "<php_0__ />" sampleShadowed = ⟨"A />", 1, [⟨1, "<php_0__ />", "B"⟩]⟩ := by
  have hx : ⟨1, "<php_0__ />", "B"⟩ ∈ Matcher.ofMap sampleShadowed := by decide
  have hmap : sampleShadowed.Built := (Token.Map.built_iff _).mpr (by decide)
  have hne : ∀ token ∈ sampleShadowed.keys, token ≠ [] := by decide
  have hfind : (MatcherIndex.build (Matcher.ofMap sampleShadowed)).find? "<php_0__ />" =
      some ⟨0, "<php_0__", "A"⟩ := by
    rw [MatcherIndex.find?_build_eq_some_iff (by decide) (Matcher.pairwise_index_ofMap _)]
    exact ⟨by decide,by decide,by decide⟩
  have hshadowed :
      Shadowed sampleShadowed "<php_0__ />" 0 ⟨0, "<php_0__", "A"⟩ ⟨1, "<php_0__ />", "B"⟩ :=
    ⟨MatcherIndex.mem_placed_of_find?_eq_some (by decide) hfind,by decide,by decide,by decide⟩
  obtain ⟨-,-,-,-,hiff⟩ := shadowed_iff_hidden hx
  have hhidden := (hiff hmap hne).mp ⟨_,_,_,hshadowed⟩
  have hrestore : restore "<php_0__ />" sampleShadowed =
      ⟨"A />", 1, [⟨1, "<php_0__ />", "B"⟩]⟩ := by
    have hrest : (MatcherIndex.build (Matcher.ofMap sampleShadowed)).segments " />" =
        [.literal 0x20, .literal 0x2F, .literal 0x3E] := by decide +kernel
    rw [restore, MatcherIndex.segments_of_find?_eq_some hfind (by decide) (by decide)]
    rw [show List.drop _ (Bytes.ofString "<php_0__ />") = " />" by decide, hrest]
    decide +kernel
  exact ⟨hx,hmap,hne,hshadowed,hhidden,hrestore⟩

end Shadowing
end Stencil
