import Mathlib.Algebra.Ring.Nat
import Stencil.Proofs.Markup.Noninterference
import Stencil.Proofs.RoundTrip
import Stencil.Proofs.Scan.Cutting
import Stencil.Proofs.Scan.Failures

/-! Which stems a document rules out. With the default options a scan succeeds, and its placeholder
restores to the document unless the markup already holds the stem with a digit after it. So a
document has no placeholder form only if it holds every stem that is tried. -/
namespace Stencil

/-! ## Stems of the default options -/

namespace Token

/-- The stem of the `k`-th attempt with the default options. -/
def defaultStem (k : Nat) : Bytes :=
  if k = 0 then "php_" else "php_x" ++ Bytes.ofNat k ++ "_"

def defaultAttempt (k : Nat) : Options := { Options.default with stem := defaultStem k }

lemma defaultAttempt_succ (k : Nat) :
    defaultAttempt (k + 1) = Options.default.salted (k + 1) := by
  have hstem : ("php_x" : Bytes) = Options.default.stem ++ [0x78] := by decide
  rw [defaultAttempt, defaultStem, if_neg (Nat.succ_ne_zero k), hstem]
  rfl

lemma attempts_default :
    Options.default.attempts = (List.range maxStemAttempts).map defaultAttempt := by
  have hretry : (fun i => Options.default.salted (i + 1)) = defaultAttempt ∘ Nat.succ := by
    funext i
    exact (defaultAttempt_succ i).symm
  have hrange : List.range maxStemAttempts =
      0 :: (List.range (maxStemAttempts - 1)).map Nat.succ := List.range_succ_eq_map
  rw [Options.attempts, hretry, hrange, List.map_cons, List.map_map]
  rfl

lemma mem_attempts_default {o : Options} :
    o ∈ Options.default.attempts ↔ ∃ k ≤ 31, o = defaultAttempt k := by
  rw [attempts_default, List.mem_map]
  constructor
  · rintro ⟨k,hk,rfl⟩
    exact ⟨k,Nat.le_of_lt_succ (List.mem_range.mp hk),rfl⟩
  · rintro ⟨k,hk,rfl⟩
    exact ⟨k,List.mem_range.mpr (Nat.lt_succ_of_le hk),rfl⟩

lemma legal_default : Options.default.Legal :=
  ((Options.validate_eq_ok_iff Options.default).mp (by decide)).1

lemma legal_defaultAttempt (k : Nat) : (defaultAttempt k).Legal := by
  cases k with
  | zero => exact legal_default
  | succ k =>
    rw [defaultAttempt_succ]
    exact legal_default.salted (k + 1)

lemma length_ofNat_le {n k : Nat} (hk : 0 < k) (h : n < 10 ^ k) : (Bytes.ofNat n).length ≤ k := by
  rw [Bytes.ofNat, List.length_map]
  exact (Nat.length_toDigits_le_iff (by decide) hk).mpr h

/-- There is room for every number of 63 bits. -/
lemma minimalWidth_defaultAttempt {k n : Nat} (hk : k ≤ 31) (hn : n < 2 ^ 63)
    (shape : Shape) :
    ((defaultAttempt k).minimalWidth n shape : Int) ≤ (defaultAttempt k).maxWidth := by
  have hnumber := length_ofNat_le (k := 19) (by decide) (Nat.lt_trans hn (by decide))
  have hretry := length_ofNat_le (n := k) (k := 2) (by decide) (by omega)
  have hstem : (defaultStem k).length ≤ 8 := by
    rw [defaultStem]
    split
    · decide
    · have hlead : ("php_x" : Bytes).length = 5 := by decide
      have hlast : ("_" : Bytes).length = 1 := by decide
      rw [List.length_append, List.length_append, hlead, hlast]
      omega
  have hshape : (lead shape).length + (tail shape).length ≤ 4 := by cases shape <;> decide
  have hwidth : (defaultAttempt k).maxWidth = 80 := rfl
  have hpayload : ((defaultAttempt k).payload n).length =
      (defaultStem k).length + (Bytes.ofNat n).length + 2 := by
    simp [Options.payload, defaultAttempt, Nat.add_assoc]
  rw [hwidth, Options.minimalWidth, hpayload]
  omega

/-! ## Stems in markup -/

/-- A token that begins inside such a text, or right behind it, does not go on with it. -/
def Detached : Bytes → Prop
  | [] => True
  | c :: z => c ≠ 0x3C ∧ (c = 0x5F → ∃ d y, z = d :: y ∧ d ≠ 0x70) ∧ Detached z

lemma detached_append {b z : Bytes} (hlt : 0x3C ∉ b) (hunderscore : 0x5F ∉ b) (h : Detached z) :
    Detached (b ++ z) := by
  induction b with
  | nil => exact h
  | cons c b ih =>
    rw [List.mem_cons, not_or] at hlt hunderscore
    exact ⟨Ne.symm hlt.1,fun hc => absurd hc.symm hunderscore.1,ih hlt.2 hunderscore.2⟩

lemma ne_of_isDigit {c d : UInt8} (hc : Bytes.isDigit c) (hd : Bytes.isDigit d = false) : c ≠ d := by
  rintro rfl
  rw [hc] at hd
  cases hd

lemma not_mem_ofNat {c : UInt8} (hc : Bytes.isDigit c = false) (n : Nat) : c ∉ Bytes.ofNat n := by
  intro hmem
  exact ne_of_isDigit (Bytes.isDigit_of_mem_ofNat hmem) hc rfl

lemma detached_stem (k : Nat) {d : UInt8} (hd : Bytes.isDigit d) :
    Detached (defaultStem k ++ [d]) := by
  have hlast : Detached [0x5F, d] :=
    ⟨by decide,fun _ => ⟨d,[],rfl,ne_of_isDigit hd (by decide)⟩,ne_of_isDigit hd (by decide),
      fun hc => absurd hc (ne_of_isDigit hd (by decide)),trivial⟩
  by_cases hk : k = 0
  · have hstem : defaultStem k ++ [d] = "php" ++ [0x5F, d] := by
      rw [defaultStem, if_pos hk]
      rfl
    rw [hstem]
    exact detached_append (by decide) (by decide) hlast
  · have hstem : defaultStem k ++ [d] =
        "php" ++ (0x5F :: 0x78 :: (Bytes.ofNat k ++ [0x5F, d])) := by
      rw [defaultStem, if_neg hk, List.append_assoc, List.append_assoc]
      rfl
    have hdigits : Detached (Bytes.ofNat k ++ [0x5F, d]) :=
      detached_append (not_mem_ofNat (by decide) k) (not_mem_ofNat (by decide) k) hlast
    rw [hstem]
    apply detached_append (by decide) (by decide)
    exact ⟨by decide,fun _ => ⟨0x78,_,rfl,by decide⟩,by decide,fun hc => absurd hc (by decide),
      hdigits⟩

end Token

lemma Token.Options.name_eq_append (o : Token.Options) (number : Nat) (shape : Shape) (padding : Nat) :
    o.name number shape padding = Token.lead shape ++
      (o.stem ++ (Bytes.ofNat number ++ (0x5F :: 0x5F :: List.replicate padding o.filler))) := by
  simp [name, payload]

section Parts
variable {o : Token.Options} {ts : List IssuedToken} {t : IssuedToken} {parts : List Part}
  {b z : Bytes} {k : Nat}

/-- What stands first in a token: `<` in a tag, `_` and the stem in an attribute. -/
lemma IssuedToken.IssuedBy.exists_written (h : t.IssuedBy o) (blanks : Bytes) :
    ∃ rest, t.written blanks = 0x3C :: rest ∨ t.written blanks = 0x5F :: (o.stem ++ rest) := by
  obtain ⟨p,hp,-⟩ := h.name_matcher
  rw [h.written_eq, hp, Token.Options.name_eq_append]
  match t.shape with
  | .tag => exact ⟨_,.inl rfl⟩
  | .attribute => exact ⟨_,.inr (List.append_nil _)⟩

/-- A match has the stem and a digit behind its first byte. -/
lemma IssuedToken.IssuedBy.stem_prefix_of_matchLength_pos (h : t.IssuedBy o) {c : UInt8}
    (hpos : 0 < t.matcher.matchLength (c :: b)) : ∃ d, Bytes.isDigit d ∧ o.stem ++ [d] <+: b := by
  obtain ⟨p,hp,-⟩ := h.name_matcher
  have hname := Matcher.name_prefix_of_matchLength_pos hpos
  have hdigits : Bytes.ofNat t.number ≠ [] := by
    rw [Bytes.ofNat, ne_eq, List.map_eq_nil_iff, ← List.length_eq_zero_iff]
    exact Nat.length_toDigits_pos.ne'
  obtain ⟨d,more,hd⟩ := List.exists_cons_of_ne_nil hdigits
  refine ⟨d,Bytes.isDigit_of_mem_ofNat (hd ▸ List.mem_cons_self ..),?_⟩
  have hlead : ∃ a, Token.lead t.shape = [a] := by cases t.shape <;> exact ⟨_,rfl⟩
  obtain ⟨a,ha⟩ := hlead
  rw [hp, Token.Options.name_eq_append, hd, ha, List.singleton_append] at hname
  refine List.IsPrefix.trans ?_ (List.cons_prefix_cons.mp hname).2
  rw [List.prefix_append_right_inj, List.cons_append, List.cons_prefix_cons]
  exact ⟨rfl,List.nil_prefix⟩

/-- Such a text at the front of a document with tokens ends before the first of them. -/
lemma Token.Detached.prefix_markup (hz : Token.Detached z)
    (hissued : ∀ t ∈ Part.tokens parts, t.IssuedBy o) (ho : ∃ rest, o.stem = 0x70 :: rest)
    (h : z <+: parts.flatMap Part.text) :
    ∃ first more, Region.segments (parts.map Part.chunk) = first :: more ∧ z <+: first := by
  induction parts generalizing z with
  | nil => exact ⟨[],[],rfl,h⟩
  | cons p parts ih =>
    cases z with
    | nil =>
      obtain ⟨first,more,hsegments⟩ := Region.exists_segments_eq_cons ((p :: parts).map Part.chunk)
      exact ⟨first,more,hsegments,List.nil_prefix⟩
    | cons c z =>
      obtain ⟨hlt,hunderscore,hz⟩ := hz
      cases p with
      | markup d =>
        obtain ⟨rfl,hrest⟩ := List.cons_prefix_cons.mp h
        obtain ⟨first,more,hsegments,hfirst⟩ := ih hz hissued hrest
        refine ⟨c :: first,more,?_,List.cons_prefix_cons.mpr ⟨rfl,hfirst⟩⟩
        rw [List.map_cons, Part.chunk, Region.segments, hsegments, List.modifyHead_cons]
      | token t blanks =>
        obtain ⟨x,hx⟩ := ho
        obtain ⟨rest,hw | hw⟩ := (hissued t (List.mem_cons_self ..)).exists_written blanks
        · rw [List.flatMap_cons, Part.text, hw] at h
          exact absurd (List.cons_prefix_cons.mp h).1 hlt
        · rw [List.flatMap_cons, Part.text, hw, hx] at h
          obtain ⟨hc,hrest⟩ := List.cons_prefix_cons.mp h
          obtain ⟨d,y,rfl,hd⟩ := hunderscore hc
          exact absurd (List.cons_prefix_cons.mp hrest).1 hd

/-- A piece of the markup holds the stem with a digit behind it. -/
def Region.Mentions (stem : Bytes) (chunks : List Chunk) : Prop :=
  ∃ segment ∈ segments chunks, ∃ d, Bytes.isDigit d ∧ stem ++ [d] <:+: segment

lemma Region.Mentions.cons {stem : Bytes} {chunks : List Chunk} (h : Mentions stem chunks)
    (chunk : Chunk) : Mentions stem (chunk :: chunks) := by
  obtain ⟨segment,hmem,d,hd,hfound⟩ := h
  cases chunk with
  | region text terminated => exact ⟨segment,List.mem_cons_of_mem _ hmem,d,hd,hfound⟩
  | markup c =>
    obtain ⟨first,more,hsegments⟩ := exists_segments_eq_cons chunks
    rw [hsegments] at hmem
    rw [Mentions, segments, hsegments, List.modifyHead_cons]
    obtain rfl | hmem := List.mem_cons.mp hmem
    · exact ⟨c :: segment,List.mem_cons_self ..,d,hd,hfound.trans (List.suffix_cons c segment).isInfix⟩
    · exact ⟨segment,List.mem_cons_of_mem _ hmem,d,hd,hfound⟩

/-- A document whose markup does not mention the stem holds its tokens only where they were put. -/
theorem IssuedToken.Series.quiet_of_not_mentions
    (h : IssuedToken.Series (Token.defaultAttempt k) ts) (hts : ∀ t ∈ Part.tokens parts, t ∈ ts)
    (hmentions : ¬Region.Mentions (Token.defaultStem k) (parts.map Part.chunk)) :
    Part.Quiet (ts.map IssuedToken.matcher) parts := by
  have hstem : ∃ rest, (Token.defaultAttempt k).stem = 0x70 :: rest := by
    rw [Token.defaultAttempt, Token.defaultStem]
    split
    · exact ⟨_,rfl⟩
    · exact ⟨_,by rw [List.append_assoc]; rfl⟩
  induction parts with
  | nil => exact Part.quiet_nil _
  | cons p parts ih =>
    have hrest : ¬Region.Mentions (Token.defaultStem k) (parts.map Part.chunk) := by
      intro hrest
      exact hmentions (hrest.cons _)
    cases p with
    | token t blanks =>
      exact Part.quiet_token_iff.mpr (ih (fun s hs => hts s (List.mem_cons_of_mem _ hs)) hrest)
    | markup c =>
      refine Part.quiet_markup_iff.mpr ⟨?_,ih hts hrest⟩
      intro m hm
      obtain ⟨t,ht,rfl⟩ := List.mem_map.mp hm
      by_contra hpos
      obtain ⟨d,hd,hstart⟩ :=
        (h.issued t ht).stem_prefix_of_matchLength_pos (Nat.pos_of_ne_zero hpos)
      have hissued : ∀ s ∈ Part.tokens parts, s.IssuedBy (Token.defaultAttempt k) :=
        fun s hs => h.issued s (hts s hs)
      obtain ⟨first,more,hsegments,hfirst⟩ :=
        (Token.detached_stem k hd).prefix_markup hissued hstem hstart
      apply hmentions
      refine ⟨c :: first,?_,d,hd,hfirst.isInfix.trans (List.suffix_cons c first).isInfix⟩
      rw [List.map_cons, Part.chunk, Region.segments, hsegments, List.modifyHead_cons]
      exact List.mem_cons_self ..

end Parts

/-! ## Trying stems -/

/-- The scan with these options gives a placeholder that restores to the document. -/
def Works (width : Bytes → Nat) (document : Bytes) (o : Token.Options) : Prop :=
  ∃ t, scan o width document = .ok t ∧ (restore t.placeholder t.map).text = document

section Attempts
variable {width : Bytes → Nat} {first last document : Bytes} {o : Token.Options}
  {os : List Token.Options} {k : Nat}

lemma tryStems_of_works (h : Works width document o) (more : List Token.Options) :
    ∃ t, scan o width document = .ok t ∧
      tryStems width first last document (o :: more) = .ok (t, o) := by
  obtain ⟨t,hscan,hrestore⟩ := h
  exact ⟨t,hscan,by rw [tryStems, hscan]; exact if_pos hrestore⟩

lemma tryStems_of_not_works {t : Tokenized} (hscan : scan o width document = .ok t)
    (h : ¬Works width document o) (more : List Token.Options) :
    tryStems width first last document (o :: more) =
      tryStems width first o.stem document more := by
  rw [tryStems, hscan]
  exact if_neg fun hrestore => h ⟨t,hscan,hrestore⟩

/-- The first attempt that works is taken, so none after one that works. -/
theorem tryStems_eq_ok_of_works {before : List Token.Options}
    (hscan : ∀ p ∈ before, ∃ t, scan p width document = .ok t) (h : Works width document o)
    (more : List Token.Options) :
    ∃ t, ∃ used ∈ before ++ [o],
      tryStems width first last document (before ++ o :: more) = .ok (t, used) := by
  induction before generalizing last with
  | nil =>
    obtain ⟨t,-,htry⟩ := tryStems_of_works h more
    exact ⟨t,o,List.mem_cons_self ..,htry⟩
  | cons p before ih =>
    by_cases hp : Works width document p
    · obtain ⟨t,-,htry⟩ := tryStems_of_works hp (before ++ o :: more)
      exact ⟨t,p,List.mem_cons_self ..,htry⟩
    · obtain ⟨t,hp'⟩ := hscan p (List.mem_cons_self ..)
      obtain ⟨t,used,hused,htry⟩ := ih fun q hq => hscan q (List.mem_cons_of_mem _ hq)
      refine ⟨t,used,List.mem_cons_of_mem _ hused,?_⟩
      rw [List.cons_append, tryStems_of_not_works hp' hp, htry]

/-- If all scans succeed, the stems run out only when no attempt works. -/
theorem tryStems_eq_error {e : TokenizeError}
    (hscan : ∀ p ∈ os, ∃ t, scan p width document = .ok t)
    (h : tryStems width first last document os = .error e) :
    e = .exhausted first ((os.map (·.stem)).getLastD last) ∧ ∀ p ∈ os, ¬Works width document p := by
  induction os generalizing last with
  | nil => exact ⟨(Except.error.inj h).symm,List.forall_mem_nil _⟩
  | cons p os ih =>
    by_cases hp : Works width document p
    · obtain ⟨t,-,htry⟩ := tryStems_of_works hp os
      rw [htry] at h
      cases h
    · obtain ⟨t,hp'⟩ := hscan p (List.mem_cons_self ..)
      rw [tryStems_of_not_works hp' hp] at h
      obtain ⟨he,hrest⟩ := ih (fun q hq => hscan q (List.mem_cons_of_mem _ hq)) h
      refine ⟨?_,List.forall_mem_cons.mpr ⟨hp,hrest⟩⟩
      rw [List.map_cons, List.getLastD_cons, he]

lemma exists_scan_defaultAttempt (width : Bytes → Nat) (hk : k ≤ 31)
    (hlength : document.length < 2 ^ 63) : ∃ t, scan (Token.defaultAttempt k) width document = .ok t := by
  apply exists_scan_eq_ok
  intro number hnumber shape
  exact Token.minimalWidth_defaultAttempt hk (Nat.lt_trans hnumber hlength) shape

/-- A stem that the markup does not mention works. -/
theorem works_of_not_mentions (hk : k ≤ 31) (hlength : document.length < 2 ^ 63)
    (h : ¬Region.Mentions (Token.defaultStem k) (Region.split document)) :
    Works width document (Token.defaultAttempt k) := by
  obtain ⟨t,hscan⟩ := exists_scan_defaultAttempt width hk hlength
  have hlaid := laidOut_of_scan_eq_ok (Token.legal_defaultAttempt k) hscan
  have hquiet : Part.Quiet (Matcher.ofMap t.map) (t.layout document) := by
    rw [hlaid.map, hlaid.series.ofMap_entries]
    rw [← hlaid.chunks] at h
    apply hlaid.series.quiet_of_not_mentions ?_ h
    intro s hs
    rwa [hlaid.tokens] at hs
  have hrestore := hlaid.restore_parts hlaid.fits hquiet hlaid.tokens
  rw [hlaid.placeholder, hlaid.source] at hrestore
  exact ⟨t,hscan,by rw [hrestore]⟩

lemma attempts_default_split (hk : k ≤ 31) : ∃ more, Token.Options.default.attempts =
    (List.range k).map Token.defaultAttempt ++ Token.defaultAttempt k :: more := by
  have hlt : k < (List.range maxStemAttempts).length := by
    rw [List.length_range]
    exact Nat.lt_succ_of_le hk
  have hsplit := List.take_append_drop k (List.range maxStemAttempts)
  rw [List.drop_eq_getElem_cons hlt, List.getElem_range, List.take_range, maxStemAttempts,
    Nat.min_eq_left (by omega)] at hsplit
  refine ⟨((List.range 32).drop (k + 1)).map Token.defaultAttempt,?_⟩
  rw [Token.attempts_default, maxStemAttempts, ← List.map_cons, ← List.map_append, hsplit]

lemma tokenizeWith_default (width : Bytes → Nat) (document : Bytes) :
    tokenizeWith width .default document = tryStems width (Token.defaultStem 0)
      (Token.defaultStem 0) document Token.Options.default.attempts := by
  have hvalid : Token.Options.default.validate = .ok () := by decide
  rw [tokenizeWith, hvalid]
  rfl

/-- A stem that the markup does not mention is used, or one before it. -/
theorem tokenizeWith_default_of_not_mentions (hk : k ≤ 31) (hlength : document.length < 2 ^ 63)
    (h : ¬Region.Mentions (Token.defaultStem k) (Region.split document)) :
    ∃ t, ∃ j ≤ k, tokenizeWith width .default document = .ok (t, Token.defaultAttempt j) := by
  obtain ⟨more,hattempts⟩ := attempts_default_split hk
  have hscan : ∀ p ∈ (List.range k).map Token.defaultAttempt,
      ∃ t, scan p width document = .ok t := by
    intro p hp
    obtain ⟨i,hi,rfl⟩ := List.mem_map.mp hp
    have hik := List.mem_range.mp hi
    exact exists_scan_defaultAttempt width (by omega) hlength
  rw [tokenizeWith_default, hattempts]
  obtain ⟨t,used,hused,htry⟩ :=
    tryStems_eq_ok_of_works hscan (works_of_not_mentions hk hlength h) more
  rw [htry]
  obtain hmem | hmem := List.mem_append.mp hused
  · obtain ⟨j,hj,rfl⟩ := List.mem_map.mp hmem
    exact ⟨t,j,Nat.le_of_lt (List.mem_range.mp hj),rfl⟩
  · exact ⟨t,k,Nat.le_refl k,by rw [List.mem_singleton.mp hmem]⟩

/-- What is not tokenized has a piece of markup for every stem. -/
theorem tokenizeWith_default_eq_error {e : TokenizeError} (hlength : document.length < 2 ^ 63)
    (h : tokenizeWith width .default document = .error e) :
    e = .exhausted (Token.defaultStem 0) (Token.defaultStem 31) ∧
      ∀ k ≤ 31, Region.Mentions (Token.defaultStem k) (Region.split document) := by
  have hscan : ∀ p ∈ Token.Options.default.attempts, ∃ t, scan p width document = .ok t := by
    intro p hp
    obtain ⟨k,hk,rfl⟩ := Token.mem_attempts_default.mp hp
    exact exists_scan_defaultAttempt width hk hlength
  rw [tokenizeWith_default] at h
  obtain ⟨he,hworks⟩ := tryStems_eq_error hscan h
  refine ⟨he,?_⟩
  intro k hk
  by_contra hmentions
  exact hworks _ (Token.mem_attempts_default.mpr ⟨k,hk,rfl⟩)
    (works_of_not_mentions hk hlength hmentions)

/-- Tokenizing fails with what the attempts fail with. -/
lemma tokenize_eq_error_iff {e : TokenizeError} :
    tokenize o document width = .error e ↔ tokenizeWith width o document = .error e := by
  rw [tokenize]
  cases tokenizeWith width o document with
  | ok out => exact ⟨nofun,nofun⟩
  | error e' => simp only [Except.map, Except.error.injEq]

/-- Tokenizing with the default options. A stem that the markup does not mention works, so it or an
earlier one is used, and each region of the document is replaced by a token with this stem; a
document fails only if its markup mentions them all. -/
theorem tokenize_default (width : Bytes → Nat) (hlength : document.length < 2 ^ 63) :
    (∀ k ≤ 31, ¬Region.Mentions (Token.defaultStem k) (Region.split document) →
      ∃ t, ∃ j ≤ k,
        tokenizeWith width .default document = .ok (t, Token.defaultAttempt j) ∧
        tokenize .default document width = .ok t ∧
        Region.RegionsFrom document 0 (t.tokens.map IssuedToken.located) ∧
        t.placeholder = IssuedToken.replaceRegions document 0 t.tokens ∧
        ∀ s ∈ t.tokens, ∃ padding, s.rendered =
          (Token.defaultAttempt j).name s.number s.shape padding ++ Token.tail s.shape) ∧
    ∀ e, tokenizeWith width .default document = .error e ∨
        tokenize .default document width = .error e →
      e = .exhausted (Token.defaultStem 0) (Token.defaultStem 31) ∧
      ∀ k ≤ 31, Region.Mentions (Token.defaultStem k) (Region.split document) := by
  constructor
  · intro k hk hmentions
    obtain ⟨t,j,hj,htry⟩ := tokenizeWith_default_of_not_mentions hk hlength hmentions
    obtain ⟨hlegal,hscan,-⟩ := tokenizeWith_eq_ok htry
    obtain ⟨hregions,hplaceholder⟩ := cuts_of_scan_eq_ok hscan
    refine ⟨t,j,hj,htry,by rw [tokenize, htry]; rfl,hregions,hplaceholder,?_⟩
    intro s hs
    exact ((laidOut_of_scan_eq_ok hlegal hscan).series.issued s hs).rendered
  · intro e he
    rw [tokenize_eq_error_iff, or_self] at he
    exact tokenizeWith_default_eq_error hlength he

/-- The markup of this document mentions the stem without salt, and no other. -/
theorem tokenize_default_sampleDocument :
    sampleDocument.length < 2 ^ 63 ∧
    ¬Region.Mentions (Token.defaultStem 1) (Region.split sampleDocument) ∧
    tokenizeWith List.length .default sampleDocument =
      .ok (sampleTokenized, Token.defaultAttempt 1) ∧
    tokenize .default sampleDocument List.length = .ok sampleTokenized ∧
    Region.RegionsFrom sampleDocument 0 [(⟨11, "<?= 1 ?>"⟩, true), (⟨25, "<?= 2 ?>"⟩, true)] ∧
    IssuedToken.replaceRegions sampleDocument 0 [sampleTag, sampleAttribute] =
      "<php_0__ /><php_x1_0__ /><b id=_php_x1_1__>" ∧
    ∀ s ∈ [sampleTag, sampleAttribute], ∃ padding, s.rendered =
      (Token.defaultAttempt 1).name s.number s.shape padding ++ Token.tail s.shape := by
  have hlength : sampleDocument.length < 2 ^ 63 := by decide
  have habsent : ∀ segment ∈ Region.segments (Region.split sampleDocument),
      ¬Token.defaultStem 1 <:+: segment := by decide +kernel
  have hmentions : ¬Region.Mentions (Token.defaultStem 1) (Region.split sampleDocument) := by
    rintro ⟨segment,hmem,d,-,hfound⟩
    exact habsent segment hmem ((List.prefix_append _ [d]).isInfix.trans hfound)
  have hsample : tokenizeWith List.length .default sampleDocument =
      .ok (sampleTokenized, Token.defaultAttempt 1) := by
    rw [Token.defaultAttempt_succ]
    exact tokenizeWith_sampleDocument
  obtain ⟨t,j,-,htry,htokenize,hregions,hplaceholder,hrendered⟩ :=
    (tokenize_default List.length hlength).1 1 (by decide) hmentions
  obtain ⟨rfl,hused⟩ := Prod.mk.inj (Except.ok.inj (htry.symm.trans hsample))
  rw [hused] at hrendered
  exact ⟨hlength,hmentions,hsample,htokenize,hregions,hplaceholder.symm,hrendered⟩

end Attempts
end Stencil
