import Stencil.Proofs.Markup.Reading

/-! The regions of a well-formed document get the contexts its grammar gives them: those in tags
count as parts of attributes, those in comments and in raw text as raw text, all others stand on
their own. -/
namespace Stencil

namespace Markup
open Grammar

section Tag
variable {name x : Bytes}

/-- What may follow a part of a start tag. -/
def Delimited (x : Bytes) : Prop :=
  ∃ c ∈ x.head?, c = 0x3C ∨ c = 0x3E ∨ c = 0x2F ∨ isTagBlank c

lemma delimited_cons {c : UInt8} (h : c = 0x3C ∨ c = 0x3E ∨ c = 0x2F ∨ isTagBlank c) :
    Delimited (c :: x) := ⟨c,rfl,h⟩

lemma Delimited.breaks (hx : Delimited x) : Breaks x := by
  obtain ⟨c,hc,h⟩ := hx
  obtain ⟨y,rfl⟩ := List.head?_eq_some_iff.mp hc
  exact breaks_cons (by tauto)

lemma Delimited.not_isNameByte (hx : Delimited x) : ∀ c ∈ x.head?, isNameByte c = false := by
  obtain ⟨c,hc,h⟩ := hx
  intro d hd
  obtain rfl : c = d := Option.some.inj (hc.symm.trans hd)
  obtain rfl | rfl | rfl | h := h
  · decide
  · decide
  · decide
  · obtain rfl | rfl | rfl | rfl := isTagBlank_cases h <;> decide

lemma delimited_blanks_append {b : Bytes} (hb : ∀ c ∈ b, isTagBlank c)
    (hx : b = [] → Delimited x) : Delimited (b ++ x) := by
  cases b with
  | nil => exact hx rfl
  | cons c b => exact delimited_cons (by simp [hb c])

lemma head?_unquoted (m : Mixed Unquoted) : ∀ c ∈ m.text.head?, ¬ Bytes.isSpace c := by
  obtain ⟨first,more⟩ := m
  intro c hc
  cases hfirst : first.text with
  | cons d b =>
    obtain rfl : d = c := by simpa [Mixed.text, hfirst] using hc
    exact (first.isOk.noEnd d (by simp [hfirst])).1
  | nil =>
    cases more with
    | nil => simp [Mixed.text, hfirst] at hc
    | cons part more =>
      obtain ⟨y,hy⟩ := exists_text_eq part.1
      obtain rfl : 0x3C = c := by simpa [Mixed.text, hfirst, hy] using hc
      decide

lemma yields_quoted {q : UInt8} (hq : IsQuote q) (content : Mixed (q ∉ ·)) :
    Yields (.tag name none true) (q :: content.text ++ [q]) (content.regions.map (·, .inAttribute))
      (.tag name none false) x := by
  have hne : q ≠ 0x3C := by
    obtain rfl | rfl := hq <;> decide
  have hcontent : Yields (.tag name none true) (q :: content.text)
      (content.regions.map (·, .inAttribute)) (.tag name (some q) false) (q :: x) := by
    refine .cons (Region.openerLength_of_ne hne _) (fun _ => ?_) (yields_quoted_content hq content)
    obtain rfl | rfl := hq <;> rfl
  refine hcontent.concat (Region.openerLength_of_ne hne _) fun _ => ?_
  simp [step, stepTag]

lemma yields_value (v : Value) (hx : Breaks x) : Yields (.tag name none true) v.text
    (v.regions.map (·, .inAttribute)) (.tag name none false) x := by
  cases v with
  | quoted q hq content => exact yields_quoted hq content
  | unquoted content starts ends =>
    have hhead : ∃ c ∈ (content.text ++ x).head?, ¬ IsQuote c ∧ ¬ Bytes.isSpace c := by
      obtain ⟨c,hc,hquote⟩ := starts
      refine ⟨c,?_,hquote,head?_unquoted content c hc⟩
      rw [List.head?_append, hc]
      rfl
    exact (yields_unquoted_content content ends hx).of_atValue hhead

lemma yields_attribute (a : Attribute) (hx : Breaks x) : Yields (.tag name none false) a.text
    (a.regions.map (·, .inAttribute)) (.tag name none false) x := by
  have hname {y : Bytes} : Yields (.tag name none false) a.name [] (.tag name none false) y := by
    refine yields_plain fun c hc => ?_
    obtain ⟨heq,hgt,-,hlt,-⟩ := a.isName c hc
    exact ⟨hlt,heq,hgt⟩
  unfold Attribute.text Attribute.regions
  split
  · exact hname
  · next before after v _ =>
    have heq : Yields (.tag name none false) (0x3D :: after.text) [] (.tag name none true)
        (v.text ++ x) :=
      .cons (Region.openerLength_of_ne (by decide) _) (fun _ => rfl) (yields_blanks after true)
    exact ((hname.append (yields_blanks before false)).append heq).append (yields_value v hx)

lemma yields_tagPart (p : TagPart) (hx : Breaks x) : Yields (.tag name none false) p.text
    (p.regions.map (·, .inAttribute)) (.tag name none false) x := by
  match p with
  | .attribute a => exact yields_attribute a hx
  | .region r => exact yields_embedded r (.tag name none false) x

lemma delimited_parts (parts : List (Gap × TagPart)) (hx : Delimited x) :
    Delimited ((parts.flatMap fun (gap, part) => gap.text ++ part.text) ++ x) := by
  cases parts with
  | nil => exact hx
  | cons part parts =>
    obtain ⟨gap,part⟩ := part
    rw [List.flatMap_cons, List.append_assoc, List.append_assoc]
    exact delimited_blanks_append gap.isBlank fun h => absurd h gap.nonempty

lemma yields_parts (parts : List (Gap × TagPart)) (hx : Delimited x) :
    Yields (.tag name none false) (parts.flatMap fun (gap, part) => gap.text ++ part.text)
      ((parts.flatMap fun (_, part) => part.regions).map (·, .inAttribute))
      (.tag name none false) x := by
  induction parts with
  | nil => exact .nil _ x
  | cons part parts ih =>
    obtain ⟨gap,part⟩ := part
    have hrest := (delimited_parts parts hx).breaks
    rw [List.flatMap_cons, List.flatMap_cons, List.map_append]
    exact ((yields_blanks gap.toBlanks false).append (yields_tagPart part hrest)).append ih

lemma isNameByte_of_mem (n : TagName) : ∀ c ∈ n.text, isNameByte c := by
  intro c hc
  obtain rfl | hrest := List.mem_cons.mp hc
  · simp [isNameByte, n.isLetter]
  · exact n.isName c hrest

/-- Names are no markup of a tag. -/
lemma yields_tagName (n : TagName) :
    Yields (.tag name none false) n.text [] (.tag name none false) x := by
  refine yields_plain fun c hc => ⟨?_,?_,?_⟩
  all_goals
    rintro rfl
    exact absurd (isNameByte_of_mem n _ hc) (by decide)

lemma startTagName_append (n : TagName) (hx : ∀ c ∈ x.head?, isNameByte c = false) :
    startTagName (n.text ++ x) = n.lower := by
  have htail : x.takeWhile isNameByte = [] := by
    cases x with
    | nil => rfl
    | cons c x => exact List.takeWhile_cons_of_neg (by rw [hx c rfl]; decide)
  rw [startTagName, List.takeWhile_append_of_pos (isNameByte_of_mem n), htail, List.append_nil]
  rfl

lemma openerLength_lt_of_ne {d : UInt8} (h : d ≠ 0x3F) (y : Bytes) :
    Region.openerLength (0x3C :: d :: y) = 0 := by
  by_contra hpos
  obtain ⟨p,hp,hpre⟩ := Region.openerLength_pos_iff.mp (Nat.pos_of_ne_zero hpos)
  cases hp <;> exact h (List.cons_prefix_cons.mp (List.cons_prefix_cons.mp hpre).2).1.symm

/-- A `<` in text that opens a tag and no comment. -/
lemma yields_lt {d : UInt8} {y : Bytes} (hd : Bytes.isLetter d ∨ d = 0x2F ∨ d = 0x21)
    (hcomment : ¬ commentOpen <+: 0x3C :: d :: y) :
    Yields .text [0x3C] [] (.tag (startTagName (d :: y)) none false) (d :: y) := by
  have hne : d ≠ 0x3F := by
    rintro rfl
    exact absurd hd (by decide)
  have hopens : opensTag (d :: y) := by
    simp only [opensTag, Bool.or_eq_true, beq_iff_eq]
    tauto
  refine .read (openerLength_lt_of_ne hne y) fun _ => ?_
  simp [step, hcomment, hopens]

lemma yields_startTagName (n : TagName) (hx : ∀ c ∈ x.head?, isNameByte c = false) :
    Yields .text (0x3C :: n.text) [] (.tag n.lower none false) x := by
  have hcomment : ¬ commentOpen <+: 0x3C :: n.first :: (n.rest ++ x) := by
    intro h
    have hfirst := (List.cons_prefix_cons.mp (List.cons_prefix_cons.mp h).2).1
    exact absurd (hfirst ▸ n.isLetter) (by decide)
  have hlt := yields_lt (.inl n.isLetter) hcomment
  rw [← startTagName_append n hx]
  exact hlt.append (yields_tagName n)

lemma delimited_touching (touching : Option Embedded) (hx : Delimited x) :
    Delimited (touching.elim [] Embedded.text ++ x) := by
  cases touching with
  | none => exact hx
  | some r =>
    obtain ⟨y,hy⟩ := exists_text_eq r
    exact ⟨0x3C,by simp [hy],.inl rfl⟩

lemma yields_touching (touching : Option Embedded) :
    Yields (.tag name none false) (touching.elim [] Embedded.text)
      ((touching.toList.map Embedded.text).map (·, .inAttribute)) (.tag name none false) x := by
  cases touching with
  | none => exact .nil _ x
  | some r => exact yields_embedded r (.tag name none false) x

/-- A start tag is read up to the `/` or `>` at its end. -/
theorem yields_startTag (t : StartTag) (hx : Delimited x) : Yields .text t.text
    (t.regions.map (·, .inAttribute)) (.tag t.name.lower none false) x := by
  have hblanks := delimited_blanks_append t.blanks.isBlank fun _ => hx
  have hparts := delimited_parts t.parts hblanks
  have hname := yields_startTagName t.name (delimited_touching t.touching hparts).not_isNameByte
  rw [StartTag.regions, List.map_append, ← List.append_nil (_ ++ _)]
  exact ((hname.append (yields_touching t.touching)).append
    (yields_parts t.parts hblanks)).append (yields_blanks t.blanks false)

/-- The `>` of a start tag ends it; raw text follows if the element has it and no `/` closed it. -/
lemma step_gt (readRev after : Bytes) : step (.tag name none false) readRev 0x3E after =
    (if rawTextElements.contains name && !selfClosed readRev then .rawText name else .text, 1) :=
  rfl

/-- An end tag after its `<`. -/
lemma yields_endTag (n : TagName) (blanks : Blanks) : Yields (.tag [] none false)
    (0x2F :: n.text ++ blanks.text ++ [0x3E]) [] .text x := by
  have hname : Yields (.tag [] none false) (0x2F :: n.text) [] (.tag [] none false)
      (blanks.text ++ 0x3E :: x) :=
    .cons (Region.openerLength_of_ne (by decide) _) (fun _ => rfl) (yields_tagName n)
  refine (hname.append (yields_blanks blanks false)).concat ?_ fun _ => step_gt _ _
  exact Region.openerLength_of_ne (by decide) _

lemma exists_of_selfClosed {b : Bytes} (h : selfClosed b) :
    ∃ blanks rest, b = blanks ++ 0x2F :: rest ∧ ∀ c ∈ blanks, isTagBlank c := by
  induction b with
  | nil => contradiction
  | cons c b ih =>
    rw [selfClosed_cons] at h
    split at h
    · next hc =>
      obtain ⟨blanks,rest,rfl,hblanks⟩ := ih h
      exact ⟨c :: blanks,rest,rfl,List.forall_mem_cons.mpr ⟨hc,hblanks⟩⟩
    · obtain rfl : c = 0x2F := by simpa using h
      exact ⟨[],b,rfl,by simp⟩

/-- Looking back over the start tag of an element with raw text, no `/` is found. -/
lemma not_selfClosed_startTag (e : RawElement) (readRev : Bytes) :
    selfClosed (e.tag.text.reverse ++ readRev) = false := by
  by_contra h
  obtain ⟨blanks,rest,hsplit,hblanks⟩ := exists_of_selfClosed (Bool.not_eq_false _ ▸ h)
  -- the tag starts with a `<`, so looking back stops inside it
  have hlt : 0x3C ∉ blanks := fun hmem => absurd (hblanks _ hmem) (by decide)
  have hmem : 0x3C ∈ e.tag.text.reverse := by simp [StartTag.text]
  obtain ⟨w,hw,-⟩ | ⟨w,hw,hrest⟩ := List.append_eq_append_iff.mp hsplit
  · exact hlt (hw ▸ List.mem_append_left w hmem)
  · cases w with
    | nil => exact hlt (by simpa [hw] using hmem)
    | cons d w =>
      obtain rfl := (List.cons.inj hrest).1
      refine e.isOpen w.reverse blanks.reverse ?_ fun c hc => hblanks c (List.mem_reverse.mp hc)
      rw [← List.reverse_reverse e.tag.text, hw]
      simp

end Tag

section Item
variable {x : Bytes}

lemma not_isLetter_of_isDigit {c : UInt8} (h : Bytes.isDigit c) : Bytes.isLetter c = false := by
  simp only [Bytes.isDigit, Bool.and_eq_true, decide_eq_true_eq] at h
  simp only [Bytes.isLetter, Bytes.isLower, Bytes.isUpper]
  grind

/-- A `<` before a space or a digit is text. -/
lemma step_text_lt {d : UInt8} (h : d = 0x20 ∨ Bytes.isDigit d) (readRev y : Bytes) :
    step .text readRev 0x3C (d :: y) = (.text, 1) := by
  have hne (e : UInt8) (he : ¬ (e = 0x20 ∨ Bytes.isDigit e)) : d ≠ e := fun hde => he (hde ▸ h)
  have hletter : Bytes.isLetter d = false := by
    obtain rfl | h := h
    · decide
    · exact not_isLetter_of_isDigit h
  have hopen := Region.openerLength_of_ne (hne 0x3C (by decide)) y
  simp [step, commentOpen, opensTag, hletter, hopen, hne 0x21 (by decide), hne 0x2F (by decide),
    hne 0x3F (by decide), (hne 0x21 (by decide)).symm]

lemma yields_run {b : Bytes} (h : isTextRun b) : Yields .text b [] .text x := by
  induction b with
  | nil => exact .nil .text x
  | cons c b ih =>
    simp only [isTextRun, Bool.and_eq_true, Bool.or_eq_true, bne_iff_ne] at h
    obtain ⟨hc,hb⟩ := h
    by_cases hlt : c = 0x3C
    · subst hlt
      cases b with
      | nil => simp at hc
      | cons d b =>
        have hd : d = 0x20 ∨ Bytes.isDigit d := by simpa using hc
        have hne : d ≠ 0x3F := by
          rintro rfl
          exact absurd hd (by decide)
        exact .cons (openerLength_lt_of_ne hne _) (fun readRev => step_text_lt hd readRev _) (ih hb)
    · exact .cons (Region.openerLength_of_ne hlt _) (fun _ => by simp [step, hlt]) (ih hb)

lemma yields_comment (content : Mixed (¬ commentClose <:+: ·)) :
    Yields .text (commentOpen ++ content.text ++ commentClose)
      (content.regions.map (·, .inRawText)) .text x := by
  have hopen : Yields .text commentOpen [] .comment (content.text ++ (commentClose ++ x)) :=
    .read rfl fun _ => rfl
  have hclose : Yields .comment commentClose [] .text x := .read rfl fun _ => rfl
  rw [← List.append_nil (content.regions.map _)]
  exact (hopen.append (yields_comment_content content x)).append hclose

lemma yields_declaration (n : TagName) {b : Bytes}
    (hb : ∀ c ∈ b, c ≠ 0x3D ∧ c ≠ 0x3E ∧ c ≠ 0x3C) :
    Yields .text (0x3C :: 0x21 :: n.text ++ b ++ [0x3E]) [] .text x := by
  have hcomment : ¬ commentOpen <+: 0x3C :: 0x21 :: (n.text ++ (b ++ 0x3E :: x)) := by
    intro h
    have hrest := (List.cons_prefix_cons.mp (List.cons_prefix_cons.mp h).2).2
    have hfirst := (List.cons_prefix_cons.mp hrest).1
    exact absurd (hfirst ▸ n.isLetter) (by decide)
  have hlt := yields_lt (.inr (.inr rfl)) hcomment
  have hbang : Yields (.tag [] none false) [0x21] [] (.tag [] none false)
      (n.text ++ (b ++ 0x3E :: x)) := yields_plain (by simp)
  have hrest : Yields (.tag [] none false) b [] (.tag [] none false) (0x3E :: x) :=
    yields_plain fun c hc => ⟨(hb c hc).2.2,(hb c hc).1,(hb c hc).2.1⟩
  have hinside := ((hlt.append hbang).append (yields_tagName n)).append hrest
  exact hinside.concat (Region.openerLength_of_ne (by decide) _) fun _ => step_gt _ _

lemma yields_startTag_end (t : StartTag) (slash : Bool)
    (h : t.name.lower ∈ rawTextElements → slash) :
    Yields .text (t.text ++ (if slash then [0x2F] else []) ++ [0x3E])
      (t.regions.map (·, .inAttribute)) .text x := by
  have hgt := Region.openerLength_of_ne (c := 0x3E) (by decide) x
  cases slash with
  | false =>
    have hname : t.name.lower ∉ rawTextElements := fun hmem => Bool.false_ne_true (h hmem)
    rw [if_neg Bool.false_ne_true, List.append_nil]
    refine (yields_startTag t (delimited_cons (by simp))).concat hgt fun _ => ?_
    simp [step_gt, hname]
  | true =>
    have hslash : Yields (.tag t.name.lower none false) [0x2F] [] (.tag t.name.lower none false)
        (0x3E :: x) := yields_plain (by simp)
    have htag := (yields_startTag t (delimited_cons (by simp))).append hslash
    rw [List.append_nil] at htag
    refine htag.concat hgt fun _ => ?_
    have hclosed (readRev : Bytes) : selfClosed (0x2F :: readRev) := selfClosed_cons 0x2F readRev
    simp [step_gt, hclosed]

lemma closesRawText_close (e : RawElement) : closesRawText e.tag.name.lower
    (0x3C :: (0x2F :: e.close.text ++ e.blanks.text ++ [0x3E] ++ x)) := by
  refine closesRawText_iff.mpr
    ⟨0x3C :: 0x2F :: e.close.text,e.blanks.text ++ 0x3E :: x,by simp,?_,fun c hc => ?_⟩
  · rw [toLower_of_mem_rawTextElements e.isRaw, ← e.sameName]
    rfl
  · cases hblanks : e.blanks.text with
    | nil =>
      obtain rfl : 0x3E = c := by simpa [hblanks] using hc
      simp [EndsName]
    | cons d b =>
      obtain rfl : d = c := by simpa [hblanks] using hc
      obtain rfl | rfl | rfl | rfl := isTagBlank_cases (e.blanks.isBlank d (by simp [hblanks]))
      all_goals simp [EndsName]

lemma yields_rawElement (e : RawElement) : Yields .text e.text
    (e.tag.regions.map (·, .inAttribute) ++ e.content.regions.map (·, .inRawText)) .text x := by
  have htext : e.text = e.tag.text ++ [0x3E] ++ (e.content.text ++ ([0x3C] ++
      (0x2F :: e.close.text ++ e.blanks.text ++ [0x3E]))) := by
    simp [RawElement.text]
  have htag {y : Bytes} : Yields .text (e.tag.text ++ [0x3E]) (e.tag.regions.map (·, .inAttribute))
      (.rawText e.tag.name.lower) y := by
    refine (yields_startTag e.tag (delimited_cons (by simp))).concat
      (Region.openerLength_of_ne (by decide) _) fun _ => ?_
    simp [step_gt, e.isRaw, not_selfClosed_startTag e]
  have hlt : Yields (.rawText e.tag.name.lower) [0x3C] [] (.tag [] none false)
      (0x2F :: e.close.text ++ e.blanks.text ++ [0x3E] ++ x) :=
    .read (openerLength_lt_of_ne (by decide) _) fun _ => step_endTag (closesRawText_close e)
  have hclose := hlt.append (yields_endTag e.close e.blanks)
  have hcontent := (yields_rawText_content e.isRaw e.content _).append hclose
  rw [htext, ← List.append_nil (e.content.regions.map _)]
  exact htag.append hcontent

/-- Every item is read from text to text. -/
theorem yields_item (i : Item) : Yields .text i.text i.regions .text x := by
  cases i with
  | run b isText => exact yields_run isText
  | region r => exact yields_embedded r .text x
  | comment content => exact yields_comment content
  | declaration name b noEnd => exact yields_declaration name noEnd
  | endTag name blanks =>
    have hcomment (y : Bytes) : ¬ commentOpen <+: 0x3C :: 0x2F :: y := by simp [commentOpen]
    exact (yields_lt (.inr (.inl rfl)) (hcomment _)).append (yields_endTag name blanks)
  | startTag t slash isPlain => exact yields_startTag_end t slash isPlain
  | rawElement e => exact yields_rawElement e

/-- The regions of a well-formed document are classified by its grammar. -/
theorem classify_document (d : Document) : classify .text [] d.text = d.regions := by
  have h : Yields .text d.text d.regions .text [] := by
    induction d with
    | nil => exact .nil .text []
    | cons i d ih => exact (yields_item i).append ih
  simpa using h []

end Item
end Markup

/-- Tokenizing a well-formed document gives its regions the contexts of its grammar, in order, and
tokens of the shapes that go with them. -/
theorem regions_tokenized_document {width : Bytes → Nat} {o used : Token.Options} {t : Tokenized}
    (d : Grammar.Document) (h : tokenizeWith width o d.text = .ok (t, used)) :
    t.tokens.map (fun s => (s.region.span.text, s.region.context)) = d.regions ∧
    ∀ s ∈ t.tokens, s.shape = s.region.context.shape := by
  obtain ⟨ho,hscan,-⟩ := tokenizeWith_eq_ok h
  constructor
  · rw [classify_of_scan_eq_ok ho hscan, Markup.classify_document]
  · intro s hs
    exact ((laidOut_of_scan_eq_ok ho hscan).series.issued s hs).shape

section Sample
open Grammar

def sampleRegion : Embedded := ⟨"<?="," 1 ",.echo,by decide⟩

def sampleBlanks : Blanks := ⟨[],by simp⟩

/-- The tag `<a b="c=<?= 1 ?>"` up to its end. -/
def sampleStartTag : StartTag where
  name := ⟨0x61,[],by decide,by simp⟩
  touching := none
  parts := [(⟨⟨[0x20],by simp [Markup.isTagBlank]⟩,by simp⟩, .attribute {
    name := [0x62]
    nonempty := by simp
    isName := by simp [Bytes.isSpace]
    value := some (sampleBlanks, sampleBlanks, .quoted 0x22 (.inl rfl)
      ⟨⟨"c=",by decide,by decide⟩,[(sampleRegion, ⟨[],by decide,by decide⟩)]⟩) })]
  blanks := sampleBlanks

/-- The element `<Title><?= 1 ?></title>`. -/
def sampleTitle : RawElement where
  tag := ⟨⟨0x54,"itle",by decide,List.all_eq_true.mp (by decide)⟩,none,[],sampleBlanks⟩
  isRaw := by decide
  isOpen before blanks h := by
    have hmem : 0x2F ∈ before ++ 0x2F :: blanks := by simp
    exact absurd (h ▸ hmem) (by decide)
  content := ⟨⟨[],by decide,by simp [NoEndTag]⟩,
    [(sampleRegion, ⟨[],by decide,by simp [NoEndTag]⟩)]⟩
  close := ⟨0x74,"itle",by decide,List.all_eq_true.mp (by decide)⟩
  sameName := by decide
  blanks := sampleBlanks

def sampleMarkup : Document :=
  [.run "1 < 2" (by decide), .region sampleRegion, .startTag sampleStartTag true fun _ => rfl,
    .rawElement sampleTitle]

def sampleMarkupTokenized : Tokenized where
  placeholder := "1 < 2<php_0__ /><a b=\"c=_php_1__\"/><Title>_php_2__</title>"
  map := ⟨[("<php_0__ />", "<?= 1 ?>"), ("_php_1__", "<?= 1 ?>"), ("_php_2__", "<?= 1 ?>")]⟩
  tokens := [
    ⟨0, .tag, "<php_0__ />", ⟨⟨5, "<?= 1 ?>"⟩, .standalone, true⟩⟩,
    ⟨1, .attribute, "_php_1__", ⟨⟨21, "<?= 1 ?>"⟩, .inAttribute, true⟩⟩,
    ⟨2, .attribute, "_php_2__", ⟨⟨39, "<?= 1 ?>"⟩, .inRawText, true⟩⟩]

theorem regions_sampleMarkupTokenized :
    sampleMarkup.text = Bytes.ofString "1 < 2<?= 1 ?><a b=\"c=<?= 1 ?>\"/><Title><?= 1 ?></title>" ∧
    tokenizeWith List.length .default sampleMarkup.text =
      .ok (sampleMarkupTokenized, Token.Options.default) ∧
    sampleMarkupTokenized.tokens.map (fun s => (s.region.span.text, s.region.context)) =
      [.standalone, .inAttribute, .inRawText].map (sampleRegion.text, ·) ∧
    ∀ s ∈ sampleMarkupTokenized.tokens, s.shape = s.region.context.shape := by
  have h : tokenizeWith List.length .default sampleMarkup.text =
      .ok (sampleMarkupTokenized, Token.Options.default) := by decide +kernel
  obtain ⟨hregions,hshapes⟩ := regions_tokenized_document sampleMarkup h
  exact ⟨by decide,h,hregions,hshapes⟩

end Sample
end Stencil
