import Stencil.Proofs.Scan.Regions

/-! Well-formed documents: text, regions, comments, tags, and elements with raw text. Regions may
stand between all of these, in comments, in raw text and inside start tags. Each piece carries the
proof that it is well-formed, its text, and the regions in it with the contexts they are to have. -/
namespace Stencil.Grammar

/-- A region runs from its opener through the first closer. -/
structure Embedded where
  opener : Bytes
  body : Bytes
  isOpener : Region.Opener opener
  noCloser : ¬ Region.closer <:+: body

def Embedded.text (r : Embedded) : Bytes := r.opener ++ r.body ++ Region.closer

/-- Nowhere in the text does a region start. -/
def NoOpener (b : Bytes) : Prop := ∀ p, Region.Opener p → ¬ p <:+: b

lemma noOpener_iff {b : Bytes} : NoOpener b ↔ ∀ t ∈ b.tails, Region.openerLength t = 0 := by
  constructor
  · intro h t ht
    by_contra hpos
    obtain ⟨p,hp,hpre⟩ := Region.openerLength_pos_iff.mp (Nat.pos_of_ne_zero hpos)
    exact h p hp (hpre.isInfix.trans ((List.mem_tails t b).mp ht).isInfix)
  · rintro h p hp ⟨before,after,rfl⟩
    have hsuffix : p ++ after <:+ before ++ p ++ after := by simp
    have hzero := h _ ((List.mem_tails _ _).mpr hsuffix)
    rw [Region.openerLength_append hp] at hzero
    cases hp <;> simp at hzero

instance (b : Bytes) : Decidable (NoOpener b) := decidable_of_iff _ noOpener_iff.symm

/-- A piece of literal text. -/
structure Literal (ok : Bytes → Prop) where
  text : Bytes
  noOpener : NoOpener text
  isOk : ok text

/-- Literal text with regions in it, so that no two literal pieces are side by side. -/
structure Mixed (ok : Bytes → Prop) where
  first : Literal ok
  more : List (Embedded × Literal ok)

namespace Mixed
variable {ok : Bytes → Prop}

def text (m : Mixed ok) : Bytes := m.first.text ++ m.more.flatMap fun (r, l) => r.text ++ l.text

def regions (m : Mixed ok) : List Bytes := m.more.map fun (r, _) => r.text

end Mixed

/-- Spaces, tabs and line ends, or nothing. -/
structure Blanks where
  text : Bytes
  isBlank : ∀ c ∈ text, Markup.isTagBlank c

/-- At least one blank. -/
structure Gap extends Blanks where
  nonempty : text ≠ []

structure TagName where
  first : UInt8
  rest : Bytes
  isLetter : Bytes.isLetter first
  isName : ∀ c ∈ rest, Markup.isNameByte c

namespace TagName

def text (n : TagName) : Bytes := n.first :: n.rest

def lower (n : TagName) : Bytes := Bytes.toLower n.text

end TagName

def IsQuote (c : UInt8) : Prop := c = 0x22 ∨ c = 0x27

/-- A value without quotes ends at white space or `>`. A quote right after an `=` would open a
quoted value. -/
structure Unquoted (b : Bytes) : Prop where
  noEnd : ∀ c ∈ b, ¬ Bytes.isSpace c ∧ c ≠ 0x3E
  noQuote : ∀ q, IsQuote q → ¬ [0x3D, q] <:+: b

inductive Value where
  | quoted (quote : UInt8) (isQuote : IsQuote quote) (content : Mixed (quote ∉ ·))
  | unquoted (content : Mixed Unquoted) (starts : ∃ c ∈ content.text.head?, ¬ IsQuote c)
      (ends : content.text.getLast? ≠ some 0x3D)

namespace Value

def text : Value → Bytes
  | .quoted quote _ content => quote :: content.text ++ [quote]
  | .unquoted content _ _ => content.text

def regions : Value → List Bytes
  | .quoted _ _ content => content.regions
  | .unquoted content _ _ => content.regions

end Value

structure Attribute where
  name : Bytes
  nonempty : name ≠ []
  isName : ∀ c ∈ name, c ≠ 0x3D ∧ c ≠ 0x3E ∧ c ≠ 0x2F ∧ c ≠ 0x3C ∧ ¬ Bytes.isSpace c
  /-- The value, with the blanks before and after the `=`. -/
  value : Option (Blanks × Blanks × Value)

namespace Attribute

def text (a : Attribute) : Bytes :=
  match a.value with
  | none => a.name
  | some (before, after, v) => a.name ++ before.text ++ 0x3D :: after.text ++ v.text

def regions (a : Attribute) : List Bytes :=
  match a.value with
  | none => []
  | some (_, _, v) => v.regions

end Attribute

/-- What may stand in a start tag after its name. -/
inductive TagPart where
  | attribute (a : Attribute)
  | region (r : Embedded)

namespace TagPart

def text : TagPart → Bytes
  | .attribute a => a.text
  | .region r => r.text

def regions : TagPart → List Bytes
  | .attribute a => a.regions
  | .region r => [r.text]

end TagPart

/-- A start tag up to its end. -/
structure StartTag where
  name : TagName
  /-- A region right after the name. -/
  touching : Option Embedded
  parts : List (Gap × TagPart)
  blanks : Blanks

namespace StartTag

def text (t : StartTag) : Bytes :=
  0x3C :: t.name.text ++ t.touching.elim [] Embedded.text
    ++ (t.parts.flatMap fun (gap, part) => gap.text ++ part.text) ++ t.blanks.text

def regions (t : StartTag) : List Bytes :=
  t.touching.toList.map Embedded.text ++ t.parts.flatMap fun (_, part) => part.regions

end StartTag

/-- A `<` in text is followed there by a space or a digit. -/
def isTextRun : Bytes → Bool
  | [] => true
  | c :: rest =>
    (c != 0x3C || rest.head?.any fun d => d == 0x20 || Bytes.isDigit d) && isTextRun rest

/-- What may follow the name of an end tag. -/
def EndsName (c : UInt8) : Prop := c ∈ [0x3E, 0x2F, 0x20, 0x09, 0x0A, 0x0D, 0x0C]

/-- The text holds no end tag of this name, in any case. -/
def NoEndTag (name b : Bytes) : Prop :=
  ∀ close c, Bytes.toLower close = 0x3C :: 0x2F :: name → EndsName c → ¬ close ++ [c] <:+: b

/-- An element whose content is no markup, up to its end tag. -/
structure RawElement where
  tag : StartTag
  isRaw : tag.name.lower ∈ Markup.rawTextElements
  /-- The start tag is not closed by a `/`. -/
  isOpen : ∀ before blanks, tag.text = before ++ 0x2F :: blanks →
    ¬ ∀ c ∈ blanks, Markup.isTagBlank c
  content : Mixed (NoEndTag tag.name.lower)
  close : TagName
  sameName : close.lower = tag.name.lower
  blanks : Blanks

def RawElement.text (e : RawElement) : Bytes :=
  e.tag.text ++ 0x3E :: e.content.text ++ 0x3C :: 0x2F :: e.close.text ++ e.blanks.text ++ [0x3E]

/-- A piece of a document. -/
inductive Item where
  | run (b : Bytes) (isText : isTextRun b)
  | region (r : Embedded)
  | comment (content : Mixed (¬ Markup.commentClose <:+: ·))
  /-- A declaration such as that of the document type. -/
  | declaration (name : TagName) (b : Bytes) (noEnd : ∀ c ∈ b, c ≠ 0x3D ∧ c ≠ 0x3E ∧ c ≠ 0x3C)
  | endTag (name : TagName) (blanks : Blanks)
  /-- The content of a raw text element follows its start tag unless that ends in `/`. -/
  | startTag (t : StartTag) (slash : Bool)
      (isPlain : t.name.lower ∈ Markup.rawTextElements → slash)
  | rawElement (e : RawElement)

namespace Item

def text : Item → Bytes
  | .run b _ => b
  | .region r => r.text
  | .comment content => Markup.commentOpen ++ content.text ++ Markup.commentClose
  | .declaration name b _ => 0x3C :: 0x21 :: name.text ++ b ++ [0x3E]
  | .endTag name blanks => 0x3C :: 0x2F :: name.text ++ blanks.text ++ [0x3E]
  | .startTag t slash _ => t.text ++ (if slash then [0x2F] else []) ++ [0x3E]
  | .rawElement e => e.text

/-- The regions of an item with the contexts they are to have. -/
def regions : Item → List (Bytes × Context)
  | .run _ _ | .declaration _ _ _ | .endTag _ _ => []
  | .region r => [(r.text, .standalone)]
  | .comment content => content.regions.map (·, .inRawText)
  | .startTag t _ _ => t.regions.map (·, .inAttribute)
  | .rawElement e => e.tag.regions.map (·, .inAttribute) ++ e.content.regions.map (·, .inRawText)

end Item

/-- A well-formed document. -/
abbrev Document := List Item

namespace Document

def text (d : Document) : Bytes := d.flatMap Item.text

def regions (d : Document) : List (Bytes × Context) := d.flatMap Item.regions

end Document
end Stencil.Grammar
