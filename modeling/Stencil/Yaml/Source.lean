import Stencil.Text.Utf8

/-! The characters of a YAML text, which come in block by block: one bad byte spoils its whole
block, but not the blocks before. -/
namespace Stencil.Yaml

/-- How characters are written in bytes. -/
inductive Encoding where
  | utf8
  | utf16 (bigEndian : Bool)
  deriving DecidableEq, Repr

/-- What some bytes start with. -/
inductive Lead where
  | char (c : Char) (width : Nat)
  /-- The bytes end within a character. -/
  | cut
  | bad
  deriving DecidableEq, Repr

/-- The characters a text may hold. -/
def isAllowed (c : Char) : Bool :=
  let n := c.toNat
  n == 0x09 || n == 0x0A || n == 0x0D || (0x20 ≤ n && n ≤ 0x7E) || n == 0x85
    || (0xA0 ≤ n && n ≤ 0xD7FF) || (0xE000 ≤ n && n ≤ 0xFFFD) || 0x10000 ≤ n

namespace Lead

/-- The number of bytes that the first byte of a character announces. -/
def width? (a : UInt8) : Option Nat :=
  if a < 0x80 then some 1
  else if 0xC0 ≤ a && a ≤ 0xDF then some 2
  else if 0xE0 ≤ a && a ≤ 0xEF then some 3
  else if 0xF0 ≤ a && a ≤ 0xF7 then some 4
  else none

def ofUtf8 (b : Bytes) : Lead :=
  match b.head?.bind width? with
  | none => .bad
  | some w =>
    if (b.take w).length < w then .cut
    else match Text.Utf8.decodeChar? b with
      | some (c, _) => .char c w
      | none => .bad

/-- The unit of two bytes at the start. -/
def unit? (bigEndian : Bool) : Bytes → Option Nat
  | a :: b :: _ => some (if bigEndian then 256 * a.toNat + b.toNat else 256 * b.toNat + a.toNat)
  | _ => none

/-- A character is one unit, or a high surrogate and a low one. -/
def ofUtf16 (bigEndian : Bool) (b : Bytes) : Lead :=
  match unit? bigEndian b with
  | none => .cut
  | some u =>
    if 0xDC00 ≤ u && u ≤ 0xDFFF then .bad
    else if 0xD800 ≤ u && u ≤ 0xDBFF then
      match unit? bigEndian (b.drop 2) with
      | none => .cut
      | some v =>
        if 0xDC00 ≤ v && v ≤ 0xDFFF then
          .char (Char.ofNat (0x10000 + (u - 0xD800) * 0x400 + (v - 0xDC00))) 4
        else .bad
    else .char (Char.ofNat u) 2

def of (e : Encoding) (b : Bytes) : Lead :=
  let lead := match e with
    | .utf8 => ofUtf8 b
    | .utf16 bigEndian => ofUtf16 bigEndian b
  match lead with
  | .char c w => if isAllowed c then .char c w else .bad
  | other => other

end Lead

/-- The characters of a block, the last first, and the bytes of one that is cut off at its end; there
is no result if something in the block is bad. The fuel bounds the number of bytes. -/
def readBlock (e : Encoding) : (fuel : Nat) → (rev : List Char) → Bytes → Option (List Char × Bytes)
  | 0, _, _ => none
  | _ + 1, rev, [] => some (rev, [])
  | fuel + 1, rev, a :: rest =>
    match Lead.of e (a :: rest) with
    | .char c w => readBlock e fuel (c :: rev) ((a :: rest).drop w)
    | .cut => some (rev, a :: rest)
    | .bad => none

/-- The number of bytes in a block. -/
def blockSize : Nat := 512

/-- A text that has been taken apart. -/
structure Source where
  chars : List Char
  /-- How many of the characters come with each block. -/
  blocks : List Nat
  /-- Whether the text ends after these characters; otherwise something bad follows. -/
  intact : Bool
  deriving DecidableEq, Repr

/-- Reads blocks; `held` is what is left of the block before. The fuel bounds their number. -/
def readBlocks (e : Encoding) : (fuel : Nat) → (held later : Bytes) → List (List Char) × Bool
  | 0, _, _ => ([], false)
  | fuel + 1, held, later =>
    let count := blockSize - held.length
    if later.isEmpty then ([], held.isEmpty)
    else
      let block := held ++ later.take count
      match readBlock e (block.length + 1) [] block with
      | none => ([], false)
      | some (rev, left) =>
        let (more, intact) := readBlocks e fuel left (later.drop count)
        (rev.reverse :: more, intact)

/-- The encoding that a byte order mark tells, and the length of the mark. -/
def encodingOf : Bytes → Encoding × Nat
  | 0xFF :: 0xFE :: _ => (.utf16 false, 2)
  | 0xFE :: 0xFF :: _ => (.utf16 true, 2)
  | 0xEF :: 0xBB :: 0xBF :: _ => (.utf8, 3)
  | _ => (.utf8, 0)

/-- Takes a text apart; a byte order mark at its start counts in the size of the first block only. -/
def Source.ofBytes (text : Bytes) : Source :=
  let (e, mark) := encodingOf text
  let first := (text.take blockSize).drop mark
  let (blocks, intact) :=
    match readBlock e (first.length + 1) [] first with
    | none => ([], false)
    | some (rev, left) =>
      let (more, intact) := readBlocks e (text.length + 1) left (text.drop blockSize)
      (rev.reverse :: more, intact)
  ⟨blocks.flatten, blocks.map List.length, intact⟩

end Stencil.Yaml
