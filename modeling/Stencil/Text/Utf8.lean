import Stencil.Bytes

/-! UTF-8: characters out of bytes, with the bytes that start no character kept apart. -/
namespace Stencil.Text

/-- One step of reading a text: a character, or a byte that starts none. -/
inductive Rune where
  | char (c : Char)
  | stray (b : UInt8)
  deriving DecidableEq, Repr

namespace Utf8

def replacement : Char := Char.ofNat 0xFFFD

def isContinuation (b : UInt8) : Bool := 0x80 ≤ b && b ≤ 0xBF

/-- Bits that a continuation byte carries. -/
def payload (b : UInt8) : Nat := b.toNat % 64

/-- Reads the first character; overlong forms, surrogates and values above U+10FFFF are refused. -/
def decodeChar? : Bytes → Option (Char × Bytes)
  | [] => none
  | a :: rest =>
    if a < 0x80 then some (Char.ofNat a.toNat, rest)
    else if 0xC2 ≤ a && a ≤ 0xDF then
      match rest with
      | b :: rest =>
        if isContinuation b then some (Char.ofNat ((a.toNat % 32) * 64 + payload b), rest) else none
      | _ => none
    else if 0xE0 ≤ a && a ≤ 0xEF then
      match rest with
      | b :: c :: rest =>
        if isContinuation b && isContinuation c
            && (a != 0xE0 || 0xA0 ≤ b) && (a != 0xED || b ≤ 0x9F) then
          some (Char.ofNat (((a.toNat % 16) * 64 + payload b) * 64 + payload c), rest)
        else none
      | _ => none
    else if 0xF0 ≤ a && a ≤ 0xF4 then
      match rest with
      | b :: c :: d :: rest =>
        if isContinuation b && isContinuation c && isContinuation d
            && (a != 0xF0 || 0x90 ≤ b) && (a != 0xF4 || b ≤ 0x8F) then
          some (Char.ofNat ((((a.toNat % 8) * 64 + payload b) * 64 + payload c) * 64 + payload d), rest)
        else none
      | _ => none
    else none

theorem decodeChar?_length {b rest : Bytes} {c : Char} (h : decodeChar? b = some (c, rest)) :
    rest.length < b.length := by
  unfold decodeChar? at h
  repeat' split at h
  all_goals simp_all
  all_goals omega

/-- The characters of a text and, between them, the bytes that belong to none. -/
def runes (b : Bytes) : List Rune :=
  match b with
  | [] => []
  | a :: tail =>
    match h : decodeChar? (a :: tail) with
    | some (c, rest) =>
      have := decodeChar?_length h
      .char c :: runes rest
    | none => .stray a :: runes tail
termination_by b.length
decreasing_by
  · exact this
  · exact Nat.lt_succ_self tail.length

/-- The size of the group at the front: a lead byte and as many continuation bytes as it announces,
whether or not they encode a character. -/
def groupSize? : Bytes → Option Nat
  | [] => none
  | a :: rest => do
    let more ←
      if a < 0x80 then some 0
      else if a < 0xC0 then none
      else if a < 0xE0 then some 1
      else if a < 0xF0 then some 2
      else if a < 0xF8 then some 3
      else none
    let tail := rest.take more
    if tail.length == more && tail.all isContinuation then some (more + 1) else none

/-- The bytes of one character. -/
def encodeChar (c : Char) : Bytes := String.utf8EncodeChar c

def encode (cs : List Char) : Bytes := cs.flatMap encodeChar

def encodeRune : Rune → Bytes
  | .char c => encodeChar c
  | .stray b => [b]

def encodeRunes (rs : List Rune) : Bytes := rs.flatMap encodeRune

/-- A stray byte reads as U+FFFD. -/
def Rune.toChar : Rune → Char
  | .char c => c
  | .stray _ => replacement

/-- The characters of a text, U+FFFD for each stray byte. -/
def chars (b : Bytes) : List Char := (runes b).map Rune.toChar

/-- The characters of a text that holds no stray byte. -/
def chars? (b : Bytes) : Option (List Char) :=
  (runes b).mapM fun
    | .char c => some c
    | .stray _ => none

def isValid (b : Bytes) : Bool := (chars? b).isSome

/-- Writes U+FFFD over each stray byte. -/
def scrub (b : Bytes) : Bytes := encode (chars b)

@[simp] theorem encode_nil : encode [] = [] := rfl

@[simp] theorem encode_cons (c : Char) (cs : List Char) :
    encode (c :: cs) = encodeChar c ++ encode cs := rfl

@[simp] theorem encode_append (a b : List Char) : encode (a ++ b) = encode a ++ encode b := by
  simp [encode]

end Utf8
end Stencil.Text
