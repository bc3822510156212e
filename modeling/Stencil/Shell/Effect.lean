import Stencil.Bytes

/-! What programs do, and those that print their arguments. -/
namespace Stencil.Shell

/-- What a program does. -/
structure Effect where
  out : Bytes := []
  err : Bytes := []
  status : Nat := 0
  /-- Whether the input has been read. -/
  reads : Bool := false
  /-- How long it waits, in nanoseconds. -/
  pause : Nat := 0
  deriving DecidableEq, Repr

namespace Effect

/-- The output of a program that reads its input. -/
def filter (out : Bytes) : Effect := { out, reads := true }

def fail (status : Nat) (err : Bytes) : Effect := { err, status }

end Effect

/-- The lines of a text; the flag tells that the last one has no line break. -/
def splitLines (b : Bytes) : List Bytes × Bool :=
  let pieces := Bytes.splitByte 0x0A b
  if pieces.getLast? == some [] then (pieces.dropLast, false) else (pieces, true)

/-- Lines as a text; `isOpen` tells that the last one has no line break. -/
def joinLines (lines : List Bytes) (isOpen : Bool) : Bytes :=
  let text := lines.flatMap (· ++ [0x0A])
  if isOpen then text.dropLast else text

def isOctal (c : UInt8) : Bool := 0x30 ≤ c && c ≤ 0x37

def octal (b : Bytes) : UInt8 := (b.foldl (fun (n : Nat) c => 8 * n + (c.toNat - 48)) 0).toUInt8

/-- The escapes of one letter. -/
def letterEscapes : List (UInt8 × UInt8) :=
  [(0x61, 0x07), (0x62, 0x08), (0x66, 0x0C), (0x6E, 0x0A), (0x72, 0x0D), (0x74, 0x09), (0x76, 0x0B),
    (0x5C, 0x5C)]

/-- Works out escapes; `lead` tells that octal codes start with a zero of their own. The flag tells
that output stops here. The fuel bounds the length. -/
def unescape (lead : Bool) : (fuel : Nat) → Bytes → Bytes × Bool
  | 0, _ => ([], false)
  | _ + 1, [] => ([], false)
  | fuel + 1, 0x5C :: c :: rest =>
    if lead && c == 0x63 then ([], true)
    else if isOctal c && (!lead || c == 0x30) then
      let digits := if lead then (rest.take 3).takeWhile isOctal else ((c :: rest).take 3).takeWhile isOctal
      let after := if lead then rest.drop digits.length else (c :: rest).drop digits.length
      let (more, stop) := unescape lead fuel after
      (octal digits :: more, stop)
    else
      let (more, stop) := unescape lead fuel rest
      match letterEscapes.lookup c with
      | some e => (e :: more, stop)
      | none => (0x5C :: c :: more, stop)
  | fuel + 1, c :: rest =>
    let (more, stop) := unescape lead fuel rest
    (c :: more, stop)

/-- Prints its arguments with spaces between them. -/
def echo (args : List Bytes) : Effect :=
  let (args, newline) := match args with
    | [0x2D, 0x6E] :: more => (more, false)
    | _ => (args, true)
  let text := Bytes.joinWith " " args
  let (text, stop) := unescape true (text.length + 1) text
  { out := if newline && !stop then text ++ "\n" else text }

/-- Fills blanks on the left, or on the right, up to a width. -/
def pad (left : Bool) (width : Nat) (fill : UInt8) (b : Bytes) : Bytes :=
  let blanks := List.replicate (width - b.length) (if left then 0x20 else fill)
  if left then b ++ blanks else blanks ++ b

/-- One pass over a format. The result holds the arguments that are left and whether one was used.
The fuel bounds the length of the format. -/
def formatOnce : (fuel : Nat) → Bytes → List Bytes → (used : Bool) → Bytes × List Bytes × Bool
  | 0, _, args, used => ([], args, used)
  | _ + 1, [], args, used => ([], args, used)
  | fuel + 1, 0x25 :: 0x25 :: rest, args, used =>
    let (out, args, used) := formatOnce fuel rest args used
    (0x25 :: out, args, used)
  | fuel + 1, 0x25 :: rest, args, _ =>
    let flags := rest.takeWhile fun c => c == 0x2D || c == 0x30 || c == 0x2B || c == 0x20 || c == 0x23
    let digits := (rest.drop flags.length).takeWhile Bytes.isDigit
    let width := (Bytes.toNat? digits).getD 0
    let rest := rest.drop (flags.length + digits.length)
    let arg : Bytes := args.head?.getD []
    let number : Int :=
      let (negative, ds) := match arg with
        | 0x2D :: ds => (true, ds)
        | ds => (false, ds)
      let n : Int := (Bytes.toNat? ds).getD 0
      if negative then -n else n
    let fill : UInt8 := if List.elem 0x30 flags && !List.elem 0x2D flags then 0x30 else 0x20
    let left := List.elem 0x2D flags
    let text : Bytes := match rest.head? with
      | some 0x73 => pad left width 0x20 arg
      | some 0x62 => pad left width 0x20 (unescape true (arg.length + 1) arg).1
      | some 0x63 => pad left width 0x20 (arg.take 1)
      | some 0x64 | some 0x69 | some 0x75 => pad left width fill (Bytes.ofInt number)
      | some 0x78 => pad left width fill ((Nat.toDigits 16 number.toNat).map Char.toUInt8)
      | some 0x58 => pad left width fill (Bytes.toUpper ((Nat.toDigits 16 number.toNat).map Char.toUInt8))
      | some 0x6F => pad left width fill ((Nat.toDigits 8 number.toNat).map Char.toUInt8)
      | _ => []
    let (out, args, used) := formatOnce fuel rest.tail args.tail true
    (text ++ out, args, used)
  | fuel + 1, 0x5C :: c :: rest, args, used =>
    let width := if isOctal c then ((c :: rest).take 3 |>.takeWhile isOctal).length else 1
    let (text, _) := unescape false 8 (0x5C :: (c :: rest).take width)
    let (out, args, used) := formatOnce fuel ((c :: rest).drop width) args used
    (text ++ out, args, used)
  | fuel + 1, c :: rest, args, used =>
    let (out, args, used) := formatOnce fuel rest args used
    (c :: out, args, used)

/-- Uses a format over and over until no argument is left. The fuel bounds the number of passes. -/
def formatAll (format : Bytes) : (fuel : Nat) → List Bytes → Bytes
  | 0, _ => []
  | fuel + 1, args =>
    let (out, rest, used) := formatOnce (format.length + 1) format args false
    if rest.isEmpty || !used then out else out ++ formatAll format fuel rest

def printf (args : List Bytes) : Effect :=
  match args with
  | [] => .fail 2 "printf: usage: printf format [arg ...]\n"
  | format :: args => { out := formatAll format (args.length + 1) args }

end Stencil.Shell
