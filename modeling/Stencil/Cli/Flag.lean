import Stencil.Text.Number
import Stencil.Text.Quoted

/-! Flags and operands of a command line. -/
namespace Stencil.Cli

/-- What a flag takes. -/
inductive FlagType where
  /-- Nothing, or a truth value after an equals sign. -/
  | switch
  | number
  | text
  deriving DecidableEq, Repr

/-- A flag that a command knows. -/
structure Flag where
  name : Bytes
  type : FlagType
  /-- A short form; only switches have one. -/
  letter : Option UInt8 := none
  deriving DecidableEq, Repr

inductive FlagValue where
  | switch (on : Bool)
  | number (n : Int)
  | text (b : Bytes)
  deriving DecidableEq, Repr

/-- Why arguments cannot be used. -/
inductive UsageError where
  | malformedFlag (argument : Bytes)
  | unknownFlag (name : Bytes)
  | unknownLetter (letter : UInt8) (group : Bytes)
  | missingValue (argument : Bytes)
  | invalidValue (value : Bytes) (flag : Flag) (reason : Bytes)
  | unknownCommand (name : Bytes) (similar : List Bytes)
  | operandCount (expected received : Nat)
  | missingFlag (name : Bytes)
  deriving DecidableEq, Repr

/-- A flag as messages show it. -/
def Flag.describe (f : Flag) : Bytes :=
  match f.letter with
  | some c => "-" ++ [c] ++ ", --" ++ f.name
  | none => "--" ++ f.name

/-- The program that messages are about. -/
def programName : Bytes := "htmlphpfmt"

def UsageError.message : UsageError → Bytes
  | .malformedFlag argument => "bad flag syntax: " ++ argument
  | .unknownFlag name => "unknown flag: --" ++ name
  | .unknownLetter letter group =>
    "unknown shorthand flag: " ++ Text.quoteByte letter ++ " in -" ++ group
  | .missingValue argument => "flag needs an argument: " ++ argument
  | .invalidValue value flag reason =>
    "invalid argument " ++ Text.quote value ++ " for " ++ Text.quote flag.describe ++ " flag: " ++ reason
  | .unknownCommand name similar =>
    let hint : Bytes :=
      if similar.isEmpty then []
      else "\n\nDid you mean this?\n" ++ similar.flatMap fun s => ("\t" ++ s ++ "\n" : Bytes)
    "unknown command " ++ Text.quote name ++ " for " ++ Text.quote programName ++ hint
  | .operandCount expected received =>
    "accepts " ++ Bytes.ofNat expected ++ " arg(s), received " ++ Bytes.ofNat received
  | .missingFlag name => "required flag(s) " ++ Text.quote name ++ " not set"

/-- Reads the value of a flag. -/
def Flag.read (f : Flag) (value : Bytes) : Except UsageError FlagValue :=
  match f.type with
  | .text => .ok (.text value)
  | .switch =>
    match Text.readBool? value with
    | some on => .ok (.switch on)
    | none =>
      .error (.invalidValue value f
        ("strconv.ParseBool: parsing " ++ Text.quote value ++ ": invalid syntax"))
  | .number =>
    match Text.readLiteral value with
    | .ok n => .ok (.number n)
    | .error e =>
      .error (.invalidValue value f
        ("strconv.ParseInt: parsing " ++ Text.quote value ++ ": " ++ e.message))

/-- What a command line gives: the flags in order, and the operands. -/
structure Arguments where
  flags : List (Bytes × FlagValue) := []
  operands : List Bytes := []
  deriving DecidableEq, Repr

namespace Arguments

/-- The value of a flag; of several the last counts. -/
def value? (a : Arguments) (name : Bytes) : Option FlagValue := a.flags.reverse.lookup name

def has (a : Arguments) (name : Bytes) : Bool := (a.value? name).isSome

def switch (a : Arguments) (name : Bytes) : Bool :=
  match a.value? name with
  | some (.switch on) => on
  | _ => false

def number (a : Arguments) (name : Bytes) : Int :=
  match a.value? name with
  | some (.number n) => n
  | _ => 0

def text (a : Arguments) (name : Bytes) (default : Bytes := []) : Bytes :=
  match a.value? name with
  | some (.text b) => b
  | _ => default

def withFlag (f : Flag) (v : FlagValue) (a : Arguments) : Arguments :=
  { a with flags := (f.name, v) :: a.flags }

def withOperand (operand : Bytes) (a : Arguments) : Arguments :=
  { a with operands := operand :: a.operands }

end Arguments

/-- Reads a group of short forms such as `-hv`, of which the last may have a value. -/
def readLetters (flags : List Flag) : Bytes → Except UsageError (List (Bytes × FlagValue))
  | [] => .ok []
  | c :: rest =>
    match flags.find? (·.letter == some c) with
    | none => .error (.unknownLetter c (c :: rest))
    | some f =>
      match rest with
      | 0x3D :: d :: value => do return [(f.name, ← f.read (d :: value))]
      | _ => do
        let more ← readLetters flags rest
        return (f.name, .switch true) :: more

/-- Reads arguments from the left, up to the first that cannot be used. Flags and operands may be
mixed; after `--` there are operands only. -/
def Arguments.read (flags : List Flag) : List Bytes → Except UsageError Arguments
  | [] => .ok {}
  | [0x2D, 0x2D] :: rest => .ok { operands := rest }
  | (0x2D :: 0x2D :: long) :: rest =>
    if long.head? == some 0x2D || long.head? == some 0x3D then
      .error (.malformedFlag (0x2D :: 0x2D :: long))
    else
      let name := long.takeWhile (· != 0x3D)
      match flags.find? (·.name == name) with
      | none => .error (.unknownFlag name)
      | some f =>
        match long.drop name.length with
        | _ :: value => do
          let v ← f.read value
          return (← read flags rest).withFlag f v
        | [] =>
          if f.type = .switch then do return (← read flags rest).withFlag f (.switch true)
          else match rest with
            | [] => .error (.missingValue (0x2D :: 0x2D :: long))
            | value :: rest => do
              let v ← f.read value
              return (← read flags rest).withFlag f v
  | (0x2D :: c :: group) :: rest => do
    let given ← if Bytes.hasPrefix "test." (c :: group) then pure [] else readLetters flags (c :: group)
    let more ← read flags rest
    return { more with flags := given ++ more.flags }
  | operand :: rest => do return (← read flags rest).withOperand operand

end Stencil.Cli
