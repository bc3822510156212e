import Stencil.Tokenize

/-! Failures of whole operations: a kind to act on and a text to show. -/
namespace Stencil

/-- What a failure is about, from the most to the least specific. -/
inductive FailureKind where
  | tokenCollision
  | tokenTooWide
  | invalidOptions
  | restoreMiss
  | unformatted
  | lostRegions
  | canceled
  | deadlineExceeded
  | notExist
  | permission
  | other
  deriving DecidableEq, Repr

/-- Position in the order of the kinds. -/
def FailureKind.rank : FailureKind → Nat
  | .tokenCollision => 0
  | .tokenTooWide => 1
  | .invalidOptions => 2
  | .restoreMiss => 3
  | .unformatted => 4
  | .lostRegions => 5
  | .canceled => 6
  | .deadlineExceeded => 7
  | .notExist => 8
  | .permission => 9
  | .other => 10

/-- Why an operation failed. -/
structure Failure where
  kind : FailureKind
  message : Bytes
  deriving DecidableEq, Repr

namespace Failure

/-- A failure of no particular kind. -/
def plain (message : Bytes) : Failure := ⟨.other, message⟩

/-- Puts what was being done in front of the text. -/
def wrap (doing : Bytes) (f : Failure) : Failure := { f with message := doing ++ ": " ++ f.message }

def canceled : Failure := ⟨.canceled, "context canceled"⟩

def deadlineExceeded : Failure := ⟨.deadlineExceeded, "context deadline exceeded"⟩

def ofOptionsError (e : Token.OptionsError) : Failure := ⟨.invalidOptions, e.message⟩

def ofCollision (c : Token.Collision) : Failure := ⟨.tokenCollision, c.message⟩

def ofTokenizeError (e : TokenizeError) : Failure where
  message := e.message
  kind := match e with
    | .options _ => .invalidOptions
    | .scan _ (.tooWide _) => .tokenTooWide
    | .scan _ (.collision _) => .tokenCollision
    | .exhausted .. => .tokenCollision

def ofDecodeError (e : Token.DecodeError) : Failure where
  message := e.message
  kind := match e with
    | .collision _ => .tokenCollision
    | _ => .other

def ofMiss (m : Miss) : Failure := ⟨.restoreMiss, m.message⟩

/-- The most specific kind among several failures. -/
def dominantKind : List Failure → FailureKind
  | [] => .other
  | f :: more => if f.kind.rank ≤ (dominantKind more).rank then f.kind else dominantKind more

/-- Several failures as a list with one line for each. -/
def bulleted : List Failure → Option Failure
  | [] => none
  | fs =>
    let head : Bytes := match fs with
      | [_] => "1 error occurred:"
      | _ => Bytes.ofNat fs.length ++ " errors occurred:"
    some ⟨dominantKind fs, head ++ "\n\t* " ++ Bytes.joinWith "\n\t* " (fs.map (·.message)) ++ "\n\n"⟩

/-- Several failures on one line. -/
def joined : List Failure → Option Failure
  | [] => none
  | fs => some ⟨dominantKind fs, Bytes.joinWith "; " (fs.map (·.message))⟩

end Failure

/-- All misses together; they are warnings, and the restored text can still be used. -/
def Restored.failure? (r : Restored) : Option Failure := Failure.bulleted (r.misses.map .ofMiss)

end Stencil
