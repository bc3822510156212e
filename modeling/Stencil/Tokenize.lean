import Stencil.Restore
import Stencil.Text.Grapheme
import Stencil.Token

/-! Replacing the embedded regions of a document by tokens that the markup around them allows. -/
namespace Stencil

/-- A document with tokens in place of its regions. -/
structure Tokenized where
  placeholder : Bytes
  map : Token.Map
  tokens : List IssuedToken
  deriving DecidableEq, Repr

namespace Tokenized

def regions (t : Tokenized) : List EmbeddedRegion := t.tokens.map (·.region)

end Tokenized

/-- Why a scan stops. -/
inductive ScanError where
  | tooWide (e : Token.TooWide)
  | collision (c : Token.Collision)
  deriving DecidableEq, Repr

def ScanError.message : ScanError → Bytes
  | .tooWide e => e.message
  | .collision c => c.message

/-- A scan under way. -/
structure Scan where
  state : Markup.State
  /-- The placeholder document so far, in reverse. -/
  outputRev : Bytes
  tokensRev : List IssuedToken
  map : Token.Map
  offset : Nat
  deriving DecidableEq, Repr

namespace Scan

def start : Scan := ⟨.text, [], [], .empty, 0⟩

/-- Copies markup. -/
def copy (s : Scan) (state : Markup.State) (markup : Bytes) : Scan :=
  { s with state, outputRev := markup.reverse ++ s.outputRev, offset := s.offset + markup.length }

/-- Issues the token of a region. -/
def emit (o : Token.Options) (width : Bytes → Nat) (s : Scan) (text : Bytes) (terminated : Bool) :
    Except ScanError Scan := do
  let context := s.state.context
  let number := s.tokensRev.length
  let rendered ← (o.render number context.shape (width text)).mapError .tooWide
  let map ← (s.map.add rendered text).mapError .collision
  return {
    state := s.state.afterRegion
    outputRev := rendered.reverse ++ s.outputRev
    tokensRev := ⟨number, context.shape, rendered, ⟨⟨s.offset, text⟩, context, terminated⟩⟩ :: s.tokensRev
    map
    offset := s.offset + text.length }

/-- Reads the rest of a document. -/
def run (o : Token.Options) (width : Bytes → Nat) (s : Scan) (rest : Bytes) : Except ScanError Scan :=
  match rest with
  | [] => .ok s
  | c :: after =>
    match h : Region.atStart? (c :: after) with
    | some r =>
      match s.emit o width r.text r.terminated with
      | .error e => .error e
      | .ok s =>
        have := Region.atStart?_length h
        run o width s r.rest
    | none =>
      let next := Markup.step s.state s.outputRev c after
      run o width (s.copy next.1 ((c :: after).take next.2)) (after.drop (next.2 - 1))
termination_by rest.length
decreasing_by
  · exact this
  · rw [List.length_drop, List.length_cons]
    omega

def finish (s : Scan) : Tokenized := ⟨s.outputRev.reverse, s.map, s.tokensRev.reverse⟩

end Scan

/-- Replaces every region by its token, in one pass. -/
def scan (o : Token.Options) (width : Bytes → Nat) (document : Bytes) : Except ScanError Tokenized :=
  (Scan.start.run o width document).map Scan.finish

/-- Why a document has no placeholder form. -/
inductive TokenizeError where
  | options (e : Token.OptionsError)
  /-- The scan with this stem stopped. -/
  | scan (stem : Bytes) (e : ScanError)
  /-- The document holds tokens under every stem from the first to the last. -/
  | exhausted (first last : Bytes)
  deriving DecidableEq, Repr

def TokenizeError.message : TokenizeError → Bytes
  | .options e => e.message
  | .scan _ e => "tokenizing document: " ++ e.message
  | .exhausted first last =>
    "token collision: document already contains tokens for prefixes " ++ Text.quote first ++ " to "
      ++ Text.quote last

/-- How many stems are tried on one document. -/
def maxStemAttempts : Nat := 32

/-- The stems in the order in which they are tried: the given one, then salted ones. -/
def Token.Options.attempts (o : Token.Options) : List Token.Options :=
  o :: (List.range (maxStemAttempts - 1)).map fun i => o.salted (i + 1)

/-- The first attempt whose placeholder restores to the document. Text that already reads like a
token would be replaced on restoring, so another stem is tried then. -/
def tryStems (width : Bytes → Nat) (first : Bytes) (last : Bytes) (document : Bytes) :
    List Token.Options → Except TokenizeError (Tokenized × Token.Options)
  | [] => .error (.exhausted first last)
  | o :: more =>
    match scan o width document with
    | .error e => .error (.scan o.stem e)
    | .ok t =>
      if (restore t.placeholder t.map).text = document then .ok (t, o)
      else tryStems width first o.stem document more

/-- Tokenizes with the first stem that works, and says which. -/
def tokenizeWith (width : Bytes → Nat) (o : Token.Options) (document : Bytes) :
    Except TokenizeError (Tokenized × Token.Options) :=
  match o.validate with
  | .error e => .error (.options e)
  | .ok () => tryStems width o.stem o.stem document o.attempts

/-- Replaces every embedded region of a document by a token; widths are counted in grapheme
clusters, unless something else is to be counted. -/
def tokenize (o : Token.Options) (document : Bytes) (width : Bytes → Nat := Text.Grapheme.count) :
    Except TokenizeError Tokenized :=
  (tokenizeWith width o document).map (·.1)

end Stencil
