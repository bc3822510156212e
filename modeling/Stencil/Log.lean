import Stencil.Tokenize

/-! Log events: what an operation reports while it works. -/
namespace Stencil.Log

inductive Level where
  | debug
  | info
  | warn
  | error
  deriving DecidableEq, Repr

namespace Level

def name : Level → Bytes
  | .debug => "debug"
  | .info => "info"
  | .warn => "warn"
  | .error => "error"

def tag : Level → Bytes
  | .debug => "DBG"
  | .info => "INF"
  | .warn => "WRN"
  | .error => "ERR"

end Level

/-- The value of a field. -/
inductive Value where
  | int (n : Int)
  | bool (b : Bool)
  | text (b : Bytes)
  | texts (items : List Bytes)
  deriving DecidableEq, Repr

/-- A message with named values. -/
structure Event where
  level : Level
  message : Bytes
  fields : List (Bytes × Value)
  deriving DecidableEq, Repr

/-- Debug events are shown on request only. -/
def Event.isShown (debug : Bool) (e : Event) : Bool := debug || e.level != .debug

def event (level : Level) (message : Bytes) (fields : List (Bytes × Value)) : Event :=
  ⟨level, message, fields⟩

/-! ## One line for each event -/

/-- A text that is quoted on a line: it holds a blank, a control, a quote, a backslash or a byte
above `~`. -/
def needsQuote (b : Bytes) : Bool :=
  b.any fun c => c ≤ 0x20 || c == 0x5C || c == 0x22 || 0x7E < c

/-- A text as it is shown: stray bytes are replaced, and it is quoted if need be. -/
def renderText (b : Bytes) : Bytes :=
  if needsQuote b then Text.quote (Text.Utf8.scrub b) else b

/-- A text in a list. -/
def renderItem (b : Bytes) : Bytes := Text.Utf8.encode (Json.renderPlainString (Text.Utf8.chars b))

def Value.render : Value → Bytes
  | .int n => Bytes.ofInt n
  | .bool b => if b then "true" else "false"
  | .text b => renderText b
  | .texts items => "[" ++ Bytes.joinWith "," (items.map renderItem) ++ "]"

/-- The error comes first, the other fields follow in the order of their names. -/
def fieldBefore (a b : Bytes × Value) : Bool :=
  let error := Bytes.ofString "error"
  if a.1 = error then true else if b.1 = error then false else Bytes.le a.1 b.1

def Event.toLine (e : Event) : Bytes :=
  e.level.tag ++ " " ++ e.message
    ++ (e.fields.mergeSort fieldBefore).flatMap fun (k, v) => (" " ++ k ++ "=" ++ v.render : Bytes)

/-! ## Events of the core operations -/

def retried (o : Token.Options) : Event :=
  event .debug "document contains placeholder text, retrying with another prefix"
    [("prefix", .text o.stem)]

/-- The retries up to the stem `last`. -/
def retries (o : Token.Options) (last : Bytes) : List Event :=
  let failed := (o.attempts.takeWhile (·.stem != last)).length
  ((o.attempts.drop 1).take failed).map retried

/-- The retries, then a summary. -/
def tokenized (o : Token.Options) (document : Bytes) (t : Tokenized) (used : Token.Options) :
    List Event :=
  retries o used.stem ++ [event .debug "tokenized document" [
    ("regions", .int t.tokens.length),
    ("bytes_in", .int document.length),
    ("bytes_out", .int t.placeholder.length),
    ("prefix", .text used.stem)]]

/-- What was tried before a document turned out to have no placeholder form. -/
def notTokenized (o : Token.Options) : TokenizeError → List Event
  | .options _ => []
  | .scan stem _ => retries o stem
  | .exhausted .. => (o.attempts.drop 1).map retried

/-- A warning for each token lost, then a summary. -/
def restored (map : Token.Map) (r : Restored) : List Event :=
  r.misses.map (fun m => event .warn
    "token not found in formatted document, original region dropped" [
      ("index", .int m.index),
      ("token", .text m.token),
      ("original_bytes", .int m.source.length)])
    ++ [event .debug "restored document" [
      ("tokens", .int map.size),
      ("replaced", .int r.replaced),
      ("missed", .int r.misses.length)]]

end Stencil.Log
