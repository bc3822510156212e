import Stencil.Number.Decimal
import Stencil.Text.Base64
import Stencil.Yaml.Timestamp
import Stencil.Yaml.Tree

/-! What YAML scalars stand for. -/
namespace Stencil.Yaml

/-- The value of a scalar. -/
inductive Value where
  | null
  | bool (b : Bool)
  | int (n : Int)
  /-- A number with 53 significant bits. -/
  | float (q : Rat)
  | infinity (negative : Bool)
  | nan
  | time
  | text (b : Bytes)
  deriving DecidableEq, Repr

namespace Value

def words : List (String × Value) :=
  [("true", .bool true), ("True", .bool true), ("TRUE", .bool true),
    ("false", .bool false), ("False", .bool false), ("FALSE", .bool false),
    ("", .null), ("~", .null), ("null", .null), ("Null", .null), ("NULL", .null),
    (".nan", .nan), (".NaN", .nan), (".NAN", .nan),
    (".inf", .infinity false), (".Inf", .infinity false), (".INF", .infinity false),
    ("+.inf", .infinity false), ("+.Inf", .infinity false), ("+.INF", .infinity false),
    ("-.inf", .infinity true), ("-.Inf", .infinity true), ("-.INF", .infinity true)]

def float? (b : Bytes) : Option Value := do
  return .float (← (← Number.Decimal.read? b).nearest?)

/-- Reads a number that is written with the mark `0b` or `0o`, between which and the digits a sign may
stand. -/
def marked? (mark : Bytes) (base : Nat) (b : Bytes) : Option Value :=
  if mark.isPrefixOf b then (Text.readInBase base (b.drop 2)).toOption.map .int
  else if (0x2D :: mark).isPrefixOf b then
    (Text.readInBase base (0x2D :: b.drop 3)).toOption.map .int
  else none

/-- Reads a number: an integer of 64 bits, without a sign also one that needs them all, or else a
decimal. -/
def number? (b : Bytes) : Option Value :=
  ((Text.readLiteral b).toOption.map .int)
    <|> ((Text.readNatural b).toOption.map fun n => .int n)
    <|> float? b
    <|> marked? "0b" 2 b
    <|> marked? "0o" 8 b

/-- What the text of a scalar stands for by itself; points in time are made out only if `times`. -/
def ofText (times : Bool) (text : Bytes) : Value :=
  match (words.map fun (w, v) => (Bytes.ofString w, v)).lookup text with
  | some v => v
  | none =>
    match text with
    | [] => .null
    | c :: _ =>
      if c == 0x2E then
        if Text.separates Bytes.isDigit false text then
          (float? (text.filter (· != 0x5F))).getD (.text text)
        else .text text
      else if Bytes.isDigit c || c == 0x2B || c == 0x2D then
        if times && Timestamp.isValid text then .time
        else (number? (text.filter (· != 0x5F))).getD (.text text)
      else .text text

/-- Whether a value can stand under a tag. An integer of 64 bits can stand for a float. -/
def underTag (tag : List Char) (v : Value) : Option Value :=
  let is (s : String) : Bool := tag == s.toList
  match v with
  | .null => if is "!!null" then some v else none
  | .bool _ => if is "!!bool" then some v else none
  | .int n =>
    if is "!!int" then some v
    else if is "!!float" && n ≤ Text.maxInt64 then some (.float (Number.nearest 53 (mkRat n 1)))
    else none
  | .float _ | .infinity _ | .nan => if is "!!float" then some v else none
  | .time => if is "!!timestamp" then some v else none
  | .text _ => none

/-- The tags of the kinds of values that a text can show by itself. -/
def standardTags : List (List Char) :=
  ["!!bool", "!!int", "!!float", "!!null", "!!timestamp"].map String.toList

/-- What a scalar stands for. Under a tag of another kind it is a text. -/
def ofScalar (tag text : List Char) : Option Value :=
  let b := Text.Utf8.encode text
  if tag.isEmpty then some (ofText true b)
  else if tag == "!!binary".toList then (Text.Base64.decode? b).map .text
  else if standardTags.contains tag then underTag tag (ofText (tag == "!!timestamp".toList) b)
  else some (.text b)

/-- The integer that a number is cut to. Beyond 64 bits the least integer stands in, and a number
above all integers has none. -/
def toInt? : Value → Option Int
  | .int n => if n ≤ Text.maxInt64 then some n else none
  | .float q =>
    if mkRat (Text.maxInt64 + 1) 1 < q then none
    else
      let n := Number.truncate q
      some (if Text.minInt64 ≤ n && n ≤ Text.maxInt64 then n else Text.minInt64)
  | .infinity true => some Text.minInt64
  | _ => none

/-- The truth value that a word stands for where one is wanted. -/
def toBool? : Value → Option Bool
  | .bool b => some b
  | .text b =>
    let is (ws : List String) : Bool := ws.any (Bytes.ofString · == b)
    if is ["y", "Y", "yes", "Yes", "YES", "on", "On", "ON"] then some true
    else if is ["n", "N", "no", "No", "NO", "off", "Off", "OFF"] then some false
    else none
  | _ => none

end Value
end Stencil.Yaml
