import Stencil.Hcl.Template
import Stencil.Hcl.Token

/-! Reading HCL. -/
namespace Stencil.Hcl

/-- Numbers that are written out have this many significant bits. -/
def precision : Nat := 512

/-- Reads off the front of the tokens of a text. -/
abbrev Reader := StateT (List Token) Option

namespace Reader

/-- Passes over line breaks where they mean nothing. -/
def skipLines (free : Bool) : Reader Unit :=
  if free then modify (·.dropWhile (· == .newline)) else pure ()

/-- The next token; line breaks are passed over if `free`. -/
def peek (free : Bool) : Reader (Option Token) := do
  skipLines free
  return (← get).head?

def skip : Reader Unit := modify (·.drop 1)

/-- Passes over a token if it comes next. -/
def accept (free : Bool) (t : Token) : Reader Bool := do
  if (← peek free) == some t then
    skip
    return true
  else return false

def expect (free : Bool) (t : Token) : Reader Unit := do
  if !(← accept free t) then failure

def name (free : Bool) : Reader Bytes := do
  match ← peek free with
  | some (.name n) =>
    skip
    return n
  | _ => failure

/-- Passes over a word if it comes next. -/
def acceptWord (free : Bool) (word : Bytes) : Reader Bool := accept free (.name word)

def number (text : Bytes) : Reader Number.Floating := (Number.Floating.read? precision text : Option _)

def binaryOperators : List (List (Symbol × BinaryOperator)) :=
  [[(.or, .or)], [(.and, .and)], [(.equal, .equal), (.notEqual, .notEqual)],
    [(.greater, .greater), (.greaterEqual, .greaterEqual), (.less, .less), (.lessEqual, .lessEqual)],
    [(.plus, .add), (.minus, .subtract)],
    [(.star, .multiply), (.slash, .divide), (.percent, .modulo)]]

/-- The operator of a level that comes next. -/
def operator? (free : Bool) (level : List (Symbol × BinaryOperator)) :
    Reader (Option BinaryOperator) := do
  match ← peek free with
  | some (.symbol s) =>
    match level.lookup s with
    | some op =>
      skip
      return some op
    | none => return none
  | _ => return none

/-- Whether white space before the token that comes next is to go. -/
def trimsBefore : Reader Bool := do
  match (← get).head? with
  | some (.interpolation trim) => return trim
  | some (.directive trim) => return trim
  | _ => return false

/-- The index after a point, for which points within the number are refused. -/
def pointIndex (text : Bytes) : Reader Expression := do
  if text.any (· == 0x2E) then failure
  return .number (← number text)

mutual

/-- Reads an expression; line breaks within it mean nothing if `free`. The fuel bounds the depth and
the number of parts. -/
def expression (free : Bool) : (fuel : Nat) → Reader Expression
  | 0 => failure
  | fuel + 1 => do
    let e ← binary free binaryOperators fuel
    if ← accept free (.symbol .question) then
      let yes ← expression free fuel
      expect free (.symbol .colon)
      let no ← expression free fuel
      return .conditional e yes no
    else return e

def binary (free : Bool) (levels : List (List (Symbol × BinaryOperator))) :
    (fuel : Nat) → Reader Expression
  | 0 => failure
  | fuel + 1 =>
    match levels with
    | [] => postfixed free fuel
    | level :: higher => do
      let e ← binary free higher fuel
      binaryRest free level higher e fuel

def binaryRest (free : Bool) (level : List (Symbol × BinaryOperator))
    (higher : List (List (Symbol × BinaryOperator))) (e : Expression) :
    (fuel : Nat) → Reader Expression
  | 0 => failure
  | fuel + 1 => do
    match ← operator? free level with
    | some op =>
      let b ← binary free higher fuel
      binaryRest free level higher (.binary op e b) fuel
    | none => return e

/-- Reads a term and the attributes and indices after it. -/
def postfixed (free : Bool) : (fuel : Nat) → Reader Expression
  | 0 => failure
  | fuel + 1 => do
    let e ← term free fuel
    traversal free e fuel

def traversal (free : Bool) (e : Expression) : (fuel : Nat) → Reader Expression
  | 0 => failure
  | fuel + 1 => do
    if ← accept free (.symbol .dot) then
      match ← peek free with
      | some (.symbol .star) =>
        skip
        let body ← attributes free .item fuel
        traversal free (.each e body) fuel
      | some (.number text) =>
        skip
        traversal free (.index e (← pointIndex text)) fuel
      | some (.name n) =>
        skip
        traversal free (.attribute e n) fuel
      | _ => failure
    else if ← accept free (.symbol .openBracket) then
      if ← accept free (.symbol .star) then
        expect free (.symbol .closeBracket)
        let body ← traversal free .item fuel
        traversal free (.each e body) fuel
      else
        let key ← expression true fuel
        expect true (.symbol .closeBracket)
        traversal free (.index e key) fuel
    else return e

/-- Reads the attributes after `.*`. -/
def attributes (free : Bool) (e : Expression) : (fuel : Nat) → Reader Expression
  | 0 => failure
  | fuel + 1 => do
    if ← accept free (.symbol .dot) then
      match ← peek free with
      | some (.number text) =>
        skip
        attributes free (.index e (← pointIndex text)) fuel
      | some (.name n) =>
        skip
        attributes free (.attribute e n) fuel
      | _ => failure
    else return e

def term (free : Bool) : (fuel : Nat) → Reader Expression
  | 0 => failure
  | fuel + 1 => do
    let some t ← peek free | failure
    skip
    match t with
    | .symbol .openParen =>
      let e ← expression true fuel
      expect true (.symbol .closeParen)
      return .grouped e
    | .number text => return .number (← number text)
    | .name n =>
      match ← peek free with
      | some (.symbol .openParen) => return .call n (← call free fuel)
      | some (.symbol .doubleColon) => return .call n (← call free fuel)
      | _ =>
        if n == "true" then return .bool true
        else if n == "false" then return .bool false
        else if n == "null" then return .null
        else return .variable n
    | .openQuote =>
      match Template.toExpression? (← parts .closeQuote false fuel) with
      | some e => return e
      | none => failure
    | .openHeredoc flush =>
      let ps ← parts .closeHeredoc false fuel
      match Template.toExpression? (if flush then Template.flush ps else ps) with
      | some e => return e
      | none => failure
    | .symbol .minus => return .unary .negate (← postfixed free fuel)
    | .symbol .bang => return .unary .not (← postfixed free fuel)
    | .symbol .openBracket =>
      if ← acceptWord true "for" then loop false fuel
      else return .tuple (← items fuel)
    | .openBrace =>
      let inside ← get
      if ← acceptWord true "for" then loop true fuel
      else
        set inside
        return .object (← entries fuel)
    | _ => failure

/-- Reads the rest of the name of a function and its arguments. -/
def call (free : Bool) : (fuel : Nat) → Reader (List Expression)
  | 0 => failure
  | fuel + 1 => do
    if ← accept free (.symbol .doubleColon) then
      let _ ← name free
      call free fuel
    else
      expect free (.symbol .openParen)
      arguments fuel

/-- Reads the rest of a list of arguments. -/
def arguments : (fuel : Nat) → Reader (List Expression)
  | 0 => failure
  | fuel + 1 => do
    if ← accept true (.symbol .closeParen) then return []
    else
      let e ← expression true fuel
      if ← accept true (.symbol .ellipsis) then
        expect true (.symbol .closeParen)
        return [e]
      else if ← accept true (.symbol .comma) then return e :: (← arguments fuel)
      else
        expect true (.symbol .closeParen)
        return [e]

/-- Reads what a loop binds and runs over. -/
def loopHead : (fuel : Nat) → Reader (LoopNames × Expression)
  | 0 => failure
  | fuel + 1 => do
    let first ← name true
    let names : LoopNames ←
      if ← accept true (.symbol .comma) then pure ⟨some first, ← name true⟩
      else pure ⟨none, first⟩
    if !(← acceptWord true "in") then failure
    return (names, ← expression true fuel)

/-- Reads the rest of a loop, which makes a list or, with keys, an object. -/
def loop (keyed : Bool) : (fuel : Nat) → Reader Expression
  | 0 => failure
  | fuel + 1 => do
    let (names, source) ← loopHead fuel
    expect true (.symbol .colon)
    let first ← expression true fuel
    let (key, body) ←
      if ← accept true (.symbol .arrow) then pure (some first, ← expression true fuel)
      else pure (none, first)
    let grouped ← accept true (.symbol .ellipsis)
    let condition ←
      if ← acceptWord true "if" then pure (some (← expression true fuel)) else pure none
    expect true (if keyed then .closeBrace else .symbol .closeBracket)
    match keyed, key with
    | true, some key => return .objectLoop names source key body grouped condition
    | false, none => if grouped then failure else return .loop names source body condition
    | _, _ => failure

/-- Reads the rest of a tuple. -/
def items : (fuel : Nat) → Reader (List Expression)
  | 0 => failure
  | fuel + 1 => do
    if ← accept true (.symbol .closeBracket) then return []
    else
      let e ← expression true fuel
      if ← accept true (.symbol .comma) then return e :: (← items fuel)
      else
        expect true (.symbol .closeBracket)
        return [e]

/-- Reads the rest of an object, whose entries commas or line breaks divide. -/
def entries : (fuel : Nat) → Reader (List (Option Expression × Expression))
  | 0 => failure
  | fuel + 1 => do
    skipLines true
    if ← accept false .closeBrace then return []
    else
      let key ← expression false fuel
      if !(← accept false (.symbol .assign)) then expect false (.symbol .colon)
      let entry := (key.asKey, ← expression false fuel)
      if ← accept false .closeBrace then return [entry]
      else
        if !(← accept false (.symbol .comma)) then expect false .newline
        return entry :: (← entries fuel)

/-- Reads the parts of a template; `trim` tells that white space at the start of a literal goes. It
goes within one piece of text only. -/
def parts (closer : Token) (trim : Bool) : (fuel : Nat) → Reader (List Template.Part)
  | 0 => failure
  | fuel + 1 => do
    let some t := (← get).head? | failure
    skip
    if t == closer then return []
    else
      match t with
      | .quoted text =>
        let some text := Template.unescape? text | failure
        literal closer trim text fuel
      | .literal text => literal closer trim (Template.unescapeLine text) fuel
      | .interpolation _ =>
        let e ← expression true fuel
        let trim ← sequenceEnd
        return .value e :: (← parts closer trim fuel)
      | .directive _ =>
        let part ← directive fuel
        let trim ← sequenceEnd
        return part :: (← parts closer trim fuel)
      | _ => failure

/-- Trims a literal and reads the parts after it. -/
def literal (closer : Token) (trim : Bool) (text : Bytes) : (fuel : Nat) → Reader (List Template.Part)
  | 0 => failure
  | fuel + 1 => do
    let text := if trim then Text.trimSpaceLeft text else text
    let text := if ← trimsBefore then Text.trimSpaceRight text else text
    return .literal text :: (← parts closer false fuel)

/-- Passes over the end of a value or directive; tells whether white space after it goes. -/
def sequenceEnd : Reader Bool := do
  match ← peek true with
  | some (.sequenceEnd trim) =>
    skip
    return trim
  | _ => failure

/-- Reads a directive up to its end. -/
def directive : (fuel : Nat) → Reader Template.Part
  | 0 => failure
  | fuel + 1 => do
    let n ← name true
    if n == "if" then return .whether (← expression true fuel)
    else if n == "else" then return .otherwise
    else if n == "endif" then return .done
    else if n == "endfor" then return .loopDone
    else if n == "for" then
      let (names, source) ← loopHead fuel
      return .loop names source
    else failure

end

/-- Passes over the end of a line, or stays at the end of the text. -/
def lineEnd : Reader Unit := do
  if !(← get).isEmpty then expect false .newline

/-- Reads a whole expression. -/
def value : Reader Expression := do expression false ((← get).length * 16 + 64)

/-- Reads the text of a label, which holds no values. -/
def label : (fuel : Nat) → Reader Bytes
  | 0 => failure
  | fuel + 1 => do
    let some t := (← get).head? | failure
    skip
    match t with
    | .closeQuote => return []
    | .quoted text =>
      let some text := Template.unescape? text | failure
      return text ++ (← label fuel)
    | _ => failure

/-- Reads the labels of a block and the brace after them. -/
def blockLabels : (fuel : Nat) → Reader (List Bytes)
  | 0 => failure
  | fuel + 1 => do
    match ← peek false with
    | some .openBrace =>
      skip
      return []
    | some .openQuote =>
      skip
      let l ← label ((← get).length + 1)
      return l :: (← blockLabels fuel)
    | some (.name n) =>
      skip
      return n :: (← blockLabels fuel)
    | _ => failure

/-- Reads the rest of a block: nothing or one attribute on the same line, or what `items` reads on
lines of their own. -/
def blockBody (items : Reader Body) : Reader Body := do
  match ← peek false with
  | none | some .newline | some .closeBrace => items
  | _ =>
    let n ← name false
    expect false (.symbol .assign)
    let e ← value
    expect false .closeBrace
    return [.attribute n e]

/-- Reads the items of a body, up to the brace that closes a block. The fuel bounds their number and
depth. -/
def body (inBlock : Bool) : (fuel : Nat) → Reader Body
  | 0 => failure
  | fuel + 1 => do
    skipLines true
    if (← get).isEmpty then if inBlock then failure else return []
    else if inBlock && (← accept false .closeBrace) then return []
    else
      let n ← name false
      if ← accept false (.symbol .assign) then
        let e ← value
        lineEnd
        return .attribute n e :: (← body inBlock fuel)
      else
        let labels ← blockLabels fuel
        let inner ← blockBody (body true fuel)
        lineEnd
        return .block n labels inner :: (← body inBlock fuel)

/-- Whether no body gives an attribute twice. The fuel bounds the depth. -/
def isUnambiguous : (fuel : Nat) → Body → Bool
  | 0, _ => true
  | fuel + 1, items =>
    let names := items.filterMap fun
      | .attribute n _ => some n
      | .block .. => none
    let rec distinct : List Bytes → Bool
      | [] => true
      | x :: xs => !xs.contains x && distinct xs
    distinct names && items.all fun
      | .attribute .. => true
      | .block _ _ inner => isUnambiguous fuel inner

end Reader

/-- The body that a text describes, if it is well-formed. -/
def read (text : Bytes) : Option Body := do
  let tokens ← Token.ofText? text
  let (items, _) ← (Reader.body false (2 * tokens.length + 2)).run tokens
  if Reader.isUnambiguous (tokens.length + 1) items then some items else none

end Stencil.Hcl
