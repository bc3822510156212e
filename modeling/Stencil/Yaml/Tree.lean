import Stencil.Yaml.Symbol

/-! YAML documents as trees. -/
namespace Stencil.Yaml

/-- A document. -/
inductive Tree where
  /-- A scalar with its tag; the tag is empty if the text itself has to tell what it stands for. -/
  | scalar (tag text : List Char)
  | sequence (tag : List Char) (items : List Tree)
  | mapping (tag : List Char) (entries : List (Tree × Tree))
  /-- A name for another node; there is none if the name is that of a node around this one. -/
  | alias (name : List Char) (target : Option Tree)
  deriving Repr

namespace Tree

def textTag : List Char := "!!str".toList
def mergeTag : List Char := "!!merge".toList
def nullTag : List Char := "!!null".toList

/-- A scalar under the tag that is written, which may be empty or a mere `!`: then quotes make it a
text, and `<<` has a tag of its own. -/
def ofScalar (tag text : List Char) (isPlain : Bool) : Tree :=
  if !tag.isEmpty && tag != ['!'] then .scalar tag text
  else if !isPlain then .scalar textTag text
  else if text = ['<', '<'] then .scalar mergeTag text
  else .scalar [] text

/-- The node that stands where nothing is written. -/
def absent (tag : List Char) : Tree := ofScalar tag [] true

end Tree

/-- A node that a name stands for. -/
structure Anchored where
  name : List Char
  /-- The number of anchors before it. -/
  number : Nat
  /-- The node, once it is read to its end. -/
  target : Option Tree

/-- The symbols still to be read and the names known so far. -/
structure Reading where
  scanner : Scanner
  /-- Whether the next symbol has been looked at. -/
  looked : Bool := false
  /-- The anchors, the latest first. -/
  anchors : List Anchored := []
  handles : List (List Char × List Char) := []

/-- Reads nodes off the symbols. -/
abbrev TreeReader := StateT Reading Option

namespace TreeReader

/-- The next symbol. -/
def peek : TreeReader Symbol := do
  let r ← get
  if !r.looked then
    match (Scanning.fill r.scanner.cursor.fuel).run r.scanner with
    | some (_, scanner) => set { r with scanner, looked := true }
    | none => failure
  match (← get).scanner.queue with
  | x :: _ => return x
  | [] => failure

def skip : TreeReader Unit := modify fun r =>
  let s := r.scanner
  { r with scanner := { s with queue := s.queue.tail, taken := s.taken + 1 }, looked := false }

/-- Whether the next symbol is one of these. -/
def isNext (xs : List Symbol) : TreeReader Bool := return xs.contains (← peek)

/-- Passes over a symbol that has to come next. -/
def expect (x : Symbol) : TreeReader Unit := do
  if ← isNext [x] then skip else failure

def standardStem : List Char := "tag:yaml.org,2002:".toList

/-- The short form of a tag: the standard ones start with `!!`. -/
def shortTag (tag : List Char) : List Char :=
  if standardStem.isPrefixOf tag then '!' :: '!' :: tag.drop standardStem.length else tag

/-- The tag with its handle worked out. -/
def resolveTag (handle suffix : List Char) : TreeReader (List Char) := do
  if handle.isEmpty then return shortTag suffix
  else
    let known := (← get).handles ++ [(['!'], ['!']), (['!', '!'], standardStem)]
    match known.lookup handle with
    | some stem => return shortTag (stem ++ suffix)
    | none => failure

/-- Reads an anchor and a tag, each at most once and in any order. The fuel is two. -/
def properties : (fuel : Nat) → Option (List Char) → Option (List Char × List Char) →
    TreeReader (Option (List Char) × Option (List Char × List Char))
  | 0, anchor, tag => return (anchor, tag)
  | fuel + 1, anchor, tag => do
    match ← peek, anchor, tag with
    | .anchor name, none, _ =>
      skip
      properties fuel (some name) tag
    | .tag handle suffix, _, none =>
      skip
      properties fuel anchor (some (handle, suffix))
    | _, _, _ => return (anchor, tag)

/-- Reads a node that an anchor may name; within the node the name is known, but not yet the
node. -/
def named (anchor : Option (List Char)) (node : TreeReader Tree) : TreeReader Tree := do
  match anchor with
  | none => node
  | some name =>
    let number := (← get).anchors.length
    modify fun r => { r with anchors := ⟨name, number, none⟩ :: r.anchors }
    let n ← node
    modify fun r => { r with
      anchors := r.anchors.map fun a => if a.number = number then { a with target := some n } else a }
    return n

mutual

/-- Reads a node. `inBlock` tells that block collections may start here, `flat` that a sequence may
stand at the indentation of its parent. The fuel bounds the depth and the number of entries. -/
def node (inBlock flat : Bool) : (fuel : Nat) → TreeReader Tree
  | 0 => failure
  | fuel + 1 => do
    if let .alias name ← peek then
      skip
      match (← get).anchors.find? (·.name == name) with
      | some a => return .alias name a.target
      | none => failure
    else
      let (anchor, written) ← properties 2 none none
      let tag ← match written with
        | some (handle, suffix) => resolveTag handle suffix
        | none => pure []
      let bare := anchor.isNone && written.isNone
      named anchor do
        match ← peek with
        | .blockEntry =>
          if flat then .sequence tag <$> flatSequence fuel
          else if bare then failure else return .absent tag
        | .scalar text isPlain =>
          skip
          return .ofScalar tag text isPlain
        | .flowSequenceStart =>
          skip
          .sequence tag <$> flowSequence true fuel
        | .flowMappingStart =>
          skip
          .mapping tag <$> flowMapping true fuel
        | .blockSequenceStart =>
          if inBlock then
            skip
            .sequence tag <$> blockSequence fuel
          else if bare then failure else return .absent tag
        | .blockMappingStart =>
          if inBlock then
            skip
            .mapping tag <$> blockMapping fuel
          else if bare then failure else return .absent tag
        | _ => if bare then failure else return .absent tag

/-- Reads a node, unless one of `ends` comes next. -/
def nodeUnless (ends : List Symbol) (inBlock flat : Bool) : (fuel : Nat) → TreeReader Tree
  | 0 => failure
  | fuel + 1 => do
    if ← isNext ends then return .absent [] else node inBlock flat fuel

def blockSequence : (fuel : Nat) → TreeReader (List Tree)
  | 0 => failure
  | fuel + 1 => do
    if ← isNext [.blockEntry] then
      skip
      let n ← nodeUnless [.blockEntry, .blockEnd] true false fuel
      return n :: (← blockSequence fuel)
    else
      expect .blockEnd
      return []

def flatSequence : (fuel : Nat) → TreeReader (List Tree)
  | 0 => failure
  | fuel + 1 => do
    if ← isNext [.blockEntry] then
      skip
      let n ← nodeUnless [.blockEntry, .key, .value, .blockEnd] true false fuel
      return n :: (← flatSequence fuel)
    else return []

def blockMapping : (fuel : Nat) → TreeReader (List (Tree × Tree))
  | 0 => failure
  | fuel + 1 => do
    if ← isNext [.key] then
      skip
      let k ← nodeUnless [.key, .value, .blockEnd] true true fuel
      let v ←
        if ← isNext [.value] then
          skip
          nodeUnless [.key, .value, .blockEnd] true true fuel
        else pure (.absent [])
      return (k, v) :: (← blockMapping fuel)
    else
      expect .blockEnd
      return []

/-- Reads the value of a key in a flow collection that ends with `close`. -/
def flowValue (close : Symbol) : (fuel : Nat) → TreeReader Tree
  | 0 => failure
  | fuel + 1 => do
    if ← isNext [.value] then
      skip
      nodeUnless [.flowEntry, close] false false fuel
    else return .absent []

/-- Reads a key that `?` starts within a flow sequence. Where the key is missing, the symbol in its
place is passed over. -/
def sequenceKey : (fuel : Nat) → TreeReader Tree
  | 0 => failure
  | fuel + 1 => do
    if ← isNext [.value, .flowEntry, .flowSequenceEnd] then
      skip
      return .absent []
    else node false false fuel

def flowSequence (first : Bool) : (fuel : Nat) → TreeReader (List Tree)
  | 0 => failure
  | fuel + 1 => do
    if ← isNext [.flowSequenceEnd] then
      skip
      return []
    else
      if !first then expect .flowEntry
      match ← peek with
      | .flowSequenceEnd =>
        skip
        return []
      | .key =>
        skip
        let k ← sequenceKey fuel
        let v ← flowValue .flowSequenceEnd fuel
        return .mapping [] [(k, v)] :: (← flowSequence false fuel)
      | _ =>
        let n ← node false false fuel
        return n :: (← flowSequence false fuel)

def flowMapping (first : Bool) : (fuel : Nat) → TreeReader (List (Tree × Tree))
  | 0 => failure
  | fuel + 1 => do
    if ← isNext [.flowMappingEnd] then
      skip
      return []
    else
      if !first then expect .flowEntry
      match ← peek with
      | .flowMappingEnd =>
        skip
        return []
      | .key =>
        skip
        let k ← nodeUnless [.value, .flowEntry, .flowMappingEnd] false false fuel
        let v ← flowValue .flowMappingEnd fuel
        return (k, v) :: (← flowMapping false fuel)
      | _ =>
        let k ← node false false fuel
        return (k, .absent []) :: (← flowMapping false fuel)

end

/-- Reads the directives before a document; the version, if given, is 1.1. The fuel bounds their
number. -/
def directives : (fuel : Nat) → (versioned : Bool) → TreeReader Unit
  | 0, _ => failure
  | fuel + 1, versioned => do
    match ← peek with
    | .version major minor =>
      if versioned || major != 1 || minor != 1 then failure
      skip
      directives fuel true
    | .handle name stem =>
      if (← get).handles.any (·.1 == name) then failure
      skip
      modify fun r => { r with handles := r.handles ++ [(name, stem)] }
      directives fuel versioned
    | _ => return

/-- Whether a symbol stands between documents. -/
def isBetweenDocuments : Symbol → Bool
  | .version .. | .handle .. | .documentStart | .documentEnd | .streamEnd => true
  | _ => false

/-- Reads the first document; there is none in an empty stream. -/
def document (fuel : Nat) : TreeReader (Option Tree) := do
  match ← peek with
  | .streamEnd => return none
  | x =>
    let explicit := isBetweenDocuments x && x != .documentEnd
    if explicit then
      directives fuel false
      expect .documentStart
    let n ←
      if explicit && isBetweenDocuments (← peek) then pure (Tree.absent [])
      else node true false fuel
    let _ ← peek
    return some n

end TreeReader

/-- The first document of a text, if it is well-formed; the inner `none` stands for no document at
all. -/
def read (text : Bytes) : Option (Option Tree) := do
  let cursor := Cursor.ofSource (Source.ofBytes text)
  let (n, _) ← (TreeReader.document (2 * cursor.fuel)).run { scanner := { cursor } }
  return n

end Stencil.Yaml
