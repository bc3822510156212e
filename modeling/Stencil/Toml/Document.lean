import Stencil.Bytes

/-! TOML documents: nested tables, and the keys in the order they are written. -/
namespace Stencil.Toml

inductive Value where
  | text (b : Bytes)
  | int (n : Int)
  | bool (b : Bool)
  | float
  | moment
  | array (items : List Value)
  | table (entries : List (Bytes × Value))
  /-- The tables under a repeated heading in double brackets. -/
  | tables (items : List (List (Bytes × Value)))
  deriving Repr

abbrev Table := List (Bytes × Value)

abbrev KeyPath := List Bytes

namespace Table

def has (t : Table) (key : Bytes) : Bool := t.any (·.1 == key)

/-- Sets a key, which keeps its place if it is there already. -/
def put (t : Table) (key : Bytes) (v : Value) : Table :=
  if t.has key then t.map fun (k, w) => if k = key then (k, v) else (k, w)
  else t ++ [(key, v)]

/-- Changes the table at a path; under double brackets that is the last one. -/
def modify? (t : Table) (path : KeyPath) (f : Table → Option Table) : Option Table :=
  match path with
  | [] => f t
  | key :: path => do
    match ← t.lookup key with
    | .table inner => return t.put key (.table (← modify? inner path f))
    | .tables items =>
      let last ← items.getLast?
      return t.put key (.tables (items.dropLast ++ [← modify? last path f]))
    | _ => none

/-- The table at a path. -/
def at? (t : Table) : KeyPath → Option Table
  | [] => some t
  | key :: path => do
    match ← t.lookup key with
    | .table inner => at? inner path
    | .tables items => at? (← items.getLast?) path
    | _ => none

/-- Sets a key in tables along a path, which are made if need be. -/
def putAt? (t : Table) (path : KeyPath) (key : Bytes) (v : Value) : Option Table :=
  match path with
  | [] => some (t.put key v)
  | k :: path => do
    match t.lookup k with
    | none => return t.put k (.table (← putAt? [] path key v))
    | some (.table inner) => return t.put k (.table (← putAt? inner path key v))
    | some _ => none

end Table

/-- A document while it is read. -/
structure Document where
  root : Table := []
  /-- The keys and headings in the order they are written. -/
  keysRev : List KeyPath := []
  /-- The table that keys now go to. -/
  context : KeyPath := []
  /-- Tables that something else than a heading or value of their own has made. -/
  implicit : List KeyPath := []
  /-- The keys that hold arrays. -/
  arrays : List KeyPath := []

namespace Document

def keys (d : Document) : List KeyPath := d.keysRev.reverse

def note (d : Document) (path : KeyPath) : Document := { d with keysRev := path :: d.keysRev }

def markImplicit (d : Document) (path : KeyPath) : Document :=
  { d with implicit := path :: d.implicit }

def unmarkImplicit (d : Document) (path : KeyPath) : Document :=
  { d with implicit := d.implicit.filter (· != path) }

/-- Notes whether a key of the current table holds an array. The empty key stands for the table
itself, unless that is the whole document. -/
def setKind (d : Document) (key : Bytes) (isArray : Bool) : Document :=
  let path := if key.isEmpty && !d.context.isEmpty then d.context else d.context ++ [key]
  let others := d.arrays.filter (· != path)
  { d with arrays := if isArray then path :: others else others }

/-- Gives a key of the current table a value. One that holds an array gets the new value; a table
that exists only implicitly stays as it is; everything else can be set once. -/
def set? (d : Document) (key : Bytes) (v : Value) : Option Document := do
  let path := d.context ++ [key]
  let t ← d.root.at? d.context
  let put (d : Document) : Option Document := do
    return { d with root := ← d.root.modify? d.context fun t => some (t.put key v) }
  if !t.has key then put d
  else if d.arrays.contains path then put (d.unmarkImplicit path)
  else if d.implicit.contains path then return d.unmarkImplicit path
  else none

/-- Makes sure that there are tables along a path. -/
def establish (d : Document) : (done rest : KeyPath) → Option Document
  | _, [] => some d
  | done, key :: rest => do
    let t ← d.root.at? done
    let path := done ++ [key]
    let d ←
      if t.has key then pure d
      else
        let root ← d.root.modify? done fun t => some (t.put key (.table []))
        pure { d.markImplicit path with root }
    let _ ← d.root.at? path
    establish d path rest

/-- Goes into the table at a path, which is set to an empty one. -/
def enter (d : Document) (path : KeyPath) : Option Document := do
  let d ← d.establish [] path.dropLast
  let d ← { d with context := path.dropLast }.set? (← path.getLast?) (.table [])
  return { d with context := path }

/-- Goes into a new table at the end of those at a path. -/
def enterNew (d : Document) (path : KeyPath) : Option Document := do
  let d ← d.establish [] path.dropLast
  let key ← path.getLast?
  let root ← d.root.modify? path.dropLast fun t =>
    match t.lookup key with
    | none => some (t.put key (.tables [[]]))
    | some (.tables items) => some (t.put key (.tables (items ++ [[]])))
    | some _ => none
  return { d with root, context := path }

/-- Goes into the tables that the first parts of a dotted key name. -/
def enterParts (d : Document) : KeyPath → Option Document
  | [] => some d
  | key :: more => do
    let path := d.context ++ [key]
    enterParts (← (d.markImplicit path).enter path) more

/-- Starts the table under a heading. -/
def openTable (d : Document) (path : KeyPath) : Option Document := do
  return ((← d.enter path).setKind [] false).note path

/-- Adds a table under a heading in double brackets. -/
def openTables (d : Document) (path : KeyPath) : Option Document := do
  return ((← d.enterNew path).setKind [] false).note path

end Document
end Stencil.Toml
