import LineFraming.Toml.Value

/-!
# TOML tables under construction

A document fills its tables piece by piece, and no table may be defined twice. A table remembers
how it came to be: on the way to another header, by a dotted key, or by a header of its own. The
first may still get its own header; the second takes only dotted keys; the third takes keys below
its header. An array of tables gets one more table with each of its headers.

## Main definitions

* `Toml.Node`, `Toml.Table`: what a table holds, and the table.
* `Toml.Table.update?`: changes the table at the end of a path.
* `Toml.Table.insert?`: a key with a value.
* `Toml.Document`: the tables of a document, with the one that is being filled.
-/

namespace LineFraming.Toml

/-- How a table came to be. -/
inductive Making where
  /-- On the way to another header. -/
  | implied
  /-- By a dotted key. -/
  | dotted
  /-- By a header of its own. -/
  | header
  deriving DecidableEq

/-- What stands behind a key. -/
inductive Node where
  /-- A value that nothing can be added to. -/
  | value (v : Value)
  /-- A table. -/
  | table (making : Making) (entries : List (Text × Node))
  /-- An array of tables that headers add to, the last table first. -/
  | tables (last : List (Text × Node)) (others : List (List (Text × Node)))

/-- A table under construction. -/
structure Table where
  making : Making := .header
  entries : List (Text × Node) := []

namespace Node

mutual

/-- The finished value. -/
def toValue : Node → Value
  | value v => v
  | table _ entries => .table (entryValues entries)
  | tables last others => .array (tableValues others ++ [.table (entryValues last)])

/-- The finished values of a table. -/
def entryValues : List (Text × Node) → List (Text × Value)
  | [] => []
  | (k, n) :: rest => (k, toValue n) :: entryValues rest

/-- The finished tables of an array, the last first. -/
def tableValues : List (List (Text × Node)) → List Value
  | [] => []
  | t :: rest => tableValues rest ++ [.table (entryValues t)]

end

end Node

namespace Table

/-- What stands behind a key. -/
def find? (t : Table) (key : Text) : Option Node := t.entries.lookup key

/-- Puts a node behind a key, in the place of the one that is there. -/
def put (t : Table) (key : Text) (n : Node) : Table :=
  if (t.find? key).isSome then
    { t with entries := t.entries.map fun e => if e.1 == key then (key, n) else e }
  else { t with entries := t.entries ++ [(key, n)] }

/-- Changes the table at the end of a path, which is made if it is not there. A path of dotted
keys does not lead through tables with a header of their own. -/
def update? (dotted : Bool) (change : Table → Option Table) : List Text → Table → Option Table
  | [], t => change t
  | key :: path, t =>
    match t.find? key with
    | none => do
      let inner ← update? dotted change path { making := if dotted then .dotted else .implied }
      return t.put key (.table inner.making inner.entries)
    | some (.table making entries) =>
      if dotted ∧ making = .header then none
      else do
        let inner ← update? dotted change path { making := making, entries := entries }
        return t.put key (.table inner.making inner.entries)
    | some (.tables last others) => do
      let inner ← update? dotted change path { entries := last }
      return t.put key (.tables inner.entries others)
    | some (.value _) => none

/-- The table at the end of a path of a header, an empty one if it is not there yet. -/
def parent? : List Text → Table → Option Table
  | [], t => some t
  | key :: path, t =>
    match t.find? key with
    | none => some {}
    | some (.table making entries) => parent? path { making := making, entries := entries }
    | some (.tables last _) => parent? path { entries := last }
    | some (.value _) => none

/-- Puts a value behind a key at the end of a path. The key must be new, and a table that dotted
keys made takes only dotted keys, just as any other takes only plain ones. -/
def insert? (path : List Text) (key : Text) (v : Value) (t : Table) : Option Table :=
  Table.update? true (fun inner =>
    if (inner.making = .dotted ↔ path = []) ∨ (inner.find? key).isSome then none
    else some (inner.put key (.value v))) path t

end Table

/-- The tables of a document. The table below the last header is kept apart until the next header
or the end. -/
structure Document where
  root : Table := {}
  /-- The last header: the path, the last key and whether it adds to an array of tables. -/
  header : Option (List Text × Text × Bool) := none
  current : Table := {}

namespace Document

/-- Puts the table below the last header into its place. -/
def finish? (d : Document) : Option Table :=
  match d.header with
  | none => some d.current
  | some (path, key, false) =>
    Table.update? false (fun parent =>
      some (parent.put key (.table .header d.current.entries))) path d.root
  | some (path, key, true) =>
    Table.update? false (fun parent =>
      match parent.find? key with
      | none => some (parent.put key (.tables d.current.entries []))
      | some (.tables last others) =>
        some (parent.put key (.tables d.current.entries (last :: others)))
      | some _ => none) path d.root

/-- A header. Only a table that was made on the way to other headers may be there already; what it
holds is kept. -/
def start? (d : Document) (path : List Text) (key : Text) (adds : Bool) : Option Document := do
  let root ← d.finish?
  if adds then return { root := root, header := some (path, key, adds) }
  else
    let parent ← Table.parent? path root
    match parent.find? key with
    | none => return { root := root, header := some (path, key, adds) }
    | some (.table .implied entries) =>
      return { root := root, header := some (path, key, adds), current := { entries := entries } }
    | some _ => none

/-- A key with a value, in the table below the last header. -/
def insert? (d : Document) (path : List Text) (key : Text) (v : Value) : Option Document := do
  let current ← d.current.insert? path key v
  return { d with current := current }

end Document

end LineFraming.Toml
