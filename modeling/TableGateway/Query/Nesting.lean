import TableGateway.Query.Basic
import TableGateway.Value.Equality

/-!
# Nested rows

A row that is written may hold rows of related tables, at the paths of joins. Each becomes an
insertion with a name, and a reference to its key takes its place. The deepest rows come first, so
that an insertion refers only to those before it.
-/

namespace TableGateway.Query

/-- What a column is given: the value in a slot, or the key of a row inserted before. -/
inductive Cell where
  | bound (slot : Sql)
  | reference (r : Reference)
deriving Repr, DecidableEq

/-- The cell as SQL. -/
def Cell.sql : Cell → Sql
  | bound slot => slot
  | reference r => Query.sql r.text

/-- A column and what it is given. The column should be named by a text. -/
structure Assignment where
  column : Value
  cell : Cell
deriving Repr, DecidableEq

/-- Columns and the data they are given. -/
abbrev Row := List (Value × Datum)

/-- Binds the columns of a row, each as a single value. -/
def assign : Row → Binder (List Assignment)
  | [] => return []
  | (column, .reference r) :: rest => return ⟨column, .reference r⟩ :: (← assign rest)
  | (column, d) :: rest => do
    let slot ← add d
    return ⟨column, .bound slot⟩ :: (← assign rest)

/-- A row for a table. -/
structure Insertion where
  table : String
  assignments : List Assignment
deriving Repr, DecidableEq

/-- The insertion as SQL. -/
def Insertion.sql (i : Insertion) : Sql :=
  match i.assignments with
  | [] => Query.sql ("INSERT INTO " ++ i.table ++ " DEFAULT VALUES")
  | assignments =>
    Query.sql ("INSERT INTO " ++ i.table ++ " ("
        ++ ", ".intercalate (assignments.map (·.column.shown)) ++ ") VALUES (")
      ++ separated ", " (assignments.map (·.cell.sql)) ++ Query.sql ")"

/-- An insertion that the rest of the statement can refer to by name. -/
structure NestedInsertion where
  name : String
  insertion : Insertion
  returning : String
deriving Repr, DecidableEq

/-- The nested insertion as an entry of a `WITH` clause. -/
def NestedInsertion.sql (n : NestedInsertion) : Sql :=
  Query.sql (n.name ++ " AS (") ++ n.insertion.sql
    ++ Query.sql (" RETURNING " ++ n.returning ++ ")")

/-- The number of segments of a path. -/
def Join.depth (j : Join) : Nat :=
  (j.path.elements?.getD []).length

/-- Orders joins so that the longest paths come first. -/
def deepestFirst (joins : List Join) : List Join :=
  joins.mergeSort fun a b => b.depth ≤ a.depth

/-- Orders joins so that the shortest paths come first. -/
def shallowestFirst (joins : List PlacedJoin) : List PlacedJoin :=
  joins.mergeSort fun a b => a.path.length ≤ b.path.length

/-- The members of the object at a path, if there is one. The walk there meets only keys. -/
def Datum.membersAt? (d : Datum) : List Value → Except ShapeError (Option (List (String × Datum)))
  | [] => .ok d.members?
  | segment :: path =>
    match d.members? with
    | none => .ok none
    | some members =>
      match segment with
      | .string key =>
        match members.lookup key with
        | some inner => inner.membersAt? path
        | none => .ok none
      | segment => segment.asKey.map fun _ => none

namespace Row

/-- The members of the object at a path below a column, if there is one. -/
def membersAt? (row : Row) (column : Value) (path : List Value) :
    Except ShapeError (Option (List (String × Datum))) := do
  column.asKey
  match valueUnder? column row with
  | none => return none
  | some d => d.membersAt? path

/-- Replaces what is found at a path. -/
def set (row : Row) (path : List String) (new : Datum) : Row :=
  match path with
  | [] => row
  | column :: path =>
    row.map fun e => if e.1 = .string column then (e.1, e.2.set path new) else e

end Row

/-- A row of which some nested rows have been taken out. -/
structure Nesting where
  insertions : List NestedInsertion := []
  row : Row
deriving Repr

/-- Takes out the row at the path of a join, if there is one. Anything but an object is the value
of the key itself, and the whole row cannot be taken out. -/
def Nesting.extract (n : Nesting) (join : Join) : Binding Nesting := do
  match ← Binding.ofData join.path.items with
  | [] =>
    Binding.ofData (Value.areTexts (n.row.map (·.1)))
    Binding.ofData join.path.inOrder
    throw .emptyJoinPath
  | column :: path =>
    match ← Binding.ofData (n.row.membersAt? column path) with
    | none => return n
    | some members =>
      let join ← Binding.ofData join.placeInRow
      let assignments ← (assign (members.map fun m => (.string m.1, m.2)) : Binder _)
      let name := aliasOf join.path
      return {
        insertions := n.insertions ++ [⟨name, ⟨join.source, assignments⟩, join.foreignProperty⟩]
        row := n.row.set join.path (.reference ⟨join.foreignProperty, name⟩) }

/-- What is written by a create or an update: the nested insertions, in order, and the assignments
of the main row. -/
structure Write where
  insertions : List NestedInsertion
  assignments : List Assignment
deriving Repr, DecidableEq

/-- A column and its value that are written as a pair. -/
def columnOfPair (pair : Value) : Except ShapeError (Value × Value) := do
  match ← pair.items with
  | [column, v] =>
    column.asKey
    return (column, v)
  | _ => throw (.notAPair pair)

/-- The columns of a row. For a write with joins it may also be written as a list of pairs. -/
def columnsOf (row : Value) (joins : List Join) : Except ShapeError (List (Value × Value)) :=
  match row with
  | .object members => .ok (members.map fun m => (.string m.1, m.2))
  | row =>
    if joins.isEmpty then .error (.lacks row "items")
    else do
      let pairs ← (← row.items).mapM columnOfPair
      return pairs.foldl (fun columns c => setEntry c.1 c.2 columns) []

/-- Takes out the nested rows at the paths of the joins and binds what is left. -/
def Write.plan (row : Value) (joins : List Join) : Binding Write := do
  let columns ← Binding.ofData (columnsOf row joins)
  Binding.ofData (joins.forM fun join => join.path.items.map fun _ => ())
  let nesting ← (deepestFirst joins).foldlM Nesting.extract
    { row := columns.map fun c => (c.1, .value c.2) }
  return ⟨nesting.insertions, ← (assign nesting.row : Binder _)⟩

/-- The `WITH` clause of the nested insertions. -/
def Write.withClause (w : Write) : Sql :=
  match w.insertions with
  | [] => []
  | insertions =>
    sql "WITH " ++ separated ", " (insertions.map (·.sql)) ++ sql " "

end TableGateway.Query
