import TableGateway.Catalog.Source
import TableGateway.Query.Basic

/-!
# Queries written as data

A query may be written as an object. What it leaves out is absent; what is given has to be of the
shape that reading it takes, and is otherwise kept as it is.
-/

namespace TableGateway.Query

/-- Reads a fragment. -/
def Raw.ofValue (v : Value) : Except ShapeError Raw := do
  return { fragment := ← v.field "raw", values := v.given? "values" }

/-- Reads a comparison of a field. -/
def Term.ofMembers (field : Value) (members : List (String × Value)) : Term :=
  let member (key : String) (default : Value) := (members.lookup key).getD default
  { field := field.shown, value := member "value" .null,
    operator := (member "operator" (.string "=")).shown }

namespace Condition

mutual

/-- Reads a condition. Of the keys `and`, `or`, `raw` and `term` the first one that is there
decides; data without any of them is no condition. -/
def ofValue : Value → Except ShapeError Condition
  | .object members =>
    match partsUnder "and" members with
    | some parts => parts.map .all
    | none =>
      match partsUnder "or" members with
      | some parts => parts.map .any
      | none =>
        match members.lookup "raw", members.lookup "term" with
        | some _, _ => (Raw.ofValue (.object members)).map .raw
        | none, some field => .ok (.term (.ofMembers field members))
        | none, none => .ok (.unsupported (.object members))
  | v => .ok (.unsupported v)

/-- Reads the parts that stand under a key. -/
def partsUnder (key : String) :
    List (String × Value) → Option (Except ShapeError (List Condition))
  | [] => none
  | (k, v) :: rest => if k = key then some (parts v) else partsUnder key rest

/-- Reads the items of data as conditions. -/
def parts : Value → Except ShapeError (List Condition)
  | .array items => ofValues items
  | v => v.items.map fun items => items.map unsupported

def ofValues : List Value → Except ShapeError (List Condition)
  | [] => .ok []
  | v :: rest => do
    let c ← ofValue v
    return c :: (← ofValues rest)

end

end Condition

/-- Reads a join. -/
def Join.ofValue (v : Value) : Except ShapeError Join := do
  return {
    source := ← v.field "source"
    path := ← v.field "path"
    localProperty := ← v.field "from"
    foreignProperty := ← v.field "to" }

/-- Reads a field: an object is a fragment, and everything else names a column. -/
def Field.ofValue (v : Value) : Except ShapeError Field :=
  if v.members?.isSome then (Raw.ofValue v).map .raw else .ok (.column v.shown)

/-- Reads a criterion of the order. -/
def Order.ofValue (v : Value) : Except ShapeError Order := do
  return {
    field := (← v.field "field").shown
    direction := (v.get? "direction").getD (.string "asc") }

/-- Reads a page. -/
def Page.ofValue (v : Value) : Except ShapeError Page := do
  return { size := ← v.field "size", number := (v.get? "number").getD (.int 1) }

/-- Reads the name of a source. -/
def sourceName (v : Value) : Except ShapeError String :=
  (Catalog.Source.ofValue v).map (·.name.shown)

/-- Reads the parts of a read. -/
def Read.ofValue (v : Value) : Except ShapeError Read := do
  return {
    source := ← sourceName (← v.field "source")
    fields := ← (← v.itemsUnlessNull "fields").mapM Field.ofValue
    conditions := ← (← v.itemsUnlessNull "conditions").mapM Condition.ofValue
    joins := ← (← v.itemsUnlessNull "joins").mapM Join.ofValue
    order := ← (← v.itemsUnlessNull "order").mapM Order.ofValue
    page := ← (v.given? "page").mapM Page.ofValue }

/-- Reads the parts of an update. -/
def Update.ofValue (v : Value) : Except ShapeError Update := do
  return {
    source := ← sourceName (← v.field "source")
    row := (v.given? "data").getD (.object [])
    returning := (v.given? "returning").getD (.array [])
    conditions := ← (← v.itemsUnlessNull "conditions").mapM Condition.ofValue
    joins := ← (← v.itemsUnlessNull "joins").mapM Join.ofValue }

/-- Reads the parts of a create. -/
def Create.ofValue (v : Value) : Except ShapeError Create := do
  return {
    source := ← sourceName (← v.field "source")
    row := (v.given? "data").getD (.object [])
    returning := (v.given? "returning").getD (.array [])
    joins := ← (← v.itemsUnlessNull "joins").mapM Join.ofValue }

/-- Reads the parts of a delete. -/
def Delete.ofValue (v : Value) : Except ShapeError Delete := do
  return {
    source := ← sourceName (← v.field "source")
    conditions := ← (← v.itemsUnlessNull "conditions").mapM Condition.ofValue }

end TableGateway.Query

namespace TableGateway

/-- The kinds of queries. -/
inductive QueryKind where
  | create
  | read
  | update
  | delete
  | count
deriving Repr, DecidableEq

/-- The kinds of queries by name. -/
def QueryKind.named : List (String × QueryKind) :=
  [("create", create), ("read", read), ("update", update), ("delete", delete), ("count", count)]

/-- Reads a query of a kind. -/
def Query.ofValue (kind : QueryKind) (v : Value) : Except ShapeError Query :=
  match kind with
  | .create => (Query.Create.ofValue v).map .create
  | .read => (Query.Read.ofValue v).map .read
  | .update => (Query.Update.ofValue v).map .update
  | .delete => (Query.Delete.ofValue v).map .delete
  | .count => (Query.Read.ofValue v).map .count

end TableGateway
