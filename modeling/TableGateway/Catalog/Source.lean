import TableGateway.Catalog.Document

/-!
# Sources

A source is a table or view as it is offered: its keys, its relationships to other sources, the
actions on it and the description of its rows.
-/

namespace TableGateway.Catalog

/-- A foreign key: a property of one source that refers to a property of another. All should be
texts. -/
structure Relationship where
  relationName : Value
  localProperty : Value
  foreignProperty : Value
deriving Repr, DecidableEq

/-- A relationship as the database gives it. -/
def Relationship.ofRow (row : Value) : Except ShapeError Relationship := do
  return {
    relationName := ← row.field "name"
    localProperty := ← row.field "from"
    foreignProperty := ← row.field "to" }

/-- The relationship as data. -/
def Relationship.toValue (r : Relationship) : Value :=
  .object [("relationName", r.relationName), ("localProperty", r.localProperty),
    ("foreignProperty", r.foreignProperty)]

/-- A table or view as it is offered. Its name and its identifying properties should be texts. -/
structure Source where
  name : Value
  identifyingProperties : List Value := []
  /-- The foreign keys that refer to this source. -/
  has : List Relationship := []
  /-- The foreign keys of this source. -/
  belongsTo : List Relationship := []
  /-- The description of the rows. -/
  schema : Value := .null
  actions : List Value := []
deriving Repr, DecidableEq

namespace Source

/-- The source as data. -/
def toValue (s : Source) : Value :=
  .object [
    ("name", s.name),
    ("identifyingProperties", .array s.identifyingProperties),
    ("has", .array (s.has.map Relationship.toValue)),
    ("belongsTo", .array (s.belongsTo.map Relationship.toValue)),
    ("actions", .array s.actions),
    ("schema", s.schema)]

/-- Whether two sources are the same; the descriptions of their rows play no part. -/
def isSame (a b : Source) : Bool :=
  ({ a with schema := .null } : Source).toValue.equals
    ({ b with schema := .null } : Source).toValue

/-- A source written as data: a text is its name alone, and an object may leave all but the name
out. -/
def ofValue (v : Value) : Except ShapeError Source :=
  match v with
  | .string name => .ok { name := .string name }
  | v => do
    return {
      name := ← v.field "name"
      identifyingProperties := ← v.itemsOf "identifyingProperties"
      has := ← (← v.itemsOf "has").mapM Relationship.ofRow
      belongsTo := ← (← v.itemsOf "belongsTo").mapM Relationship.ofRow
      schema := (v.get? "schema").getD .null
      actions := ← v.itemsOf "actions" }

end Source

end TableGateway.Catalog
