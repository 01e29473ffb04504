import TableGateway.Value.Shape

/-!
# Columns

What the database says about a column of a table or view.
-/

namespace TableGateway

namespace Catalog

/-- A column. All is kept as it is given: a column refuses null only if `nullable` is exactly
`false`. Its name and type should be texts. -/
structure Column where
  name : Value
  type : Value
  nullable : Value
  default : Value := .null
  isPrimaryKey : Value := .bool false
  /-- The texts of the checks on the column; what does not count as given is none. -/
  constraints : List Value := []
deriving Repr, DecidableEq

namespace Column

/-- A column with flags of any kind. -/
def ofFlags (row : Value) : Except ShapeError Column := do
  return {
    name := ← row.field "name"
    type := ← row.field "type"
    nullable := ← row.field "nullable"
    default := (row.get? "default").getD .null
    isPrimaryKey := (row.get? "isPrimaryKey").getD (.bool false)
    constraints := ← row.itemsIfGiven "constraints" }

/-- A column whose flags are true or false. -/
def ofRow (row : Value) : Except ShapeError Column := do
  let c ← ofFlags row
  return { c with
    nullable := .bool c.nullable.isTruthy
    isPrimaryKey := .bool c.isPrimaryKey.isTruthy }

/-- Whether a value must be present. -/
def refusesNull (c : Column) : Bool :=
  c.nullable = .bool false

/-- Whether a value must be given: it must be present and there is no default. -/
def isRequired (c : Column) : Bool :=
  c.refusesNull && c.default = .null

/-- Whether the default draws from a sequence. -/
def hasSequence (c : Column) : Bool :=
  match c.default with
  | .string s => "nextval".toList.isPrefixOf s.toList
  | _ => false

/-- Whether the database alone sets the value: a primary key that comes from a sequence. -/
def isReadOnly (c : Column) : Bool :=
  c.isPrimaryKey.isTruthy && c.refusesNull && c.hasSequence

end Column

end Catalog

end TableGateway
