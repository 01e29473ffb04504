import TableGateway.Query.Condition

/-!
# Queries

What can be asked of a source: to create, read, update, delete or count rows.
-/

namespace TableGateway.Query

/-- A related table, joined at a path: its column `foreignProperty` equals the column
`localProperty` of the table joined at the path without its last segment. The path should be a list
of texts. -/
structure Join where
  source : Value
  path : Value
  localProperty : Value
  foreignProperty : Value
deriving Repr, DecidableEq

/-- A join at a path of names, as it is written in SQL. -/
structure PlacedJoin where
  source : String
  path : List String
  localProperty : String
  foreignProperty : String
deriving Repr, DecidableEq

namespace Join

/-- The join at the names in its path, unless some segment is no name. -/
def named (j : Join) : Except ShapeError PlacedJoin := do
  return {
    source := j.source.shown
    path := ← (← j.path.items).mapM Value.asText
    localProperty := j.localProperty.shown
    foreignProperty := j.foreignProperty.shown }

/-- The place of a join among others: the path to its parent is a part of a longer path. -/
def place (j : Join) : Except ShapeError PlacedJoin := do
  let placed ← j.named
  if placed.path.length > 1 then
    j.path.inOrder
  return placed

/-- The place of a join in a row: the path to what it replaces is a part of its path. -/
def placeInRow (j : Join) : Except ShapeError PlacedJoin := do
  let placed ← j.named
  j.path.inOrder
  return placed

end Join

/-- A column of a read. -/
inductive Field where
  | column (name : String)
  | raw (r : Raw)
deriving Repr

/-- A criterion of the order of rows. -/
structure Order where
  field : String
  direction : Value := .string "asc"
deriving Repr

/-- A page of the rows; the first page has number one. Both should be numbers. -/
structure Page where
  size : Value
  number : Value := .int 1
deriving Repr, DecidableEq

/-- Inserts a row; the objects at the paths of joins are rows of the joined tables. The columns to
return should be a list of names. -/
structure Create where
  source : String
  row : Value := .object []
  returning : Value := .array []
  joins : List Join := []
deriving Repr

/-- Reads rows; without fields all columns are read. -/
structure Read where
  source : String
  fields : List Field := []
  conditions : List Condition := []
  joins : List Join := []
  order : List Order := []
  page : Option Page := none
deriving Repr

/-- Assigns values to the rows that meet the conditions. -/
structure Update where
  source : String
  row : Value := .object []
  returning : Value := .array []
  conditions : List Condition := []
  joins : List Join := []
deriving Repr

/-- Deletes the rows that meet the conditions. -/
structure Delete where
  source : String
  conditions : List Condition := []
deriving Repr

end TableGateway.Query

namespace TableGateway

/-- A request for one statement. -/
inductive Query where
  | create (q : Query.Create)
  | read (q : Query.Read)
  | update (q : Query.Update)
  | delete (q : Query.Delete)
  /-- Counts the rows that a read would return without its page. -/
  | count (q : Query.Read)
deriving Repr

end TableGateway
