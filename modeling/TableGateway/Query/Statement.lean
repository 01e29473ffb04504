import TableGateway.Query.Nesting
import TableGateway.Text.Lowercase

/-!
# Statements

A query compiles to one SQL statement with numbered slots and the list of their values. Values are
bound in the order in which their slots stand in the text.
-/

namespace TableGateway.Query

/-- SQL and the values of its slots. -/
structure Statement where
  sql : Sql
  values : List Datum
deriving Repr

/-- The text of a statement, with `$n` for its `n`-th value. -/
def Statement.text (s : Statement) : String :=
  s.sql.written

/-- The text is made of the pieces in turn. -/
theorem Statement.text_eq (s : Statement) : s.text = String.join (s.sql.map Piece.written) :=
  rfl

/-- The statement that some work writes from the start. -/
def Statement.ofBinding (work : Binding Sql) : Except Error Statement :=
  match work.run.run {} with
  | (.ok sql, bound) => .ok ⟨sql, bound.values⟩
  | (.error e, _) => .error e

/-- The clause that keeps the rows which meet every condition. -/
def whereClause (source : String) (conditions : List Condition) : Binding Sql :=
  match conditions with
  | [] => return []
  | conditions => do
    return sql " WHERE " ++ (Filter.all (← Condition.bindEach source conditions)).sql

/-- The clause that names the columns to return. -/
def returningClause (columns : Value) : Except Error Sql :=
  if columns.isTruthy then do
    let names ← (columns.items.bind (·.mapM Value.asText)).mapError .data
    return sql (" RETURNING " ++ ",".intercalate names)
  else
    return []

/-- The table that a join refers to: the one joined at the path without its last segment. -/
def PlacedJoin.parent (source : String) (join : PlacedJoin) : String :=
  if join.path.length > 1 then aliasOf join.path.dropLast else source

/-- A related table and how its rows are found. -/
def PlacedJoin.sql (source : String) (join : PlacedJoin) : Sql :=
  let name := aliasOf join.path
  Query.sql (" LEFT JOIN " ++ join.source ++ " AS " ++ name ++ " ON (" ++ name ++ "."
    ++ join.foreignProperty ++ " = " ++ join.parent source ++ "." ++ join.localProperty ++ ")")

/-- The related tables, each after the one it refers to. -/
def joinClauses (source : String) (joins : List PlacedJoin) : Sql :=
  (shallowestFirst joins).flatMap (PlacedJoin.sql source)

/-- The columns that hold the joined rows, each as one object named by its alias. -/
def embeddings (joins : List PlacedJoin) : List Sql :=
  (shallowestFirst joins).map fun join =>
    sql ("row_to_json(" ++ aliasOf join.path ++ ".*) AS " ++ aliasOf join.path)

/-- A column of a read; plain names are qualified by the source. -/
def Field.bind (source : String) : Field → Binding Sql
  | column name => return sql (source ++ "." ++ name)
  | raw r => r.bind

/-- The columns of a read, all of them when none is named. -/
def Read.columns (q : Read) : Binding (List Sql) :=
  match q.fields with
  | [] => return [sql (q.source ++ ".*")]
  | fields => fields.mapM (Field.bind q.source)

/-- The places of the joins of a read. -/
def placeJoins (joins : List Join) : Except Error (List PlacedJoin) :=
  (joins.mapM Join.place).mapError .data

/-- Succeeds if the fields that are fragments are texts. -/
def checkFields (fields : List Field) : Except Error Unit :=
  fields.forM fun
    | .column _ => .ok ()
    | .raw r => (r.fragment.asText.map fun _ => ()).mapError .data

/-- Whether small values come first; every direction but `asc` is descending. -/
def Order.isAscending (o : Order) : Except Error Bool :=
  match o.direction with
  | .string direction => .ok (Text.lowercase direction = "asc")
  | direction => .error (.data (.lacks direction "lower"))

/-- A criterion as SQL. -/
def Order.text (o : Order) : Except Error String := do
  return o.field ++ (if ← o.isAscending then " ASC" else " DESC")

/-- The clause that orders the rows. -/
def orderClause : List Order → Except Error Sql
  | [] => return []
  | order => do
    return sql (" ORDER BY " ++ ", ".intercalate (← order.mapM Order.text))

/-- The size and the number of a page that is not before the first one and not of a negative
size. The number is looked at first. -/
def Page.read (p : Page) : Except Error (Number × Number) := do
  let number ← p.number.asNumber.mapError .data
  if number.isBelow 1 then
    throw (.invalidPage p.size p.number)
  let size ← p.size.asNumber.mapError .data
  if size.isBelow 0 then
    throw (.invalidPage p.size p.number)
  return (size, number)

/-- How many rows are on a page and how many come before it, in digits. -/
def pageBounds (size number : Number) : Except IntegerError (String × String) := do
  let limit ← integerText (← size.truncate)
  let offset ← integerText (← (← size.mul number.pred).truncate)
  return (limit, offset)

/-- The clause that cuts out a page. -/
def pageClause : Option Page → Except Error Sql
  | none => return []
  | some p => do
    let (size, number) ← p.read
    let (limit, offset) ← (pageBounds size number).mapError .pageBounds
    return sql (" LIMIT " ++ limit ++ " OFFSET " ++ offset)

def Create.sql (q : Create) : Binding Sql := do
  let w ← Write.plan q.row q.joins
  Binding.ofData (Value.areTexts (w.assignments.map (·.column)))
  return w.withClause ++ (Insertion.mk q.source w.assignments).sql
    ++ (← returningClause q.returning)

def Read.sql (q : Read) : Binding Sql := do
  let columns ← q.columns
  let joins ← placeJoins q.joins
  checkFields q.fields
  let filter ← whereClause q.source q.conditions
  let order ← orderClause q.order
  let page ← pageClause q.page
  return Query.sql "SELECT " ++ separated ", " (columns ++ embeddings joins)
    ++ Query.sql (" FROM " ++ q.source) ++ joinClauses q.source joins ++ filter ++ order ++ page

def Update.sql (q : Update) : Binding Sql := do
  let w ← Write.plan q.row q.joins
  if w.assignments.isEmpty then
    throw (.emptyUpdate q.source)
  let assignments := w.assignments.map fun a => Query.sql (a.column.shown ++ " = ") ++ a.cell.sql
  return w.withClause ++ Query.sql ("UPDATE " ++ q.source ++ " SET ")
    ++ separated ", " assignments ++ (← whereClause q.source q.conditions)
    ++ (← returningClause q.returning)

def Delete.sql (q : Delete) : Binding Sql := do
  return Query.sql ("DELETE FROM " ++ q.source) ++ (← whereClause q.source q.conditions)

/-- The statement that counts the rows of a read; fields, order and page play no part. -/
def Read.countSql (q : Read) : Binding Sql := do
  let joins ← placeJoins q.joins
  return Query.sql ("SELECT COUNT(*) FROM " ++ q.source) ++ joinClauses q.source joins
    ++ (← whereClause q.source q.conditions)

end TableGateway.Query

namespace TableGateway

/-- The SQL of a query, binding its values. -/
def Query.binding : Query → Query.Binding Query.Sql
  | create q => q.sql
  | read q => q.sql
  | update q => q.sql
  | delete q => q.sql
  | count q => q.countSql

/-- The statement of a query. -/
def Query.statement (q : Query) : Except Query.Error Query.Statement :=
  Query.Statement.ofBinding q.binding

end TableGateway
