import TableGateway.Discovery.Engine
import TableGateway.Discovery.Question
import TableGateway.Value.Equality
import TableGateway.Value.Shape

/-!
# Databases that are discovered

A database answers two questions: which entities of a kind it has, and what the details of one of
them are. It is reached through an engine. A recording answers from rows that were noted down; no
engine stands before it, and nothing is told of its connections.
-/

namespace TableGateway.Discovery

/-- The answers of a database. -/
structure Database where
  /-- The rows of the entities of a kind, asked for with a text. -/
  entities : EntityKind → String → Except Fault (List Value)
  /-- The row of details of the entity with a schema and a name, for a reader with a connection. -/
  row : Value → Value → Except Fault Value
  engine : Option Engine := none

namespace Database

/-- What becomes of asking for a connection. -/
def access (db : Database) : Access :=
  (db.engine.map Engine.access).getD .kept

/-- What becomes of the connection of the reader of an entity. -/
def readerAccess (db : Database) (schema name : Value) : Access :=
  (db.engine.map fun engine => engine.readerAccess schema name).getD .kept

/-- The details of the entity with a schema and a name. -/
def details (db : Database) (schema name : Value) : Except Fault Value := do
  (db.readerAccess schema name).check
  db.row schema name

end Database

/-- Rows of a database, and the questions that it fails to answer. All should be lists. -/
structure Recording where
  tables : Value := .array []
  views : Value := .array []
  details : Value := .array []
  /-- The kind of entities that cannot be listed. -/
  failingKind : Option EntityKind := none
  /-- The names of entities whose details cannot be read. -/
  failingNames : Value := .array []
deriving Repr, Inhabited

namespace Recording

/-- A recording as it is noted down: an object of lists of rows, and the questions that fail. -/
def ofValue (v : Value) : Recording where
  tables := (v.get? "tables").getD (.array [])
  views := (v.get? "views").getD (.array [])
  details := (v.get? "details").getD (.array [])
  failingKind := match v.get? "failOn" with
    | some (.string "tables") => some .table
    | some (.string "views") => some .view
    | _ => none
  failingNames := (v.get? "failDetails").getD (.array [])

/-- The rows of the entities of a kind, whatever the condition. -/
def entities (r : Recording) (kind : EntityKind) : Except Fault (List Value) :=
  let rows := match kind with
    | .table => ("cannot list tables", r.tables)
    | .view => ("cannot list views", r.views)
  if r.failingKind = some kind then .error ⟨.database, rows.1⟩
  else rows.2.items.mapError ShapeError.fault

/-- Whether a row describes the entity with a schema and a name. -/
def describes (row : Value) (schema name : Value) : Bool :=
  ((row.get? "schema").getD .null).equals schema && ((row.get? "name").getD .null).equals name

/-- The details of an entity, of which there must be exactly one row. -/
def detailsOf (r : Recording) (schema name : Value) : Except Fault Value := do
  let failing ← r.failingNames.items.mapError ShapeError.fault
  if failing.any (·.equals name) then
    throw ⟨.database, "cannot read " ++ name.shown⟩
  let rows ← r.details.items.mapError ShapeError.fault
  match rows.filter (describes · schema name) with
  | [row] => return row
  | _ => throw ⟨.noRow, "No row was found when one was required"⟩

/-- The database that answers from a recording. -/
def database (r : Recording) : Database where
  entities kind _ := r.entities kind
  row := r.detailsOf

end Recording

end TableGateway.Discovery
