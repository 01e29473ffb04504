import TableGateway.Catalog.Source
import TableGateway.Discovery.Database
import TableGateway.Log
import TableGateway.Value.Number

/-!
# Inspections

An inspection turns the entities of a database that the rules cover into sources: it lists the
tables and the views, refuses names that are not unique, reads the details of each entity and
builds a source from them. It succeeds for all entities or fails as a whole.
-/

namespace TableGateway.Discovery

open Catalog

/-- A table or view that was listed. Schema, name and keys should be texts. -/
structure Entity where
  kind : EntityKind
  schema : Value
  name : Value
  primaryKeys : List Value := []
deriving Repr, DecidableEq

namespace Entity

/-- The name together with the schema. -/
def qualifiedName (e : Entity) : String :=
  e.schema.shown ++ "." ++ e.name.shown

/-- An entity of a kind, as it is listed. Only tables have keys. -/
def ofRow (kind : EntityKind) (row : Value) : Except ShapeError Entity := do
  let schema ← row.field "table_schema"
  let name ← row.field "table_name"
  match kind with
  | .view => return { kind, schema, name }
  | .table =>
    let _ ← row.field "primary_keys"
    return { kind, schema, name, primaryKeys := ← row.itemsIfGiven "primary_keys" }

end Entity

/-- Why an inspection fails. -/
inductive InspectionError where
  /-- The entities cannot be asked for. -/
  | names (e : NamesError)
  /-- The entities could not be listed. -/
  | listing (cause : Fault)
  /-- Groups of entities that share a name. -/
  | clashes (groups : List (List String))
  /-- The details of an entity could not be read. -/
  | details (cause : Fault)
  /-- An entity that no rule covers. -/
  | uncovered (entity : String)
  /-- Details are to be read by fewer than one reader. -/
  | noReaders
  /-- Data of a shape that its place does not allow. -/
  | data (e : ShapeError)
deriving Repr, DecidableEq

/-- What is reported of a failed inspection. A lack of readers is not foreseen, nor are names that
are no texts and data of the wrong shape where it does not come from the listing. -/
def InspectionError.failure : InspectionError → Failure
  | names e => .unexpected e.fault
  | listing cause => .foreseen
      { area := .discovery, message := "Failed to enumerate tables and views", cause := some cause }
  | clashes groups => .foreseen
      { area := .discovery, message := "Discovered entities share a source name: "
          ++ "; ".intercalate (groups.map fun names => ", ".intercalate names) }
  | details cause => .foreseen
      { area := .discovery, message := "Failed to fetch entity details", cause := some cause }
  | uncovered entity => .foreseen
      { area := .discovery,
        message := "'" ++ entity ++ "' matched no discovery configuration" }
  | noReaders => .unexpected ⟨.badValue, "max_workers must be greater than 0"⟩
  | data e => .unexpected e.fault

def inspectorLogger : String := "hypergres.discovery.inspector"

/-- What is noted during an inspection: what goes to the log, the texts that asked for entities, and
the schemas and names of the entities whose details were asked for. -/
structure Journal where
  log : List Note := []
  statements : List String := []
  details : List (Value × Value) := []
deriving Repr, Inhabited

/-- Work on a database that keeps a journal, also of what happens before a failure. -/
abbrev Inspecting := ExceptT InspectionError (StateM Journal)

namespace Inspecting

def write (notes : List Note) : Inspecting Unit :=
  modify fun j => { j with log := j.log ++ notes }

/-- Notes a message. -/
def note (message : String) : Inspecting Unit :=
  write [.record ⟨.info, inspectorLogger, message⟩]

/-- Notes what the engine of a database makes known. -/
def tell (db : Database) (notes : Engine → List Note) : Inspecting Unit :=
  write ((db.engine.map notes).getD [])

/-- Continues with a result, or fails. -/
def lift {ε α : Type} (error : ε → InspectionError) : Except ε α → Inspecting α
  | .ok a => return a
  | .error e => throw (error e)

end Inspecting

/-- The text that asks for the entities of a kind that the rules cover. -/
def questionText (rules : List Rule) (kind : EntityKind) : Inspecting String := do
  return enumerationText kind (← Inspecting.lift .names (conditionText kind rules))

/-- Lists the entities of a kind that a text asks for. -/
def listEntities (db : Database) (kind : EntityKind) (text : String) :
    Inspecting (List Entity) := do
  modify fun j => { j with statements := j.statements ++ [text] }
  let answer := db.entities kind text
  Inspecting.tell db fun engine => (engine.told (driverText text) answer).map .event
  let rows ← Inspecting.lift .listing answer
  Inspecting.lift (fun e => .listing e.fault) (rows.mapM (Entity.ofRow kind))

/-- What the reader of an entity notes. Without a connection nothing is sent. -/
def readerNotes (db : Database) (engine : Engine) (e : Entity) : List Note :=
  let access := engine.readerAccess e.schema e.name
  let told := match access.check with
    | .error _ => access.told
    | .ok () => access.told ++ engine.told detailsDriverText (db.row e.schema e.name)
  .record ⟨.debug, inspectorLogger, "Fetching details of " ++ e.qualifiedName⟩ :: told.map .event

/-- Reads the details of an entity. -/
def readDetails (db : Database) (e : Entity) : Inspecting Value := do
  modify fun j => { j with details := j.details ++ [(e.schema, e.name)] }
  Inspecting.lift .details (db.details e.schema e.name)

/-- The groups of entities that share a name, in the order in which the names are first met. -/
def clashGroups (entities : List Entity) : List (List String) :=
  let names := entities.map (·.name.plain)
  let groups := names.eraseDups.map fun name =>
    (entities.filter (·.name.plain = name)).map Entity.qualifiedName
  groups.filter fun group => 1 < group.length

/-- The first rule that covers an entity. -/
def ruleFor? (rules : List Rule) (e : Entity) : Option Rule :=
  rules.find? fun rule => rule.covers e.kind e.schema e.name

/-- The source made of an entity and its details. A view has no keys and no relationships. The
description of the rows is made last. -/
def buildSource (e : Entity) (row : Value) (rule : Rule) : Except ShapeError Source := do
  let columns ← (← row.itemsIfGiven "columns").mapM Column.ofRow
  let document := Document.ofColumns e.name columns rule.strictNumbers.isTruthy
  match e.kind with
  | .view => return { name := e.name, schema := (← document).toValue, actions := rule.actions }
  | .table =>
    let has ← (← row.itemsIfGiven "has").mapM Relationship.ofRow
    let belongsTo ← (← row.itemsIfGiven "belongs_to").mapM Relationship.ofRow
    return {
      name := e.name, identifyingProperties := e.primaryKeys, has, belongsTo
      schema := (← document).toValue
      actions := rule.actions }

/-- The source of an entity under the first rule that covers it. -/
def sourceOf (rules : List Rule) (e : Entity) (row : Value) : Except InspectionError Source :=
  match ruleFor? rules e with
  | none => .error (.uncovered e.qualifiedName)
  | some rule => (buildSource e row rule).mapError .data

/-- Succeeds for a number of readers that is greater than zero. Without a number there are
enough. -/
def checkReaders : Option Value → Except InspectionError Unit
  | none => .ok ()
  | some readers =>
    match readers.asNumber with
    | .error e => .error (.data e)
    | .ok n => if n.isAtMostZero then .error .noReaders else .ok ()

/-- Inspects a database under rules. At most as many details as there are readers are read at the
same time, which does not show in the result. Names must be keys before they are compared. -/
def inspect (db : Database) (rules : List Rule) (readers : Option Value := none) :
    Inspecting (List Source) := do
  let tablesText ← questionText rules .table
  let viewsText ← questionText rules .view
  let tables ← listEntities db .table tablesText
  let views ← listEntities db .view viewsText
  let entities := tables ++ views
  Inspecting.lift .data (entities.forM fun e => e.name.asKey)
  let groups := clashGroups entities
  if groups ≠ [] then
    throw (.clashes groups)
  Inspecting.note ("Discovered " ++ toString entities.length ++ " entities, fetching details")
  Inspecting.lift id (checkReaders readers)
  Inspecting.tell db fun engine => engine.schedule (entities.map (readerNotes db engine))
  let details ← entities.mapM (readDetails db)
  let sources ← Inspecting.lift id
    ((entities.zip details).mapM fun (e, row) => sourceOf rules e row)
  Inspecting.note ("Built " ++ toString sources.length ++ " sources")
  return sources

/-- What came of an inspection. -/
structure Inspected where
  outcome : Except InspectionError (List Source)
  journal : Journal

/-- Runs an inspection from an empty journal. -/
def Inspecting.start (work : Inspecting (List Source)) : Inspected :=
  let (outcome, journal) := work.run.run {}
  ⟨outcome, journal⟩

end TableGateway.Discovery
