import TableGateway.Catalog.Graph
import TableGateway.Config.Driver
import TableGateway.Discovery.Inspection
import TableGateway.Session.Basic

/-!
# The gateway

The gateway holds the providers of a configuration and the catalog of what they offer. A discovery
inspects every provider and replaces the catalog only when all of them succeed.
-/

namespace TableGateway

open Catalog Discovery

/-- The providers and the catalog; there is a graph once a discovery has succeeded. -/
structure Gateway where
  config : Option Config := none
  /-- The providers by id, in the order of their first appearance. -/
  providers : List (Value × Config.Provider) := []
  sources : List Source := []
  graph : Option Graph := none
deriving Repr

namespace Gateway

inductive Error where
  | notConfigured
  | noProviders
  | unknownProvider (id : Value)
  | driver (e : Config.DriverError)
  /-- An id that cannot be a key. -/
  | unusableId (id : Value)
  /-- There is no connection to a provider. -/
  | unreachable (fault : Fault)
  | inspection (e : InspectionError)
  /-- The sources make no graph. -/
  | graph (e : ShapeError)
deriving Repr

/-- What is reported when a step of the gateway fails. -/
def Error.failure : Error → Failure
  | notConfigured => .foreseen
      { area := .gateway, message := "Core has not been configured", code := .notConfigured }
  | noProviders => .foreseen
      { area := .gateway, message := "Core has no providers", code := .noProviders }
  | unknownProvider id => .foreseen
      { area := .gateway, message := "Unknown provider '" ++ id.shown ++ "'",
        code := .noProviders }
  | driver e => e.failure
  | unusableId id => .unexpected ⟨.wrongKind, id.quoted ++ " is no id"⟩
  | unreachable fault => .unexpected fault
  | inspection e => e.failure
  | graph e => .unexpected e.fault

/-- The databases of the providers, by id. -/
abbrev Databases := Value → Database

/-- A gateway at work. -/
structure Working where
  gateway : Gateway := {}
  /-- The records of all levels; how many of them are written is up to the loggers. -/
  log : List LogRecord := []
  trace : List TraceEntry := []
deriving Repr

/-- A step of the gateway: what it has changed and noted before a failure stays. -/
abbrev Operating := ExceptT Error (StateM Working)

/-- Notes log records. -/
def note (records : List LogRecord) : Operating Unit :=
  modify fun w => { w with log := w.log ++ records }

def noteMain (message : String) : Operating Unit :=
  note [.main .info message]

/-- The record of a provider that was opened. -/
def openedRecord (p : Config.Provider) : LogRecord :=
  ⟨.info, "hypergres.database.adapters", "Created provider " ++ p.logged⟩

/-- Opens providers and puts each under its id. -/
def openProviders (providers : List Config.Provider) :
    Operating (List (Value × Config.Provider)) :=
  providers.foldlM (fun opened p => do
    noteMain ("Creating provider " ++ p.logged)
    match p.check with
    | .error e => throw (.driver e)
    | .ok () =>
      note [openedRecord p]
      if p.id.isKey then
        return setEntry p.id p opened
      else
        throw (.unusableId p.id)) []

/-- Asks for a connection to the provider with an id. -/
def connect (access : Access) (id : Value) : Operating Unit := do
  note (access.told.map (·.record id))
  match access.check with
  | .error fault => throw (.unreachable fault)
  | .ok () => return ()

/-- The trace of a transaction in which texts were sent. -/
def transactionTrace (texts : List String) (succeeded : Bool) : List TraceEntry :=
  .begun :: texts.map (fun text => .sent ⟨text, none⟩)
    ++ [if succeeded then .committed else .rolledBack]

/-- Inspects a provider in a transaction, which does not begin without a connection. -/
def inspectProvider (dbs : Databases) (id : Value) (p : Config.Provider) :
    Operating (List Source) := do
  noteMain ("Discovering sources of provider '" ++ id.shown ++ "'")
  connect (dbs id).access p.id
  let inspected := (inspect (dbs id) p.rules).start
  note (inspected.journal.log.map (Note.toRecord p.id))
  let entries := transactionTrace inspected.journal.statements inspected.outcome.isOk
  modify fun w => { w with trace := w.trace ++ entries }
  match inspected.outcome with
  | .error e => throw (.inspection e)
  | .ok sources =>
    noteMain ("Provider '" ++ id.shown ++ "' exposes " ++ toString sources.length ++ " sources")
    return sources

/-- Inspects all providers and replaces the catalog by what they offer. The graph is replaced last,
unless the sources make none. -/
def discover (dbs : Databases) : Operating (List Source) := do
  let gateway := (← get).gateway
  if gateway.config.isNone then
    throw .notConfigured
  if gateway.providers.isEmpty then
    throw .noProviders
  let found ← gateway.providers.mapM fun (id, p) => inspectProvider dbs id p
  let sources := found.flatten
  modify fun w => { w with gateway := { w.gateway with sources } }
  match Graph.build sources with
  | (_, some e) => throw (.graph e)
  | (graph, none) =>
    modify fun w => { w with gateway := { w.gateway with graph := some graph } }
    return sources

/-- Takes over a configuration: opens its providers and discovers what they offer. -/
def configure (dbs : Databases) (config : Config) : Operating (List Source) := do
  modify fun w => { w with gateway := { w.gateway with config := some config } }
  let providers ← openProviders config.providers
  modify fun w => { w with gateway := { w.gateway with providers } }
  discover dbs

/-- The source with a name. -/
def source? (g : Gateway) (name : Value) : Option Source :=
  g.sources.find? (·.name.compares name)

/-- The provider with an id. -/
def provider (g : Gateway) (id : Value) : Except Error Config.Provider :=
  if !id.isKey then .error (.unusableId id)
  else match valueUnder? id g.providers with
    | some p => .ok p
    | none => .error (.unknownProvider id)

end Gateway

/-- What came of a step of the gateway. -/
structure Gateway.Step where
  outcome : Except Gateway.Error (List Catalog.Source)
  gateway : Gateway
  log : List LogRecord
  trace : List TraceEntry

/-- Runs a step on a gateway. -/
def Gateway.run (g : Gateway) (work : Gateway.Operating (List Catalog.Source)) : Gateway.Step :=
  let (outcome, w) := work.run.run { gateway := g }
  ⟨outcome, w.gateway, w.log, w.trace⟩

end TableGateway
