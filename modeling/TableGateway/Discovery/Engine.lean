import TableGateway.Failure
import TableGateway.Log

/-!
# Engines

An engine gives out connections to a database, kept ones or new ones, and tells what happens on
them. What becomes of asking it for a connection does not depend on who asks.
-/

namespace TableGateway.Discovery

/-- What becomes of asking for a connection. `lost` is what the driver said of a kept one that turned
out to be lost. -/
inductive Access where
  | kept
  | opened (lost : Option String := none)
  /-- There is none: what the driver said, and the text of the fault. -/
  | refused (words text : String) (lost : Option String := none)
deriving Repr, DecidableEq

namespace Access

/-- What is told of asking for a connection. -/
def told : Access → List ConnectionEvent
  | kept => []
  | opened lost => (lost.map .failed).toList ++ [.opened]
  | refused words _ lost => (lost.map .failed).toList ++ [.failed words]

/-- Succeeds with a connection. -/
def check : Access → Except Fault Unit
  | refused _ text _ => .error ⟨.connection, text⟩
  | _ => .ok ()

end Access

/-- What is noted in an inspection: a record, or what is told of a connection. -/
inductive Note where
  | record (r : LogRecord)
  | event (e : ConnectionEvent)
deriving Repr, DecidableEq

/-- The record of a note, for the provider with an id. -/
def Note.toRecord (id : Value) : Note → LogRecord
  | record r => r
  | event e => e.record id

structure Engine where
  /-- The connection on which entities are listed. -/
  access : Access := .kept
  /-- The connection of the reader of an entity, by schema and name. -/
  readerAccess : Value → Value → Access := fun _ _ => .kept
  /-- What the driver said of a fault, if it is a fault of the driver. -/
  said : Fault → Option String := fun fault => some fault.text
  /-- The notes of the readers in the order in which they are made: entities are read at the same
  time, and not at all when an earlier one has failed. -/
  schedule : List (List Note) → List Note := List.flatten

/-- What is told of a statement and the answer to it. -/
def Engine.told {α : Type} (engine : Engine) (statement : String) (answer : Except Fault α) :
    List ConnectionEvent :=
  [.sent statement,
    match answer with
    | .ok _ => .answered
    | .error fault => ((engine.said fault).map .failed).getD .answered]

end TableGateway.Discovery
