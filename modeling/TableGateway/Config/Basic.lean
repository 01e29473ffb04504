import TableGateway.Config.Connection
import TableGateway.Config.Error
import TableGateway.Text.Lowercase
import TableGateway.Text.Part

/-!
# Configurations

A configuration lists the providers of data. It is read from data that may be of any shape; what is
read first fails first.
-/

namespace TableGateway

namespace Config

/-- A provider: how to connect to it and what to discover in it. -/
structure Provider where
  id : Value
  driver : Value
  connection : Connection
  rules : List Discovery.Rule := []
deriving Repr, DecidableEq

/-- The properties of a provider that are logged. -/
def Provider.logged (p : Provider) : String :=
  (Value.object [("id", p.id), ("driver", p.driver)]).quoted

/-- The parts that every provider has. -/
def Provider.parts : List String := ["id", "driver", "options"]

/-- Whether a name is found in data: as a key of an object, an item of a list or a part of a text.
Nothing is found in other data. -/
def finds? (v : Value) (name : String) : Option Bool :=
  match v with
  | .object members => some (members.any fun m => m.1 = name)
  | .array items => some (items.contains (.string name))
  | .string s => some (Text.isPartOf name.toList s.toList)
  | _ => none

/-- Reads the rules of a provider. -/
def readRules (v : Value) : Except Error (List Discovery.Rule) :=
  match v.elements? with
  | none => .error (.notAList v)
  | some items => items.mapM fun item => (Discovery.Rule.read item).mapError .rule

/-- Reads a provider. -/
def Provider.read (v : Value) : Except Error Provider := do
  let missing ← Provider.parts.filterM fun name =>
    match finds? v name with
    | none => throw (.notAProvider v)
    | some found => pure !found
  if missing ≠ [] then
    throw (.missingParts missing)
  if v.members?.isNone then
    throw (.notAProvider v)
  let member (v : Value) (key : String) := (v.get? key).getD .null
  let id := member v "id"
  let options := member v "options"
  match options.get? "host" with
  | none => throw (.missingHost id)
  | some host =>
    let port ← (((options.get? "port").getD (.int 5432)).toInteger).mapError (.invalidPort id)
    let connection :=
      { host, port := .int port, user := member options "user",
        password := member options "password", database := member options "database" }
    let rules ← readRules ((v.get? "discovery").getD (.array []))
    return { id, driver := member v "driver", connection, rules }

end Config

/-- A configuration. -/
structure Config where
  providers : List Config.Provider
  version : String := "v1"
deriving Repr, DecidableEq

namespace Config

/-- Reads a configuration. -/
def read (v : Value) : Except Error Config := do
  if !v.isTruthy then
    throw .missingVersion
  if v.members?.isNone then
    throw (.notAnObject v)
  let member (key : String) := (v.get? key).getD .null
  if !(member "version").isTruthy then
    throw .missingVersion
  let version := Text.lowercase (member "version").shown
  if version ≠ "v1" then
    throw (.unsupportedVersion version)
  let providers := member "providers"
  if !providers.isTruthy then
    throw .noProviders
  match providers.elements? with
  | none => throw (.notAList providers)
  | some items => return { providers := ← items.mapM Provider.read, version }

end Config

end TableGateway
