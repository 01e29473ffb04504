import TableGateway.Config.Basic

/-!
# Configurations from the environment

Without a configuration file there is one provider, described by environment variables.
-/

namespace TableGateway.Config

/-- The environment: variables and their values. -/
abbrev Environment := List (String × String)

/-- The names in a text, separated by commas; blanks around names and empty names do not count. -/
def namesOfText (s : String) : List String :=
  (((Text.splitAt ',' s.toList).map Text.trim).filter (· ≠ [])).map String.ofList

/-- Whether the value of a variable switches something on. -/
def isSwitchedOn (s : String) : Bool :=
  ["1", "true", "yes"].contains (Text.lowercase s)

/-- The configuration that the environment describes. Schemas and the strictness of numbers can be
given from outside, which takes precedence; they are kept as they are. -/
def ofEnvironment (env : Environment) (schemas strictNumbers : Option Value) :
    Except Error Config := do
  let schemas := schemas.getD
    (.array ((namesOfText ((env.lookup "HYPERGRES_SCHEMAS").getD "public")).map .string))
  let strictNumbers := strictNumbers.getD
    (.bool (isSwitchedOn ((env.lookup "HYPERGRES_STRICT_NUMBERS").getD "")))
  let host := (env.lookup "POSTGRES_HOST").getD ""
  if host = "" then
    throw .unsetHost
  let port ← match env.lookup "POSTGRES_PORT" with
    | none => pure 5432
    | some text => (Text.integerOfText text).mapError .invalidPortVariable
  let given (name : String) : Value := ((env.lookup name).map Value.string).getD .null
  let connection :=
    { host := .string host, port := .int port, user := given "POSTGRES_USER",
      password := given "POSTGRES_PASSWORD", database := given "POSTGRES_DB" }
  let names ← match schemas.elements? with
    | none => throw (.notAList schemas)
    | some names => pure names
  let rule :=
    { schemas := some (.only names), tables := some .all, views := some .all,
      actions := Discovery.defaultActions, strictNumbers }
  return { providers :=
    [{ id := .string "default", driver := .string "postgresql", connection, rules := [rule] }] }

end TableGateway.Config
