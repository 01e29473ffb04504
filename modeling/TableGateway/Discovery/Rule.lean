import TableGateway.Discovery.Scope

/-!
# Discovery rules

A rule says which tables and views to discover, and what is offered on those it covers.
-/

namespace TableGateway.Discovery

/-- Which entities are discovered, the actions on them and how their numbers are described: strictly
if `strictNumbers` counts as given. -/
structure Rule where
  schemas : Option Scope
  tables : Option Scope := none
  views : Option Scope := none
  actions : List Value
  strictNumbers : Value := .bool false
deriving Repr, DecidableEq

/-- The actions of a rule that lists none. -/
def defaultActions : List Value :=
  ["CreateOne", "ReadOne", "ReadMany", "UpdateOne", "DeleteOne"].map .string

/-- Why data describes no rule. -/
inductive RuleError where
  | notAnObject (v : Value)
  | missingSchemas
  | invalidScope (e : Scope.Invalid)
  /-- Actions that cannot be listed. -/
  | actions (v : Value)
  /-- Options that are given but are no object. -/
  | options (v : Value)
deriving Repr, DecidableEq

/-- The failure of data that describes no rule. -/
def RuleError.failure : RuleError → Failure
  | notAnObject v => .foreseen
      { area := .config, message := "Discovery configuration must be a mapping, got " ++ v.quoted }
  | missingSchemas => .foreseen
      { area := .config, message := "Discovery configuration is missing 'schemas'" }
  | invalidScope e => e.failure
  | actions v => .unexpected ⟨.wrongKind, v.quoted ++ " is not a list of actions"⟩
  | options v => .unexpected ⟨.noMembers, v.quoted ++ " is not an object of options"⟩

namespace Rule

/-- Reads a scope of a rule. -/
def readScope (v : Value) : Except RuleError (Option Scope) :=
  (Scope.read v).mapError .invalidScope

/-- Whether the options ask for strict numbers; options that are not given do not. -/
def readStrictNumbers (options : Value) : Except RuleError Bool :=
  if options.isTruthy then
    match options.members? with
    | none => .error (.options options)
    | some _ =>
      let flag := (options.get? "strictNumbers").or (options.get? "strict_numbers")
      .ok ((flag.map Value.isTruthy).getD false)
  else
    .ok false

/-- Reads a rule. The scopes are read first, then the actions and last the options. -/
def read (v : Value) : Except RuleError Rule := do
  if v.members?.isNone then
    throw (.notAnObject v)
  match v.get? "schemas" with
  | none => throw .missingSchemas
  | some schemas =>
    let member (key : String) := (v.get? key).getD .null
    let schemas ← readScope schemas
    let tables ← readScope (member "tables")
    let views ← readScope (member "views")
    let actions ← match v.get? "actions" with
      | none => pure defaultActions
      | some list =>
        match list.elements? with
        | some actions => pure actions
        | none => throw (.actions list)
    let strictNumbers ← readStrictNumbers (member "options")
    return { schemas, tables, views, actions, strictNumbers := .bool strictNumbers }

end Rule

end TableGateway.Discovery
