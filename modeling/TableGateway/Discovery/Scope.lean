import TableGateway.Failure
import TableGateway.Value.Equality
import TableGateway.Value.Quoted

/-!
# Scopes

A scope chooses names. An absent scope chooses none.
-/

namespace TableGateway.Discovery

/-- Which names are chosen. Names should be texts, and those that are read are. -/
inductive Scope where
  | all
  | only (names : List Value)
  | except (names : List Value)
deriving Repr, DecidableEq

namespace Scope

/-- Whether a name is among names. -/
def isListed (names : List Value) (name : Value) : Bool :=
  names.any (·.equals name)

/-- Whether a scope chooses a name. -/
def chooses : Scope → Value → Bool
  | all, _ => true
  | only names, name => isListed names name
  | except names, name => !isListed names name

/-- Whether a scope, if there is one, chooses a name. -/
def chosenBy (scope : Option Scope) (name : Value) : Bool :=
  match scope with
  | none => false
  | some s => s.chooses name

/-- The scope as it is shown. -/
def shown : Scope → String
  | all => "All()"
  | only names => "Only(" ++ (Value.array names).quoted ++ ")"
  | except names => "Except(" ++ (Value.array names).quoted ++ ")"

/-- Data that describes no scope. -/
structure Invalid where
  value : Value
deriving Repr, DecidableEq

/-- The failure of data that describes no scope. -/
def Invalid.failure (e : Invalid) : Failure :=
  .foreseen { area := .scope, message := "Invalid discovery scope: " ++ e.value.quoted }

/-- The items of a list of texts. -/
def names? : Value → Option (List Value)
  | .array items => if items.all Value.isText then some items else none
  | _ => none

/-- Reads a scope: everything is `true`, absent is null or `false`, and names are listed under
`only` or `except`, or in a bare list, which means `only`. -/
def read (v : Value) : Except Invalid (Option Scope) :=
  let scope? := match v with
    | .null | .bool false => some none
    | .bool true => some (some all)
    | .object [("only", list)] => (names? list).map fun names => some (only names)
    | .object [("except", list)] => (names? list).map fun names => some (except names)
    | list => (names? list).map fun names => some (only names)
  match scope? with
  | some scope => .ok scope
  | none => .error ⟨v⟩

/-- Data in the place of a scope that was never read: only null stands for one, the absent scope. -/
def ofUnread (v : Value) : Except Invalid (Option Scope) :=
  match v with
  | .null => .ok none
  | v => .error ⟨v⟩

end Scope

end TableGateway.Discovery
