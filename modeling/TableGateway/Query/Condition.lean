import TableGateway.Query.Binding
import TableGateway.Query.Filter
import TableGateway.Text.Split

/-!
# Conditions

A condition chooses rows. Binding its values turns it into a filter; this fails on a comparison
with an empty list, on a fragment whose markers do not match its values and on what is no condition
at all. The values are bound in the order in which they stand in the condition.
-/

namespace TableGateway.Query

/-- A fragment of SQL with a `?` for each of its values. A fragment without values is taken as it
stands, since `?` is also an operator; it may then be any data. -/
structure Raw where
  fragment : Value
  values : Option Value := none
deriving Repr

/-- A comparison of a field with a value, or with a list of values. -/
structure Term where
  field : String
  value : Value := .null
  operator : String := "="
deriving Repr

inductive Condition where
  | all (parts : List Condition)
  | any (parts : List Condition)
  | raw (r : Raw)
  | term (t : Term)
  /-- Data in the place of a condition. -/
  | unsupported (v : Value)
deriving Repr, Inhabited

/-- The values for the markers of a fragment: the items of a list, or one value alone. -/
def Raw.items : Value → List Value
  | .array items => items
  | v => [v]

/-- Puts the bound values between the stretches of a fragment. -/
def Raw.fill : List (List Char) → List Value → Binder Sql
  | [], _ => return []
  | stretch :: _, [] => return sql (String.ofList stretch)
  | stretch :: rest, v :: values => do
    let slot ← bind v
    return sql (String.ofList stretch) ++ slot ++ (← Raw.fill rest values)

/-- Binds the values of a fragment to its markers. -/
def Raw.bind (r : Raw) : Binding Sql :=
  match r.values, r.fragment with
  | none, fragment => return sql fragment.shown
  | some v, .string fragment =>
    let items := Raw.items v
    let stretches := Text.splitAt '?' fragment.toList
    if stretches.length - 1 = items.length then
      Raw.fill stretches items
    else
      throw (.markerMismatch fragment (stretches.length - 1) items.length)
  | some _, fragment => throw (.data (.lacks fragment "split"))

/-- Binds the value of a comparison; the values of a list stand in parentheses. -/
def Term.bind (source : String) (t : Term) : Binding Sql :=
  let comparison := sql (source ++ "." ++ t.field ++ " " ++ t.operator ++ " ")
  match t.value with
  | .array [] => throw (.emptyList t.field)
  | .array items => do return comparison ++ sql "(" ++ (← addAll items) ++ sql ")"
  | v => do return comparison ++ (← add (.value v))

namespace Condition

mutual

/-- Binds the values of a condition on the rows of a source. -/
def bind (source : String) : Condition → Binding Filter
  | all parts => do return .all (← bindEach source parts)
  | any parts => do return .any (← bindEach source parts)
  | raw r => do return .test (← r.bind)
  | term t => do return .test (← t.bind source)
  | unsupported v => throw (.unsupported v)

/-- Binds the values of several conditions, from the first to the last. -/
def bindEach (source : String) : List Condition → Binding (List Filter)
  | [] => return []
  | c :: rest => do
    let f ← bind source c
    return f :: (← bindEach source rest)

end

end Condition

end TableGateway.Query
