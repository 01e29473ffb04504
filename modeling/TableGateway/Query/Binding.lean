import TableGateway.Query.Datum
import TableGateway.Query.Error
import TableGateway.Query.Sql

/-!
# Binding values

While a statement is written its values are collected in order, and each gets the next slot. What
was bound stays bound when the rest of the work fails.
-/

namespace TableGateway.Query

/-- The values bound so far. -/
structure Parameters where
  values : List Datum := []
deriving Repr, Inhabited

/-- Work that binds values. -/
abbrev Binder := StateM Parameters

/-- Work that binds values and may fail; the values bound before the failure are kept. -/
abbrev Binding := ExceptT Error Binder

/-- Goes on with data, unless it is of the wrong shape. -/
def Binding.ofData {α : Type} : Except ShapeError α → Binding α
  | .ok a => return a
  | .error e => throw (.data e)

/-- Binds one value, whatever it is. -/
def add (d : Datum) : Binder Sql := fun bound =>
  ([.slot (bound.values.length + 1)], ⟨bound.values ++ [d]⟩)

/-- Binds every value of a list. -/
def addAll (values : List Value) : Binder Sql := do
  return separated ", " (← values.mapM fun v => add (.value v))

/-- Binds a value; a list is bound item by item, with commas between the slots. -/
def bind : Value → Binder Sql
  | .array items => addAll items
  | v => add (.value v)

end TableGateway.Query
