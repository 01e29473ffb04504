import TableGateway.Query.Alias
import TableGateway.Value.Basic

/-!
# Data with references

The row that a query writes may hold rows of other tables. Once such a row has an insertion of its
own, its place is taken by a reference to the key of the inserted row.
-/

namespace TableGateway.Query

/-- The column `column` of the row that the insertion called `name` returns. -/
structure Reference where
  column : String
  name : String
deriving Repr, DecidableEq

/-- The reference as SQL. -/
def Reference.text (r : Reference) : String :=
  "(SELECT " ++ r.column ++ " FROM " ++ r.name ++ ")"

/-- A piece of data in which objects may have been replaced by references. -/
inductive Datum where
  /-- Data without references. -/
  | value (v : Value)
  /-- An object, changed somewhere inside. -/
  | object (members : List (String × Datum))
  | reference (r : Reference)
deriving Repr, Inhabited

namespace Datum

/-- The members of an object. -/
def members? : Datum → Option (List (String × Datum))
  | value v => v.members?.map fun members => members.map fun m => (m.1, value m.2)
  | object members => some members
  | reference _ => none

/-- What is found at a path of keys. -/
def get? : Datum → List String → Option Datum
  | d, [] => some d
  | d, key :: path =>
    match d.members?.bind (List.lookup key ·) with
    | none => none
    | some inner => get? inner path

theorem get?_append (d : Datum) (p q : List String) :
    d.get? (p ++ q) = (d.get? p).bind (·.get? q) := by
  induction p generalizing d with
  | nil => simp [get?]
  | cons key p ih =>
    rw [List.cons_append, get?, get?]
    split
    · rfl
    · exact ih _

/-- Replaces what is found at a path of keys. -/
def set : Datum → List String → Datum → Datum
  | _, [], new => new
  | d, key :: path, new =>
    match d.members? with
    | none => d
    | some members => object (modifyMember key (fun inner => set inner path new) members)

end Datum

end TableGateway.Query
