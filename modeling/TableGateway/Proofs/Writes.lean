import Mathlib
import TableGateway.Proofs.Parameterization

/-!
# What a query writes

The statement of a create or an update begins with the nested insertions and the assignments that
its row and its joins alone determine, and their values come first.
-/

namespace TableGateway.Query

/-- What a create or an update writes. -/
def Write.of (row : Value) (joins : List Join) : Except Error Write :=
  ((Write.plan row joins).run.run {}).1

end TableGateway.Query

namespace TableGateway

open Query

/-- The row that a query writes, and the joins of the rows in it. -/
def Query.written? : Query → Option (Value × List Join)
  | create q => some (q.row, q.joins)
  | update q => some (q.row, q.joins)
  | _ => none

/-- Whether the SQL of a query begins with what it writes. -/
def Query.Writes (w : Write) (s : Sql) : Query → Prop
  | create q => ∃ rest, s = w.withClause ++ (Insertion.mk q.source w.assignments).sql ++ rest
  | update q => ∃ rest, s = w.withClause ++ sql ("UPDATE " ++ q.source ++ " SET ")
      ++ separated ", " (w.assignments.map fun a => sql (a.column.shown ++ " = ") ++ a.cell.sql)
      ++ rest
  | _ => False

end TableGateway
