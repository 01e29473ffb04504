/-!
# SQL text with numbered slots

The text of a statement is kept in pieces, so that the slots for its values can be told from text
that merely looks like one.
-/

namespace TableGateway.Query

/-- A piece of a statement: some text, or the place of the `n`-th value. -/
inductive Piece where
  | text (s : String)
  | slot (n : Nat)
deriving Repr, DecidableEq

/-- How a piece is written: the `n`-th slot is `$n`. -/
def Piece.written : Piece → String
  | text s => s
  | slot n => "$" ++ toString n

/-- A stretch of SQL. -/
abbrev Sql := List Piece

/-- SQL without slots. -/
def sql (s : String) : Sql := [.text s]

/-- Puts a separator between stretches of SQL. -/
def separated (separator : String) (parts : List Sql) : Sql :=
  List.intercalate (sql separator) parts

/-- The written text of a stretch of SQL. -/
def Sql.written (s : Sql) : String :=
  String.join (s.map Piece.written)

@[simp] theorem Sql.written_append (s t : Sql) :
    Sql.written (s ++ t) = s.written ++ t.written := by
  simp [Sql.written]

/-- SQL without slots is written as it stands. -/
theorem Sql.written_sql (s : String) : Sql.written (sql s) = s := by
  simp [Sql.written, sql, Piece.written]

theorem Sql.written_flatMap {α : Type} (f : α → Sql) (items : List α) :
    Sql.written (items.flatMap f) = String.join (items.map fun a => (f a).written) := by
  induction items with
  | nil => rfl
  | cons a rest ih => simp [ih]

/-- The slots of a stretch of SQL, from left to right. -/
def Sql.slots (s : Sql) : List Nat :=
  s.filterMap fun
    | .text _ => none
    | .slot n => some n

@[simp] theorem Sql.slots_append (s t : Sql) : Sql.slots (s ++ t) = s.slots ++ t.slots := by
  simp [Sql.slots]

end TableGateway.Query
