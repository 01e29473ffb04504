import Mathlib
import TableGateway.Proofs.Numbering

/-!
# Renderings of queries

The rendering of a query is its SQL with every value written in the place of its slot. It is put
together without numbers and without a list of bound values, so that it says by itself which value
belongs where.
-/

namespace TableGateway.Query

/-- Values in place, with commas between them. -/
def inlineAll (values : List Value) : Rendering :=
  Rendering.separated ", " (values.map fun v => [.datum (.value v)])

/-- A value in place, of a list its items. -/
def inlineItems : Value → Rendering
  | .array items => inlineAll items
  | v => [.datum (.value v)]

/-- The values of a fragment between its stretches. -/
def Raw.inlineFill : List (List Char) → List Value → Rendering
  | [], _ => []
  | stretch :: _, [] => .text (String.ofList stretch)
  | stretch :: rest, v :: values =>
    .text (String.ofList stretch) ++ inlineItems v ++ Raw.inlineFill rest values

/-- A fragment with its values in the place of its markers. -/
def Raw.inline (r : Raw) : Except Error Rendering :=
  match r.values, r.fragment with
  | none, fragment => return .text fragment.shown
  | some v, .string fragment =>
    let items := Raw.items v
    let stretches := Text.splitAt '?' fragment.toList
    if stretches.length - 1 = items.length then
      return Raw.inlineFill stretches items
    else
      throw (.markerMismatch fragment (stretches.length - 1) items.length)
  | some _, fragment => throw (.data (.lacks fragment "split"))

/-- A comparison with its value in place. -/
def Term.inline (source : String) (t : Term) : Except Error Rendering :=
  let comparison := Rendering.text (source ++ "." ++ t.field ++ " " ++ t.operator ++ " ")
  match t.value with
  | .array [] => throw (.emptyList t.field)
  | .array items => return comparison ++ .text "(" ++ inlineAll items ++ .text ")"
  | v => return comparison ++ [.datum (.value v)]

/-- Renderings in parentheses with an operator between them; without any there is only a word. -/
def Rendering.grouped (operator empty : String) : List Rendering → Rendering
  | [] => .text empty
  | parts => separated operator (parts.map fun part => .text "(" ++ part ++ .text ")")

namespace Condition

mutual

/-- A condition with its values in place. -/
def inline (source : String) : Condition → Except Error Rendering
  | all parts => do return .grouped " AND " "TRUE" (← inlineEach source parts)
  | any parts => do return .grouped " OR " "FALSE" (← inlineEach source parts)
  | raw r => r.inline
  | term t => t.inline source
  | unsupported v => throw (.unsupported v)

def inlineEach (source : String) : List Condition → Except Error (List Rendering)
  | [] => return []
  | c :: rest => do
    let r ← inline source c
    return r :: (← inlineEach source rest)

end

end Condition

instance : Numbered (Value × Datum) Assignment where
  data
    | (_, .reference _) => []
    | (_, d) => [d]
  numbered n
    | (column, .reference r) => ⟨column, .reference r⟩
    | (column, _) => ⟨column, .bound [.slot (n + 1)]⟩

/-- A nested row that has been taken out, with its data. -/
structure NestedRow where
  name : String
  table : String
  columns : Row
  returning : String

instance : Numbered NestedRow NestedInsertion where
  data x := data x.columns
  numbered n x := ⟨x.name, ⟨x.table, numbered n x.columns⟩, x.returning⟩

/-- A row of which some nested rows have been taken out, with their data. -/
structure Extraction where
  nested : List NestedRow := []
  row : Row

/-- While nested rows are taken out the main row stays as it is. -/
instance : Numbered Extraction Nesting where
  data x := data x.nested
  numbered n x := ⟨numbered n x.nested, x.row⟩

/-- Takes out the row at the path of a join, if there is one. -/
def Extraction.extract (x : Extraction) (join : Join) : Except Error Extraction := do
  match ← join.path.items.mapError .data with
  | [] =>
    (Value.areTexts (x.row.map (·.1))).mapError .data
    join.path.inOrder.mapError .data
    throw .emptyJoinPath
  | column :: path =>
    match ← (x.row.membersAt? column path).mapError .data with
    | none => return x
    | some members =>
      let join ← join.placeInRow.mapError .data
      let name := aliasOf join.path
      let columns := members.map fun m => (Value.string m.1, m.2)
      return {
        nested := x.nested ++ [⟨name, join.source, columns, join.foreignProperty⟩]
        row := x.row.set join.path (.reference ⟨join.foreignProperty, name⟩) }

/-- What a create or an update is to write: the nested rows, in order, and the main row. -/
structure WritePlan where
  nested : List NestedRow
  row : Row

instance : Numbered WritePlan Write where
  data p := data p.nested ++ data p.row
  numbered n p := ⟨numbered n p.nested, numbered (n + (data p.nested).length) p.row⟩

/-- Takes out the nested rows at the paths of the joins. -/
def WritePlan.of (row : Value) (joins : List Join) : Except Error WritePlan := do
  let columns ← (columnsOf row joins).mapError .data
  (joins.forM fun join => join.path.items.map fun _ => ()).mapError .data
  let x ← (deepestFirst joins).foldlM Extraction.extract
    { row := columns.map fun c => (c.1, .value c.2) }
  return ⟨x.nested, x.row⟩

/-- What a column is given: its value in place or the reference that took its place. -/
def inlineCell : Value × Datum → Rendering
  | (_, .reference r) => .text r.text
  | (_, d) => [.datum d]

/-- An insertion of a row, with its values in place. -/
def inlineInsertion (table : String) (row : Row) : Rendering :=
  match row with
  | [] => .text ("INSERT INTO " ++ table ++ " DEFAULT VALUES")
  | row =>
    .text ("INSERT INTO " ++ table ++ " (" ++ ", ".intercalate (row.map (·.1.shown))
        ++ ") VALUES (")
      ++ .separated ", " (row.map inlineCell) ++ .text ")"

/-- The insertion of a nested row, with its values in place. -/
def NestedRow.inline (n : NestedRow) : Rendering :=
  .text (n.name ++ " AS (") ++ inlineInsertion n.table n.columns
    ++ .text (" RETURNING " ++ n.returning ++ ")")

/-- The `WITH` clause of the nested rows, with their values in place. -/
def WritePlan.inlineWith (p : WritePlan) : Rendering :=
  match p.nested with
  | [] => []
  | nested => .text "WITH " ++ .separated ", " (nested.map NestedRow.inline) ++ .text " "

/-- The assignments of the main row, with their values in place. -/
def WritePlan.inlineAssignments (p : WritePlan) : List Rendering :=
  p.row.map fun e => .text (e.1.shown ++ " = ") ++ inlineCell e

/-- The clause that keeps the rows which meet every condition, with the values in place. -/
def inlineWhere (source : String) (conditions : List Condition) : Except Error Rendering :=
  match conditions with
  | [] => return []
  | conditions => do
    return .text " WHERE " ++ .grouped " AND " "TRUE" (← Condition.inlineEach source conditions)

/-- A column of a read, with its values in place. -/
def Field.inline (source : String) : Field → Except Error Rendering
  | column name => return .text (source ++ "." ++ name)
  | raw r => r.inline

/-- The columns of a read, with their values in place. -/
def Read.inlineColumns (q : Read) : Except Error (List Rendering) :=
  match q.fields with
  | [] => return [.text (q.source ++ ".*")]
  | fields => fields.mapM (Field.inline q.source)

/-- SQL without slots as a rendering. -/
def Rendering.ofSql (s : Sql) : Rendering :=
  s.filterMap fun
    | .text s => some (.text s)
    | .slot _ => none

def Create.inline (q : Create) : Except Error Rendering := do
  let p ← WritePlan.of q.row q.joins
  (Value.areTexts (p.row.map (·.1))).mapError .data
  let returning ← returningClause q.returning
  return p.inlineWith ++ inlineInsertion q.source p.row ++ .ofSql returning

def Read.inline (q : Read) : Except Error Rendering := do
  let columns ← q.inlineColumns
  let joins ← placeJoins q.joins
  checkFields q.fields
  let filter ← inlineWhere q.source q.conditions
  let order ← orderClause q.order
  let page ← pageClause q.page
  return .text "SELECT " ++ .separated ", " (columns ++ (embeddings joins).map .ofSql)
    ++ .text (" FROM " ++ q.source) ++ .ofSql (joinClauses q.source joins) ++ filter
    ++ .ofSql order ++ .ofSql page

def Update.inline (q : Update) : Except Error Rendering := do
  let p ← WritePlan.of q.row q.joins
  if p.row.isEmpty then
    throw (.emptyUpdate q.source)
  let filter ← inlineWhere q.source q.conditions
  let returning ← returningClause q.returning
  return p.inlineWith ++ .text ("UPDATE " ++ q.source ++ " SET ")
    ++ .separated ", " p.inlineAssignments ++ filter ++ .ofSql returning

def Delete.inline (q : Delete) : Except Error Rendering := do
  return .text ("DELETE FROM " ++ q.source) ++ (← inlineWhere q.source q.conditions)

def Read.inlineCount (q : Read) : Except Error Rendering := do
  let joins ← placeJoins q.joins
  return .text ("SELECT COUNT(*) FROM " ++ q.source) ++ .ofSql (joinClauses q.source joins)
    ++ (← inlineWhere q.source q.conditions)

end TableGateway.Query

namespace TableGateway

/-- The SQL of a query with its values in place. -/
def Query.inline : Query → Except Query.Error Query.Rendering
  | create q => q.inline
  | read q => q.inline
  | update q => q.inline
  | delete q => q.inline
  | count q => q.inlineCount

end TableGateway
