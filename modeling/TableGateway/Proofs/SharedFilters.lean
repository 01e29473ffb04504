import Mathlib
import TableGateway.Proofs.FromClause

/-!
# One filter for every statement

The clause that keeps the rows which meet some conditions is the same wherever it stands. Behind
values that are bound already only its slots carry higher numbers. So the count of a read counts the
rows that the read returns without its page, and an update and a delete reach the rows that a count
with their conditions counts.
-/

namespace TableGateway.Query

/-- SQL whose slots carry other numbers. -/
def Sql.renumbered (f : Nat → Nat) (s : Sql) : Sql :=
  s.map fun
    | .text t => .text t
    | .slot n => .slot (f n)

/-- The clause of some conditions, bound on its own. -/
def filterOf (source : String) (conditions : List Condition) : Except Error Statement :=
  Statement.ofBinding (whereClause source conditions)

/-- A clause and its values behind some text. -/
def Statement.behind (clause : Statement) (head : String) : Statement :=
  ⟨Query.sql head ++ clause.sql, clause.values⟩

/-- The tables of a read: its source and those that are joined. -/
def tablesSql (source : String) (joins : List PlacedJoin) : Sql :=
  sql (" FROM " ++ source) ++ joinClauses source joins

structure ReadParts where
  columns : List Sql
  joins : List PlacedJoin
  filter : Sql
  order : Sql
  page : Sql

/-- The parts of the statement of a read. The columns bind the values `bound`, and behind them the
filter binds the others. -/
structure Read.HasParts (q : Read) (p : ReadParts) (bound : List Datum) (s : Statement) :
    Prop where
  columns : q.columns.run.run {} = (.ok p.columns, ⟨bound⟩)
  joins : placeJoins q.joins = .ok p.joins
  filter : (whereClause q.source q.conditions).run.run ⟨bound⟩ = (.ok p.filter, ⟨s.values⟩)
  order : orderClause q.order = .ok p.order
  page : pageClause q.page = .ok p.page
  sql : s.sql = Query.sql "SELECT " ++ separated ", " (p.columns ++ embeddings p.joins)
    ++ tablesSql q.source p.joins ++ p.filter ++ p.order ++ p.page

structure UpdateParts where
  write : Write
  filter : Sql
  returning : Sql

/-- The parts of the statement of an update. The nested insertions and the assignments bind the
values `bound`, and behind them the filter binds the others. -/
structure Update.HasParts (q : Update) (p : UpdateParts) (bound : List Datum) (s : Statement) :
    Prop where
  write : (Write.plan q.row q.joins).run.run {} = (.ok p.write, ⟨bound⟩)
  filter : (whereClause q.source q.conditions).run.run ⟨bound⟩ = (.ok p.filter, ⟨s.values⟩)
  returning : returningClause q.returning = .ok p.returning
  sql : s.sql = p.write.withClause ++ Query.sql ("UPDATE " ++ q.source ++ " SET ")
    ++ separated ", "
      (p.write.assignments.map fun a => Query.sql (a.column.shown ++ " = ") ++ a.cell.sql)
    ++ p.filter ++ p.returning

/-! ### Slots behind bound values -/

lemma Sql.renumbered_renumbered (f g : Nat → Nat) (s : Sql) :
    (s.renumbered f).renumbered g = s.renumbered (g ∘ f) := by
  unfold renumbered
  rw [List.map_map]
  congr 1
  funext piece
  cases piece <;> rfl

lemma Sql.renumbered_id (s : Sql) : s.renumbered id = s := by
  unfold renumbered
  conv_rhs => rw [← List.map_id s]
  congr 1
  funext piece
  cases piece <;> rfl

/-- Behind `k` more values every slot carries a number that is higher by `k`. -/
lemma numbered_add (n k : Nat) (r : Rendering) :
    numbered (n + k) r = Sql.renumbered (· + k) (numbered n r) := by
  induction r generalizing n with
  | nil => rfl
  | cons part rest ih =>
    rw [numbered_cons, numbered_cons, Nat.add_right_comm, ih]
    cases part with
    | text s => rfl
    | datum d =>
      have hslot : n + k + 1 = n + 1 + k := Nat.add_right_comm n k 1
      rw [numbered_datum, numbered_datum, hslot]
      rfl

lemma numbered_sub (k : Nat) (r : Rendering) :
    Sql.renumbered (· - k) (numbered k r) = numbered 0 r := by
  have hback : (fun i => i - k) ∘ (fun i => i + k) = id := by
    funext i
    exact Nat.add_sub_cancel i k
  have hbehind := numbered_add 0 k r
  rw [Nat.zero_add] at hbehind
  rw [hbehind, Sql.renumbered_renumbered, hback, Sql.renumbered_id]

/-! ### Runs of the parts -/

lemma run_of_statement {q : TableGateway.Query} {s : Statement} (h : q.statement = .ok s) :
    q.binding.run.run {} = (.ok s.sql, ⟨s.values⟩) := by
  unfold Query.statement Statement.ofBinding at h
  rcases hrun : q.binding.run.run {} with ⟨_ | sql, bound⟩
  · rw [hrun] at h
    cases h
  · rw [hrun] at h
    cases h
    rfl

/-- A step that binds nothing leaves the bound values to the rest of the work. -/
lemma exists_of_run_lift_bind_eq_ok {α β : Type} {step : Except Error α} {rest : α → Binding β}
    {bound after : Parameters} {b : β}
    (h : (liftM step >>= rest).run.run bound = (.ok b, after)) :
    ∃ a, step = .ok a ∧ (rest a).run.run bound = (.ok b, after) := by
  cases step with
  | error e => cases h
  | ok a => exact ⟨a, rfl, h⟩

/-- A clause that is bound behind some values is its rendering, numbered behind them. -/
lemma exists_inlineWhere_of_run {source : String} {conditions : List Condition}
    {before : List Datum} {filter : Sql} {after : Parameters}
    (h : (whereClause source conditions).run.run ⟨before⟩ = (.ok filter, after)) :
    ∃ r, inlineWhere source conditions = .ok r ∧ filter = numbered before.length r ∧
      after = ⟨before ++ data r⟩ :=
  (whereClause_follows source conditions).exists_of_run_eq_ok h

lemma filterOf_eq (source : String) (conditions : List Condition) :
    filterOf source conditions =
      (inlineWhere source conditions).map fun r => ⟨numbered 0 r, data r⟩ :=
  (whereClause_follows source conditions).statement_eq

/-! ### Statements -/

lemma Read.exists_parts {q : Read} {s : Statement} (h : (Query.read q).statement = .ok s) :
    ∃ p bound, q.HasParts p bound s := by
  have hrun := run_of_statement h
  change q.sql.run.run {} = _ at hrun
  unfold Read.sql at hrun
  obtain ⟨columns, ⟨bound⟩, hcolumns, hrun⟩ := exists_of_run_bind_eq_ok hrun
  obtain ⟨joins, hjoins, hrun⟩ := exists_of_run_lift_bind_eq_ok hrun
  obtain ⟨_, -, hrun⟩ := exists_of_run_lift_bind_eq_ok hrun
  obtain ⟨filter, after, hfilter, hrun⟩ := exists_of_run_bind_eq_ok hrun
  obtain ⟨order, horder, hrun⟩ := exists_of_run_lift_bind_eq_ok hrun
  obtain ⟨page, hpage, hrun⟩ := exists_of_run_lift_bind_eq_ok hrun
  obtain ⟨hsql, rfl⟩ := Prod.mk.inj hrun
  refine ⟨⟨columns, joins, filter, order, page⟩, bound, hcolumns, hjoins, hfilter, horder, hpage, ?_⟩
  rw [← Except.ok.inj hsql, tablesSql]
  simp only [List.append_assoc]

lemma Update.exists_parts {q : Update} {s : Statement} (h : (Query.update q).statement = .ok s) :
    ∃ p bound, q.HasParts p bound s := by
  have hrun := run_of_statement h
  change q.sql.run.run {} = _ at hrun
  unfold Update.sql at hrun
  obtain ⟨write, ⟨bound⟩, hwrite, hrun⟩ := exists_of_run_bind_eq_ok hrun
  by_cases hempty : write.assignments.isEmpty
  · rw [if_pos hempty] at hrun
    obtain ⟨_, _, hthrow, -⟩ := exists_of_run_bind_eq_ok hrun
    cases hthrow
  · rw [if_neg hempty] at hrun
    obtain ⟨filter, after, hfilter, hrun⟩ := exists_of_run_bind_eq_ok hrun
    obtain ⟨returning, hreturning, hrun⟩ := exists_of_run_lift_bind_eq_ok hrun
    obtain ⟨hsql, rfl⟩ := Prod.mk.inj hrun
    exact ⟨⟨write, filter, returning⟩, bound, hwrite, hfilter, hreturning,
      (Except.ok.inj hsql).symm⟩

lemma Read.count_eq (q : Read) {joins : List PlacedJoin} (h : placeJoins q.joins = .ok joins) :
    (Query.count q).statement = (filterOf q.source q.conditions).map fun f =>
      ⟨Query.sql ("SELECT COUNT(*) FROM " ++ q.source) ++ joinClauses q.source joins ++ f.sql,
        f.values⟩ := by
  rw [Query.statement_eq, filterOf_eq]
  change Except.map _ q.inlineCount = _
  unfold Read.inlineCount
  rw [h]
  cases inlineWhere q.source q.conditions with
  | error e => rfl
  | ok r =>
    change Except.ok (Statement.mk (numbered 0 (_ ++ r)) (data (_ ++ r))) = .ok _
    simp [numbered_ofSql (slots_joinClauses q.source joins)]

lemma Delete.statement_eq (q : Delete) :
    (Query.delete q).statement =
      (filterOf q.source q.conditions).map (·.behind ("DELETE FROM " ++ q.source)) := by
  rw [Query.statement_eq, filterOf_eq]
  change Except.map _ q.inline = _
  unfold Delete.inline
  cases inlineWhere q.source q.conditions with
  | error e => rfl
  | ok r =>
    change Except.ok (Statement.mk (numbered 0 (_ ++ r)) (data (_ ++ r))) = .ok _
    simp [Statement.behind]

end TableGateway.Query

namespace TableGateway

open Query

/-- All statements keep rows by the same filter. The count of a read that has a statement has one
too: its values are those of the read without the ones of the columns, and behind `SELECT COUNT(*)`
it has the tables of the read and its filter, in which every slot is moved down by the number of
values that are left out. Fields, order and page play no part in it. A delete has the filter of the
count of the same rows, or fails as that does, and an update has it with the slots moved up by the
number of values that are written. -/
theorem Query.filters_shared :
    (∀ (q : Read) (s : Statement), (Query.read q).statement = .ok s →
      ∃ (p : ReadParts) (bound : List Datum) (c : Statement), q.HasParts p bound s ∧
        (Query.count q).statement = .ok c ∧ c.values = s.values.drop bound.length ∧
        (∀ n ∈ p.filter.slots, bound.length < n) ∧
        c.text = "SELECT COUNT(*)" ++
          Sql.written (tablesSql q.source p.joins ++ p.filter.renumbered (· - bound.length))) ∧
    (∀ (q : Read) (fields : List Field) (order : List Order) (page : Option Page),
      (Query.count { q with fields, order, page }).statement = (Query.count q).statement) ∧
    (∀ (source : String) (conditions : List Condition),
      (Query.count { source, conditions }).statement =
        (filterOf source conditions).map (·.behind ("SELECT COUNT(*) FROM " ++ source)) ∧
      (Query.delete { source, conditions }).statement =
        (filterOf source conditions).map (·.behind ("DELETE FROM " ++ source))) ∧
    (∀ (q : Update) (s : Statement), (Query.update q).statement = .ok s →
      ∃ (p : UpdateParts) (bound : List Datum) (f : Statement), q.HasParts p bound s ∧
        filterOf q.source q.conditions = .ok f ∧
        p.filter = f.sql.renumbered (· + bound.length) ∧ s.values = bound ++ f.values) := by
  refine ⟨?read, fun _ _ _ _ => rfl, fun source conditions => ⟨?count, ?delete⟩, ?update⟩
  case read =>
    intro q s hs
    obtain ⟨p, bound, hparts⟩ := q.exists_parts hs
    obtain ⟨r, hr, hfilter, hvalues⟩ := exists_inlineWhere_of_run hparts.filter
    have hcount := q.count_eq hparts.joins
    rw [filterOf_eq, hr] at hcount
    refine ⟨p, bound, _, hparts, hcount, ?_, ?_, ?_⟩
    · have hsplit : s.values = bound ++ data r := congrArg Parameters.values hvalues
      simp [hsplit]
    · intro n hn
      rw [hfilter, slots_numbered, List.mem_range'_1] at hn
      omega
    · rw [hfilter, numbered_sub]
      unfold Statement.text tablesSql
      simp only [Sql.written_append, Sql.written_sql]
      rw [← String.append_assoc, ← String.append_assoc]
      rfl
  case count =>
    have hnone : joinClauses source [] = [] := by simp [joinClauses, shallowestFirst]
    have hcount := @Read.count_eq { source, conditions } [] rfl
    simp only [hnone, List.append_nil] at hcount
    exact hcount
  case delete => exact Delete.statement_eq ⟨source, conditions⟩
  case update =>
    intro q s hs
    obtain ⟨p, bound, hparts⟩ := q.exists_parts hs
    obtain ⟨r, hr, hfilter, hvalues⟩ := exists_inlineWhere_of_run hparts.filter
    refine ⟨p, bound, ⟨numbered 0 r, data r⟩, hparts, ?_, ?_, congrArg Parameters.values hvalues⟩
    · rw [filterOf_eq, hr]
      rfl
    · rw [hfilter, ← numbered_add, Nat.zero_add]

theorem Query.filters_shared_page :
    let conditions : List Condition := [
      .any [.term ⟨"c", .array [.int 4, .int 5], "IN"⟩, .raw ⟨.string "g(?)", some (.int 6)⟩]]
    let read : Read := {
      source := "t"
      fields := [.column "a", .raw ⟨.string "f(?, ?)", some (.array [.int 1, .int 2])⟩]
      joins := [⟨.string "u", .array [.string "b"], .string "b", .string "id"⟩]
      conditions
      order := [⟨"a", .string "asc"⟩]
      page := some ⟨.int 10, .int 2⟩ }
    let update : Update := { source := "t", row := .object [("a", .int 3)], conditions }
    let filter (n : Nat) : Sql := [.text " WHERE ", .text "(", .text "(", .text "t.c IN ",
      .text "(", .slot (n + 1), .text ", ", .slot (n + 2), .text ")", .text ")", .text " OR ",
      .text "(", .text "g(", .slot (n + 3), .text ")", .text ")", .text ")"]
    let values (numbers : List Int) : List Datum := numbers.map fun n => .value (.int n)
    let s : Statement := {
      sql := [.text "SELECT ", .text "t.a", .text ", ", .text "f(", .slot 1, .text ", ", .slot 2,
          .text ")", .text ", ", .text "row_to_json(b.*) AS b", .text " FROM t",
          .text " LEFT JOIN u AS b ON (b.id = t.b)"] ++ filter 2
        ++ [.text " ORDER BY a ASC", .text " LIMIT 10 OFFSET 10"]
      values := values [1, 2, 4, 5, 6] }
    let u : Statement := {
      sql := [.text "UPDATE t SET ", .text "a = ", .slot 1] ++ filter 1
      values := values [3, 4, 5, 6] }
    (Query.read read).statement = .ok s ∧ (Query.update update).statement = .ok u ∧
      (∃ (p : ReadParts) (bound : List Datum) (c : Statement), read.HasParts p bound s ∧
        (Query.count read).statement = .ok c ∧ c.values = s.values.drop bound.length ∧
        (∀ n ∈ p.filter.slots, bound.length < n) ∧
        c.text = "SELECT COUNT(*)" ++
          Sql.written (tablesSql read.source p.joins
            ++ p.filter.renumbered (· - bound.length))) ∧
      ∃ (p : UpdateParts) (bound : List Datum) (f : Statement), update.HasParts p bound u ∧
        filterOf update.source update.conditions = .ok f ∧
        p.filter = f.sql.renumbered (· + bound.length) ∧ u.values = bound ++ f.values := by
  intro conditions read update filter values s u
  have hs : (Query.read read).statement = .ok s := by cbv
  have hu : (Query.update update).statement = .ok u := by cbv
  exact ⟨hs, hu, Query.filters_shared.1 read s hs, Query.filters_shared.2.2.2 update u hu⟩

end TableGateway
