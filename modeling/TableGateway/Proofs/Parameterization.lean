import Mathlib
import TableGateway.Proofs.Inline

/-!
# Statements and renderings

Every part of the work that binds a query follows the rendering of that part. Hence a statement is
its rendering, numbered from one: its slots carry `1, 2, …` from left to right, and with the values
put back into their slots it is the rendering.
-/

namespace TableGateway.Query

/-! ### Conditions -/

lemma add_does (d : Datum) : Does (add d) ([.datum d] : Rendering) := fun _ => rfl

lemma mapM_add_does (values : List Value) :
    Does (values.mapM fun v => add (.value v))
      (values.map fun v => ([.datum (.value v)] : Rendering)) := by
  intro bound
  induction values generalizing bound with
  | nil =>
    rw [List.mapM_nil, Binder.run_pure]
    simp
  | cons v rest ih =>
    rw [List.mapM_cons, Binder.run_bind, add_does, Binder.run_bind, ih, Binder.run_pure]
    simp

lemma addAll_does (values : List Value) : Does (addAll values) (inlineAll values) := by
  intro bound
  unfold addAll inlineAll
  rw [Binder.run_bind, mapM_add_does, Binder.run_pure, Rendering.numbered_separated,
    Rendering.data_separated]

lemma bind_does (v : Value) : Does (bind v) (inlineItems v) := by
  cases v with
  | array items => exact addAll_does items
  | _ => exact add_does _

lemma Raw.fill_does (stretches : List (List Char)) (values : List Value) :
    Does (Raw.fill stretches values) (Raw.inlineFill stretches values) := by
  intro bound
  induction stretches generalizing values bound with
  | nil =>
    rw [Raw.fill, Raw.inlineFill, Binder.run_pure]
    simp
  | cons stretch rest ih =>
    cases values with
    | nil =>
      rw [Raw.fill, Raw.inlineFill, Binder.run_pure]
      simp
    | cons v values =>
      rw [Raw.fill, Raw.inlineFill, Binder.run_bind, bind_does, Binder.run_bind, ih,
        Binder.run_pure]
      simp

lemma Raw.bind_follows (r : Raw) : Follows r.bind r.inline := by
  intro bound
  unfold Raw.bind Raw.inline
  rcases r.values with _ | v
  · exact FollowsFrom.pure rfl rfl
  · rcases r.fragment with _ | _ | _ | _ | fragment | _ | _
    case string =>
      dsimp only
      split
      · exact (Raw.fill_does _ _).follows bound
      · exact FollowsFrom.throw _
    all_goals exact FollowsFrom.throw _

lemma Term.bind_follows (source : String) (t : Term) :
    Follows (t.bind source) (t.inline source) := by
  intro bound
  obtain ⟨field, v, operator⟩ := t
  unfold Term.bind Term.inline
  rcases v with _ | _ | _ | _ | _ | items | _
  case array =>
    rcases items with _ | ⟨v, rest⟩
    · exact FollowsFrom.throw _
    · apply FollowsFrom.bind_does (addAll_does (v :: rest))
      exact FollowsFrom.pure (by simp) (by simp)
  all_goals
    apply FollowsFrom.bind_does (add_does _)
    exact FollowsFrom.pure (by simp) (by simp)

/-- Parts in parentheses with an operator between them; without any there is only a word. -/
def groupedSql (operator empty : String) : List Sql → Sql
  | [] => sql empty
  | parts => separated operator (parts.map fun part => sql "(" ++ part ++ sql ")")

lemma numbered_grouped (n : Nat) (operator empty : String) (parts : List Rendering) :
    numbered n (Rendering.grouped operator empty parts) =
      groupedSql operator empty (numbered n parts) := by
  cases parts with
  | nil => rfl
  | cons part rest =>
    change numbered n (Rendering.separated operator ((part :: rest).map _)) =
      separated operator ((numbered n (part :: rest)).map _)
    rw [Rendering.numbered_separated, numbered_map]
    · intro n part
      simp
    · intro part
      simp

lemma data_grouped (operator empty : String) (parts : List Rendering) :
    data (Rendering.grouped operator empty parts) = data parts := by
  cases parts with
  | nil => rfl
  | cons part rest =>
    change data (Rendering.separated operator ((part :: rest).map _)) = _
    rw [Rendering.data_separated, data_map]
    intro part
    simp

lemma flatMap_grouped {operator empty : String} {op e : FilterToken} (hop : op.sql = sql operator)
    (he : e.sql = sql empty) (groups : List (List FilterToken)) :
    (Filter.grouped op e groups).flatMap FilterToken.sql =
      groupedSql operator empty (groups.map (·.flatMap FilterToken.sql)) := by
  have hjoin (parts : List (List FilterToken)) :
      (List.intercalate [op] parts).flatMap FilterToken.sql =
        separated operator (parts.map (·.flatMap FilterToken.sql)) := by
    unfold separated
    induction parts with
    | nil => rfl
    | cons part rest ih =>
      cases rest with
      | nil => simp
      | cons next rest =>
        rw [List.intercalate_cons_cons, List.flatMap_append, List.flatMap_append, ih]
        simp [hop]
  cases groups with
  | nil => simp [Filter.grouped, groupedSql, he]
  | cons group rest =>
    change (List.intercalate [op] ((group :: rest).map _)).flatMap FilterToken.sql =
      separated operator (((group :: rest).map _).map _)
    rw [hjoin, List.map_map, List.map_map]
    congr 2
    funext g
    simp [FilterToken.sql]

lemma tokensOfEach_eq_map (parts : List Filter) :
    Filter.tokensOfEach parts = parts.map Filter.tokens := by
  induction parts with
  | nil => rfl
  | cons f rest ih => rw [Filter.tokensOfEach, List.map_cons, ih]

lemma Filter.sql_all (parts : List Filter) :
    (Filter.all parts).sql = groupedSql " AND " "TRUE" (parts.map Filter.sql) := by
  unfold Filter.sql
  rw [Filter.tokens, flatMap_grouped rfl rfl, tokensOfEach_eq_map, List.map_map]
  rfl

lemma Filter.sql_any (parts : List Filter) :
    (Filter.any parts).sql = groupedSql " OR " "FALSE" (parts.map Filter.sql) := by
  unfold Filter.sql
  rw [Filter.tokens, flatMap_grouped rfl rfl, tokensOfEach_eq_map, List.map_map]
  rfl

lemma Filter.sql_test (body : Sql) : (Filter.test body).sql = body := by
  simp [Filter.sql, Filter.tokens, FilterToken.sql]

namespace Condition

mutual

lemma bind_follows (source : String) :
    ∀ c : Condition, Follows (Filter.sql <$> c.bind source) (c.inline source)
  | all parts => by
    have hwork : Filter.sql <$> bind source (all parts) =
        groupedSql " AND " "TRUE" <$> (·.map Filter.sql) <$> bindEach source parts := by
      simp [bind, Filter.sql_all]
    rw [hwork]
    exact (bindEach_follows source parts).map (fun n => numbered_grouped n _ _) (data_grouped _ _)
  | any parts => by
    have hwork : Filter.sql <$> bind source (any parts) =
        groupedSql " OR " "FALSE" <$> (·.map Filter.sql) <$> bindEach source parts := by
      simp [bind, Filter.sql_any]
    rw [hwork]
    exact (bindEach_follows source parts).map (fun n => numbered_grouped n _ _) (data_grouped _ _)
  | raw r => by
    simpa [bind, inline, Filter.sql_test] using r.bind_follows
  | term t => by
    simpa [bind, inline, Filter.sql_test] using t.bind_follows source
  | unsupported v => fun _ => FollowsFrom.throw (.unsupported v)

lemma bindEach_follows (source : String) :
    ∀ cs : List Condition,
      Follows ((·.map Filter.sql) <$> bindEach source cs) (inlineEach source cs)
  | [] => fun _ => FollowsFrom.pure rfl rfl
  | c :: rest => by
    have hwork : (·.map Filter.sql) <$> bindEach source (c :: rest) = (do
        let s ← Filter.sql <$> bind source c
        let ss ← (·.map Filter.sql) <$> bindEach source rest
        return s :: ss) := by
      simp [bindEach]
    rw [hwork, inlineEach]
    intro bound
    apply FollowsFrom.bind (bind_follows source c)
    intro r _
    apply FollowsFrom.bind (bindEach_follows source rest)
    intro rs _
    exact FollowsFrom.pure (by simp) (by simp)

end

end Condition

lemma whereClause_follows (source : String) (conditions : List Condition) :
    Follows (whereClause source conditions) (inlineWhere source conditions) := by
  cases conditions with
  | nil => exact fun _ => FollowsFrom.pure rfl rfl
  | cons c rest =>
    have hwork : whereClause source (c :: rest) =
        (sql " WHERE " ++ groupedSql " AND " "TRUE" ·) <$>
          (·.map Filter.sql) <$> Condition.bindEach source (c :: rest) := by
      simp [whereClause, Filter.sql_all]
    rw [hwork]
    apply (Condition.bindEach_follows source (c :: rest)).map
    · intro n rs
      rw [numbered_append, numbered_grouped]
      rfl
    · intro rs
      rw [data_append, data_grouped]
      rfl

/-! ### Columns of a read -/

lemma Field.bind_follows (source : String) (f : Field) :
    Follows (f.bind source) (f.inline source) := by
  cases f with
  | column name => exact fun _ => FollowsFrom.pure rfl rfl
  | raw r => exact r.bind_follows

lemma Read.columns_follows (q : Read) : Follows q.columns q.inlineColumns := by
  unfold Read.columns Read.inlineColumns
  cases q.fields with
  | nil => exact fun _ => FollowsFrom.pure rfl rfl
  | cons f rest => exact Follows.mapM (Field.bind_follows q.source) (f :: rest)

/-! ### Nested rows -/

lemma assign_does (row : Row) : Does (assign row) row := by
  intro bound
  induction row generalizing bound with
  | nil =>
    rw [assign, Binder.run_pure]
    simp
  | cons e rest ih =>
    obtain ⟨column, d⟩ := e
    rcases d with v | members | r
    case reference =>
      rw [assign, Binder.run_bind, ih, Binder.run_pure]
      rfl
    all_goals
      rw [assign, Binder.run_bind, add_does, Binder.run_bind, ih, Binder.run_pure]
      · simp
        rfl
      · simp

lemma Nesting.extract_follows (join : Join) (x : Extraction) (bound : Parameters) :
    FollowsFrom bound (data x) ((numbered bound.values.length x).extract join)
      (x.extract join) := by
  unfold Nesting.extract Extraction.extract
  apply FollowsFrom.bind_ofData
  rintro (_ | ⟨column, path⟩)
  · apply FollowsFrom.bind_ofData
    intro _
    apply FollowsFrom.bind_ofData
    intro _
    exact FollowsFrom.throw _
  · apply FollowsFrom.bind_ofData
    rintro (_ | members)
    · exact FollowsFrom.pure rfl rfl
    · apply FollowsFrom.bind_ofData
      intro placed
      apply FollowsFrom.bind_does (assign_does _)
      apply FollowsFrom.pure
      · change Nesting.mk (numbered _ (x.nested ++ _)) _ = Nesting.mk (numbered _ x.nested ++ _) _
        rw [numbered_append]
        rfl
      · change data (x.nested ++ [_]) = data x.nested ++ data _
        rw [data_append, data_cons, data_nil, List.append_nil]
        rfl

/-- The fold over the joins: each step goes on from the numbered result of the one before. -/
lemma foldlM_extract_follows (joins : List Join) (x : Extraction) (bound : Parameters) :
    FollowsFrom bound (data x) (joins.foldlM Nesting.extract (numbered bound.values.length x))
      (joins.foldlM Extraction.extract x) := by
  induction joins generalizing x with
  | nil => exact FollowsFrom.pure rfl rfl
  | cons join rest ih =>
    rw [List.foldlM_cons, List.foldlM_cons]
    exact FollowsFrom.bind_from (Nesting.extract_follows join x bound) fun y _ => ih y

lemma Write.plan_follows (row : Value) (joins : List Join) :
    Follows (Write.plan row joins) (WritePlan.of row joins) := by
  intro bound
  unfold Write.plan WritePlan.of
  apply FollowsFrom.bind_ofData
  intro columns
  apply FollowsFrom.bind_ofData
  intro _
  refine FollowsFrom.bind_from (foldlM_extract_follows _ _ bound) fun x _ => ?_
  apply FollowsFrom.bind_does (assign_does _)
  exact FollowsFrom.pure rfl rfl

lemma column_numbered (n : Nat) (e : Value × Datum) : (numbered n e).column = e.1 := by
  obtain ⟨column, _ | _ | _⟩ := e <;> rfl

lemma cell_numbered (n : Nat) (e : Value × Datum) :
    numbered n (inlineCell e) = (numbered n e).cell.sql := by
  obtain ⟨column, _ | _ | _⟩ := e <;> rfl

lemma data_inlineCell (e : Value × Datum) : data (inlineCell e) = data e := by
  obtain ⟨column, _ | _ | _⟩ := e <;> rfl

lemma columns_numbered (n : Nat) (row : Row) :
    (numbered n row).map (·.column) = row.map (·.1) := by
  induction row generalizing n with
  | nil => rfl
  | cons e rest ih => rw [numbered_cons, List.map_cons, List.map_cons, ih, column_numbered]

lemma inlineInsertion_numbered (n : Nat) (table : String) (row : Row) :
    numbered n (inlineInsertion table row) = (Insertion.mk table (numbered n row)).sql := by
  cases row with
  | nil => rfl
  | cons e rest =>
    have hcolumns : (numbered n (e :: rest)).map (·.column.shown) =
        (e :: rest).map (·.1.shown) := by
      have h := congrArg (List.map Value.shown) (columns_numbered n (e :: rest))
      rwa [List.map_map, List.map_map] at h
    have hcells : numbered n ((e :: rest).map inlineCell) =
        (numbered n (e :: rest)).map (·.cell.sql) :=
      numbered_map cell_numbered data_inlineCell n _
    unfold Insertion.sql
    change numbered n (Rendering.text _ ++ Rendering.separated ", " _ ++ .text ")") =
      Query.sql (_ ++ ", ".intercalate ((numbered n (e :: rest)).map _) ++ _) ++
        separated ", " ((numbered n (e :: rest)).map _) ++ _
    rw [numbered_append, numbered_append, Rendering.numbered_separated, hcolumns,
      ← hcells]
    simp

lemma data_inlineInsertion (table : String) (row : Row) :
    data (inlineInsertion table row) = data row := by
  cases row with
  | nil => rfl
  | cons e rest =>
    unfold inlineInsertion
    rw [data_append, data_append, Rendering.data_separated, data_map data_inlineCell]
    simp

lemma nested_numbered (n : Nat) (x : NestedRow) :
    numbered n x.inline = (numbered n x).sql := by
  unfold NestedRow.inline NestedInsertion.sql
  rw [numbered_append, numbered_append, inlineInsertion_numbered]
  simp
  rfl

lemma data_nested (x : NestedRow) : data x.inline = data x := by
  unfold NestedRow.inline
  rw [data_append, data_append, data_inlineInsertion]
  simp
  rfl

lemma inlineWith_numbered (n : Nat) (p : WritePlan) :
    numbered n p.inlineWith = (numbered n p).withClause := by
  obtain ⟨nested, row⟩ := p
  cases nested with
  | nil => rfl
  | cons x rest =>
    change numbered n (Rendering.text "WITH " ++ .separated ", " _ ++ .text " ") =
      sql "WITH " ++ separated ", " ((numbered n (x :: rest)).map _) ++ sql " "
    rw [numbered_append, numbered_append, Rendering.numbered_separated,
      numbered_map nested_numbered data_nested]
    simp

lemma data_inlineWith (p : WritePlan) : data p.inlineWith = data p.nested := by
  obtain ⟨nested, row⟩ := p
  cases nested with
  | nil => rfl
  | cons x rest =>
    change data (Rendering.text "WITH " ++ .separated ", " _ ++ .text " ") = _
    rw [data_append, data_append, Rendering.data_separated, data_map data_nested]
    simp

/-! ### Statements -/

lemma numbered_ofSql {s : Sql} (h : s.slots = []) (n : Nat) :
    numbered n (Rendering.ofSql s) = s := by
  induction s with
  | nil => rfl
  | cons piece rest ih =>
    cases piece with
    | text t =>
      have hrest : numbered n (Rendering.ofSql rest) = rest := ih (by simpa [Sql.slots] using h)
      change Piece.text t :: numbered (n + 0) (Rendering.ofSql rest) = _
      rw [Nat.add_zero, hrest]
    | slot k => simp [Sql.slots] at h

@[simp] lemma data_ofSql (s : Sql) : data (Rendering.ofSql s) = [] := by
  induction s with
  | nil => rfl
  | cons piece rest ih =>
    cases piece with
    | text t => exact ih
    | slot k => exact ih

lemma slots_returningClause {columns : Value} {s : Sql}
    (h : returningClause columns = .ok s) : s.slots = [] := by
  unfold returningClause at h
  split at h
  · obtain ⟨names, -, h⟩ := exists_of_bind_eq_ok h
    cases h
    rfl
  · cases h
    rfl

lemma slots_orderClause {order : List Order} {s : Sql} (h : orderClause order = .ok s) :
    s.slots = [] := by
  cases order with
  | nil =>
    cases h
    rfl
  | cons o rest =>
    obtain ⟨texts, -, h⟩ := exists_of_bind_eq_ok h
    cases h
    rfl

lemma slots_pageClause {page : Option Page} {s : Sql} (h : pageClause page = .ok s) :
    s.slots = [] := by
  cases page with
  | none =>
    cases h
    rfl
  | some p =>
    obtain ⟨⟨size, number⟩, -, h⟩ := exists_of_bind_eq_ok h
    obtain ⟨bounds, -, h⟩ := exists_of_bind_eq_ok h
    cases h
    rfl

lemma slots_joinClauses (source : String) (joins : List PlacedJoin) :
    (joinClauses source joins).slots = [] := by
  unfold joinClauses
  induction shallowestFirst joins with
  | nil => rfl
  | cons join rest ih =>
    rw [List.flatMap_cons, Sql.slots_append, ih]
    rfl

lemma numbered_embeddings (n : Nat) (joins : List PlacedJoin) :
    numbered n ((embeddings joins).map Rendering.ofSql) = embeddings joins := by
  unfold embeddings
  induction shallowestFirst joins with
  | nil => rfl
  | cons join rest ih =>
    rw [List.map_cons, List.map_cons, numbered_cons, data_ofSql, numbered_ofSql rfl]
    exact congrArg _ ih

lemma data_embeddings (joins : List PlacedJoin) :
    data ((embeddings joins).map Rendering.ofSql) = [] := by
  induction embeddings joins with
  | nil => rfl
  | cons s rest ih => rw [List.map_cons, data_cons, data_ofSql, ih, List.append_nil]

lemma Create.sql_follows (q : Create) : Follows q.sql q.inline := by
  intro bound
  unfold Create.sql Create.inline
  apply FollowsFrom.bind (Write.plan_follows q.row q.joins)
  intro p _
  have hcolumns (n : Nat) : (numbered n p).assignments.map (·.column) = p.row.map (·.1) :=
    columns_numbered _ p.row
  rw [hcolumns]
  apply FollowsFrom.bind_ofData
  intro _
  apply FollowsFrom.bind_lift
  intro returning hreturning
  apply FollowsFrom.pure
  · rw [numbered_append, numbered_append, inlineWith_numbered, inlineInsertion_numbered,
      numbered_ofSql (slots_returningClause hreturning), data_inlineWith]
    rfl
  · rw [data_append, data_append, data_inlineWith, data_inlineInsertion, data_ofSql,
      List.append_nil]
    rfl

lemma Read.sql_follows (q : Read) : Follows q.sql q.inline := by
  intro bound
  unfold Read.sql Read.inline
  apply FollowsFrom.bind q.columns_follows
  intro columns _
  apply FollowsFrom.bind_lift
  intro joins _
  apply FollowsFrom.bind_lift
  intro _ _
  apply FollowsFrom.bind (whereClause_follows q.source q.conditions)
  intro filter _
  apply FollowsFrom.bind_lift
  intro order horder
  apply FollowsFrom.bind_lift
  intro page hpage
  apply FollowsFrom.pure
  · simp only [numbered_append, data_append, Rendering.numbered_separated,
      Rendering.data_separated, numbered_embeddings, data_embeddings, data_ofSql,
      numbered_ofSql (slots_orderClause horder), numbered_ofSql (slots_pageClause hpage),
      numbered_ofSql (slots_joinClauses q.source joins)]
    simp
  · simp only [data_append, Rendering.data_separated, data_embeddings, data_ofSql]
    simp

lemma assignments_numbered (n : Nat) (row : Row) :
    numbered n (row.map fun e => Rendering.text (e.1.shown ++ " = ") ++ inlineCell e) =
      (numbered n row).map fun a => sql (a.column.shown ++ " = ") ++ a.cell.sql := by
  apply numbered_map
  · intro n e
    rw [numbered_append, cell_numbered, column_numbered]
    simp
  · intro e
    rw [data_append, data_inlineCell]
    simp

lemma data_inlineAssignments (p : WritePlan) : data p.inlineAssignments = data p.row := by
  apply data_map
  intro e
  rw [data_append, data_inlineCell]
  simp

lemma data_writePlan (p : WritePlan) : data p = data p.nested ++ data p.row := rfl

lemma assignments_writePlan (n : Nat) (p : WritePlan) :
    (numbered n p).assignments = numbered (n + (data p.nested).length) p.row := rfl

lemma Update.sql_follows (q : Update) : Follows q.sql q.inline := by
  intro bound
  unfold Update.sql Update.inline
  apply FollowsFrom.bind (Write.plan_follows q.row q.joins)
  intro p _
  have hempty (n : Nat) : (numbered n p).assignments.isEmpty = p.row.isEmpty := by
    obtain ⟨nested, _ | ⟨e, rest⟩⟩ := p <;> rfl
  dsimp only
  rw [hempty]
  split
  · exact FollowsFrom.throw _
  · apply FollowsFrom.bind (whereClause_follows q.source q.conditions)
    intro filter _
    apply FollowsFrom.bind_lift
    intro returning hreturning
    apply FollowsFrom.pure
    · simp only [numbered_append, data_append, inlineWith_numbered, data_inlineWith,
        Rendering.numbered_separated, Rendering.data_separated, data_inlineAssignments,
        numbered_ofSql (slots_returningClause hreturning)]
      rw [WritePlan.inlineAssignments, assignments_numbered]
      simp [assignments_writePlan, data_writePlan]
    · simp only [data_append, data_inlineWith, Rendering.data_separated, data_inlineAssignments,
        data_ofSql, List.append_nil]
      simp [data_writePlan]

lemma Delete.sql_follows (q : Delete) : Follows q.sql q.inline := by
  intro bound
  unfold Delete.sql Delete.inline
  apply FollowsFrom.bind (whereClause_follows q.source q.conditions)
  intro filter _
  exact FollowsFrom.pure (by simp) (by simp)

lemma Read.countSql_follows (q : Read) : Follows q.countSql q.inlineCount := by
  intro bound
  unfold Read.countSql Read.inlineCount
  apply FollowsFrom.bind_lift
  intro joins _
  apply FollowsFrom.bind (whereClause_follows q.source q.conditions)
  intro filter _
  apply FollowsFrom.pure
  · simp [numbered_ofSql (slots_joinClauses q.source joins)]
  · simp

end TableGateway.Query

namespace TableGateway

open Query

lemma Query.binding_follows (q : Query) : Follows q.binding q.inline := by
  cases q with
  | create q => exact q.sql_follows
  | read q => exact q.sql_follows
  | update q => exact q.sql_follows
  | delete q => exact q.sql_follows
  | count q => exact q.countSql_follows

/-- A query has a statement exactly when it has a rendering, and the statement is the rendering
numbered from one. -/
theorem Query.statement_eq (q : Query) :
    q.statement = q.inline.map fun r => ⟨numbered 0 r, data r⟩ :=
  q.binding_follows.statement_eq

lemma Query.exists_inline_of_statement {q : Query} {s : Statement} (h : q.statement = .ok s) :
    ∃ r, q.inline = .ok r ∧ s = ⟨numbered 0 r, data r⟩ := by
  rw [q.statement_eq] at h
  cases hinline : q.inline with
  | error e =>
    rw [hinline] at h
    cases h
  | ok r =>
    rw [hinline] at h
    cases h
    exact ⟨r, rfl, rfl⟩

/-- Values are bound to the slots they belong to: the slots of a statement carry `1, …, n` from
left to right, `n` being the number of values, and with each value written in the place of its
slot the statement is the rendering of the query. The text has `$n` in the place of the `n`-th slot
and is otherwise the same. -/
theorem Query.statement_filled (q : Query) (s : Statement) (h : q.statement = .ok s) :
    s.sql.slots = List.range' 1 s.values.length ∧
      s.text = String.join (s.sql.map Piece.written) ∧
      ∃ r, q.inline = .ok r ∧ s.sql.filled s.values = some r := by
  rw [q.statement_eq] at h
  cases hinline : q.inline with
  | error e =>
    rw [hinline] at h
    cases h
  | ok r =>
    rw [hinline] at h
    cases h
    refine ⟨slots_numbered 0 r, Statement.text_eq _, r, rfl, ?_⟩
    simpa using filled_numbered [] [] r

theorem Query.statement_filled_update :
    let q : Query := .update {
      source := "t"
      row := .object [("a", .object [("x", .int 1)]), ("b", .int 2)]
      joins := [⟨.string "u", .array [.string "a"], .string "a", .string "id"⟩]
      conditions := [.any [.term ⟨"c", .array [.int 3, .int 4], "IN"⟩,
        .raw ⟨.string "f(?)", some (.int 5)⟩]] }
    let s : Statement := {
      sql := [.text "WITH ", .text "a AS (", .text "INSERT INTO u (x) VALUES (", .slot 1,
        .text ")", .text " RETURNING id)", .text " ", .text "UPDATE t SET ", .text "a = ",
        .text "(SELECT id FROM a)", .text ", ", .text "b = ", .slot 2, .text " WHERE ", .text "(",
        .text "(", .text "t.c IN ", .text "(", .slot 3, .text ", ", .slot 4, .text ")", .text ")",
        .text " OR ", .text "(", .text "f(", .slot 5, .text ")", .text ")", .text ")"]
      values := [1, 2, 3, 4, 5].map fun n => .value (.int n) }
    q.statement = .ok s ∧
      s.text = "WITH a AS (INSERT INTO u (x) VALUES ($1) RETURNING id) " ++
        "UPDATE t SET a = (SELECT id FROM a), b = $2 WHERE ((t.c IN ($3, $4)) OR (f($5)))" ∧
      s.sql.slots = List.range' 1 s.values.length ∧
      ∃ r, q.inline = .ok r ∧ s.sql.filled s.values = some r := by
  intro q s
  have h : q.statement = .ok s := by cbv
  obtain ⟨hslots, -, hfilled⟩ := q.statement_filled s h
  exact ⟨h, rfl, hslots, hfilled⟩

end TableGateway
