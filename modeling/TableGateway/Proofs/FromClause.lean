import Mathlib
import TableGateway.Proofs.Aliases
import TableGateway.Proofs.NestedRows
import TableGateway.Proofs.Parameterization
import TableGateway.Proofs.RelationPaths
import TableGateway.Proofs.TypedClauses

/-!
# The `FROM` clause

A read and the count of its rows join tables along paths. Whatever the order of the joins, a table
is joined after the one it refers to if with every path the path to its parent is among the joins.
-/

namespace TableGateway.Query

/-! ### The clause and the texts around it -/

structure QualifiedColumn where
  table : String
  column : String

def QualifiedColumn.text (c : QualifiedColumn) : String :=
  c.table ++ "." ++ c.column

/-- A table under a name of its own, whose rows are found by comparing a column with a column of
another table. -/
structure LeftJoin where
  table : String
  name : String
  own : QualifiedColumn
  other : QualifiedColumn

def LeftJoin.text (j : LeftJoin) : String :=
  " LEFT JOIN " ++ j.table ++ " AS " ++ j.name ++ " ON (" ++ j.own.text ++ " = " ++ j.other.text
    ++ ")"

/-- The column that holds the rows of a joined table as objects. -/
def LeftJoin.embedding (j : LeftJoin) : String :=
  "row_to_json(" ++ j.name ++ ".*) AS " ++ j.name

structure FromClause where
  source : String
  joins : List LeftJoin

namespace FromClause

def text (f : FromClause) : String :=
  " FROM " ++ f.source ++ String.join (f.joins.map LeftJoin.text)

/-- The names that the clause introduces. -/
def names (f : FromClause) : List String :=
  f.source :: f.joins.map (·.name)

/-- A join compares a column of its own table with a column of a table that was named before. -/
structure WellScoped (f : FromClause) : Prop where
  own : ∀ j ∈ f.joins, j.own.table = j.name
  other : ∀ before j after, f.joins = before ++ j :: after →
    j.other.table ∈ f.source :: before.map (·.name)

end FromClause

/-- The join of a table at a path below a source. The table above it is the source itself or the one
joined at the path without its last segment. -/
def PlacedJoin.leftJoin (source : String) (p : PlacedJoin) : LeftJoin where
  table := p.source
  name := aliasOf p.path
  own := ⟨aliasOf p.path, p.foreignProperty⟩
  other := ⟨if p.path.length = 1 then source else aliasOf p.path.dropLast, p.localProperty⟩

/-- The clauses of a read behind its tables, with their values in place. -/
def Read.inlineClauses (q : Read) : Except Error Rendering := do
  let filter ← inlineWhere q.source q.conditions
  let order ← orderClause q.order
  let page ← pageClause q.page
  return filter ++ .ofSql order ++ .ofSql page

/-- The statements of a read and of its count have a certain `FROM` clause. In front of it the read
has its columns and one more for every join, and the count has none of them. -/
structure Read.SelectsFrom (q : Read) (f : FromClause) : Prop where
  read : ∀ s, (Query.read q).statement = .ok s → ∃ columns clauses,
    q.inlineColumns = .ok columns ∧ q.inlineClauses = .ok clauses ∧
    s.text = "SELECT "
      ++ ", ".intercalate ((numbered 0 columns).map Sql.written ++ f.joins.map LeftJoin.embedding)
      ++ f.text ++ Sql.written (numbered (data columns).length clauses)
  count : ∀ s, (Query.count q).statement = .ok s → ∃ filter,
    inlineWhere q.source q.conditions = .ok filter ∧
    s.text = "SELECT COUNT(*)" ++ f.text ++ Sql.written (numbered 0 filter)

/-! ### What is selected from -/

def Read.fromClause (q : Read) (placed : List PlacedJoin) : FromClause where
  source := q.source
  joins := (shallowestFirst placed).map (PlacedJoin.leftJoin q.source)

lemma written_separated (separator : String) (parts : List Sql) :
    Sql.written (separated separator parts) = separator.intercalate (parts.map Sql.written) := by
  unfold separated
  induction parts with
  | nil => rfl
  | cons part rest ih =>
    cases rest with
    | nil => simp
    | cons next rest =>
      rw [List.intercalate_cons_cons, Sql.written_append, Sql.written_append, ih, Sql.written_sql,
        List.map_cons, List.map_cons, List.map_cons, String.intercalate_cons_cons]

lemma mem_shallowestFirst {p : PlacedJoin} {placed : List PlacedJoin} :
    p ∈ shallowestFirst placed ↔ p ∈ placed := by
  rw [shallowestFirst, List.mem_mergeSort]

lemma PlacedJoin.sql_eq {p : PlacedJoin} (h : p.path ≠ []) (source : String) :
    p.sql source = Query.sql (p.leftJoin source).text := by
  have hparent : p.parent source =
      if p.path.length = 1 then source else aliasOf p.path.dropLast := by
    have hlength := List.length_pos_iff.mpr h
    unfold PlacedJoin.parent
    by_cases hone : p.path.length = 1
    · simp [hone]
    · have hlong : p.path.length > 1 := by omega
      simp [hone, hlong]
  unfold PlacedJoin.sql
  rw [hparent]
  unfold PlacedJoin.leftJoin LeftJoin.text QualifiedColumn.text
  dsimp only
  simp only [String.append_assoc]

section Texts

variable {q : Read} {placed : List PlacedJoin}

lemma written_joinClauses (h : ∀ p ∈ placed, p.path ≠ []) :
    Sql.written (joinClauses q.source placed) =
      String.join ((q.fromClause placed).joins.map LeftJoin.text) := by
  have hsorted : ∀ p ∈ shallowestFirst placed, p.path ≠ [] :=
    fun p hp => h p (mem_shallowestFirst.mp hp)
  unfold joinClauses Read.fromClause
  dsimp only
  generalize shallowestFirst placed = sorted at hsorted
  induction sorted with
  | nil => rfl
  | cons p rest ih =>
    obtain ⟨hp, hrest⟩ := List.forall_mem_cons.mp hsorted
    rw [List.flatMap_cons, Sql.written_append, ih hrest, PlacedJoin.sql_eq hp, Sql.written_sql]
    simp

lemma written_embeddings :
    (embeddings placed).map Sql.written = (q.fromClause placed).joins.map LeftJoin.embedding := by
  unfold embeddings Read.fromClause
  rw [List.map_map, List.map_map]
  apply List.map_congr_left
  intro p _
  simp [LeftJoin.embedding, PlacedJoin.leftJoin, Sql.written_sql]

lemma placeJoins_of_mapM {joins : List Join} (h : joins.mapM Join.place = .ok placed) :
    placeJoins joins = .ok placed := by
  unfold placeJoins
  rw [h]
  rfl

lemma Read.text_of_statement (hplaced : q.joins.mapM Join.place = .ok placed)
    (hpaths : ∀ p ∈ placed, p.path ≠ []) {s : Statement} (hs : (Query.read q).statement = .ok s) :
    ∃ columns clauses, q.inlineColumns = .ok columns ∧ q.inlineClauses = .ok clauses ∧
      s.text = "SELECT "
        ++ ", ".intercalate ((numbered 0 columns).map Sql.written
          ++ (q.fromClause placed).joins.map LeftJoin.embedding)
        ++ (q.fromClause placed).text ++ Sql.written (numbered (data columns).length clauses) := by
  obtain ⟨r, hr, rfl⟩ := Query.exists_inline_of_statement hs
  obtain ⟨columns, hcolumns, hr⟩ := exists_of_bind_eq_ok hr
  obtain ⟨placed', hplaced', hr⟩ := exists_of_bind_eq_ok hr
  rw [placeJoins_of_mapM hplaced] at hplaced'
  cases hplaced'
  obtain ⟨_, _, hr⟩ := exists_of_bind_eq_ok hr
  obtain ⟨filter, hfilter, hr⟩ := exists_of_bind_eq_ok hr
  obtain ⟨order, horder, hr⟩ := exists_of_bind_eq_ok hr
  obtain ⟨page, hpage, hr⟩ := exists_of_bind_eq_ok hr
  cases hr
  have hclauses : q.inlineClauses = .ok (filter ++ .ofSql order ++ .ofSql page) := by
    unfold Read.inlineClauses
    rw [hfilter, horder, hpage]
    rfl
  refine ⟨columns, _, hcolumns, hclauses, ?_⟩
  unfold Statement.text FromClause.text
  -- the clauses behind the tables are one rendering
  rw [List.append_assoc _ (Rendering.ofSql order), List.append_assoc _ filter,
    ← List.append_assoc filter]
  simp only [numbered_append, data_append, Sql.written_append, Rendering.numbered_separated,
    Rendering.data_separated, numbered_embeddings, data_embeddings, data_ofSql,
    Rendering.numbered_text, Rendering.data_text, written_separated, List.map_append,
    numbered_ofSql (slots_joinClauses q.source placed), written_joinClauses hpaths,
    written_embeddings (q := q), Sql.written_sql, List.length_append, List.length_nil,
    Nat.zero_add, Nat.add_zero, String.append_assoc]
  rfl

lemma Read.text_of_count (hplaced : q.joins.mapM Join.place = .ok placed)
    (hpaths : ∀ p ∈ placed, p.path ≠ []) {s : Statement} (hs : (Query.count q).statement = .ok s) :
    ∃ filter, inlineWhere q.source q.conditions = .ok filter ∧
      s.text = "SELECT COUNT(*)" ++ (q.fromClause placed).text
        ++ Sql.written (numbered 0 filter) := by
  obtain ⟨r, hr, rfl⟩ := Query.exists_inline_of_statement hs
  obtain ⟨placed', hplaced', hr⟩ := exists_of_bind_eq_ok hr
  rw [placeJoins_of_mapM hplaced] at hplaced'
  cases hplaced'
  obtain ⟨filter, hfilter, hr⟩ := exists_of_bind_eq_ok hr
  cases hr
  refine ⟨filter, hfilter, ?_⟩
  unfold Statement.text FromClause.text
  simp only [numbered_append, data_append, Sql.written_append, data_ofSql,
    Rendering.numbered_text, Rendering.data_text,
    numbered_ofSql (slots_joinClauses q.source placed), written_joinClauses hpaths,
    Sql.written_sql, List.length_append, List.length_nil, Nat.zero_add, String.append_assoc]
  have hhead : "SELECT COUNT(*) FROM " = "SELECT COUNT(*)" ++ " FROM " := rfl
  rw [hhead, String.append_assoc]
  rfl

lemma Read.selectsFrom (hplaced : q.joins.mapM Join.place = .ok placed)
    (hpaths : ∀ p ∈ placed, p.path ≠ []) : q.SelectsFrom (q.fromClause placed) where
  read _ := Read.text_of_statement hplaced hpaths
  count _ := Read.text_of_count hplaced hpaths

end Texts

/-! ### The order of the joins -/

/-- The tables joined at paths form a tree below the source: with every path the one to its parent
is among them. -/
structure IsTree (placed : List PlacedJoin) : Prop where
  path_ne : ∀ p ∈ placed, p.path ≠ []
  parent : ∀ p ∈ placed, 1 < p.path.length → ∃ q ∈ placed, q.path = p.path.dropLast

lemma pairwise_shallowestFirst (placed : List PlacedJoin) :
    (shallowestFirst placed).Pairwise fun a b => a.path.length ≤ b.path.length :=
  List.pairwise_mergeSort' (Order.Preimage (fun p : PlacedJoin => p.path.length) (· ≤ ·)) placed

/-- What is shorter stands before. -/
lemma mem_before_of_length_lt {sorted before after : List PlacedJoin} {p q : PlacedJoin}
    (hsorted : sorted.Pairwise fun a b => a.path.length ≤ b.path.length)
    (hsplit : sorted = before ++ p :: after) (hq : q ∈ sorted)
    (hlength : q.path.length < p.path.length) : q ∈ before := by
  subst hsplit
  have hafter := (List.pairwise_cons.mp (List.pairwise_append.mp hsorted).2.1).1
  rcases List.mem_append.mp hq with hq | hq
  · exact hq
  rcases List.mem_cons.mp hq with rfl | hq
  · omega
  · have hle := hafter q hq
    omega

lemma IsTree.wellScoped {q : Read} {placed : List PlacedJoin} (h : IsTree placed) :
    (q.fromClause placed).WellScoped := by
  constructor
  · intro j hj
    obtain ⟨p, -, rfl⟩ := List.mem_map.mp hj
    rfl
  · intro before j after hsplit
    obtain ⟨before, others, hsorted, rfl, hothers⟩ := List.map_eq_append_iff.mp hsplit
    obtain ⟨p, after, rfl, rfl, rfl⟩ := List.map_eq_cons_iff.mp hothers
    have hp : p ∈ placed := by
      rw [← mem_shallowestFirst, hsorted]
      exact List.mem_append_right _ List.mem_cons_self
    unfold PlacedJoin.leftJoin
    dsimp only
    by_cases hone : p.path.length = 1
    · rw [if_pos hone]
      exact List.mem_cons_self
    · have hlength := List.length_pos_iff.mpr (h.path_ne p hp)
      obtain ⟨parent, hparent, hpath⟩ := h.parent p hp (by omega)
      have hshorter : parent.path.length < p.path.length := by
        rw [hpath, List.length_dropLast]
        omega
      have hbefore := mem_before_of_length_lt (pairwise_shallowestFirst placed) hsorted
        (mem_shallowestFirst.mpr hparent) hshorter
      rw [if_neg hone, ← hpath, List.map_map]
      exact List.mem_cons_of_mem _ (List.mem_map_of_mem hbefore)

/-! ### Joins along paths of foreign keys -/

lemma Join.items_of_place {j : Join} {p : PlacedJoin} (h : j.place = .ok p) :
    j.path.items = .ok (p.path.map .string) := by
  obtain ⟨named, hnamed, h⟩ := exists_of_bind_eq_ok h
  have hitems := items_of_named hnamed
  by_cases hlong : named.path.length > 1
  · rw [if_pos hlong] at h
    obtain ⟨_, _, h⟩ := exists_of_bind_eq_ok h
    cases h
    exact hitems
  · rw [if_neg hlong] at h
    cases h
    exact hitems

/-- Tables that are joined along paths of foreign keys, each with all that lie on the way to it. -/
def AreAlong (g : Catalog.Graph) (name : Value) (joins : List Join) : Prop :=
  ∀ j ∈ joins, ∃ path others, g.joinsFor name path = .ok others ∧ j ∈ others ∧ others ⊆ joins

lemma AreAlong.isTree {g : Catalog.Graph} {name : Value} {joins : List Join}
    {placed : List PlacedJoin} (h : AreAlong g name joins)
    (hplaced : joins.mapM Join.place = .ok placed) : IsTree placed := by
  have hall := mapM_eq_ok_iff.mp hplaced
  -- where a table is joined, tables are joined at all beginnings of its path
  have hbeginning : ∀ p ∈ placed, p.path ≠ [] ∧ ∀ path, path ≠ [] → path <+: p.path →
      ∃ q ∈ placed, q.path = path := by
    intro p hp
    obtain ⟨j, hj, hjp⟩ := exists_of_forall₂ hall hp
    obtain ⟨_, others, hothers, hmem, hsubset⟩ := h j hj
    obtain ⟨segments, -, hpaths⟩ := Catalog.Graph.mem_joinsFor hothers
    obtain ⟨keys, hne, hresolves, hpath⟩ := (hpaths j.path).mp ⟨j, hmem, rfl⟩
    have hkeys : keys = p.path.map .string := by
      have hitems := Join.items_of_place hjp
      rw [hpath] at hitems
      exact Except.ok.inj hitems
    subst hkeys
    refine ⟨by simpa using hne, fun path hpathne hbegins => ?_⟩
    obtain ⟨i, hi, hipath⟩ := (hpaths (.array (path.map .string))).mpr
      ⟨_, by simpa using hpathne, (hbegins.map Value.string).trans hresolves, rfl⟩
    obtain ⟨q, hq, hiq⟩ := exists_of_forall₂ hall.flip (hsubset hi)
    refine ⟨q, hq, ?_⟩
    have hitems := Join.items_of_place hiq
    rw [hipath] at hitems
    have hmap : path.map Value.string = q.path.map .string := Except.ok.inj hitems
    exact (List.map_injective_iff.mpr (fun _ _ => Value.string.inj) hmap).symm
  constructor
  · exact fun p hp => (hbeginning p hp).1
  · intro p hp hlong
    refine (hbeginning p hp).2 p.path.dropLast ?_ (List.dropLast_prefix p.path)
    rw [← List.length_pos_iff, List.length_dropLast]
    omega

/-- A read and its count are well scoped, in whatever order the joins are listed: every join has one
`LEFT JOIN`, which refers to a table named before it. Joins along paths of foreign keys are such a
tree of tables. -/
theorem Read.joins_wellScoped (q : Read) (placed : List PlacedJoin)
    (hplaced : q.joins.mapM Join.place = .ok placed) :
    (IsTree placed → ∃ f : FromClause, f.source = q.source ∧
      f.joins.Perm (placed.map (PlacedJoin.leftJoin q.source)) ∧ f.WellScoped ∧
      q.SelectsFrom f) ∧
    ∀ (g : Catalog.Graph) (name : Value), AreAlong g name q.joins → IsTree placed := by
  refine ⟨fun htree => ⟨q.fromClause placed, rfl, ?_, htree.wellScoped, ?_⟩, ?_⟩
  · exact (List.mergeSort_perm placed _).map _
  · exact Read.selectsFrom hplaced htree.path_ne
  · exact fun g name halong => halong.isTree hplaced

/-- Tasks with their owners and the organizations of these. -/
def taskSources : List Catalog.Source := [
  { name := .string "tasks", belongsTo := [⟨.string "users", .string "owner", .string "id"⟩] },
  { name := .string "users",
    belongsTo := [⟨.string "organizations", .string "organization", .string "id"⟩] },
  { name := .string "organizations" }]

lemma joinsFor_taskSources :
    (Catalog.Graph.build taskSources).1.joinsFor (.string "tasks")
        (.array [.string "owner", .string "organization"]) = .ok [
      ⟨.string "users", .array [.string "owner"], .string "owner", .string "id"⟩,
      ⟨.string "organizations", .array [.string "owner", .string "organization"],
        .string "organization", .string "id"⟩] := by
  cbv

theorem Read.joins_wellScoped_deepestFirst :
    let users : Join := ⟨.string "users", .array [.string "owner"], .string "owner", .string "id"⟩
    let organizations : Join := ⟨.string "organizations",
      .array [.string "owner", .string "organization"], .string "organization", .string "id"⟩
    let q : Read := { source := "tasks", joins := [organizations, users] }
    let placed : List PlacedJoin := [
      ⟨"organizations", ["owner", "organization"], "organization", "id"⟩,
      ⟨"users", ["owner"], "owner", "id"⟩]
    let g := (Catalog.Graph.build taskSources).1
    let s : Statement := {
      sql := [.text "SELECT ", .text "tasks.*", .text ", ", .text "row_to_json(owner.*) AS owner",
        .text ", ", .text "row_to_json(\"owner/organization\".*) AS \"owner/organization\"",
        .text " FROM tasks", .text " LEFT JOIN users AS owner ON (owner.id = tasks.owner)",
        .text (" LEFT JOIN organizations AS \"owner/organization\"" ++
          " ON (\"owner/organization\".id = owner.organization)")]
      values := [] }
    (Query.read q).statement = .ok s ∧
      s.text = "SELECT tasks.*, row_to_json(owner.*) AS owner, " ++
        "row_to_json(\"owner/organization\".*) AS \"owner/organization\" FROM tasks " ++
        "LEFT JOIN users AS owner ON (owner.id = tasks.owner) " ++
        "LEFT JOIN organizations AS \"owner/organization\" " ++
        "ON (\"owner/organization\".id = owner.organization)" ∧
      q.joins.mapM Join.place = .ok placed ∧ AreAlong g (.string "tasks") q.joins ∧
      IsTree placed ∧ ∃ f : FromClause, f.source = q.source ∧
        f.joins.Perm (placed.map (PlacedJoin.leftJoin q.source)) ∧ f.WellScoped ∧
        q.SelectsFrom f := by
  intro users organizations q placed g s
  have hs : (Query.read q).statement = .ok s := by cbv
  have hplaced : q.joins.mapM Join.place = .ok placed := rfl
  have halong : AreAlong g (.string "tasks") q.joins := by
    have hjoins : g.joinsFor (.string "tasks") (.array [.string "owner", .string "organization"]) =
        .ok [users, organizations] := joinsFor_taskSources
    intro j hj
    refine ⟨_, _, hjoins, ?_, ?_⟩
    · simpa [q, or_comm] using hj
    · simp [q]
  obtain ⟨hscoped, htree⟩ := q.joins_wellScoped placed hplaced
  exact ⟨hs, by decide +kernel, hplaced, halong, htree g _ halong, hscoped (htree g _ halong)⟩

/-! ### The names in the clause -/

lemma pairwise_length_inits (l : List String) :
    l.inits.Pairwise fun p q => p.length ≤ q.length := by
  induction l with
  | nil => simp
  | cons a l ih =>
    rw [List.inits_cons, List.pairwise_cons, List.pairwise_map]
    exact ⟨by simp, ih.imp fun h => by simpa using h⟩

lemma exists_placed {joins : List Join} {paths : List (List String)}
    (h : joins.map (·.path) = paths.map fun p => .array (p.map .string)) :
    ∃ placed, joins.mapM Join.place = .ok placed ∧ placed.map (·.path) = paths := by
  induction joins generalizing paths with
  | nil =>
    have hpaths : paths = [] := List.map_eq_nil_iff.mp h.symm
    exact ⟨[], rfl, hpaths.symm⟩
  | cons j rest ih =>
    obtain ⟨path, others, rfl, hj, hothers⟩ := List.map_eq_cons_iff.mp h.symm
    have hj : j.path = .array (path.map .string) := hj.symm
    obtain ⟨p, hp⟩ := place_of_isNames ⟨path, hj⟩
    obtain ⟨placed, hplaced, hpaths⟩ := ih hothers.symm
    have hitems := Join.items_of_place hp
    rw [hj] at hitems
    have hmap : path.map Value.string = p.path.map .string := Except.ok.inj hitems
    have hpath := List.map_injective_iff.mpr (fun _ _ => Value.string.inj) hmap
    refine ⟨p :: placed, ?_, by rw [List.map_cons, hpaths, hpath]⟩
    rw [List.mapM_cons, hp, ok_bind, hplaced]
    rfl

section Beginnings

variable {segments : List String} (hsegments : ∀ segment ∈ segments, '/' ∉ segment.toList)
include hsegments

lemma isPlace_of_mem_inits {p : List String} (h : p ∈ segments.inits.tail) : IsPlace p := by
  obtain ⟨hne, hbegins⟩ := Catalog.mem_tail_inits.mp h
  exact ⟨hne, fun segment h => hsegments segment (hbegins.subset h)⟩

lemma mem_map_aliasOf_inits {name : String} (hname : '/' ∉ name.toList) :
    name ∈ segments.inits.tail.map aliasOf ↔ segments.head? = some name := by
  rw [List.mem_map]
  constructor
  · rintro ⟨p, hp, halias⟩
    obtain ⟨hne, more, hmore⟩ := Catalog.mem_tail_inits.mp hp
    have hshort : ¬1 < p.length := by
      rwa [← slash_mem_aliasOf (isPlace_of_mem_inits hsegments hp), halias]
    obtain ⟨first, rest, rfl⟩ := List.exists_cons_of_ne_nil hne
    have hrest : rest = [] := by
      rw [List.length_cons] at hshort
      exact List.length_eq_zero_iff.mp (by omega)
    subst hrest
    rw [← hmore]
    simpa [aliasOf] using halias
  · intro hhead
    obtain ⟨rest, rfl⟩ := List.head?_eq_some_iff.mp hhead
    refine ⟨[name], Catalog.mem_tail_inits.mpr ⟨List.cons_ne_nil _ _, ?_⟩, by simp [aliasOf]⟩
    exact List.cons_prefix_cons.mpr ⟨rfl, List.nil_prefix⟩

lemma nodup_map_aliasOf_inits : (segments.inits.tail.map aliasOf).Nodup := by
  apply List.Nodup.map_on _ (Catalog.nodup_inits segments).tail
  exact fun p hp q hq halias => aliasOf_injective (isPlace_of_mem_inits hsegments hp)
    (isPlace_of_mem_inits hsegments hq) halias

end Beginnings

/-- In a catalog without slashes the names in the `FROM` clause along a path of foreign keys differ
from each other exactly if the first foreign key is not called like the source itself. -/
theorem Read.names_nodup_iff (sources : List Catalog.Source)
    (hsources : ∀ s ∈ sources, s.IsSlashFree) (source : Catalog.Source) (hsource : source ∈ sources)
    (q : Read) (hname : source.name = .string q.source) (path : Value)
    (hjoins : (Catalog.Graph.build sources).1.joinsFor source.name path = .ok q.joins) :
    ∃ (segments : List String) (f : FromClause), path.items = .ok (segments.map .string) ∧
      f.names = q.source :: segments.inits.tail.map aliasOf ∧ q.SelectsFrom f ∧
      (f.names.Nodup ↔ segments.head? ≠ some q.source) := by
  obtain ⟨segments, hitems, hsegments, hpaths⟩ :=
    Catalog.Graph.segments_of_joinsFor hsources hjoins
  obtain ⟨placed, hplaced, hplacedPaths⟩ := exists_placed hpaths
  have hslash : '/' ∉ q.source.toList := by
    obtain ⟨s, hs, hslash⟩ := (hsources source hsource).name
    rw [hname] at hs
    cases hs
    exact hslash
  have hsorted : shallowestFirst placed = placed := by
    apply List.mergeSort_of_pairwise
    have hlengths := (pairwise_length_inits segments).tail
    rw [← hplacedPaths, List.pairwise_map] at hlengths
    simpa using hlengths
  have hnames : (q.fromClause placed).names = q.source :: segments.inits.tail.map aliasOf := by
    unfold FromClause.names Read.fromClause
    rw [hsorted, ← hplacedPaths, List.map_map, List.map_map]
    rfl
  have hne : ∀ p ∈ placed, p.path ≠ [] := by
    intro p hp
    have hmem : p.path ∈ segments.inits.tail := hplacedPaths ▸ List.mem_map_of_mem hp
    exact (Catalog.mem_tail_inits.mp hmem).1
  refine ⟨segments, q.fromClause placed, hitems, hnames, Read.selectsFrom hplaced hne, ?_⟩
  rw [hnames, List.nodup_cons, mem_map_aliasOf_inits hsegments hslash]
  exact and_iff_left (nodup_map_aliasOf_inits hsegments)

lemma taskSources_isSlashFree : ∀ s ∈ taskSources, s.IsSlashFree := by
  have hfree (s : String) (h : '/' ∉ s.toList) : Catalog.IsSlashFree (.string s) := ⟨s, rfl, h⟩
  intro s hs
  simp only [taskSources, List.mem_cons, List.not_mem_nil, or_false] at hs
  rcases hs with rfl | rfl | rfl <;> refine ⟨hfree _ (by decide), ?_⟩
  · simpa using ⟨hfree "users" (by decide), hfree "owner" (by decide)⟩
  · simpa using ⟨hfree "organizations" (by decide), hfree "organization" (by decide)⟩
  · simp

theorem Read.names_nodup_organizationOfOwner :
    let path : Value := .array [.string "owner", .string "organization"]
    let joins : List Join := [
      ⟨.string "users", .array [.string "owner"], .string "owner", .string "id"⟩,
      ⟨.string "organizations", path, .string "organization", .string "id"⟩]
    let q : Read := { source := "tasks", joins }
    (Catalog.Graph.build taskSources).1.joinsFor (.string "tasks") path = .ok joins ∧
      ∃ f : FromClause, f.names = ["tasks", "owner", "\"owner/organization\""] ∧
        q.SelectsFrom f ∧ f.names.Nodup := by
  intro path joins q
  have hjoins : (Catalog.Graph.build taskSources).1.joinsFor (.string "tasks") path =
      .ok joins := joinsFor_taskSources
  obtain ⟨segments, f, hitems, hnames, hselects, hnodup⟩ := Read.names_nodup_iff taskSources
    taskSources_isSlashFree _ List.mem_cons_self q rfl path hjoins
  have hsegments : segments = ["owner", "organization"] := by
    have hmap : ["owner", "organization"].map Value.string = segments.map .string :=
      Except.ok.inj hitems
    exact (List.map_injective_iff.mpr (fun _ _ => Value.string.inj) hmap).symm
  subst hsegments
  refine ⟨hjoins, f, hnames, hselects, hnodup.mpr ?_⟩
  decide

/-- Where the column of a foreign key is called like its table, the table and the one joined along
the key have one name. -/
theorem Read.names_selfReference :
    let parent : Catalog.Source := {
      name := .string "parent"
      belongsTo := [⟨.string "parent", .string "parent", .string "id"⟩] }
    let path : Value := .array [.string "parent"]
    let joins : List Join := [⟨.string "parent", path, .string "parent", .string "id"⟩]
    let q : Read := { source := "parent", joins }
    parent.IsSlashFree ∧
      (Catalog.Graph.build [parent]).1.joinsFor parent.name path = .ok joins ∧
      (Query.read q).statement.map (·.text) =
        .ok ("SELECT parent.*, row_to_json(parent.*) AS parent FROM parent"
          ++ " LEFT JOIN parent AS parent ON (parent.id = parent.parent)") ∧
      ∃ f : FromClause, q.SelectsFrom f ∧ f.names = ["parent", "parent"] ∧ ¬f.names.Nodup := by
  intro parent path joins q
  have hfree : Catalog.IsSlashFree (.string "parent") := ⟨"parent", rfl, by decide⟩
  have hplaced : q.joins.mapM Join.place = .ok [⟨"parent", ["parent"], "parent", "id"⟩] := rfl
  have hnames : (q.fromClause [⟨"parent", ["parent"], "parent", "id"⟩]).names =
      ["parent", "parent"] := by cbv
  refine ⟨⟨hfree, by simp [parent, hfree]⟩, by cbv, by cbv, _,
    Read.selectsFrom hplaced (by simp), hnames, ?_⟩
  rw [hnames]
  decide

end TableGateway.Query
