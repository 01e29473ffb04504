import Mathlib
import TableGateway.Proofs.Inspections
import TableGateway.Proofs.RelationPaths

/-!
# The nodes of the graph

The nodes are the names of the sources and the names that foreign keys refer to, whether there is
such a source or not. Each is ordered once, and every join leads to one of them.
-/

namespace TableGateway.Catalog

/-- A source has this name. -/
def IsNamed (sources : List Source) (v : Value) : Prop :=
  ∃ s ∈ sources, s.name.equals v

/-- A foreign key refers to this name. -/
def IsReferred (sources : List Source) (v : Value) : Prop :=
  ∃ s ∈ sources, ∃ r ∈ s.belongsTo, r.relationName.equals v

lemma equals_trans {u v w : Value} (huv : u.equals v) (hvw : v.equals w) : u.equals w := by
  simp only [Value.equals, decide_eq_true_eq] at *
  exact huv.trans hvw

lemma IsNamed.congr {sources : List Source} {v w : Value} (h : IsNamed sources v)
    (hvw : v.equals w) : IsNamed sources w := by
  obtain ⟨s, hs, hname⟩ := h
  exact ⟨s, hs, equals_trans hname hvw⟩

namespace Graph

/-! ### What is added to a graph -/

/-- A value is one of the nodes, in whatever spelling. -/
def HasNode (g : Graph) (v : Value) : Prop :=
  ∃ n ∈ g.nodes, n.equals v

lemma hasNode_insertNode {g : Graph} {w v : Value} :
    (g.insertNode w).HasNode v ↔ g.HasNode v ∨ w.equals v := by
  unfold insertNode
  split
  · next hthere =>
    obtain ⟨n, hn, hnw⟩ := List.any_eq_true.mp hthere
    constructor
    · exact .inl
    · rintro (h | hwv)
      · exact h
      · exact ⟨n, hn, equals_trans hnw hwv⟩
  · simp [HasNode, or_and_right, exists_or]

lemma nodup_insertNode {g : Graph} (h : (g.nodes.map Value.plain).Nodup) (w : Value) :
    ((g.insertNode w).nodes.map Value.plain).Nodup := by
  unfold insertNode
  split
  · exact h
  · next hnew =>
    have hw : w.plain ∉ g.nodes.map Value.plain := by
      intro hmem
      obtain ⟨n, hn, hplain⟩ := List.mem_map.mp hmem
      exact hnew (List.any_eq_true.mpr ⟨n, hn, decide_eq_true hplain⟩)
    rw [List.map_append]
    exact h.append (List.nodup_singleton w.plain) (by simpa using hw)

lemma hasNode_ofParts {names : List Value} {relationships : List (Value × Relationship)}
    {v : Value} : (ofParts names relationships).HasNode v ↔
      (∃ name ∈ names, name.equals v) ∨ ∃ r ∈ relationships, r.2.relationName.equals v := by
  have hnames (g : Graph) : (names.foldl insertNode g).HasNode v ↔
      g.HasNode v ∨ ∃ name ∈ names, name.equals v := by
    induction names generalizing g with
    | nil => simp
    | cons name rest ih =>
      rw [List.foldl_cons, ih, hasNode_insertNode, or_assoc, List.exists_mem_cons_iff]
  have hrelationships (g : Graph) :
      (relationships.foldl (fun g r => g.insertRelationship r.1 r.2) g).HasNode v ↔
        g.HasNode v ∨ ∃ r ∈ relationships, r.2.relationName.equals v := by
    induction relationships generalizing g with
    | nil => simp
    | cons r rest ih =>
      have hadded : (g.insertRelationship r.1 r.2).HasNode v ↔
          g.HasNode v ∨ r.2.relationName.equals v := hasNode_insertNode
      rw [List.foldl_cons, ih, hadded, or_assoc, List.exists_mem_cons_iff]
  have hempty : ¬({} : Graph).HasNode v := by
    rintro ⟨n, hn, -⟩
    cases hn
  rw [ofParts, hrelationships, hnames, or_iff_right hempty]

/-- No two nodes are equal. -/
lemma nodup_ofParts (names : List Value) (relationships : List (Value × Relationship)) :
    ((ofParts names relationships).nodes.map Value.plain).Nodup := by
  let IsDistinct (g : Graph) : Prop := (g.nodes.map Value.plain).Nodup
  unfold ofParts
  apply List.foldlRecOn (motive := IsDistinct)
  · apply List.foldlRecOn (motive := IsDistinct)
    · exact List.nodup_nil
    · exact fun g hg v _ => nodup_insertNode hg v
  · exact fun g hg r _ => nodup_insertNode hg r.2.relationName

/-- Every edge leads to the name in some relationship. -/
lemma targetName_ofParts (names : List Value) (relationships : List (Value × Relationship)) :
    ∀ e ∈ (ofParts names relationships).edges,
      ∃ r ∈ relationships, e.targetName = r.2.relationName := by
  refine forall_edges_ofParts fun r hr g hg e he => ?_
  let named := g.insertNode r.2.relationName
  have hold : ∀ d ∈ named.edges, ∃ r ∈ relationships, d.targetName = r.2.relationName := by
    rwa [edges_insertNode]
  -- The target keeps the spelling of the first edge that leads there from this source.
  have hspelled (source target : Value) : ∃ other ∈ relationships,
      (named.targetName source target).getD r.2.relationName = other.2.relationName := by
    cases hfirst : named.targetName source target with
    | none => exact ⟨r, hr, rfl⟩
    | some name =>
      obtain ⟨d, hd, rfl⟩ := Option.map_eq_some_iff.mp hfirst
      exact hold d (List.mem_filter.mp (List.mem_of_mem_head? hd)).1
  rcases of_mem_insertEdge he with hmem | rfl | ⟨d, -, -, rfl⟩
  · exact hold e hmem
  · exact hspelled _ _
  · exact hspelled _ _

lemma exists_mem_relationships {sources : List Source} (p : Relationship → Prop) :
    (∃ r ∈ relationships sources, p r.2) ↔ ∃ s ∈ sources, ∃ r ∈ s.belongsTo, p r := by
  constructor
  · rintro ⟨r, hr, hp⟩
    obtain ⟨s, hs, hr⟩ := List.mem_flatMap.mp hr
    obtain ⟨relationship, hrelationship, rfl⟩ := List.mem_map.mp hr
    exact ⟨s, hs, relationship, hrelationship, hp⟩
  · rintro ⟨s, hs, r, hr, hp⟩
    exact ⟨(s.name, r), List.mem_flatMap.mpr ⟨s, hs, List.mem_map.mpr ⟨r, hr, rfl⟩⟩, hp⟩

/-- A graph that is built has all nodes and all edges. -/
lemma ofParts_of_build {sources : List Source} {g : Graph} (h : build sources = (g, none)) :
    g = ofParts (sources.map (·.name)) (relationships sources) := by
  unfold build at h
  dsimp only at h
  split at h
  · cases h
  · split at h
    · next hnone =>
      have hall := List.takeWhile_append_dropWhile
        (p := fun r : Value × Relationship => (edgeFault? r.2).isNone) (l := relationships sources)
      rw [List.head?_eq_none_iff.mp hnone, List.append_nil] at hall
      rw [hall] at h
      exact (congrArg Prod.fst h).symm
    · next r hsome =>
      have hfault := List.head?_dropWhile_not
        (fun r : Value × Relationship => (edgeFault? r.2).isNone) (relationships sources)
      rw [hsome] at hfault
      change (edgeFault? _).isNone = false at hfault
      rw [(Prod.mk.inj h).2] at hfault
      cases hfault

/-- The nodes are the names of the sources and those that foreign keys refer to. -/
lemma hasNode_of_build {sources : List Source} {g : Graph} (h : build sources = (g, none))
    {v : Value} : g.HasNode v ↔ IsNamed sources v ∨ IsReferred sources v := by
  rw [ofParts_of_build h, hasNode_ofParts]
  refine or_congr (by simp [IsNamed]) ?_
  rw [exists_mem_relationships fun r => r.relationName.equals v]
  rfl

/-! ### The order of the nodes -/

/-- What a sweep has placed and what waits are different nodes, and all that one of them refers to is
placed. -/
structure Sweeping (g : Graph) (placed queue : List Value) : Prop where
  nodup : (placed ++ queue).Nodup
  nodes : ∀ n ∈ placed ++ queue, n ∈ g.nodes
  ready : ∀ n ∈ placed ++ queue, ∀ m ∈ g.others n, m ∈ placed

lemma mem_freed {g : Graph} {placed : List Value} {node n : Value} :
    n ∈ g.freed placed node ↔
      n ∈ g.nodes ∧ node ∈ g.others n ∧ ∀ m ∈ g.others n, m ∈ placed := by
  simp [freed]

lemma Sweeping.step {g : Graph} {placed queue : List Value} {node : Value}
    (h : g.Sweeping placed (node :: queue)) (hg : g.nodes.Nodup) :
    g.Sweeping (placed ++ [node]) (queue ++ g.freed (placed ++ [node]) node) := by
  have hsplit : placed ++ [node] ++ (queue ++ g.freed (placed ++ [node]) node) =
      placed ++ node :: queue ++ g.freed (placed ++ [node]) node := by
    simp
  have hnew : node ∉ placed := by
    intro hmem
    exact List.disjoint_of_nodup_append h.nodup hmem List.mem_cons_self
  -- What becomes free refers to the node, so it did not wait before the node was placed.
  have hfresh : List.Disjoint (placed ++ node :: queue) (g.freed (placed ++ [node]) node) := by
    intro n hn hfreed
    exact hnew (h.ready n hn node (mem_freed.mp hfreed).2.1)
  refine ⟨?_, ?_, ?_⟩
  · rw [hsplit]
    exact h.nodup.append (hg.filter _) hfresh
  · rw [hsplit, List.forall_mem_append]
    exact ⟨h.nodes, fun n hn => (mem_freed.mp hn).1⟩
  · rw [hsplit, List.forall_mem_append]
    refine ⟨fun n hn m hm => ?_, fun n hn => (mem_freed.mp hn).2.2⟩
    exact List.mem_append_left [node] (h.ready n hn m hm)

lemma Sweeping.sweep {g : Graph} {placed queue : List Value} (h : g.Sweeping placed queue)
    (hg : g.nodes.Nodup) (count : Nat) :
    (g.sweep count placed queue).Nodup ∧ g.sweep count placed queue ⊆ g.nodes := by
  have hplaced : placed.Nodup ∧ placed ⊆ g.nodes :=
    ⟨h.nodup.of_append_left, fun n hn => h.nodes n (List.mem_append_left queue hn)⟩
  induction count generalizing placed queue with
  | zero => exact hplaced
  | succ count ih =>
    cases queue with
    | nil => exact hplaced
    | cons node queue =>
      have hnext := h.step hg
      exact ih hnext ⟨hnext.nodup.of_append_left,
        fun n hn => hnext.nodes n (List.mem_append_left _ hn)⟩

lemma sweeping_start {g : Graph} (hg : g.nodes.Nodup) :
    g.Sweeping [] (g.nodes.filter fun n => (g.others n).isEmpty) := by
  refine ⟨hg.filter _, fun n hn => (List.mem_filter.mp hn).1, fun n hn m hm => ?_⟩
  have hempty : g.others n = [] := List.isEmpty_iff.mp (List.mem_filter.mp hn).2
  rw [hempty] at hm
  cases hm

/-- The order lists every node once. -/
lemma dependencyOrder_perm {g : Graph} (hg : g.nodes.Nodup) : g.dependencyOrder.Perm g.nodes := by
  unfold dependencyOrder
  dsimp only
  split
  · next hlength =>
    obtain ⟨hnodup, hsubset⟩ := (sweeping_start hg).sweep hg g.nodes.length
    exact (List.subperm_of_subset hnodup hsubset).perm_of_length_le hlength.ge
  · exact List.mergeSort_perm _ _

/-! ### The targets of joins -/

lemma source_of_joinsFrom {g : Graph} {node name : Value} {walked keys : List Value}
    {joins : List Query.Join} (h : g.joinsFrom node name walked keys = .ok joins) :
    ∀ j ∈ joins, ∃ e ∈ g.edges, j.source = e.targetName := by
  induction keys generalizing node name walked joins with
  | nil =>
    cases h
    simp
  | cons key rest ih =>
    rw [joinsFrom] at h
    split at h
    · cases h
    · next e he =>
      obtain ⟨others, hothers, h⟩ := exists_of_bind_eq_ok h
      cases h
      rw [List.forall_mem_cons]
      exact ⟨⟨e, mem_edges_of_edge? he, rfl⟩, ih hothers⟩

lemma isReferred_of_joinsFor {sources : List Source} {g : Graph} (h : build sources = (g, none))
    {name path : Value} {joins : List Query.Join} (hjoins : g.joinsFor name path = .ok joins) :
    ∀ j ∈ joins, IsReferred sources j.source := by
  intro j hj
  obtain ⟨segments, node, -, hwalk⟩ := joinsFor_eq_ok hjoins
  obtain ⟨e, he, hsource⟩ := source_of_joinsFrom hwalk j hj
  rw [ofParts_of_build h] at he
  obtain ⟨r, hr, htarget⟩ := targetName_ofParts _ _ e he
  rw [hsource, htarget]
  exact (exists_mem_relationships fun other => other.relationName.equals r.2.relationName).mp
    ⟨r, hr, Value.equals_self _⟩

/-! ### Graphs that stay within the catalog -/

/-- All that the graph orders and all that it joins is one of the sources. -/
structure StaysWithin (g : Graph) (sources : List Source) : Prop where
  order : ∀ n ∈ g.dependencyOrder, IsNamed sources n
  joins : ∀ name path joins, g.joinsFor name path = .ok joins →
    ∀ j ∈ joins, IsNamed sources j.source

/-- The graph stays within the catalog exactly if every foreign key refers to one of the sources.
In any case it orders each source and each name that is referred to, once. -/
theorem staysWithin_iff {sources : List Source} {g : Graph} (h : build sources = (g, none)) :
    ((g.dependencyOrder.map Value.plain).Nodup ∧
      ∀ v, (∃ n ∈ g.dependencyOrder, n.equals v) ↔ IsNamed sources v ∨ IsReferred sources v) ∧
    (g.StaysWithin sources ↔ ∀ s ∈ sources, ∀ r ∈ s.belongsTo, IsNamed sources r.relationName) := by
  have hnodes : (g.nodes.map Value.plain).Nodup := by
    rw [ofParts_of_build h]
    exact nodup_ofParts _ _
  have horder := dependencyOrder_perm hnodes.of_map
  have hordered (v : Value) : (∃ n ∈ g.dependencyOrder, n.equals v) ↔
      IsNamed sources v ∨ IsReferred sources v := by
    rw [← hasNode_of_build h]
    simp only [HasNode, horder.mem_iff]
  refine ⟨⟨(horder.map _).nodup_iff.mpr hnodes, hordered⟩, fun hwithin s hs r hr => ?_,
    fun hclosed => ?_⟩
  · have hreferred : IsReferred sources r.relationName := ⟨s, hs, r, hr, Value.equals_self _⟩
    obtain ⟨n, hn, hname⟩ := (hordered r.relationName).mpr (.inr hreferred)
    exact (hwithin.order n hn).congr hname
  · have hnamed {v : Value} (hv : IsReferred sources v) : IsNamed sources v := by
      obtain ⟨s, hs, r, hr, hname⟩ := hv
      exact (hclosed s hs r hr).congr hname
    refine ⟨fun n hn => ?_, fun name path joins hjoins j hj => ?_⟩
    · exact ((hordered n).mp ⟨n, hn, n.equals_self⟩).elim id hnamed
    · exact hnamed (isReferred_of_joinsFor h hjoins j hj)

theorem staysWithin_users :
    let sources : List Source := [
      { name := .string "tasks", belongsTo := [⟨.string "users", .string "owner", .string "id"⟩] },
      { name := .string "users", belongsTo := [⟨.string "users", .string "chief", .string "id"⟩] }]
    ∃ g, build sources = (g, none) ∧ g.StaysWithin sources ∧
      g.dependencyOrder = [.string "users", .string "tasks"] := by
  intro sources
  have hclosed : ∀ s ∈ sources, ∀ r ∈ s.belongsTo, IsNamed sources r.relationName := by
    have husers : IsNamed sources (.string "users") := ⟨sources[1], by simp [sources], rfl⟩
    simp [sources, husers]
  exact ⟨(build sources).1, by cbv, (staysWithin_iff (by cbv)).2.mpr hclosed, by cbv⟩

/-- Orders whose foreign key refers to customers. -/
def referringShop : Discovery.Recording where
  tables := .array [.object [("table_schema", .string "public"), ("table_name", .string "orders"),
    ("primary_keys", .array [.string "id"])]]
  details := .array [
    .object [("schema", .string "public"), ("name", .string "orders"),
      ("belongs_to", .array [.object [("schema", .string "public"), ("name", .string "customers"),
        ("from", .string "customer"), ("to", .string "id")]])]]

/-- Customers are not among the tables that the rule covers, but they are ordered and joined. -/
theorem leaves_catalog_of_excluded :
    let orders : Discovery.Rule :=
      { Discovery.everything with tables := some (.only [.string "orders"]) }
    let customers : Value := .string "customers"
    ∃ sources g,
      (Discovery.inspect referringShop.database [orders]).start.outcome = .ok sources ∧
      sources.map (·.name) = [.string "orders"] ∧
      build sources = (g, none) ∧
      g.dependencyOrder = [customers, .string "orders"] ∧
      g.joinsFor (.string "orders") (.array [.string "customer"]) =
        .ok [⟨customers, .array [.string "customer"], .string "customer", .string "id"⟩] ∧
      ¬g.StaysWithin sources := by
  intro orders customers
  let offered (schema : Value) : Source := {
    name := .string "orders", identifyingProperties := [.string "id"]
    belongsTo := [⟨customers, .string "customer", .string "id"⟩]
    schema, actions := orders.actions }
  obtain ⟨schema, hinspected⟩ : ∃ schema,
      (Discovery.inspect referringShop.database [orders]).start.outcome = .ok [offered schema] :=
    ⟨_, rfl⟩
  have horder : (build [offered schema]).1.dependencyOrder = [customers, .string "orders"] := by
    cbv
  refine ⟨_, _, hinspected, rfl, rfl, horder, by cbv, fun hwithin => ?_⟩
  obtain ⟨s, hs, hname⟩ := hwithin.order customers (horder ▸ List.mem_cons_self)
  cases List.mem_singleton.mp hs
  cases hname

end Graph

end TableGateway.Catalog
