import Mathlib
import TableGateway.Catalog.Graph
import TableGateway.Proofs.Outcomes

/-!
# Paths of foreign keys

A path that resolves has a join for each of its beginnings. In a catalog whose names and properties
are texts without slashes, so are the segments of every such path.
-/

namespace TableGateway.Catalog

open Query

/-! ### The joins along a path -/

lemma nodup_inits {α : Type} (l : List α) : l.inits.Nodup := by
  induction l with
  | nil => simp
  | cons a l ih =>
    rw [List.inits_cons, List.nodup_cons]
    exact ⟨by simp, ih.map (List.cons_injective)⟩

lemma mem_tail_inits {α : Type} {p l : List α} : p ∈ l.inits.tail ↔ p ≠ [] ∧ p <+: l := by
  cases l with
  | nil => simp
  | cons a l =>
    rw [List.inits_cons, List.tail_cons, List.mem_map]
    constructor
    · rintro ⟨q, hq, rfl⟩
      exact ⟨List.cons_ne_nil a q, List.cons_prefix_cons.mpr ⟨rfl, (List.mem_inits q l).mp hq⟩⟩
    · rintro ⟨hne, hprefix⟩
      obtain ⟨b, q, rfl⟩ := List.exists_cons_of_ne_nil hne
      obtain ⟨rfl, hq⟩ := List.cons_prefix_cons.mp hprefix
      exact ⟨q, (List.mem_inits q l).mpr hq, rfl⟩

namespace Graph

variable {g : Graph} {joins : List Join}

lemma map_path_joinsFrom {node name : Value} {walked keys : List Value}
    (h : g.joinsFrom node name walked keys = .ok joins) :
    joins.map (·.path) = keys.inits.tail.map fun p => .array (walked ++ p) := by
  induction keys generalizing node name walked joins with
  | nil =>
    cases h
    rfl
  | cons key rest ih =>
    rw [joinsFrom] at h
    split at h
    · cases h
    · next e he =>
      obtain ⟨others, hothers, h⟩ := exists_of_bind_eq_ok h
      cases h
      -- the first beginning of the rest is the empty one, which has no join of its own
      obtain ⟨tail, htail⟩ : ∃ tail, rest.inits = [] :: tail := by cases rest <;> simp
      have hrest := ih hothers
      rw [htail, List.tail_cons] at hrest
      rw [List.map_cons, hrest, List.inits_cons, List.tail_cons, htail]
      simp

lemma mem_edges_of_edge? {node key : Value} {e : Edge} (h : g.edge? node key = some e) :
    e ∈ g.edges := by
  obtain ⟨target, -, hmem⟩ := List.mem_flatMap.mp (List.mem_of_find?_eq_some h)
  exact (List.mem_filter.mp hmem).1

lemma edge_of_joinsFrom {node name : Value} {walked keys : List Value}
    (h : g.joinsFrom node name walked keys = .ok joins) :
    ∀ key ∈ keys, ∃ e ∈ g.edges, e.key.compares key := by
  induction keys generalizing node name walked joins with
  | nil => simp
  | cons key rest ih =>
    rw [joinsFrom] at h
    split at h
    · cases h
    · next e he =>
      obtain ⟨others, hothers, -⟩ := exists_of_bind_eq_ok h
      have hcompares : e.key.compares key := by simpa using List.find?_some he
      rw [List.forall_mem_cons]
      exact ⟨⟨e, mem_edges_of_edge? he, hcompares⟩, ih hothers⟩

/-- A path that resolves is walked to its end. -/
lemma joinsFor_eq_ok {name path : Value} (h : g.joinsFor name path = .ok joins) :
    ∃ segments node, path.items = .ok segments ∧
      g.joinsFrom node name [] segments = .ok joins := by
  unfold joinsFor at h
  split at h
  · cases h
  · next node _ =>
    obtain ⟨segments, hsegments, h⟩ := exists_of_bind_eq_ok h
    obtain ⟨found, hfound, h⟩ := exists_of_bind_eq_ok h
    have hjoins : joins = found ∧ (found ≠ [] → path.inOrder.isOk) := by
      split at h
      · obtain ⟨_, hok, h⟩ := exists_of_bind_eq_ok h
        cases h
        rw [mapError_eq_ok.mp hok]
        exact ⟨rfl, fun _ => rfl⟩
      · next hempty =>
        cases h
        exact ⟨rfl, fun hne => absurd hne hempty⟩
    obtain ⟨rfl, horder⟩ := hjoins
    refine ⟨segments, node, mapError_eq_ok.mp hsegments, ?_⟩
    by_cases hpart : path.inOrder.isOk
    · rwa [if_pos hpart] at hfound
    · -- of such a path one segment is walked, and that is one too many
      have hempty : joins = [] := by
        by_contra hne
        exact hpart (horder hne)
      rw [if_neg hpart, hempty] at hfound
      rw [hempty]
      cases segments with
      | nil => exact hfound
      | cons key rest =>
        have hpaths := map_path_joinsFrom hfound
        simp at hpaths

lemma mem_joinsFor {name path : Value} (h : g.joinsFor name path = .ok joins) :
    ∃ segments, path.items = .ok segments ∧
      ∀ v, (∃ j ∈ joins, j.path = v) ↔ ∃ p, p ≠ [] ∧ p <+: segments ∧ v = .array p := by
  obtain ⟨segments, node, hsegments, hwalk⟩ := joinsFor_eq_ok h
  refine ⟨segments, hsegments, fun v => ?_⟩
  rw [← List.mem_map, map_path_joinsFrom hwalk, List.mem_map]
  simp only [mem_tail_inits, List.nil_append, and_assoc, eq_comm]

end Graph

/-! ### Names without slashes -/

/-- A text without a slash. -/
def IsSlashFree (v : Value) : Prop :=
  ∃ s : String, v = .string s ∧ '/' ∉ s.toList

/-- The names in a source and the properties that its foreign keys start from are without
slashes. -/
structure Source.IsSlashFree (s : Source) : Prop where
  name : Catalog.IsSlashFree s.name
  belongsTo : ∀ r ∈ s.belongsTo,
    Catalog.IsSlashFree r.relationName ∧ Catalog.IsSlashFree r.localProperty

/-- A text is equal to nothing else. -/
lemma eq_of_equals {s : String} {v : Value} (h : (Value.string s).equals v) : v = .string s := by
  have hplain : (Value.string s).plain = v.plain := of_decide_eq_true h
  cases v with
  | string t => exact hplain.symm
  | double x =>
    unfold Value.plain at hplain
    split at hplain <;> cases hplain
  | _ =>
    unfold Value.plain at hplain
    cases hplain

lemma eq_of_compares {s : String} {v : Value} (h : (Value.string s).compares v) :
    v = .string s := by
  simp only [Value.compares, Bool.and_eq_true] at h
  exact eq_of_equals h.1

/-- An edge that is inserted takes over at most the key of the same edge. -/
lemma of_mem_insertEdge {e other : Edge} {edges : List Edge} (h : e ∈ insertEdge other edges) :
    e ∈ edges ∨ e = other ∨
      ∃ d ∈ edges, d.isSame other ∧ e = { other with key := d.key } := by
  induction edges with
  | nil => exact .inr (.inl (List.mem_singleton.mp h))
  | cons d rest ih =>
    rw [insertEdge] at h
    split at h
    · next hsame =>
      rcases List.mem_cons.mp h with rfl | h
      · exact .inr (.inr ⟨d, List.mem_cons_self, hsame, rfl⟩)
      · exact .inl (List.mem_cons_of_mem d h)
    · rcases List.mem_cons.mp h with rfl | h
      · exact .inl List.mem_cons_self
      · rcases ih h with hmem | hother | ⟨c, hc, hkey⟩
        · exact .inl (List.mem_cons_of_mem d hmem)
        · exact .inr (.inl hother)
        · exact .inr (.inr ⟨c, List.mem_cons_of_mem d hc, hkey⟩)

namespace Graph

lemma edges_insertNode (g : Graph) (v : Value) : (g.insertNode v).edges = g.edges := by
  unfold insertNode
  split <;> rfl

lemma key_insertRelationship {g : Graph} {source : Value} {r : Relationship}
    (hproperty : Catalog.IsSlashFree r.localProperty)
    (h : ∀ e ∈ g.edges, Catalog.IsSlashFree e.key) :
    ∀ e ∈ (g.insertRelationship source r).edges, Catalog.IsSlashFree e.key := by
  have hnull : r.localProperty ≠ .null := by
    obtain ⟨s, hs, -⟩ := hproperty
    rw [hs]
    exact Value.noConfusion
  intro e he
  unfold insertRelationship at he
  dsimp only at he
  rw [edges_insertNode] at he
  rcases of_mem_insertEdge he with hmem | rfl | ⟨d, hd, -, rfl⟩
  · exact h e hmem
  · dsimp only
    rwa [if_neg hnull]
  · exact h d hd

/-- What holds of the edges with every relationship that is inserted holds of all edges. -/
lemma forall_edges_ofParts {p : Edge → Prop} {names : List Value}
    {relationships : List (Value × Relationship)}
    (h : ∀ r ∈ relationships, ∀ g : Graph, (∀ e ∈ g.edges, p e) →
      ∀ e ∈ (g.insertRelationship r.1 r.2).edges, p e) :
    ∀ e ∈ (ofParts names relationships).edges, p e := by
  unfold ofParts
  apply List.foldlRecOn (motive := fun g : Graph => ∀ e ∈ g.edges, p e)
  · apply List.foldlRecOn (motive := fun g : Graph => ∀ e ∈ g.edges, p e)
    · simp
    · intro g hg v _
      rwa [edges_insertNode]
  · exact fun g hg r hr => h r hr g hg

lemma key_ofParts {names : List Value} {relationships : List (Value × Relationship)}
    (h : ∀ r ∈ relationships, Catalog.IsSlashFree r.2.localProperty) :
    ∀ e ∈ (ofParts names relationships).edges, Catalog.IsSlashFree e.key :=
  forall_edges_ofParts fun r hr _ hg => key_insertRelationship (h r hr) hg

/-- Every edge of a graph comes from a relationship, also if the graph could not be completed. -/
lemma key_build {sources : List Source} (h : ∀ s ∈ sources, s.IsSlashFree) :
    ∀ e ∈ (Graph.build sources).1.edges, Catalog.IsSlashFree e.key := by
  have hrelationships : ∀ r ∈ relationships sources, Catalog.IsSlashFree r.2.localProperty := by
    intro r hr
    obtain ⟨s, hs, hr⟩ := List.mem_flatMap.mp hr
    obtain ⟨relationship, hrelationship, rfl⟩ := List.mem_map.mp hr
    exact ((h s hs).belongsTo relationship hrelationship).2
  have hbegun (isEdge : Value × Relationship → Bool) : ∀ e ∈
      (ofParts (sources.map (·.name)) ((relationships sources).takeWhile isEdge)).edges,
        Catalog.IsSlashFree e.key :=
    key_ofParts fun r hr => hrelationships r (List.takeWhile_subset _ hr)
  unfold build
  dsimp only
  split
  · exact key_ofParts (by simp)
  · split
    · exact hbegun _
    · split
      · rw [edges_insertNode]
        exact hbegun _
      · exact hbegun _

/-- A path that resolves in such a catalog consists of texts without slashes. -/
lemma segments_of_joinsFor {sources : List Source} {name path : Value} {joins : List Join}
    (hsources : ∀ s ∈ sources, s.IsSlashFree)
    (h : (Graph.build sources).1.joinsFor name path = .ok joins) :
    ∃ segments : List String, path.items = .ok (segments.map .string) ∧
      (∀ segment ∈ segments, '/' ∉ segment.toList) ∧
      joins.map (·.path) = segments.inits.tail.map fun p => .array (p.map .string) := by
  obtain ⟨keys, node, hkeys, hwalk⟩ := joinsFor_eq_ok h
  have hfree : ∀ key ∈ keys, Catalog.IsSlashFree key := by
    intro key hkey
    obtain ⟨e, he, hcompares⟩ := edge_of_joinsFrom hwalk key hkey
    obtain ⟨s, hs, hslash⟩ := key_build hsources e he
    rw [hs] at hcompares
    exact ⟨s, eq_of_compares hcompares, hslash⟩
  obtain ⟨segments, rfl, hsegments⟩ : ∃ segments : List String, keys = segments.map .string ∧
      ∀ segment ∈ segments, '/' ∉ segment.toList := by
    clear hkeys hwalk h
    induction keys with
    | nil => exact ⟨[], rfl, by simp⟩
    | cons key rest ih =>
      obtain ⟨⟨s, rfl, hs⟩, hrest⟩ := List.forall_mem_cons.mp hfree
      obtain ⟨others, rfl, hothers⟩ := ih hrest
      exact ⟨s :: others, rfl, List.forall_mem_cons.mpr ⟨hs, hothers⟩⟩
  refine ⟨segments, hkeys, hsegments, ?_⟩
  rw [map_path_joinsFrom hwalk, List.map_inits, ← List.map_tail, List.map_map]
  rfl

end Graph

end TableGateway.Catalog
