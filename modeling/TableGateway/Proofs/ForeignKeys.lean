import Mathlib
import TableGateway.Proofs.CatalogRuns
import TableGateway.Proofs.GraphNodes

/-!
# Foreign keys as edges

In a catalog whose names and properties are texts, nothing has two spellings. The nodes of the graph
are the names of the sources and then those that foreign keys refer to, each once, and the edges are
the foreign keys themselves. Of foreign keys that agree in all but the property that they refer to,
one is kept.
-/

namespace TableGateway.Catalog

/-- A source of this name has the foreign key. -/
def IsForeignKey (sources : List Source) (name : Value) (r : Relationship) : Prop :=
  ∃ s ∈ sources, s.name = name ∧ r ∈ s.belongsTo

lemma mem_relationships {sources : List Source} {name : Value} {r : Relationship} :
    (name, r) ∈ Graph.relationships sources ↔ IsForeignKey sources name r := by
  simp only [Graph.relationships, IsForeignKey, List.mem_flatMap, List.mem_map, Prod.mk.injEq]
  constructor
  · rintro ⟨s, hs, other, hother, rfl, rfl⟩
    exact ⟨s, hs, rfl, hother⟩
  · rintro ⟨s, hs, rfl, hr⟩
    exact ⟨s, hs, r, hr, rfl, rfl⟩

/-- The name of a source, the name that it refers to and the property that starts it are texts. -/
structure AreTexts (name : Value) (r : Relationship) : Prop where
  name : name.isText
  relationName : r.relationName.isText
  localProperty : r.localProperty.isText

lemma IsForeignKey.areTexts {sources : List Source} (htexts : ∀ s ∈ sources, s.HasTexts)
    {name : Value} {r : Relationship} (h : IsForeignKey sources name r) : AreTexts name r := by
  obtain ⟨s, hs, rfl, hr⟩ := h
  obtain ⟨hname, hproperty⟩ := (htexts s hs).belongsTo r hr
  exact ⟨(htexts s hs).name, hname, hproperty⟩

/-! ### Texts -/

section Texts

variable {v w : Value}

lemma equals_iff_of_isText (h : v.isText) : v.equals w ↔ v = w := by
  cases v with
  | string s => exact ⟨fun h => (eq_of_equals h).symm, fun h => h ▸ Value.equals_self _⟩
  | _ => cases h

lemma equals_iff_of_isText_right (h : w.isText) : v.equals w ↔ v = w := by
  have hcomm : v.equals w = w.equals v := by simp only [Value.equals, eq_comm]
  rw [hcomm, equals_iff_of_isText h, eq_comm]

lemma compares_iff_of_isText (h : v.isText) : v.compares w ↔ v = w := by
  have hnumber : v.isNotANumber = false := by
    cases v <;> first | rfl | cases h
  rw [Value.compares, hnumber, Bool.not_false, Bool.and_true, equals_iff_of_isText h]

lemma spelling_of_isText (h : v.isText) (keys : List Value) : spelling keys v = v := by
  unfold spelling
  cases hfound : keys.find? (·.equals v) with
  | none => rfl
  | some key =>
    have hkey : key.equals v := by simpa using List.find?_some hfound
    exact (equals_iff_of_isText_right h).mp hkey

end Texts

/-! ### Edges -/

/-- The edge of a foreign key. -/
def Edge.ofForeignKey (name : Value) (r : Relationship) : Edge where
  source := name
  target := r.relationName
  key := r.localProperty
  localProperty := r.localProperty
  foreignProperty := r.foreignProperty

/-- The nodes that an edge joins and its key are those of another. -/
def Edge.Joins (e : Edge) (source target key : Value) : Prop :=
  e.source = source ∧ e.target = target ∧ e.key = key

/-- Whatever is joined before stays so. -/
lemma exists_joins_insertEdge {e d : Edge} {edges : List Edge} (hd : d ∈ edges) :
    ∃ c ∈ insertEdge e edges, c.Joins d.source d.target d.key := by
  induction edges with
  | nil => cases hd
  | cons first rest ih =>
    rw [insertEdge]
    rcases List.mem_cons.mp hd with rfl | hd
    · split
      · next hsame =>
        simp only [Edge.isSame, Bool.and_eq_true, decide_eq_true_eq] at hsame
        exact ⟨_, List.mem_cons_self, hsame.1.1.symm, hsame.1.2.symm, rfl⟩
      · exact ⟨d, List.mem_cons_self, rfl, rfl, rfl⟩
    · split
      · exact ⟨d, List.mem_cons_of_mem _ hd, rfl, rfl, rfl⟩
      · obtain ⟨c, hc, hjoins⟩ := ih hd
        exact ⟨c, List.mem_cons_of_mem _ hc, hjoins⟩

lemma exists_joins_insertEdge_self {e : Edge} (hkey : e.key.isText) (edges : List Edge) :
    ∃ c ∈ insertEdge e edges, c.Joins e.source e.target e.key := by
  induction edges with
  | nil => exact ⟨e, List.mem_cons_self, rfl, rfl, rfl⟩
  | cons first rest ih =>
    rw [insertEdge]
    split
    · next hsame =>
      simp only [Edge.isSame, Bool.and_eq_true, decide_eq_true_eq] at hsame
      have hsameKey : first.key = e.key := (equals_iff_of_isText_right hkey).mp hsame.2
      exact ⟨_, List.mem_cons_self, rfl, rfl, hsameKey⟩
    · obtain ⟨c, hc, hjoins⟩ := ih
      exact ⟨c, List.mem_cons_of_mem _ hc, hjoins⟩

namespace Graph

/-- The edges of a graph are those of foreign keys, and whatever a foreign key joins is joined. -/
structure HasEdges (g : Graph) (keys : List (Value × Relationship)) : Prop where
  sound : ∀ e ∈ g.edges, ∃ r ∈ keys, e = .ofForeignKey r.1 r.2
  complete : ∀ r ∈ keys, ∃ e ∈ g.edges, e.Joins r.1 r.2.relationName r.2.localProperty

lemma HasEdges.targetName {g : Graph} {keys : List (Value × Relationship)} (h : g.HasEdges keys) :
    ∀ e ∈ g.edges, e.targetName = e.target := by
  intro e he
  obtain ⟨r, -, rfl⟩ := h.sound e he
  rfl

lemma targetName_getD {g : Graph} (htargets : ∀ e ∈ g.edges, e.targetName = e.target)
    (source target : Value) : (g.targetName source target).getD target = target := by
  cases hfirst : (g.edgesBetween source target).head? with
  | none => simp [targetName, hfirst]
  | some e =>
    have hbetween := List.mem_filter.mp (List.mem_of_mem_head? hfirst)
    have htarget : e.target = target := by simp_all
    simp [targetName, hfirst, htargets e hbetween.1, htarget]

lemma edges_insertRelationship {g : Graph} (htargets : ∀ e ∈ g.edges, e.targetName = e.target)
    {name : Value} {r : Relationship} (htexts : AreTexts name r) :
    (g.insertRelationship name r).edges = insertEdge (.ofForeignKey name r) g.edges := by
  let named := g.insertNode r.relationName
  have hspelled : (named.targetName name r.relationName).getD r.relationName = r.relationName := by
    apply targetName_getD
    rwa [edges_insertNode]
  have hproperty : r.localProperty ≠ .null := by
    intro hnull
    have htext := htexts.localProperty
    rw [hnull] at htext
    cases htext
  unfold insertRelationship
  dsimp only
  rw [spelling_of_isText htexts.name, spelling_of_isText htexts.relationName, hspelled,
    if_neg hproperty, edges_insertNode]
  rfl

lemma HasEdges.insertRelationship {g : Graph} {keys : List (Value × Relationship)}
    (h : g.HasEdges keys) {name : Value} {r : Relationship} (htexts : AreTexts name r) :
    (g.insertRelationship name r).HasEdges (keys ++ [(name, r)]) := by
  have hedges := edges_insertRelationship h.targetName htexts
  constructor
  · rw [hedges]
    intro e he
    rcases of_mem_insertEdge he with hmem | rfl | ⟨d, -, hsame, rfl⟩
    · obtain ⟨other, hother, rfl⟩ := h.sound e hmem
      exact ⟨other, List.mem_append_left _ hother, rfl⟩
    · exact ⟨(name, r), by simp, rfl⟩
    · simp only [Edge.isSame, Bool.and_eq_true] at hsame
      have hkey : d.key = r.localProperty :=
        (equals_iff_of_isText_right htexts.localProperty).mp hsame.2
      exact ⟨(name, r), by simp, by rw [hkey]; rfl⟩
  · rw [hedges, List.forall_mem_append, List.forall_mem_singleton]
    refine ⟨fun other hother => ?_, exists_joins_insertEdge_self htexts.localProperty g.edges⟩
    obtain ⟨e, he, hsource, htarget, hkey⟩ := h.complete other hother
    rw [← hsource, ← htarget, ← hkey]
    exact exists_joins_insertEdge he

lemma hasEdges_ofParts (names : List Value) {keys : List (Value × Relationship)}
    (htexts : ∀ r ∈ keys, AreTexts r.1 r.2) : (ofParts names keys).HasEdges keys := by
  have hinserted (g : Graph) (done : List (Value × Relationship)) (h : g.HasEdges done) :
      (keys.foldl (fun g r => g.insertRelationship r.1 r.2) g).HasEdges (done ++ keys) := by
    induction keys generalizing g done with
    | nil => simpa using h
    | cons r rest ih =>
      obtain ⟨hr, hrest⟩ := List.forall_mem_cons.mp htexts
      have hnext := ih hrest _ _ (h.insertRelationship hr)
      rwa [List.append_assoc] at hnext
  have hnames : (names.foldl insertNode {}).edges = [] := by
    apply List.foldlRecOn (motive := fun g : Graph => g.edges = [])
    · rfl
    · intro g hg v _
      rwa [edges_insertNode]
  have hstart : (names.foldl insertNode {}).HasEdges [] := ⟨by simp [hnames], by simp⟩
  exact hinserted _ [] hstart

/-! ### Nodes -/

lemma nodes_insertNode {g : Graph} {seen : List Value} (h : g.nodes = seen.eraseDups) {v : Value}
    (hv : v.isText) : (g.insertNode v).nodes = (seen ++ [v]).eraseDups := by
  have hthere : g.nodes.any (·.equals v) ↔ v ∈ seen := by
    rw [List.any_eq_true, h]
    simp [equals_iff_of_isText_right hv]
  unfold insertNode
  rw [List.eraseDups_append]
  split
  · next hany =>
    have hold : [v].removeAll seen = [] := by simp [List.removeAll, hthere.mp hany]
    simp [h, hold]
  · next hnone =>
    have hnew : [v].removeAll seen = [v] := by simp [List.removeAll, mt hthere.mpr hnone]
    have hsingle : [v].eraseDups = [v] := rfl
    simp [h, hnew, hsingle]

/-- The nodes are the names, each where it is met first. -/
lemma nodes_ofParts {names : List Value} (hnames : ∀ name ∈ names, name.isText)
    {keys : List (Value × Relationship)} (hkeys : ∀ r ∈ keys, r.2.relationName.isText) :
    (ofParts names keys).nodes = (names ++ keys.map (·.2.relationName)).eraseDups := by
  have hnamed (g : Graph) (seen : List Value) (h : g.nodes = seen.eraseDups) :
      (names.foldl insertNode g).nodes = (seen ++ names).eraseDups := by
    induction names generalizing g seen with
    | nil => simpa using h
    | cons name rest ih =>
      obtain ⟨hname, hrest⟩ := List.forall_mem_cons.mp hnames
      have hnext := ih hrest _ _ (nodes_insertNode h hname)
      rwa [List.append_assoc] at hnext
  have hreferred (g : Graph) (seen : List Value) (h : g.nodes = seen.eraseDups) :
      (keys.foldl (fun g r => g.insertRelationship r.1 r.2) g).nodes =
        (seen ++ keys.map (·.2.relationName)).eraseDups := by
    induction keys generalizing g seen with
    | nil => simpa using h
    | cons r rest ih =>
      obtain ⟨hr, hrest⟩ := List.forall_mem_cons.mp hkeys
      have hinserted : (g.insertRelationship r.1 r.2).nodes =
          (seen ++ [r.2.relationName]).eraseDups := nodes_insertNode h hr
      have hnext := ih hrest _ _ hinserted
      rwa [List.append_assoc] at hnext
  have hempty : ({} : Graph).nodes = ([] : List Value).eraseDups := rfl
  exact hreferred _ names (hnamed {} [] hempty)

/-! ### Catalogs -/

/-- The names in a catalog, each where it is met first: those of the sources, and those that foreign
keys refer to. -/
def names (sources : List Source) : List Value :=
  (sources.map (·.name) ++ (relationships sources).map (·.2.relationName)).eraseDups

/-- The graph of a catalog: its nodes are the names, its edges the foreign keys. -/
structure IsOf (g : Graph) (sources : List Source) : Prop where
  texts : ∀ s ∈ sources, s.HasTexts
  nodes : g.nodes = names sources
  edges : g.HasEdges (relationships sources)

/-- A catalog of texts has a graph. -/
lemma exists_isOf {sources : List Source} (htexts : ∀ s ∈ sources, s.HasTexts) :
    ∃ g, build sources = (g, none) ∧ g.IsOf sources := by
  rcases hbuild : build sources with ⟨g, fault⟩
  have hfault : fault = none := by
    have hnone := build_of_texts htexts
    rwa [hbuild] at hnone
  subst hfault
  have hkeys : ∀ r ∈ relationships sources, AreTexts r.1 r.2 := fun r hr =>
    (mem_relationships.mp hr).areTexts htexts
  refine ⟨g, rfl, htexts, ?_, ?_⟩ <;> rw [ofParts_of_build hbuild]
  · exact nodes_ofParts (by simpa using fun s hs => (htexts s hs).name)
      fun r hr => (hkeys r hr).relationName
  · exact hasEdges_ofParts _ hkeys

namespace IsOf

variable {g : Graph} {sources : List Source} {name : Value}

lemma mem_edges (h : g.IsOf sources) {e : Edge} (he : e ∈ g.edges) :
    ∃ r, IsForeignKey sources e.source r ∧ e = .ofForeignKey e.source r := by
  obtain ⟨⟨name, r⟩, hr, rfl⟩ := h.edges.sound e he
  exact ⟨r, mem_relationships.mp hr, rfl⟩

lemma exists_edge (h : g.IsOf sources) {r : Relationship} (hr : IsForeignKey sources name r) :
    ∃ e ∈ g.edges, e.Joins name r.relationName r.localProperty :=
  h.edges.complete (name, r) (mem_relationships.mpr hr)

lemma mem_targets (h : g.IsOf sources) {target : Value} :
    target ∈ g.targets name ↔ ∃ r, IsForeignKey sources name r ∧ r.relationName = target := by
  simp only [targets, List.mem_eraseDups, List.mem_map, List.mem_filter, decide_eq_true_eq]
  constructor
  · rintro ⟨e, ⟨he, rfl⟩, rfl⟩
    obtain ⟨r, hr, hedge⟩ := h.mem_edges he
    exact ⟨r, hr, by rw [hedge]; rfl⟩
  · rintro ⟨r, hr, rfl⟩
    obtain ⟨e, he, hsource, htarget, -⟩ := h.exists_edge hr
    exact ⟨e, ⟨he, hsource⟩, htarget⟩

lemma nodup_nodes (h : g.IsOf sources) : g.nodes.Nodup := by
  rw [h.nodes]
  exact Discovery.nodup_eraseDups _

lemma mem_nodes (h : g.IsOf sources) {r : Relationship} (hr : IsForeignKey sources name r) :
    name ∈ g.nodes ∧ r.relationName ∈ g.nodes := by
  rw [h.nodes, names, List.mem_eraseDups, List.mem_eraseDups, List.mem_append, List.mem_append]
  constructor
  · obtain ⟨s, hs, hname, -⟩ := hr
    exact .inl (List.mem_map.mpr ⟨s, hs, hname⟩)
  · exact .inr (List.mem_map.mpr ⟨(name, r), mem_relationships.mpr hr, rfl⟩)

lemma isText_of_mem_nodes (h : g.IsOf sources) (hname : name ∈ g.nodes) : name.isText := by
  rw [h.nodes, names, List.mem_eraseDups, List.mem_append, List.mem_map, List.mem_map] at hname
  rcases hname with ⟨s, hs, rfl⟩ | ⟨r, hr, rfl⟩
  · exact (h.texts s hs).name
  · exact ((mem_relationships.mp hr).areTexts h.texts).relationName

lemma isText_of_mem_targets (h : g.IsOf sources) {target : Value}
    (htarget : target ∈ g.targets name) : target.isText := by
  obtain ⟨r, hr, rfl⟩ := h.mem_targets.mp htarget
  exact (hr.areTexts h.texts).relationName

end IsOf

end Graph

end TableGateway.Catalog
