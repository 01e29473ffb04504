import Mathlib
import TableGateway.Proofs.ForeignKeys

/-!
# The order of dependencies

Without circles every name follows all that it depends on. If names depend on each other in a
circle, those with fewer dependencies come first, and otherwise the names keep the order of the
nodes.
-/

namespace TableGateway.Catalog

/-- A source of this name refers to another name. -/
def DependsOn (sources : List Source) (name other : Value) : Prop :=
  name ≠ other ∧ ∃ r, IsForeignKey sources name r ∧ r.relationName = other

/-- Some name depends on itself by way of others. -/
def IsCyclic (sources : List Source) : Prop :=
  ∃ name, Relation.TransGen (DependsOn sources) name name

/-- The items in ascending order; those with the same number stay in the order they had. -/
structure IsStablySorted {α : Type} (number : α → Nat) (items sorted : List α) : Prop where
  perm : sorted.Perm items
  ascending : sorted.Pairwise fun a b => number a ≤ number b
  stable : ∀ k, (sorted.filter fun a => number a = k) = items.filter fun a => number a = k

lemma isStablySorted_mergeSort {α : Type} (number : α → Nat) (items : List α) :
    IsStablySorted number items (items.mergeSort fun a b => number a ≤ number b) := by
  let le (a b : α) : Bool := number a ≤ number b
  have htrans (a b c : α) (hab : le a b) (hbc : le b c) : le a c := by
    simp only [le, decide_eq_true_eq] at *
    exact hab.trans hbc
  have htotal (a b : α) : le a b || le b a := by
    simpa [le] using Nat.le_total (number a) (number b)
  have hperm : (items.mergeSort le).Perm items := List.mergeSort_perm items le
  refine ⟨hperm, ?_, fun k => ?_⟩
  · exact (List.pairwise_mergeSort htrans htotal items).imp fun h => of_decide_eq_true h
  · -- Items with one number are in order as they stand, so sorting leaves them where they are.
    have hequal : (items.filter fun a => number a = k).Pairwise fun a b => le a b := by
      apply List.pairwise_of_forall_mem_list
      intro a ha b hb
      simp only [List.mem_filter, decide_eq_true_eq] at ha hb
      simp [le, ha.2, hb.2]
    have hkept : (items.filter fun a => number a = k).Sublist (items.mergeSort le) :=
      List.sublist_mergeSort htrans htotal hequal List.filter_sublist
    have hfiltered := hkept.filter fun a => number a = k
    simp only [List.filter_filter, Bool.and_self] at hfiltered
    exact (hfiltered.eq_of_length (hperm.filter _).length_eq.symm).symm

/-- Where each item leads to another of finitely many, some lead back to where they start. -/
lemma exists_transGen_of_forall_exists {α : Type} {r : α → α → Prop} {items : List α}
    (hne : items ≠ []) (h : ∀ a ∈ items, ∃ b ∈ items, r a b) : ∃ a, Relation.TransGen r a a := by
  by_contra hnone
  let behind (b a : {a // a ∈ items}) : Prop := Relation.TransGen r a.1 b.1
  have htrans : IsTrans _ behind := ⟨fun _ _ _ hba hcb => hcb.trans hba⟩
  have hirrefl : Std.Irrefl behind := ⟨fun a ha => hnone ⟨a, ha⟩⟩
  have hfinite : Finite {a // a ∈ items} := List.finite_toSet items
  have hwf : WellFounded behind := Finite.wellFounded_of_trans_of_irrefl behind
  obtain ⟨first, hfirst⟩ := List.exists_mem_of_ne_nil items hne
  obtain ⟨⟨a, ha⟩, -, hlast⟩ := hwf.has_min Set.univ ⟨⟨first, hfirst⟩, trivial⟩
  obtain ⟨b, hb, hab⟩ := h a ha
  exact hlast ⟨b, hb⟩ trivial (.single hab)

namespace Graph

/-! ### Sweeps to the end -/

/-- A sweep in which nothing is forgotten: what is placed follows all it refers to, and what is free
is placed or waits. -/
structure Settling (g : Graph) (placed queue : List Value) : Prop
    extends g.Sweeping placed queue where
  ordered : ∀ n ∈ placed, ∀ m ∈ g.others n, placed.idxOf m < placed.idxOf n
  free : ∀ n ∈ g.nodes, (∀ m ∈ g.others n, m ∈ placed) → n ∈ placed ++ queue

variable {g : Graph} {placed queue : List Value}

lemma settling_start (hg : g.nodes.Nodup) :
    g.Settling [] (g.nodes.filter fun n => (g.others n).isEmpty) := by
  refine ⟨sweeping_start hg, by simp, fun n hn hothers => ?_⟩
  have hempty : g.others n = [] := List.eq_nil_iff_forall_not_mem.mpr fun m hm => by
    cases hothers m hm
  simpa [hempty] using hn

lemma Settling.step {node : Value} (h : g.Settling placed (node :: queue)) (hg : g.nodes.Nodup) :
    g.Settling (placed ++ [node]) (queue ++ g.freed (placed ++ [node]) node) := by
  have hready : ∀ n ∈ placed ++ [node], ∀ m ∈ g.others n, m ∈ placed := by
    intro n hn
    apply h.ready n
    simp only [List.mem_append, List.mem_cons, List.not_mem_nil, or_false] at *
    tauto
  have hnew : node ∉ placed := by
    intro hmem
    exact List.disjoint_of_nodup_append h.nodup hmem List.mem_cons_self
  refine ⟨h.toSweeping.step hg, fun n hn m hm => ?_, fun n hn hothers => ?_⟩
  · have hmPlaced : m ∈ placed := hready n hn m hm
    rw [List.idxOf_append_of_mem hmPlaced]
    rcases List.mem_append.mp hn with hnPlaced | hnode
    · rw [List.idxOf_append_of_mem hnPlaced]
      exact h.ordered n hnPlaced m hm
    · rw [List.mem_singleton.mp hnode, List.idxOf_append_of_notMem hnew]
      have hlt : placed.idxOf m < placed.length := List.idxOf_lt_length_iff.mpr hmPlaced
      omega
  · by_cases hnode : node ∈ g.others n
    · have hfreed : n ∈ g.freed (placed ++ [node]) node := mem_freed.mpr ⟨hn, hnode, hothers⟩
      simp [hfreed]
    · have hbefore : ∀ m ∈ g.others n, m ∈ placed := by
        intro m hm
        have hne : m ≠ node := fun h => hnode (h ▸ hm)
        simpa [hne] using hothers m hm
      have hthere := h.free n hn hbefore
      simp only [List.mem_append, List.mem_cons, List.not_mem_nil, or_false] at *
      tauto

/-- After a sweep that has room for all nodes nothing waits. -/
lemma Settling.sweep (h : g.Settling placed queue) (hg : g.nodes.Nodup) {count : Nat}
    (hcount : placed.length + count = g.nodes.length) :
    g.Settling (g.sweep count placed queue) [] := by
  induction count generalizing placed queue with
  | zero =>
    have hlength : (placed ++ queue).length ≤ g.nodes.length :=
      (List.subperm_of_subset h.nodup h.nodes).length_le
    rw [List.length_append] at hlength
    have hempty : queue = [] := List.eq_nil_of_length_eq_zero (by omega)
    rwa [hempty] at h
  | succ count ih =>
    cases queue with
    | nil => exact h
    | cons node queue =>
      apply ih (h.step hg)
      rw [List.length_append, List.length_singleton]
      omega

lemma settling_placeable (hg : g.nodes.Nodup) : g.Settling g.placeable [] :=
  (settling_start hg).sweep hg (Nat.zero_add _)

/-- A node that is left in the end waits for another one. -/
lemma Settling.exists_missing (h : g.Settling placed []) {n : Value} (hn : n ∈ g.nodes)
    (hleft : n ∉ placed) : ∃ m ∈ g.others n, m ∉ placed := by
  by_contra hnone
  push Not at hnone
  have hplaced : n ∈ placed ++ [] := h.free n hn hnone
  rw [List.append_nil] at hplaced
  exact hleft hplaced

/-! ### Dependencies -/

lemma nodup_others (g : Graph) (name : Value) : (g.others name).Nodup :=
  (Discovery.nodup_eraseDups _).filter _

namespace IsOf

variable {sources : List Source} {name : Value}

lemma mem_others (h : g.IsOf sources) {other : Value} :
    other ∈ g.others name ↔ DependsOn sources name other := by
  simp only [others, List.mem_filter, h.mem_targets, decide_eq_true_eq, DependsOn]
  tauto

lemma dependencyNames_eq (h : g.IsOf sources) : g.dependencyNames name = g.others name := by
  have hothers : g.dependencies name = g.others name := by
    apply List.filter_congr
    intro target htarget
    have hcompares : target.compares name = decide (target = name) := by
      rw [Bool.eq_iff_iff, decide_eq_true_iff]
      exact compares_iff_of_isText (h.isText_of_mem_targets htarget)
    rw [hcompares, decide_not]
  have hspelled (target : Value) : (g.targetName name target).getD target = target :=
    targetName_getD h.edges.targetName name target
  unfold dependencyNames
  simp only [hothers, hspelled, List.map_id']

lemma mem_nodes_of_dependsOn (h : g.IsOf sources) {other : Value}
    (hdepends : DependsOn sources name other) : name ∈ g.nodes ∧ other ∈ g.nodes := by
  obtain ⟨-, r, hr, rfl⟩ := hdepends
  exact h.mem_nodes hr

/-! ### Circles -/

/-- What cannot be placed depends on itself. -/
lemma length_placeable (h : g.IsOf sources) (hacyclic : ¬IsCyclic sources) :
    g.placeable.length = g.nodes.length := by
  have hsettled := settling_placeable h.nodup_nodes
  let isLeft (n : Value) : Bool := n ∉ g.placeable
  have hnext : ∀ n ∈ g.nodes.filter isLeft, ∃ m ∈ g.nodes.filter isLeft, DependsOn sources n m := by
    intro n hn
    obtain ⟨hnode, hleft⟩ := List.mem_filter.mp hn
    obtain ⟨m, hm, hmissing⟩ := hsettled.exists_missing hnode (of_decide_eq_true hleft)
    have hdepends : DependsOn sources n m := h.mem_others.mp hm
    have hmNode : m ∈ g.nodes := (h.mem_nodes_of_dependsOn hdepends).2
    exact ⟨m, List.mem_filter.mpr ⟨hmNode, decide_eq_true hmissing⟩, hdepends⟩
  have hnone : g.nodes.filter isLeft = [] := by
    by_contra hne
    exact hacyclic (exists_transGen_of_forall_exists hne hnext)
  have hall : ∀ n ∈ g.nodes, n ∈ g.placeable := by
    simpa [isLeft, List.filter_eq_nil_iff] using hnone
  have hthere : ∀ n ∈ g.placeable, n ∈ g.nodes := by simpa using hsettled.nodes
  have hnodup : g.placeable.Nodup := by simpa using hsettled.nodup
  have hperm : g.placeable.Perm g.nodes :=
    (List.perm_ext_iff_of_nodup hnodup h.nodup_nodes).mpr fun n => ⟨hthere n, hall n⟩
  exact hperm.length_eq

/-- Where everything is placed, it follows all that it depends on. -/
lemma idxOf_placeable (h : g.IsOf sources) (hlength : g.placeable.length = g.nodes.length)
    (a b : Value) (hdepends : DependsOn sources a b) :
    g.placeable.idxOf b < g.placeable.idxOf a := by
  have hperm := dependencyOrder_perm h.nodup_nodes
  rw [dependencyOrder, if_pos hlength] at hperm
  have ha : a ∈ g.placeable := hperm.mem_iff.mpr (h.mem_nodes_of_dependsOn hdepends).1
  exact (settling_placeable h.nodup_nodes).ordered a ha b (h.mem_others.mpr hdepends)

/-- Where everything is placed, nothing depends on itself. -/
lemma not_isCyclic (h : g.IsOf sources) (hlength : g.placeable.length = g.nodes.length) :
    ¬IsCyclic sources := by
  rintro ⟨name, hcircle⟩
  let place (n : Value) : Nat := g.placeable.idxOf n
  have hbefore : ∀ a b, DependsOn sources a b → place a > place b := h.idxOf_placeable hlength
  have hself : Relation.TransGen (· > ·) (place name) (place name) := hcircle.lift place hbefore
  rw [Relation.transGen_eq_self] at hself
  exact lt_irrefl _ hself

end IsOf

/-! ### The order -/

/-- The names in a catalog, in an order for those that depend on others. -/
structure IsDependencyOrder (sources : List Source) (number : Value → Nat) (order : List Value) :
    Prop where
  nodup : order.Nodup
  perm : order.Perm (names sources)
  before : ¬IsCyclic sources →
    ∀ name other, DependsOn sources name other → order.idxOf other < order.idxOf name
  sorted : IsCyclic sources → IsStablySorted number (names sources) order

/-- The graph orders the names by dependencies, or by the number of dependencies if there is a
circle. The dependencies of a name are the other names that it refers to, each once. -/
theorem dependencyOrder_of_texts (sources : List Source) (htexts : ∀ s ∈ sources, s.HasTexts) :
    ∃ g, build sources = (g, none) ∧ g.nodes = names sources ∧
      (∀ name, (g.dependencyNames name).Nodup ∧
        ∀ other, other ∈ g.dependencyNames name ↔ DependsOn sources name other) ∧
      IsDependencyOrder sources (fun name => (g.dependencyNames name).length)
        g.dependencyOrder := by
  obtain ⟨g, hbuild, h⟩ := exists_isOf htexts
  have hperm : g.dependencyOrder.Perm g.nodes := dependencyOrder_perm h.nodup_nodes
  have hdependencies (name : Value) : (g.dependencyNames name).Nodup ∧
      ∀ other, other ∈ g.dependencyNames name ↔ DependsOn sources name other := by
    rw [h.dependencyNames_eq]
    exact ⟨nodup_others g name, fun other => h.mem_others⟩
  refine ⟨g, hbuild, h.nodes, hdependencies, hperm.nodup_iff.mpr h.nodup_nodes, h.nodes ▸ hperm,
    fun hacyclic => ?_, fun hcyclic => ?_⟩
  · have hlength := h.length_placeable hacyclic
    rw [dependencyOrder, if_pos hlength]
    exact h.idxOf_placeable hlength
  · have hlength : g.placeable.length ≠ g.nodes.length := fun heq => h.not_isCyclic heq hcyclic
    have hnumber (name : Value) :
        (g.dependencies name).length = (g.dependencyNames name).length := by
      rw [dependencyNames, List.length_map]
    rw [dependencyOrder, if_neg hlength, byDependencies, h.nodes]
    simp only [hnumber]
    exact isStablySorted_mergeSort _ _

/-- Two names refer to each other, one of them twice and the other to a name without a source; a
third refers to itself. -/
theorem dependencyOrder_of_texts_circle :
    let a : Value := .string "a"
    let b : Value := .string "b"
    let c : Value := .string "c"
    let d : Value := .string "d"
    let sources : List Source := [
      { name := a, belongsTo := [⟨b, .string "b_id", .string "id"⟩,
          ⟨b, .string "other_id", .string "id"⟩] },
      { name := b, belongsTo := [⟨a, .string "a_id", .string "id"⟩,
          ⟨d, .string "d_id", .string "id"⟩] },
      { name := c, belongsTo := [⟨c, .string "parent", .string "id"⟩] }]
    IsCyclic sources ∧ names sources = [a, b, c, d] ∧
      ∃ g, build sources = (g, none) ∧ g.dependencyOrder = [c, d, a, b] ∧
        IsStablySorted (fun name => (g.dependencyNames name).length) (names sources)
          g.dependencyOrder := by
  intro a b c d sources
  have htexts : ∀ s ∈ sources, s.HasTexts := by
    intro s hs
    simp only [sources, List.mem_cons, List.not_mem_nil, or_false] at hs
    rcases hs with rfl | rfl | rfl <;> exact ⟨rfl, by simp [a, b, c, d, Value.isText]⟩
  have hcyclic : IsCyclic sources := by
    have hthere : DependsOn sources a b :=
      ⟨by decide, ⟨b, .string "b_id", .string "id"⟩, ⟨sources[0], by simp [sources], rfl,
        by simp [sources]⟩, rfl⟩
    have hback : DependsOn sources b a :=
      ⟨by decide, ⟨a, .string "a_id", .string "id"⟩, ⟨sources[1], by simp [sources], rfl,
        by simp [sources]⟩, rfl⟩
    exact ⟨a, .tail (.single hthere) hback⟩
  have hlisted : (build sources).1.dependencyOrder = [c, d, a, b] := by cbv
  obtain ⟨g, hbuild, -, -, horder⟩ := dependencyOrder_of_texts sources htexts
  rw [hbuild] at hlisted
  exact ⟨hcyclic, by cbv, g, hbuild, hlisted, horder.sorted hcyclic⟩

end Graph

end TableGateway.Catalog
