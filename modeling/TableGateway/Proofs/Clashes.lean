import Mathlib
import TableGateway.Discovery.Inspection

/-!
# Clashes

The groups of entities that are reported to share a name are all there are, in the order in which
their names are first met.
-/

namespace TableGateway.Discovery

lemma idxOf_lt_of_filter {α : Type} [DecidableEq α] {p : α → Bool} {xs : List α} {a b : α}
    (hb : p b) (h : (xs.filter p).idxOf a < (xs.filter p).idxOf b) :
    xs.idxOf a < xs.idxOf b := by
  induction xs with
  | nil => exact h
  | cons x xs ih =>
    by_cases hx : p x
    · rw [List.filter_cons_of_pos hx] at h
      grind
    · rw [List.filter_cons_of_neg hx] at h
      grind

/-- Duplicates are erased in the order in which the elements are first met. -/
lemma pairwise_eraseDups {α : Type} [DecidableEq α] : ∀ xs : List α,
    xs.eraseDups.Pairwise fun a b => xs.idxOf a < xs.idxOf b
  | [] => .nil
  | x :: xs => by
    have hrest := pairwise_eraseDups (xs.filter fun y => !y == x)
    rw [List.eraseDups_cons, List.pairwise_cons]
    constructor
    · intro b hb
      have hne : b ≠ x := by simpa using (List.mem_filter.mp (List.mem_eraseDups.mp hb)).2
      grind
    · refine hrest.imp_of_mem ?_
      intro a b _ hb hab
      have hb := (List.mem_filter.mp (List.mem_eraseDups.mp hb)).2
      have hab := idxOf_lt_of_filter (p := fun y => !y == x) hb hab
      grind
termination_by xs => xs.length
decreasing_by
  exact Nat.lt_succ_of_le (List.length_filter_le _ _)

lemma nodup_eraseDups {α : Type} [DecidableEq α] (xs : List α) : xs.eraseDups.Nodup := by
  refine (pairwise_eraseDups xs).imp fun hlt heq => ?_
  rw [heq] at hlt
  exact lt_irrefl _ hlt

/-- The names of entities, where equal names are the same. -/
def plainNames (entities : List Entity) : List Value :=
  entities.map (·.name.plain)

/-- The groups are those of entities that share a name, in the order in which the names are first
met. -/
def AreClashes (entities : List Entity) (groups : List (List String)) : Prop :=
  ∃ shared : List Value,
    (shared.Pairwise fun a b => (plainNames entities).idxOf a < (plainNames entities).idxOf b) ∧
    (∀ name, name ∈ shared ↔ 2 ≤ (plainNames entities).count name) ∧
    groups = shared.map fun name =>
      (entities.filter (·.name.plain = name)).map Entity.qualifiedName

lemma length_sharing (entities : List Entity) (name : Value) :
    (entities.filter (·.name.plain = name)).length = (plainNames entities).count name := by
  rw [plainNames, List.count, List.countP_map, List.countP_eq_length_filter]
  rfl

lemma areClashes_clashGroups (entities : List Entity) :
    AreClashes entities (clashGroups entities) := by
  refine ⟨(plainNames entities).eraseDups.filter fun name =>
    1 < (plainNames entities).count name, ?_, ?_, ?_⟩
  · exact (pairwise_eraseDups _).filter _
  · intro name
    rw [List.mem_filter, List.mem_eraseDups, decide_eq_true_iff]
    constructor
    · exact fun h => h.2
    · exact fun h => ⟨List.count_pos_iff.mp (by omega), h⟩
  · unfold clashGroups
    rw [List.filter_map]
    congr 1
    refine List.filter_congr fun name _ => ?_
    rw [Function.comp_apply, List.length_map, length_sharing]

/-- There are no clashes exactly when the names are unique. -/
lemma clashGroups_eq_nil {entities : List Entity} :
    clashGroups entities = [] ↔ (plainNames entities).Nodup := by
  obtain ⟨shared, _, hshared, hgroups⟩ := areClashes_clashGroups entities
  rw [hgroups, List.map_eq_nil_iff, List.nodup_iff_count_le_one, List.eq_nil_iff_forall_not_mem]
  refine forall_congr' fun name => ?_
  rw [hshared, Nat.not_le, Nat.lt_succ_iff]

end TableGateway.Discovery
