import Mathlib
import TableGateway.Proofs.Aliases
import TableGateway.Proofs.NestedRows
import TableGateway.Proofs.Writes

/-!
# The scope of a `WITH` clause

References are only to nested insertions that stand before them, since a row is taken out of data
in which the deeper rows have been replaced already. Which rows are taken out depends on the order
of the joins: of several joins at one path the first is used, as sorting by depth is stable, and no
row is lost inside of another one, as the deepest are taken first.
-/

namespace TableGateway.Query

/-! ### The clause -/

/-- The references among the cells of a row. -/
def references (assignments : List Assignment) : List Reference :=
  assignments.filterMap fun a =>
    match a.cell with
    | .reference r => some r
    | .bound _ => none

/-- The reference to the row of a nested insertion. -/
def NestedInsertion.reference (n : NestedInsertion) : Reference :=
  ⟨n.returning, n.name⟩

/-- No name is given twice, and what is referred to is there: inside of a nested insertion before
it, in the main row anywhere in the clause. A reference is to the column that is returned. -/
structure Write.WellScoped (w : Write) : Prop where
  nodup : (w.insertions.map (·.name)).Nodup
  before : ∀ before n after, w.insertions = before ++ n :: after →
    references n.insertion.assignments ⊆ before.map NestedInsertion.reference
  main : references w.assignments ⊆ w.insertions.map NestedInsertion.reference

/-- There is an object at a path of keys. -/
def IsObjectAt (v : Value) (path : List String) : Prop :=
  ∃ members, path.foldlM Value.get? v = some (.object members)

/-! ### References in data -/

mutual

/-- The references anywhere in a datum. -/
def Datum.references : Datum → List Reference
  | .value _ => []
  | .object members => referencesIn members
  | .reference r => [r]

def referencesIn : List (String × Datum) → List Reference
  | [] => []
  | (_, d) :: rest => d.references ++ referencesIn rest

end

section Data

variable {d old : Datum} {members : List (String × Datum)}

lemma referencesIn_value (members : List (String × Value)) :
    referencesIn (members.map fun m => (m.1, .value m.2)) = [] := by
  induction members with
  | nil => rfl
  | cons m rest ih => rw [List.map_cons, referencesIn, ih, Datum.references, List.append_nil]

lemma Datum.references_of_members? (h : d.members? = some members) :
    d.references = referencesIn members := by
  cases d with
  | value v =>
    obtain ⟨values, -, rfl⟩ := Option.map_eq_some_iff.mp h
    rw [referencesIn_value, Datum.references]
  | object members' =>
    cases h
    rfl
  | reference r => cases h

lemma references_subset_of_lookup {key : String} (h : members.lookup key = some old) :
    old.references ⊆ referencesIn members := by
  induction members with
  | nil => cases h
  | cons m rest ih =>
    obtain ⟨name, d⟩ := m
    rw [referencesIn]
    rw [List.lookup_cons] at h
    split at h
    · cases h
      exact List.subset_append_left _ _
    · exact List.subset_append_of_subset_right _ (ih h)

lemma referencesIn_modifyMember {key : String} {f : Datum → Datum} {more : List Reference}
    (h : members.lookup key = some old) (hf : (f old).references ⊆ more ++ old.references) :
    referencesIn (modifyMember key f members) ⊆ more ++ referencesIn members := by
  induction members with
  | nil => cases h
  | cons m rest ih =>
    obtain ⟨name, d⟩ := m
    rw [modifyMember]
    by_cases hname : name = key
    · subst hname
      rw [List.lookup_cons_self] at h
      cases h
      rw [if_pos rfl, referencesIn, referencesIn, ← List.append_assoc]
      exact List.append_subset.mpr
        ⟨List.subset_append_of_subset_left _ hf, List.subset_append_right _ _⟩
    · have hkey : (key == name) = false := beq_false_of_ne fun h => hname h.symm
      rw [List.lookup_cons, hkey] at h
      rw [if_neg hname, referencesIn, referencesIn]
      intro r hr
      have hrest := @ih h r
      simp only [List.mem_append] at hr hrest ⊢
      tauto

lemma Datum.references_set {path : List String} (hold : d.get? path = some old) (new : Datum) :
    (d.set path new).references ⊆ new.references ++ d.references := by
  induction path generalizing d with
  | nil => exact List.subset_append_left _ _
  | cons key path ih =>
    obtain ⟨members, inner, hmembers, hinner, hinside⟩ := Datum.exists_of_get?_cons hold
    rw [Datum.references_of_members? (Datum.members?_set hmembers key path new),
      Datum.references_of_members? hmembers]
    exact referencesIn_modifyMember hinner (ih hinside)

lemma Datum.references_subset_of_get? {path : List String} (hold : d.get? path = some old) :
    old.references ⊆ d.references := by
  induction path generalizing d with
  | nil =>
    cases hold
    exact List.Subset.refl _
  | cons key path ih =>
    obtain ⟨members, inner, hmembers, hinner, hinside⟩ := Datum.exists_of_get?_cons hold
    rw [Datum.references_of_members? hmembers]
    exact List.Subset.trans (ih hinside) (references_subset_of_lookup hinner)

end Data

/-! ### What is taken out refers to what was taken before -/

namespace Taking

variable {t : Taking} {start : Datum}

/-- What was taken out refers only to what was taken before it, and the root to what was taken. -/
structure Scoped (t : Taking) : Prop where
  taken : ∀ before e after, t.taken = before ++ e :: after →
    referencesIn e.2 ⊆ before.map (·.1.reference)
  root : t.root.references ⊆ t.taken.map (·.1.reference)

lemma Scoped.take (h : t.Scoped) (p : PlacedJoin) : (t.take p).Scoped := by
  cases hp : t.root.objectAt? p.path with
  | none => rwa [take_of_none hp]
  | some members =>
    obtain ⟨inner, hinner, hmembers⟩ := Datum.objectAt?_eq_some.mp hp
    have hinside : referencesIn members ⊆ t.taken.map (·.1.reference) := by
      rw [← Datum.references_of_members? hmembers]
      exact List.Subset.trans (Datum.references_subset_of_get? hinner) h.root
    rw [take_of_some hp]
    constructor
    · intro before e after hsplit
      rcases List.eq_nil_or_concat after with rfl | ⟨others, last, rfl⟩
      · obtain ⟨rfl, hlast⟩ := List.append_inj' hsplit rfl
        cases hlast
        exact hinside
      · rw [List.concat_eq_append, ← List.cons_append, ← List.append_assoc] at hsplit
        obtain ⟨htaken, -⟩ := List.append_inj' hsplit rfl
        exact h.taken before e others htaken
    · have hset := Datum.references_set hinner (.reference p.reference)
      rw [List.map_append]
      intro r hr
      rcases List.mem_append.mp (hset hr) with hr | hr
      · exact List.mem_append_right _ hr
      · exact List.mem_append_left _ (h.root hr)

/-- The first of the joins at its path, where there is an object to take out. -/
def Takes (start : Datum) (joins : List PlacedJoin) (p : PlacedJoin) : Prop :=
  joins.find? (·.path = p.path) = some p ∧ (start.objectAt? p.path).isSome

lemma mem_taken_take (p q : PlacedJoin) :
    p ∈ (t.take q).taken.map Prod.fst ↔
      p ∈ t.taken.map Prod.fst ∨ p = q ∧ (t.root.objectAt? q.path).isSome := by
  cases hq : t.root.objectAt? q.path with
  | none =>
    rw [take_of_none hq]
    simp
  | some members =>
    rw [take_of_some hq]
    simp

/-- After deeper rows an object is left where no join has taken it. -/
lemma objectAt?_of_deeper {done : List PlacedJoin} {q : PlacedJoin} (h : Sound start t)
    (htaken : ∀ p, p ∈ t.taken.map Prod.fst ↔ Takes start done p)
    (hdeeper : ∀ p ∈ done, q.path.length ≤ p.path.length) :
    (t.root.objectAt? q.path).isSome ↔
      (start.objectAt? q.path).isSome ∧ done.find? (·.path = q.path) = none := by
  rw [h.objectAt? q.path]
  apply and_congr_right
  intro hobject
  constructor
  · intro hfree
    cases hfound : done.find? (·.path = q.path) with
    | none => rfl
    | some p =>
      have hpath : p.path = q.path := by simpa using List.find?_some hfound
      have hp : Takes start done p := ⟨by rw [hpath, hfound], hpath ▸ hobject⟩
      obtain ⟨e, he, rfl⟩ := List.mem_map.mp ((htaken p).mpr hp)
      exact absurd (hpath ▸ List.prefix_rfl) (hfree e he)
  · -- a path that is not shorter and leads to an object in it is the path itself
    intro hnone e he hprefix
    have hmem : e.1 ∈ done := List.mem_of_find?_eq_some
      ((htaken e.1).mp (List.mem_map_of_mem he)).1
    have hpath : e.1.path = q.path := hprefix.eq_of_length_le (hdeeper e.1 hmem)
    rw [List.find?_eq_none] at hnone
    exact hnone e.1 hmem (by simpa using hpath)

/-- Every step takes out exactly what the joins so far take, if the deepest come first. -/
lemma mem_taken_foldl {placed : List PlacedJoin}
    (hsorted : placed.Pairwise fun a b => b.path.length ≤ a.path.length) (p : PlacedJoin) :
    p ∈ (placed.foldl take { root := start }).taken.map Prod.fst ↔ Takes start placed p := by
  -- from the front the invariant would have to speak of the joins that are still to come
  induction placed using List.reverseRecOn generalizing p with
  | nil => simp [Takes]
  | append_singleton done q ih =>
    obtain ⟨hdone, -, hlast⟩ := List.pairwise_append.mp hsorted
    have hdeeper : ∀ p ∈ done, q.path.length ≤ p.path.length :=
      fun p hp => hlast p hp q (List.mem_singleton_self q)
    have hsound := (Sound.nothing_taken start).foldl_take done
    rw [List.foldl_append, List.foldl_cons, List.foldl_nil, mem_taken_take,
      objectAt?_of_deeper hsound (ih hdone) hdeeper, ih hdone]
    unfold Takes
    rw [List.find?_append, Option.or_eq_some_iff]
    have hsingle : [q].find? (·.path = p.path) = some p ↔ p = q := by
      by_cases hpath : q.path = p.path <;> grind
    rw [hsingle]
    constructor
    · rintro (⟨hfind, hobject⟩ | ⟨rfl, hobject, hnone⟩)
      · exact ⟨.inl hfind, hobject⟩
      · exact ⟨.inr ⟨hnone, rfl⟩, hobject⟩
    · rintro ⟨hfind | ⟨hnone, rfl⟩, hobject⟩
      · exact .inl ⟨hfind, hobject⟩
      · exact .inr ⟨rfl, hobject, hnone⟩

end Taking

/-- Sorting keeps the first of the elements of a kind, if it does not tell them apart. -/
lemma find?_mergeSort {α : Type} {le : α → α → Bool} {P : α → Bool}
    (htrans : ∀ a b c, le a b → le b c → le a c) (htotal : ∀ a b, le a b || le b a)
    (hP : ∀ a b, P a → P b → le a b) (l : List α) :
    (l.mergeSort le).find? P = l.find? P := by
  have hpairwise : (l.filter P).Pairwise fun a b => le a b := by
    apply List.pairwise_of_forall_mem_list
    intro a ha b hb
    exact hP a b (List.of_mem_filter ha) (List.of_mem_filter hb)
  have hsublist : (l.filter P).Sublist (l.mergeSort le) :=
    List.sublist_mergeSort htrans htotal hpairwise List.filter_sublist
  have hfilter : (l.filter P).Sublist ((l.mergeSort le).filter P) := by
    simpa using hsublist.filter P
  have hlength := ((List.mergeSort_perm l le).filter P).length_eq
  rw [← List.head?_filter, ← List.head?_filter, hfilter.eq_of_length hlength.symm]

lemma Taking.mem_taken_all (row : List (String × Value)) (placed : List PlacedJoin)
    (p : PlacedJoin) :
    p ∈ (all row placed).taken.map Prod.fst ↔ Takes (.value (.object row)) placed p := by
  have htrans : ∀ a b c : PlacedJoin, decide (b.path.length ≤ a.path.length) →
      decide (c.path.length ≤ b.path.length) → decide (c.path.length ≤ a.path.length) := by
    intro a b c hab hbc
    simp only [decide_eq_true_eq] at hab hbc ⊢
    omega
  have htotal : ∀ a b : PlacedJoin,
      decide (b.path.length ≤ a.path.length) || decide (a.path.length ≤ b.path.length) := by
    intro a b
    simp only [Bool.or_eq_true, decide_eq_true_eq]
    omega
  unfold all
  rw [mem_taken_foldl]
  · unfold Takes
    rw [find?_mergeSort htrans htotal]
    intro a b ha hb
    simp only [decide_eq_true_eq] at ha hb ⊢
    rw [ha, hb]
  · simpa using List.pairwise_mergeSort htrans htotal placed

/-! ### What is written -/

/-- A nested insertion is written for what was taken out. -/
def WrittenFor (e : PlacedJoin × List (String × Datum)) (n : NestedInsertion) : Prop :=
  (n.name = aliasOf e.1.path ∧ n.insertion.table = e.1.source ∧
    n.returning = e.1.foreignProperty) ∧
  references n.insertion.assignments ⊆ referencesIn e.2

section Written

variable {taken : List (PlacedJoin × List (String × Datum))} {insertions : List NestedInsertion}

lemma map_reference_of_writtenFor (h : List.Forall₂ WrittenFor taken insertions) :
    insertions.map NestedInsertion.reference = taken.map (·.1.reference) := by
  induction h with
  | nil => rfl
  | @cons e n taken insertions hen _ ih =>
    obtain ⟨⟨hname, -, hreturning⟩, -⟩ := hen
    rw [List.map_cons, List.map_cons, ih, NestedInsertion.reference, hname, hreturning,
      PlacedJoin.reference]

lemma map_name_of_writtenFor (h : List.Forall₂ WrittenFor taken insertions) :
    insertions.map (·.name) = taken.map (aliasOf ·.1.path) := by
  have hreferences := congrArg (List.map Reference.name) (map_reference_of_writtenFor h)
  rwa [List.map_map, List.map_map] at hreferences

end Written

lemma Taking.wellScoped {t : Taking} {start : Datum} {w : Write} (hsound : Sound start t)
    (hscoped : t.Scoped) (hplaces : ∀ e ∈ t.taken, IsPlace e.1.path)
    (hinsertions : List.Forall₂ WrittenFor t.taken w.insertions)
    (hassignments : references w.assignments ⊆ t.root.references) : w.WellScoped := by
  constructor
  · rw [map_name_of_writtenFor hinsertions]
    have hnames : t.taken.map (aliasOf ·.1.path) = (t.taken.map (·.1.path)).map aliasOf := by
      rw [List.map_map]
      rfl
    rw [hnames]
    apply List.Nodup.map_on _ hsound.nodup
    intro a ha b hb halias
    obtain ⟨e, he, rfl⟩ := List.mem_map.mp ha
    obtain ⟨f, hf, rfl⟩ := List.mem_map.mp hb
    exact aliasOf_injective (hplaces e he) (hplaces f hf) halias
  · intro before n after hsplit
    rw [hsplit] at hinsertions
    have hbefore := List.forall₂_take before.length hinsertions
    have hafter := List.forall₂_drop before.length hinsertions
    rw [List.take_left] at hbefore
    rw [List.drop_left] at hafter
    obtain ⟨e, others, hen, -, hdrop⟩ := List.forall₂_cons_right_iff.mp hafter
    rw [map_reference_of_writtenFor hbefore]
    refine List.Subset.trans hen.2 (hscoped.taken _ e others ?_)
    rw [← hdrop, List.take_append_drop]
  · rw [map_reference_of_writtenFor hinsertions]
    exact List.Subset.trans hassignments hscoped.root

lemma lookup_map_value (key : String) (members : List (String × Value)) :
    (members.map fun m => (m.1, Datum.value m.2)).lookup key =
      (members.lookup key).map .value := by
  induction members with
  | nil => rfl
  | cons m rest ih =>
    rw [List.map_cons, List.lookup_cons, List.lookup_cons, ih]
    cases key == m.1 <;> rfl

lemma objectAt?_value (v : Value) (path : List String) :
    ((Datum.value v).objectAt? path).isSome ↔ IsObjectAt v path := by
  unfold IsObjectAt
  induction path generalizing v with
  | nil => cases v <;> simp [Datum.objectAt?, Datum.get?, Datum.members?, Value.members?]
  | cons key path ih =>
    rw [List.foldlM_cons]
    cases hmembers : v.members? with
    | none => simp [Datum.objectAt?, Datum.get?, Datum.members?, Value.get?, hmembers]
    | some members =>
      have hinside : (Datum.value v).members? = some (members.map fun m => (m.1, .value m.2)) := by
        rw [Datum.members?, hmembers, Option.map_some]
      rw [Datum.objectAt?_cons hinside, lookup_map_value, Value.get?, hmembers, Option.bind_some]
      cases members.lookup key with
      | none => simp
      | some inner => simpa using ih inner

end TableGateway.Query

namespace TableGateway

open Query

end TableGateway
