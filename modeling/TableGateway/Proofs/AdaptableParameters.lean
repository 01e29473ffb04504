import Mathlib
import TableGateway.Proofs.BoundReferences
import TableGateway.Query.Named

/-!
# What the driver is given

The driver takes scalars, lists of what it takes, and objects that are marked as JSON. A bound value
that is an object is marked; inside of a list nothing is. So the driver cannot take a list that has
an object in it, and such a list is bound wherever it stands in a column of a row or in a condition.
-/

namespace TableGateway.Query

/-! ### Parameters -/

/-- Data that the driver takes as it is: scalars and lists of such data. -/
inductive IsAdaptable : Value → Prop
  | null : IsAdaptable .null
  | bool (b : Bool) : IsAdaptable (.bool b)
  | int (n : Int) : IsAdaptable (.int n)
  | double (x : Double) : IsAdaptable (.double x)
  | string (s : String) : IsAdaptable (.string s)
  | array {items : List Value} (items_adaptable : ∀ v ∈ items, IsAdaptable v) :
    IsAdaptable (.array items)

/-- What is handed to the driver can be taken: it is adaptable data, or marked as JSON and holds
nothing but data. -/
def Parameter.IsAdaptable : Parameter → Prop
  | .plain (.value v) => Query.IsAdaptable v
  | .plain _ => False
  | .json d => d.references = []

/-- The parameters that the driver is given with a statement. -/
def Statement.parameters (s : Statement) : List Parameter :=
  (s.named.parameters.getD []).map Prod.snd

lemma Statement.parameters_eq (s : Statement) : s.parameters = s.values.map Parameter.ofDatum := by
  unfold parameters named NamedStatement.ofText
  cases s.values with
  | nil => rfl
  | cons d rest =>
    simp only [Option.getD_some, namedParameters, List.map_map]
    rw [← List.zipIdx_map_fst 0 (d :: rest), List.map_map, List.zipIdx_map_fst]
    rfl

/-- A bound value can be taken unless it holds a reference or is a list with an object in it. -/
lemma Parameter.isAdaptable_ofDatum (d : Datum) :
    (ofDatum d).IsAdaptable ↔
      d.references = [] ∧
        ∀ items, d = .value (.array items) → Query.IsAdaptable (.array items) := by
  cases d with
  | value v =>
    have hadaptable (h : Query.IsAdaptable v) (hplain : ofDatum (.value v) = .plain (.value v))
        (hitems : ∀ items, v ≠ .array items) :
        (ofDatum (.value v)).IsAdaptable ↔ (Datum.value v).references = [] ∧
          ∀ items, Datum.value v = .value (.array items) → Query.IsAdaptable (.array items) := by
      rw [hplain]
      exact iff_of_true h ⟨rfl, fun items he => absurd (Datum.value.inj he) (hitems items)⟩
    cases v with
    | null => exact hadaptable .null rfl (by simp)
    | bool b => exact hadaptable (.bool b) rfl (by simp)
    | int n => exact hadaptable (.int n) rfl (by simp)
    | double x => exact hadaptable (.double x) rfl (by simp)
    | string s => exact hadaptable (.string s) rfl (by simp)
    | array items =>
      change Query.IsAdaptable (.array items) ↔ _
      simp [Datum.references]
    | object members =>
      change (Datum.value _).references = [] ↔ _
      simp
  | object members =>
    change (Datum.object members).references = [] ↔ _
    simp
  | reference r =>
    change False ↔ _
    simp [Datum.references]

/-! ### Data under references -/

mutual

/-- The datum is the value with references in the place of some objects. -/
def Datum.Covers : Datum → Value → Prop
  | .value v, w => v = w
  | .object members, w => ∃ values, w = .object values ∧ MembersCover members values
  | .reference _, w => ∃ values, w = .object values

def MembersCover : List (String × Datum) → List (String × Value) → Prop
  | [], [] => True
  | (key, d) :: rest, (name, v) :: values => key = name ∧ d.Covers v ∧ MembersCover rest values
  | _, _ => False

end

section Data

variable {d old : Datum} {v : Value} {members : List (String × Datum)}
  {values : List (String × Value)}

lemma membersCover_iff :
    MembersCover members values ↔
      List.Forall₂ (fun m w => m.1 = w.1 ∧ m.2.Covers w.2) members values := by
  induction members generalizing values with
  | nil => cases values <;> simp [MembersCover]
  | cons m rest ih => cases values <;> simp [MembersCover, ih, and_assoc]

lemma membersCover_value (values : List (String × Value)) :
    MembersCover (values.map fun m => (m.1, .value m.2)) values := by
  rw [membersCover_iff, List.forall₂_map_left_iff, List.forall₂_same]
  exact fun _ _ => ⟨rfl, rfl⟩

lemma Datum.Covers.exists_values (h : d.Covers v) (hmembers : d.members? = some members) :
    ∃ values, v = .object values ∧ MembersCover members values := by
  cases d with
  | value w =>
    obtain ⟨values, hvalues, rfl⟩ := Option.map_eq_some_iff.mp hmembers
    obtain rfl : w = v := h
    cases w with
    | object members' =>
      cases hvalues
      exact ⟨_, rfl, membersCover_value _⟩
    | _ => cases hvalues
  | object others =>
    cases hmembers
    exact h
  | reference r => cases hmembers

lemma MembersCover.lookup (h : MembersCover members values) {key : String}
    (hold : members.lookup key = some old) : ∃ w, values.lookup key = some w ∧ old.Covers w := by
  rw [membersCover_iff] at h
  induction h with
  | nil => cases hold
  | @cons m w _ _ hfirst _ ih =>
    obtain ⟨hkey, hcovers⟩ := hfirst
    rw [List.lookup_cons] at hold ⊢
    rw [← hkey]
    split at hold
    · cases hold
      exact ⟨_, rfl, hcovers⟩
    · exact ih hold

lemma MembersCover.modifyMember (h : MembersCover members values) {key : String}
    {f : Datum → Datum} (hold : members.lookup key = some old)
    (hf : ∀ w, old.Covers w → (f old).Covers w) :
    MembersCover (modifyMember key f members) values := by
  rw [membersCover_iff] at h ⊢
  induction h with
  | nil => cases hold
  | @cons m w _ _ hfirst hrest ih =>
    obtain ⟨hkey, hcovers⟩ := hfirst
    rw [TableGateway.modifyMember]
    by_cases hname : m.1 = key
    · subst hname
      rw [List.lookup_cons_self] at hold
      cases hold
      rw [if_pos rfl]
      exact .cons ⟨hkey, hf _ hcovers⟩ hrest
    · rw [List.lookup_cons, beq_false_of_ne (Ne.symm hname)] at hold
      rw [if_neg hname]
      exact .cons ⟨hkey, hcovers⟩ (ih hold)

lemma Datum.Covers.get? (h : d.Covers v) {path : List String} (hold : d.get? path = some old) :
    ∃ w, path.foldlM Value.get? v = some w ∧ old.Covers w := by
  induction path generalizing d v with
  | nil =>
    cases hold
    exact ⟨v, rfl, h⟩
  | cons key path ih =>
    obtain ⟨members, inner, hmembers, hinner, hinside⟩ := Datum.exists_of_get?_cons hold
    obtain ⟨values, rfl, hcover⟩ := h.exists_values hmembers
    obtain ⟨w, hw, hcovers⟩ := hcover.lookup hinner
    obtain ⟨u, hu, hold⟩ := ih hcovers hinside
    refine ⟨u, ?_, hold⟩
    rw [List.foldlM_cons, ← hu]
    change (values.lookup key >>= _) = _
    rw [hw]
    rfl

/-- An object may give way to a reference. -/
lemma Datum.Covers.set (h : d.Covers v) {path : List String}
    (hobject : d.objectAt? path = some members) (r : Reference) :
    (d.set path (.reference r)).Covers v := by
  induction path generalizing d v with
  | nil =>
    obtain ⟨values, rfl, -⟩ := h.exists_values hobject
    exact ⟨values, rfl⟩
  | cons key path ih =>
    obtain ⟨_, hold, -⟩ := Datum.objectAt?_eq_some.mp hobject
    obtain ⟨siblings, inner, hsiblings, hinner, -⟩ := Datum.exists_of_get?_cons hold
    obtain ⟨values, rfl, hcover⟩ := h.exists_values hsiblings
    rw [Datum.objectAt?_cons hsiblings, hinner, Option.bind_some] at hobject
    rw [Datum.set, hsiblings]
    exact ⟨values, rfl, hcover.modifyMember hinner fun w hw => ih hw hobject⟩

lemma Datum.covers_array_iff {items : List Value} :
    d.Covers (.array items) ↔ d = .value (.array items) := by
  cases d <;> simp [Datum.Covers]

/-- The lists in a row are bound as they are. -/
lemma MembersCover.mem_data_columns (h : MembersCover members values) (items : List Value) :
    Datum.value (.array items) ∈ data (columns members) ↔
      ∃ key, (key, Value.array items) ∈ values := by
  rw [Query.mem_data_columns, and_iff_right (by simp)]
  rw [membersCover_iff] at h
  constructor
  · rintro ⟨key, hmem⟩
    obtain ⟨⟨name, w⟩, hw, rfl, hcovers⟩ := exists_of_forall₂ h.flip hmem
    cases hcovers
    exact ⟨key, hw⟩
  · rintro ⟨key, hmem⟩
    obtain ⟨⟨name, e⟩, he, rfl, hcovers⟩ := exists_of_forall₂ h hmem
    cases Datum.covers_array_iff.mp hcovers
    exact ⟨name, he⟩

end Data

/-! ### The columns that are written -/

/-- The value stands in a column of a row that is written: of the main row, or of an object at the
path of a join. -/
def IsWritten (row : Value) (placed : List PlacedJoin) (v : Value) : Prop :=
  ∃ path values, (path = [] ∨ ∃ p ∈ placed, p.path = path) ∧
    path.foldlM Value.get? row = some (.object values) ∧ ∃ key, (key, v) ∈ values

namespace Taking

/-- The root and what was taken out are the rows at the start, with references in the place of
objects in them. -/
structure Covers (start : Value) (t : Taking) : Prop where
  root : t.root.Covers start
  taken : ∀ e ∈ t.taken, ∃ values,
    e.1.path.foldlM Value.get? start = some (.object values) ∧ MembersCover e.2 values

lemma Covers.take {start : Value} {t : Taking} (h : t.Covers start) (p : PlacedJoin) :
    (t.take p).Covers start := by
  cases hp : t.root.objectAt? p.path with
  | none => rwa [take_of_none hp]
  | some members =>
    rw [take_of_some hp]
    constructor
    · exact h.root.set hp _
    · intro e he
      rcases List.mem_append.mp he with he | he
      · exact h.taken e he
      · obtain rfl := List.mem_singleton.mp he
        obtain ⟨inner, hinner, hmembers⟩ := Datum.objectAt?_eq_some.mp hp
        obtain ⟨w, hw, hcovers⟩ := h.root.get? hinner
        obtain ⟨values, rfl, hcover⟩ := hcovers.exists_values hmembers
        exact ⟨values, hw, hcover⟩

lemma covers_all (row : List (String × Value)) (placed : List PlacedJoin) :
    (all row placed).Covers (.object row) := by
  apply List.foldlRecOn (motive := Covers (.object row))
  · exact ⟨rfl, by simp⟩
  · exact fun t ht p _ => ht.take p

end Taking

/-- Of the lists in a row those are planned to be bound that stand in a column. -/
lemma mem_data_all (row : List (String × Value)) {placed : List PlacedJoin}
    (hpaths : ∀ p ∈ placed, p.path ≠ []) (items : List Value) :
    Datum.value (.array items) ∈ data (WritePlan.mk (Taking.all row placed).extraction.nested
        (Taking.all row placed).extraction.row) ↔
      IsWritten (.object row) placed (.array items) := by
  have hcovers := Taking.covers_all row placed
  have htakes := Taking.mem_taken_all row placed
  obtain ⟨members, hmembers, -⟩ := Taking.members?_all row hpaths
  obtain ⟨values, hrow, hcover⟩ := hcovers.root.exists_values hmembers
  cases hrow
  have hnested : Datum.value (.array items) ∈ data (Taking.all row placed).extraction.nested ↔
      ∃ e ∈ (Taking.all row placed).taken, Datum.value (.array items) ∈ data (columns e.2) := by
    change _ ∈ ((Taking.all row placed).taken.map Taking.nestedRow).flatMap data ↔ _
    simp only [List.mem_flatMap, List.mem_map, exists_exists_and_eq_and]
    rfl
  rw [data_writePlan, List.mem_append, Taking.row_extraction hmembers,
    hcover.mem_data_columns, hnested]
  constructor
  · rintro (⟨e, he, hmem⟩ | hmem)
    · obtain ⟨others, hothers, hinside⟩ := hcovers.taken e he
      have hfirst := ((htakes e.1).mp (List.mem_map_of_mem he)).1
      exact ⟨e.1.path, others, .inr ⟨e.1, List.mem_of_find?_eq_some hfirst, rfl⟩, hothers,
        (hinside.mem_data_columns items).mp hmem⟩
    · exact ⟨[], row, .inl rfl, rfl, hmem⟩
  · rintro ⟨path, others, rfl | ⟨p, hp, rfl⟩, hothers, hmem⟩
    · cases hothers
      exact .inr hmem
    · obtain ⟨q, hq, hpath⟩ := exists_takes hp ((objectAt?_value _ _).mpr ⟨others, hothers⟩)
      obtain ⟨e, he, rfl⟩ := List.mem_map.mp ((htakes q).mpr hq)
      obtain ⟨values, hvalues, hinside⟩ := hcovers.taken e he
      rw [hpath, hothers] at hvalues
      cases hvalues
      exact .inl ⟨e, he, (hinside.mem_data_columns items).mpr hmem⟩

end TableGateway.Query

namespace TableGateway

open Query

/-- With the joins of a tree everything that a create or an update binds can be taken by the driver,
unless a list that holds an object, directly or in further lists, stands in a column of a row that
is written or is bound in a condition. -/
theorem Query.parameters_adaptable_iff (q : Query) (row : List (String × Value))
    (joins : List Join) (placed : List PlacedJoin) (hq : q.written? = some (.object row, joins))
    (hkeys : (row.map Prod.fst).Nodup) (hplaced : joins.mapM Join.placeInRow = .ok placed)
    (htree : IsTree placed) (s : Statement) (hs : q.statement = .ok s) :
    (∀ p ∈ s.parameters, p.IsAdaptable) ↔
      ∀ items, IsWritten (.object row) placed (.array items) ∨ .array items ∈ operands q →
        IsAdaptable (.array items) := by
  have hplan := WritePlan.of_object hkeys hplaced htree.path_ne
  have hvalues := values_of_statement hq hplan hs
  have hnone : ∀ d ∈ s.values, d.references = [] := by
    have hstray : ¬∃ p, IsStray (.object row) placed p := by
      rintro ⟨p, hp⟩
      obtain ⟨parent, hparent, hpath⟩ := htree.parent p hp.mem hp.nested
      exact hp.parent parent hparent hpath
    have hfree : ¬HoldReference s.values := by
      rw [hvalues, holdReference_append, holdReference_all row placed htree.path_ne]
      exact not_or.mpr ⟨hstray, not_holdReference_values _⟩
    intro d hd
    by_contra hne
    exact hfree ⟨d, hd, hne⟩
  have hbound (items : List Value) : Datum.value (.array items) ∈ s.values ↔
      IsWritten (.object row) placed (.array items) ∨ .array items ∈ operands q := by
    rw [hvalues, List.mem_append, mem_data_all row htree.path_ne]
    simp
  rw [s.parameters_eq, List.forall_mem_map]
  simp only [Parameter.isAdaptable_ofDatum, ← hbound]
  constructor
  · intro h items hitems
    exact (h _ hitems).2 items rfl
  · intro h d hd
    exact ⟨hnone d hd, fun items hitems => h items (hitems ▸ hd)⟩

/-- A task with its owner. Its options are an object, which is marked as JSON with the list in it,
and the tags of the owner are in lists alone. -/
theorem Query.parameters_adaptable_owner :
    let row : List (String × Value) := [
      ("options", .object [("steps", .array [.object [("days", .int 2)]])]),
      ("owner", .object [("tags", .array [.string "a", .array [.string "b"]])])]
    let users : Join := ⟨.string "users", .array [.string "owner"], .string "owner", .string "id"⟩
    ∃ s, (Query.create { source := "tasks", row := .object row, joins := [users] }).statement =
      .ok s ∧ ∀ p ∈ s.parameters, p.IsAdaptable := by
  intro row users
  have htree : IsTree [⟨"users", ["owner"], "owner", "id"⟩] := ⟨by simp, by simp⟩
  obtain ⟨s, hs⟩ : ∃ s, (Query.create
    { source := "tasks", row := .object row, joins := [users] }).statement = .ok s := ⟨_, by cbv⟩
  have hiff := Query.parameters_adaptable_iff (.create
    { source := "tasks", row := .object row, joins := [users] }) row [users] _ rfl (by decide) rfl
    htree s hs
  refine ⟨s, hs, hiff.mpr ?_⟩
  rintro items (⟨path, values, rfl | ⟨p, hp, rfl⟩, hget, key, hmem⟩ | hmem)
  · cases hget
    simp [row] at hmem
  · obtain rfl := List.mem_singleton.mp hp
    cases hget
    simp only [List.mem_singleton, Prod.mk.injEq, Value.array.injEq] at hmem
    obtain ⟨-, rfl⟩ := hmem
    refine .array (List.forall_mem_cons.mpr ⟨.string "a", List.forall_mem_singleton.mpr ?_⟩)
    exact .array (List.forall_mem_singleton.mpr (.string "b"))
  · cases hmem

/-- An object inside of a list is not marked as JSON. -/
theorem Query.parameters_not_adaptable :
    ∃ s, (Query.create
        { source := "t", row := .object [("a", .array [.object [("b", .int 1)]])] }).statement =
          .ok s ∧
      s.parameters = [.plain (.value (.array [.object [("b", .int 1)]]))] ∧
      ¬∀ p ∈ s.parameters, p.IsAdaptable := by
  obtain ⟨s, hs, hparameters⟩ : ∃ s, (Query.create
      { source := "t", row := .object [("a", .array [.object [("b", .int 1)]])] }).statement =
        .ok s ∧ s.parameters = [.plain (.value (.array [.object [("b", .int 1)]]))] :=
    ⟨_, by cbv, by cbv⟩
  refine ⟨s, hs, hparameters, fun hall => ?_⟩
  rw [hparameters] at hall
  cases hall _ List.mem_cons_self with
  | array hitems => cases hitems _ List.mem_cons_self

end TableGateway
