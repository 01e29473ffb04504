import Mathlib
import TableGateway.Proofs.Aliases
import TableGateway.Proofs.NestedRows
import TableGateway.Proofs.Writes

/-!
# Restoring written rows

What a query writes can be read back. A nested insertion gives the row with its columns and values;
a reference, in a cell or inside of a bound value, stands for the row of the insertion that it
names. Read this way, the main assignments give the row that was to be written. The invariant of
taking rows out is that the datum restores to that row at every moment.
-/

namespace TableGateway.Query

/-! ### Reading back -/

mutual

/-- The value of a datum, with named rows in the place of references. -/
def Datum.restored (rows : List (String × Value)) : Datum → Option Value
  | .value v => some v
  | .object members => (restoredMembers rows members).map .object
  | .reference r => rows.lookup r.name

def restoredMembers (rows : List (String × Value)) :
    List (String × Datum) → Option (List (String × Value))
  | [] => some []
  | (key, d) :: rest => do
    let v ← d.restored rows
    return (key, v) :: (← restoredMembers rows rest)

end

/-- The value of a cell; its slot carries the number of a bound value. -/
def Cell.restored (values : List Datum) (rows : List (String × Value)) : Cell → Option Value
  | bound [.slot (k + 1)] => values[k]?.bind (Datum.restored rows)
  | bound _ => none
  | reference r => rows.lookup r.name

/-- A column and its value. -/
def Assignment.restored (values : List Datum) (rows : List (String × Value)) (a : Assignment) :
    Option (String × Value) :=
  match a.column with
  | .string column => (a.cell.restored values rows).map (column, ·)
  | _ => none

/-- The row of a nested insertion under its name. -/
def NestedInsertion.restored (values : List Datum) (rows : List (String × Value))
    (n : NestedInsertion) : Option (String × Value) :=
  (n.insertion.assignments.mapM (Assignment.restored values rows)).map fun row =>
    (n.name, .object row)

/-- The rows of the nested insertions, each read with those before it. -/
def Write.rows (values : List Datum) (w : Write) : Option (List (String × Value)) :=
  w.insertions.foldlM (fun rows n => (n.restored values rows).map fun row => rows ++ [row]) []

/-- The main row, read with the rows of the nested insertions. -/
def Write.restored (values : List Datum) (w : Write) : Option (List (String × Value)) := do
  w.assignments.mapM (Assignment.restored values (← w.rows values))

/-! ### Restoring data -/

section Data

variable {rows : List (String × Value)} {d old new : Datum} {members : List (String × Datum)}

mutual

lemma Datum.restored_append (more : List (String × Value)) :
    ∀ {d : Datum} {v : Value}, d.restored rows = some v → d.restored (rows ++ more) = some v
  | .value _, _, h => h
  | .object members, _, h => by
    rw [Datum.restored, Option.map_eq_some_iff] at h ⊢
    obtain ⟨values, hvalues, hv⟩ := h
    exact ⟨values, restoredMembers_append more hvalues, hv⟩
  | .reference r, _, h => by
    rw [Datum.restored] at h ⊢
    rw [List.lookup_append, h, Option.some_or]

lemma restoredMembers_append (more : List (String × Value)) :
    ∀ {members : List (String × Datum)} {values : List (String × Value)},
      restoredMembers rows members = some values →
        restoredMembers (rows ++ more) members = some values
  | [], _, h => h
  | (key, d) :: rest, values, h => by
    obtain ⟨v, hv, h⟩ := Option.bind_eq_some_iff.mp h
    obtain ⟨others, hothers, h⟩ := Option.bind_eq_some_iff.mp h
    rw [restoredMembers, Datum.restored_append more hv, restoredMembers_append more hothers]
    exact h

end

lemma restoredMembers_value (members : List (String × Value)) :
    restoredMembers rows (members.map fun m => (m.1, .value m.2)) = some members := by
  induction members with
  | nil => rfl
  | cons m rest ih =>
    rw [List.map_cons, restoredMembers, ih]
    rfl

lemma Datum.restored_of_members? (h : d.members? = some members) :
    d.restored rows = (restoredMembers rows members).map .object := by
  cases d with
  | value v =>
    obtain ⟨values, hvalues, rfl⟩ := Option.map_eq_some_iff.mp h
    cases v with
    | object values' =>
      cases hvalues
      rw [restoredMembers_value]
      rfl
    | _ => cases hvalues
  | object members' =>
    cases h
    rfl
  | reference r => cases h

lemma restoredMembers_modifyMember {key : String} {f : Datum → Datum}
    (hlookup : members.lookup key = some old) (hf : (f old).restored rows = old.restored rows) :
    restoredMembers rows (modifyMember key f members) = restoredMembers rows members := by
  induction members with
  | nil => cases hlookup
  | cons m rest ih =>
    obtain ⟨name, d⟩ := m
    rw [modifyMember]
    by_cases hname : name = key
    · subst hname
      rw [List.lookup_cons_self] at hlookup
      cases hlookup
      rw [if_pos rfl, restoredMembers, restoredMembers, hf]
    · have hkey : (key == name) = false := beq_false_of_ne fun h => hname h.symm
      rw [List.lookup_cons, hkey] at hlookup
      rw [if_neg hname, restoredMembers, restoredMembers, ih hlookup]

/-- Data in which a part is replaced by one of the same value keep their value. -/
lemma Datum.restored_set {path : List String} (hold : d.get? path = some old)
    (hnew : new.restored rows = old.restored rows) :
    (d.set path new).restored rows = d.restored rows := by
  induction path generalizing d with
  | nil =>
    cases hold
    exact hnew
  | cons key path ih =>
    obtain ⟨members, inner, hmembers, hinner, hinside⟩ := Datum.exists_of_get?_cons hold
    rw [Datum.restored_of_members? (Datum.members?_set hmembers key path new),
      Datum.restored_of_members? hmembers, restoredMembers_modifyMember hinner (ih hinside)]

lemma exists_restored_of_lookup {key : String} {values : List (String × Value)}
    (h : restoredMembers rows members = some values) (hlookup : members.lookup key = some old) :
    ∃ v, old.restored rows = some v := by
  induction members generalizing values with
  | nil => cases hlookup
  | cons m rest ih =>
    obtain ⟨name, d⟩ := m
    obtain ⟨v, hv, h⟩ := Option.bind_eq_some_iff.mp h
    obtain ⟨others, hothers, -⟩ := Option.bind_eq_some_iff.mp h
    rw [List.lookup_cons] at hlookup
    split at hlookup
    · cases hlookup
      exact ⟨v, hv⟩
    · exact ih hothers hlookup

lemma Datum.exists_restored_of_get? {path : List String} {v : Value}
    (h : d.restored rows = some v) (hold : d.get? path = some old) :
    ∃ w, old.restored rows = some w := by
  induction path generalizing d v with
  | nil =>
    cases hold
    exact ⟨v, h⟩
  | cons key path ih =>
    obtain ⟨members, inner, hmembers, hinner, hinside⟩ := Datum.exists_of_get?_cons hold
    rw [Datum.restored_of_members? hmembers] at h
    obtain ⟨values, hvalues, -⟩ := Option.map_eq_some_iff.mp h
    obtain ⟨w, hw⟩ := exists_restored_of_lookup hvalues hinner
    exact ih hw hinside

end Data

/-! ### Restoring what was taken -/

namespace Taking

variable {t : Taking} {members : List (String × Datum)}

/-- A row that was taken out, under its name. -/
def restoredEntry (rows : List (String × Value)) (e : PlacedJoin × List (String × Datum)) :
    Option (String × Value) :=
  (restoredMembers rows e.2).map fun row => (aliasOf e.1.path, .object row)

/-- The rows that were taken out, each read with those before it. -/
def rows (t : Taking) : Option (List (String × Value)) :=
  t.taken.foldlM (fun rows e => (restoredEntry rows e).map fun row => rows ++ [row]) []

/-- With the rows that were taken out, the root still has the value that it had at the start. -/
structure Restores (start : Value) (t : Taking) : Prop where
  sound : Sound (.value start) t
  places : ∀ e ∈ t.taken, IsPlace e.1.path
  restored : ∃ rows, t.rows = some rows ∧ rows.map Prod.fst = t.taken.map (aliasOf ·.1.path) ∧
    t.root.restored rows = some start

/-- No row has the name of what is still there, as different paths have different aliases. -/
lemma lookup_of_left {start : Datum} {rows : List (String × Value)} {p : PlacedJoin}
    (hsound : Sound start t) (hplaces : ∀ e ∈ t.taken, IsPlace e.1.path) (hplace : IsPlace p.path)
    (hp : t.root.objectAt? p.path = some members)
    (hnames : rows.map Prod.fst = t.taken.map (aliasOf ·.1.path)) :
    rows.lookup (aliasOf p.path) = none := by
  rw [List.lookup_eq_none_iff]
  intro r hr
  have hname : r.1 ∈ t.taken.map (aliasOf ·.1.path) := hnames ▸ List.mem_map_of_mem hr
  obtain ⟨e, he, hname⟩ := List.mem_map.mp hname
  rw [bne_iff_ne, ← hname]
  intro halias
  exact hsound.path_ne hp he (aliasOf_injective hplace (hplaces e he) halias).symm

lemma Restores.nothing_taken (start : Value) : Restores start { root := .value start } where
  sound := Sound.nothing_taken _
  places := by simp
  restored := ⟨[], rfl, rfl, rfl⟩

lemma Restores.take {start : Value} (h : Restores start t) {p : PlacedJoin}
    (hplace : IsPlace p.path) : Restores start (t.take p) := by
  cases hp : t.root.objectAt? p.path with
  | none => rwa [take_of_none hp]
  | some members =>
    have hsound := h.sound.take p
    rw [take_of_some hp] at hsound ⊢
    obtain ⟨rows, hrows, hnames, hroot⟩ := h.restored
    obtain ⟨inner, hinner, hmembers⟩ := Datum.objectAt?_eq_some.mp hp
    obtain ⟨v, hv⟩ := Datum.exists_restored_of_get? hroot hinner
    obtain ⟨row, hrow, rfl⟩ :=
      Option.map_eq_some_iff.mp (Datum.restored_of_members? hmembers ▸ hv)
    have hfresh := lookup_of_left h.sound h.places hplace hp hnames
    constructor
    · exact hsound
    · intro e he
      rcases List.mem_append.mp he with he | he
      · exact h.places e he
      · cases List.mem_singleton.mp he
        exact hplace
    · refine ⟨rows ++ [(aliasOf p.path, .object row)], ?_, ?_, ?_⟩
      · unfold Taking.rows at hrows ⊢
        rw [List.foldlM_append, hrows]
        simp [restoredEntry, hrow]
      · rw [List.map_append, List.map_append, hnames]
        rfl
      · -- the reference stands for the very row whose place it takes
        have hreference : (Datum.reference p.reference).restored
            (rows ++ [(aliasOf p.path, .object row)]) = some (.object row) := by
          rw [Datum.restored, PlacedJoin.reference, List.lookup_append, hfresh]
          simp
        rw [Datum.restored_set hinner (hreference.trans (Datum.restored_append _ hv).symm)]
        exact Datum.restored_append _ hroot

end Taking

/-! ### Restoring what is written -/

end TableGateway.Query

namespace TableGateway

open Query

end TableGateway
