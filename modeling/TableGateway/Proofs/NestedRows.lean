import Mathlib
import TableGateway.Proofs.Inline

/-!
# Taking nested rows out of a row

For joins at paths of names the extraction of nested rows never fails. It is a fold of steps on a
single datum: each step finds the object at the path of a join, remembers its members for that join
and leaves a reference in its place.
-/

namespace TableGateway.Query

/-- Members as the columns of a row. -/
def columns (members : List (String × Datum)) : Row :=
  members.map fun m => (.string m.1, m.2)

@[simp] lemma columns_cons (key : String) (d : Datum) (rest : List (String × Datum)) :
    columns ((key, d) :: rest) = (.string key, d) :: columns rest := rfl

/-- The members of the object at a path. -/
def Datum.objectAt? (d : Datum) (path : List String) : Option (List (String × Datum)) :=
  (d.get? path).bind Datum.members?

/-- The reference to the row that is inserted for a join. -/
def PlacedJoin.reference (p : PlacedJoin) : Reference :=
  ⟨p.foreignProperty, aliasOf p.path⟩

/-- A datum of which nested rows have been taken out, each for a join. -/
structure Taking where
  taken : List (PlacedJoin × List (String × Datum)) := []
  root : Datum

namespace Taking

/-- Takes out the row at the path of a join, if there is one. -/
def take (t : Taking) (p : PlacedJoin) : Taking :=
  match t.root.objectAt? p.path with
  | none => t
  | some members => ⟨t.taken ++ [(p, members)], t.root.set p.path (.reference p.reference)⟩

/-- The nested row that is taken out for a join. -/
def nestedRow (e : PlacedJoin × List (String × Datum)) : NestedRow :=
  ⟨aliasOf e.1.path, e.1.source, columns e.2, e.1.foreignProperty⟩

def extraction (t : Taking) : Extraction :=
  ⟨t.taken.map nestedRow, columns (t.root.members?.getD [])⟩

end Taking

lemma eq_map_string_of_mapM_asText {items : List Value} {names : List String}
    (h : items.mapM Value.asText = .ok names) : items = names.map .string := by
  induction items generalizing names with
  | nil =>
    cases h
    rfl
  | cons v rest ih =>
    rw [List.mapM_cons] at h
    obtain ⟨name, hv, h⟩ := exists_of_bind_eq_ok h
    obtain ⟨others, hrest, h⟩ := exists_of_bind_eq_ok h
    cases h
    cases v with
    | string s =>
      cases hv
      rw [ih hrest, List.map_cons]
    | _ => cases hv

lemma Join.items_of_named {j : Join} {p : PlacedJoin} (h : j.named = .ok p) :
    j.path.items = .ok (p.path.map .string) := by
  obtain ⟨items, hitems, h⟩ := exists_of_bind_eq_ok h
  obtain ⟨names, hnames, h⟩ := exists_of_bind_eq_ok h
  cases h
  exact eq_map_string_of_mapM_asText hnames ▸ hitems

lemma Join.of_placeInRow {j : Join} {p : PlacedJoin} (h : j.placeInRow = .ok p) :
    j.path.items = .ok (p.path.map .string) ∧ j.path.inOrder = .ok () := by
  obtain ⟨named, hnamed, h⟩ := exists_of_bind_eq_ok h
  obtain ⟨⟨⟩, horder, h⟩ := exists_of_bind_eq_ok h
  cases h
  exact ⟨items_of_named hnamed, horder⟩

lemma valueUnder?_columns (key : String) (members : List (String × Datum)) :
    valueUnder? (.string key) (columns members) = members.lookup key := by
  unfold valueUnder? columns
  induction members with
  | nil => rfl
  | cons m rest ih =>
    obtain ⟨name, d⟩ := m
    by_cases hkey : key = name
    · simp [hkey]
    · have hlookup : (key == name) = false := beq_false_of_ne hkey
      have hfind : ¬name = key := fun h => hkey h.symm
      simpa [hlookup, hfind, List.lookup_cons] using ih

lemma Datum.membersAt?_string (d : Datum) (path : List String) :
    d.membersAt? (path.map .string) = .ok (d.objectAt? path) := by
  induction path generalizing d with
  | nil => rfl
  | cons key path ih =>
    unfold Datum.objectAt?
    rw [List.map_cons, Datum.membersAt?, Datum.get?]
    cases d.members? with
    | none => rfl
    | some members =>
      dsimp only [Option.bind_some]
      cases members.lookup key with
      | none => rfl
      | some inner => exact ih inner

lemma Datum.objectAt?_cons {d : Datum} {members : List (String × Datum)}
    (h : d.members? = some members) (key : String) (path : List String) :
    d.objectAt? (key :: path) = (members.lookup key).bind (·.objectAt? path) := by
  unfold Datum.objectAt?
  rw [Datum.get?, h, Option.bind_some]
  cases members.lookup key <;> rfl

lemma Datum.members?_set {d : Datum} {members : List (String × Datum)}
    (h : d.members? = some members) (key : String) (path : List String) (new : Datum) :
    (d.set (key :: path) new).members? = some (modifyMember key (·.set path new) members) := by
  rw [Datum.set, h]
  rfl

lemma Row.set_columns {members : List (String × Datum)} (hkeys : (members.map Prod.fst).Nodup)
    (key : String) (path : List String) (new : Datum) :
    Row.set (columns members) (key :: path) new =
      columns (modifyMember key (·.set path new) members) := by
  unfold columns
  rw [Row.set, List.map_map]
  induction members with
  | nil => rfl
  | cons m rest ih =>
    rw [List.map_cons, List.nodup_cons] at hkeys
    rw [modifyMember, List.map_cons]
    split
    · next h =>
      have hrest : ∀ e ∈ rest, e.1 ≠ key := by
        intro e he hkey
        apply hkeys.1
        rw [h, ← hkey]
        exact List.mem_map_of_mem he
      rw [List.map_cons]
      congr 1
      · simp [h]
      · apply List.map_congr_left
        intro e he
        simp [hrest e he]
    · next h =>
      rw [List.map_cons, ← ih hkeys.2]
      congr 1
      simp [h]

namespace Taking

variable {t : Taking} {members : List (String × Datum)}

lemma row_extraction (hroot : t.root.members? = some members) :
    t.extraction.row = columns members := by
  rw [extraction, hroot, Option.getD_some]

lemma extract_extraction {join : Join} {p : PlacedJoin} (hp : join.placeInRow = .ok p)
    (hpath : p.path ≠ []) (hroot : t.root.members? = some members)
    (hkeys : (members.map Prod.fst).Nodup) :
    t.extraction.extract join = .ok (t.take p).extraction := by
  obtain ⟨hitems, -⟩ := Join.of_placeInRow hp
  obtain ⟨key, path, hcons⟩ := List.exists_cons_of_ne_nil hpath
  have hat : Row.membersAt? t.extraction.row (.string key) (path.map .string) =
      .ok (t.root.objectAt? p.path) := by
    rw [hcons, Datum.objectAt?_cons hroot, Row.membersAt?, row_extraction hroot,
      valueUnder?_columns]
    cases members.lookup key with
    | none => rfl
    | some d => exact d.membersAt?_string path
  unfold Extraction.extract
  rw [hitems, hcons]
  change ((Row.membersAt? t.extraction.row (.string key) (path.map .string)).mapError _ >>= _) = _
  rw [hat]
  unfold take
  cases hobject : t.root.objectAt? p.path with
  | none => rfl
  | some inner =>
    change (join.placeInRow.mapError _ >>= _) = _
    rw [hp]
    change Except.ok (Extraction.mk _ (t.extraction.row.set p.path (.reference p.reference))) = _
    have hset : t.extraction.row.set p.path (.reference p.reference) =
        columns ((t.root.set p.path (.reference p.reference)).members?.getD []) := by
      rw [hcons, row_extraction hroot, Row.set_columns hkeys, Datum.members?_set hroot,
        Option.getD_some]
    rw [hset]
    simp [extraction, nestedRow, columns]

lemma members?_take (hroot : t.root.members? = some members) {p : PlacedJoin}
    (hpath : p.path ≠ []) :
    ∃ others, (t.take p).root.members? = some others ∧
      others.map Prod.fst = members.map Prod.fst := by
  obtain ⟨key, path, hcons⟩ := List.exists_cons_of_ne_nil hpath
  unfold take
  cases t.root.objectAt? p.path with
  | none => exact ⟨members, hroot, rfl⟩
  | some inner =>
    refine ⟨modifyMember key (·.set path (.reference p.reference)) members, ?_, ?_⟩
    · rw [hcons]
      exact Datum.members?_set hroot key path _
    · exact map_fst_modifyMember key _ members

lemma foldlM_extract {joins : List Join} {placed : List PlacedJoin}
    (hplaced : List.Forall₂ (fun j p => j.placeInRow = .ok p) joins placed)
    (hpaths : ∀ p ∈ placed, p.path ≠ []) (hroot : t.root.members? = some members)
    (hkeys : (members.map Prod.fst).Nodup) :
    joins.foldlM Extraction.extract t.extraction = .ok (placed.foldl take t).extraction := by
  induction hplaced generalizing t members with
  | nil => rfl
  | @cons join p joins placed hp _ ih =>
    have hpath := hpaths p List.mem_cons_self
    obtain ⟨others, hothers, hfst⟩ := members?_take hroot hpath
    rw [List.foldlM_cons, extract_extraction hp hpath hroot hkeys, List.foldl_cons]
    apply ih
    · intro q hq
      exact hpaths q (List.mem_cons_of_mem p hq)
    · exact hothers
    · rwa [hfst]

/-- Takes out the rows at the paths of the joins, the deepest first. -/
def all (row : List (String × Value)) (placed : List PlacedJoin) : Taking :=
  (placed.mergeSort fun a b => b.path.length ≤ a.path.length).foldl take
    { root := .value (.object row) }

end Taking

lemma placed_eq_map {joins : List Join} {placed : List PlacedJoin}
    (h : joins.mapM Join.placeInRow = .ok placed) :
    ∃ f : Join → PlacedJoin, placed = joins.map f ∧ ∀ j ∈ joins, j.placeInRow = .ok (f j) := by
  refine ⟨fun j => j.placeInRow.toOption.getD ⟨"", [], "", ""⟩, ?_⟩
  induction joins generalizing placed with
  | nil =>
    cases h
    exact ⟨rfl, by simp⟩
  | cons j rest ih =>
    rw [List.mapM_cons] at h
    obtain ⟨p, hj, h⟩ := exists_of_bind_eq_ok h
    obtain ⟨others, hrest, h⟩ := exists_of_bind_eq_ok h
    cases h
    obtain ⟨hothers, hall⟩ := ih hrest
    constructor
    · rw [List.map_cons, ← hothers, hj]
      rfl
    · intro k hk
      rcases List.mem_cons.mp hk with rfl | hk
      · simp [hj, Except.toOption]
      · exact hall k hk

lemma Join.depth_of_placeInRow {j : Join} {p : PlacedJoin} (h : j.placeInRow = .ok p) :
    j.depth = p.path.length := by
  obtain ⟨hitems, -⟩ := Join.of_placeInRow h
  unfold Value.items at hitems
  unfold Join.depth
  cases helements : j.path.elements? with
  | none =>
    rw [helements] at hitems
    cases hitems
  | some elements =>
    rw [helements] at hitems
    cases hitems
    simp

lemma forall₂_deepestFirst {joins : List Join} {placed : List PlacedJoin}
    (h : joins.mapM Join.placeInRow = .ok placed) :
    List.Forall₂ (fun j p => j.placeInRow = .ok p) (deepestFirst joins)
      (placed.mergeSort fun a b => b.path.length ≤ a.path.length) := by
  obtain ⟨f, rfl, hf⟩ := placed_eq_map h
  have hsort : (deepestFirst joins).map f =
      (joins.map f).mergeSort fun a b => b.path.length ≤ a.path.length := by
    apply List.map_mergeSort
    intro a ha b hb
    rw [Join.depth_of_placeInRow (hf a ha), Join.depth_of_placeInRow (hf b hb)]
  rw [← hsort, List.forall₂_map_right_iff, List.forall₂_same]
  intro j hj
  exact hf j (List.mem_mergeSort.mp hj)

lemma forM_items {joins : List Join} (h : ∀ j ∈ joins, ∃ items, j.path.items = .ok items) :
    (joins.forM fun join => join.path.items.map fun _ => ()) = .ok () := by
  induction joins with
  | nil => rfl
  | cons j rest ih =>
    obtain ⟨items, hitems⟩ := h j List.mem_cons_self
    change (j.path.items.map (fun _ => ()) >>= fun _ => rest.forM _) = _
    rw [hitems]
    exact ih fun k hk => h k (List.mem_cons_of_mem j hk)

/-- The plan of a write whose row is an object. -/
lemma WritePlan.of_members (row : List (String × Value)) (joins : List Join) :
    WritePlan.of (.object row) joins = (do
      (joins.forM fun join => join.path.items.map fun _ => ()).mapError .data
      let x ← (deepestFirst joins).foldlM Extraction.extract
        { row := columns (row.map fun m => (m.1, .value m.2)) }
      return ⟨x.nested, x.row⟩) := by
  have hcolumns : (row.map fun m => (Value.string m.1, m.2)).map (fun c => (c.1, Datum.value c.2)) =
      columns (row.map fun m => (m.1, .value m.2)) := by
    simp [columns]
  rw [← hcolumns]
  rfl

/-- The plan of a write whose joins name places in its row. -/
lemma WritePlan.of_object {row : List (String × Value)} {joins : List Join}
    {placed : List PlacedJoin} (hkeys : (row.map Prod.fst).Nodup)
    (hplaced : joins.mapM Join.placeInRow = .ok placed) (hpaths : ∀ p ∈ placed, p.path ≠ []) :
    WritePlan.of (.object row) joins =
      .ok ⟨(Taking.all row placed).extraction.nested, (Taking.all row placed).extraction.row⟩ := by
  have hitems : ∀ j ∈ joins, ∃ items, j.path.items = .ok items := by
    obtain ⟨f, -, hf⟩ := placed_eq_map hplaced
    exact fun j hj => ⟨_, (Join.of_placeInRow (hf j hj)).1⟩
  have hfold := Taking.foldlM_extract (t := { root := .value (.object row) })
    (forall₂_deepestFirst hplaced)
    (fun p hp => hpaths p (List.mem_mergeSort.mp hp)) rfl (by rw [List.map_map]; exact hkeys)
  rw [WritePlan.of_members, forM_items hitems]
  change (List.foldlM Extraction.extract _ (deepestFirst joins) >>= _) = _
  rw [← Taking.row_extraction (t := { root := .value (.object row) }) rfl]
  exact congrArg (· >>= _) hfold

/-! ### What is left -/

lemma Datum.exists_of_get?_cons {d old : Datum} {key : String} {path : List String}
    (h : d.get? (key :: path) = some old) :
    ∃ members inner, d.members? = some members ∧ members.lookup key = some inner ∧
      inner.get? path = some old := by
  rw [Datum.get?] at h
  cases hmembers : d.members? with
  | none => simp [hmembers] at h
  | some members =>
    cases hinner : members.lookup key with
    | none => simp [hmembers, hinner] at h
    | some inner => exact ⟨members, inner, rfl, hinner, by simpa [hmembers, hinner] using h⟩

/-- Where a reference is put nothing is left of what was there, and the rest stays. -/
lemma Datum.objectAt?_set_reference {d old : Datum} {path : List String}
    (hold : d.get? path = some old) (r : Reference) (q : List String) :
    ((d.set path (.reference r)).objectAt? q).isSome ↔
      (d.objectAt? q).isSome ∧ ¬path <+: q := by
  induction path generalizing d q with
  | nil =>
    have hnone : (Datum.reference r).objectAt? q = none := by
      cases q <;> rfl
    simp [Datum.set, hnone]
  | cons key path ih =>
    obtain ⟨members, inner, hmembers, hinner, hinside⟩ := Datum.exists_of_get?_cons hold
    have hset := Datum.members?_set hmembers key path (.reference r)
    cases q with
    | nil => simp [Datum.objectAt?, Datum.get?, hset, hmembers]
    | cons k q =>
      rw [Datum.objectAt?_cons hset, Datum.objectAt?_cons hmembers, lookup_modifyMember,
        List.cons_prefix_cons]
      by_cases hk : k = key
      · subst hk
        simpa [hinner] using ih hinside q
      · have hkey : key ≠ k := fun h => hk h.symm
        simp [hk, hkey]

lemma Datum.objectAt?_eq_some {d : Datum} {path : List String} {members : List (String × Datum)} :
    d.objectAt? path = some members ↔
      ∃ inner, d.get? path = some inner ∧ inner.members? = some members :=
  Option.bind_eq_some_iff

namespace Taking

variable {t : Taking} {members : List (String × Datum)}

lemma take_of_none {p : PlacedJoin} (h : t.root.objectAt? p.path = none) : t.take p = t := by
  rw [take, h]

lemma take_of_some {p : PlacedJoin} (h : t.root.objectAt? p.path = some members) :
    t.take p = ⟨t.taken ++ [(p, members)], t.root.set p.path (.reference p.reference)⟩ := by
  rw [take, h]

/-- What was taken out is gone with all that was in it, and everything else is still there. -/
structure Sound (start : Datum) (t : Taking) : Prop where
  nodup : (t.taken.map (·.1.path)).Nodup
  objectAt? : ∀ path, (t.root.objectAt? path).isSome ↔
    (start.objectAt? path).isSome ∧ ∀ e ∈ t.taken, ¬e.1.path <+: path

namespace Sound

variable {start : Datum}

lemma nothing_taken (start : Datum) : Sound start { root := start } where
  nodup := List.nodup_nil
  objectAt? := by simp

lemma path_ne (h : Sound start t) {p : PlacedJoin} (hp : t.root.objectAt? p.path = some members)
    {e : PlacedJoin × List (String × Datum)} (he : e ∈ t.taken) : e.1.path ≠ p.path := by
  intro hpath
  have hsome : (t.root.objectAt? p.path).isSome := by rw [hp]; rfl
  exact ((h.objectAt? p.path).mp hsome).2 e he (hpath ▸ List.prefix_rfl)

lemma take (h : Sound start t) (p : PlacedJoin) : Sound start (t.take p) := by
  cases hp : t.root.objectAt? p.path with
  | none => rwa [take_of_none hp]
  | some members =>
    obtain ⟨inner, hinner, -⟩ := Datum.objectAt?_eq_some.mp hp
    rw [take_of_some hp]
    constructor
    · rw [List.map_append, List.nodup_append]
      refine ⟨h.nodup, List.nodup_singleton _, ?_⟩
      intro a ha b hb
      obtain ⟨e, he, rfl⟩ := List.mem_map.mp ha
      rw [List.map_singleton, List.mem_singleton] at hb
      subst hb
      exact h.path_ne hp he
    · intro path
      rw [Datum.objectAt?_set_reference hinner, h.objectAt?, and_assoc]
      simp [or_imp, forall_and]

lemma foldl_take (h : Sound start t) (placed : List PlacedJoin) :
    Sound start (placed.foldl Taking.take t) :=
  List.foldlRecOn placed Taking.take h fun _ h p _ => h.take p

end Sound

/-- Whatever is taken out, the columns of the row stay the same. -/
lemma members?_all (row : List (String × Value)) {placed : List PlacedJoin}
    (hpaths : ∀ p ∈ placed, p.path ≠ []) :
    ∃ members, (all row placed).root.members? = some members ∧
      members.map Prod.fst = row.map Prod.fst := by
  apply List.foldlRecOn (motive := fun t : Taking => ∃ members, t.root.members? = some members ∧
    members.map Prod.fst = row.map Prod.fst)
  · exact ⟨_, rfl, List.map_map⟩
  · intro t ht p hp
    obtain ⟨members, hmembers, hfst⟩ := ht
    obtain ⟨others, hothers, hsame⟩ :=
      members?_take hmembers (hpaths p (List.mem_mergeSort.mp hp))
    exact ⟨others, hothers, hsame.trans hfst⟩

end Taking

end TableGateway.Query
