import Mathlib
import TableGateway.Proofs.FromClause
import TableGateway.Proofs.Markers
import TableGateway.Proofs.WithClause

/-!
# References among bound values

A reference is put in the place of a row that was taken out. Where the row around it is taken out
next, or is the main row, the reference becomes a column of its own and is written as SQL. Otherwise
it stays inside of a value that is bound. So a reference is bound exactly if some row is taken out
while the row around it, though it is no main row, has no join.
-/

namespace TableGateway.Query

/-- Some of the values hold a reference. -/
def HoldReference (values : List Datum) : Prop :=
  ∃ d ∈ values, d.references ≠ []

/-- A join takes out a nested row, and no join takes out the row around it. -/
structure IsStray (row : Value) (placed : List PlacedJoin) (p : PlacedJoin) : Prop where
  mem : p ∈ placed
  nested : 1 < p.path.length
  object : IsObjectAt row p.path
  parent : ∀ q ∈ placed, q.path ≠ p.path.dropLast

lemma holdReference_append (ds es : List Datum) :
    HoldReference (ds ++ es) ↔ HoldReference ds ∨ HoldReference es := by
  simp [HoldReference, or_and_right, exists_or]

/-! ### Where references are found -/

/-- There is a reference at a path of keys. -/
def Datum.IsReferenceAt (d : Datum) (path : List String) : Prop :=
  ∃ r, d.get? path = some (.reference r)

mutual

/-- No reference is hidden behind an earlier member with the same key. -/
def Datum.IsOpen : Datum → Prop
  | .object members => AreOpen members
  | _ => True

def AreOpen : List (String × Datum) → Prop
  | [] => True
  | (key, d) :: rest =>
    d.IsOpen ∧ AreOpen rest ∧ ∀ m ∈ rest, m.1 = key → m.2.references = []

end

section Data

variable {d old : Datum} {members : List (String × Datum)}

lemma mem_of_lookup {key : String} (h : members.lookup key = some old) : (key, old) ∈ members := by
  obtain ⟨before, after, rfl, -⟩ := List.lookup_eq_some_iff.mp h
  simp

lemma areOpen_value (members : List (String × Value)) :
    AreOpen (members.map fun m => (m.1, .value m.2)) := by
  induction members with
  | nil => trivial
  | cons m rest ih =>
    refine ⟨trivial, ih, ?_⟩
    intro e he _
    obtain ⟨n, -, rfl⟩ := List.mem_map.mp he
    rfl

lemma Datum.isOpen_of_members? (h : d.members? = some members) : d.IsOpen ↔ AreOpen members := by
  cases d with
  | value v =>
    obtain ⟨values, -, rfl⟩ := Option.map_eq_some_iff.mp h
    exact iff_of_true trivial (areOpen_value values)
  | object members' =>
    cases h
    rfl
  | reference r => cases h

lemma AreOpen.of_mem (h : AreOpen members) {m : String × Datum} (hm : m ∈ members) :
    m.2.IsOpen ∧ (m.2.references ≠ [] → members.lookup m.1 = some m.2) := by
  induction members with
  | nil => cases hm
  | cons first rest ih =>
    obtain ⟨hfirst, hrest, hhidden⟩ := h
    rcases List.mem_cons.mp hm with rfl | hm
    · exact ⟨hfirst, fun _ => List.lookup_cons_self⟩
    · obtain ⟨hopen, hlookup⟩ := ih hrest hm
      refine ⟨hopen, fun hne => ?_⟩
      have hkey : (m.1 == first.1) = false :=
        beq_false_of_ne fun hkey => hne (hhidden m hm hkey)
      rw [List.lookup_cons, hkey]
      exact hlookup hne

lemma mem_of_mem_modifyMember {key : String} {f : Datum → Datum} {m : String × Datum}
    (hm : m ∈ modifyMember key f members) (hkey : m.1 ≠ key) : m ∈ members := by
  induction members with
  | nil => cases hm
  | cons first rest ih =>
    rw [modifyMember] at hm
    split at hm
    · rcases List.mem_cons.mp hm with rfl | hm
      · exact absurd rfl hkey
      · exact List.mem_cons_of_mem _ hm
    · rcases List.mem_cons.mp hm with rfl | hm
      · exact List.mem_cons_self
      · exact List.mem_cons_of_mem _ (ih hm)

lemma AreOpen.modifyMember (h : AreOpen members) {key : String} {f : Datum → Datum}
    (hlookup : members.lookup key = some old) (hf : (f old).IsOpen) :
    AreOpen (modifyMember key f members) := by
  induction members with
  | nil => cases hlookup
  | cons m rest ih =>
    obtain ⟨name, d⟩ := m
    obtain ⟨hd, hrest, hhidden⟩ := h
    rw [TableGateway.modifyMember]
    by_cases hname : name = key
    · subst hname
      rw [List.lookup_cons_self] at hlookup
      cases hlookup
      rw [if_pos rfl]
      exact ⟨hf, hrest, hhidden⟩
    · have hkey : (key == name) = false := beq_false_of_ne fun h => hname h.symm
      rw [List.lookup_cons, hkey] at hlookup
      rw [if_neg hname]
      refine ⟨hd, ih hrest hlookup, fun e he hename => ?_⟩
      exact hhidden e (mem_of_mem_modifyMember he (hename.trans_ne hname)) hename

lemma Datum.IsOpen.set (h : d.IsOpen) {path : List String} (hold : d.get? path = some old)
    (r : Reference) : (d.set path (.reference r)).IsOpen := by
  induction path generalizing d with
  | nil => trivial
  | cons key path ih =>
    obtain ⟨members, inner, hmembers, hinner, hinside⟩ := Datum.exists_of_get?_cons hold
    rw [Datum.isOpen_of_members? (Datum.members?_set hmembers key path _)]
    have hopen := (Datum.isOpen_of_members? hmembers).mp h
    exact hopen.modifyMember hinner (ih (hopen.of_mem (mem_of_lookup hinner)).1 hinside)

lemma Datum.IsOpen.get? (h : d.IsOpen) {path : List String} (hold : d.get? path = some old) :
    old.IsOpen := by
  induction path generalizing d with
  | nil =>
    cases hold
    exact h
  | cons key path ih =>
    obtain ⟨members, inner, hmembers, hinner, hinside⟩ := Datum.exists_of_get?_cons hold
    have hopen := (Datum.isOpen_of_members? hmembers).mp h
    exact ih (hopen.of_mem (mem_of_lookup hinner)).1 hinside

lemma Datum.isReferenceAt_cons (h : d.members? = some members) {key : String}
    {path : List String} :
    d.IsReferenceAt (key :: path) ↔
      ∃ inner, members.lookup key = some inner ∧ inner.IsReferenceAt path := by
  unfold Datum.IsReferenceAt
  rw [Datum.get?, h, Option.bind_some]
  cases members.lookup key <;> simp

mutual

/-- A reference in a datum is found somewhere, as nothing hides it. -/
lemma Datum.exists_isReferenceAt :
    ∀ {d : Datum}, d.IsOpen → d.references ≠ [] → ∃ path, d.IsReferenceAt path
  | .value _, _, h => absurd rfl h
  | .object members, hopen, h => by
    obtain ⟨key, inner, path, hinner, hpath⟩ := exists_isReferenceAt_of_members hopen h
    exact ⟨key :: path, (Datum.isReferenceAt_cons rfl).mpr ⟨inner, hinner, hpath⟩⟩
  | .reference r, _, _ => ⟨[], r, rfl⟩

lemma exists_isReferenceAt_of_members :
    ∀ {members : List (String × Datum)}, AreOpen members → referencesIn members ≠ [] →
      ∃ key inner path, members.lookup key = some inner ∧ inner.IsReferenceAt path
  | [], _, h => absurd rfl h
  | (key, d) :: rest, ⟨hd, hrest, hhidden⟩, h => by
    by_cases hnone : d.references = []
    · rw [referencesIn, hnone, List.nil_append] at h
      obtain ⟨other, inner, path, hinner, r, hr⟩ := exists_isReferenceAt_of_members hrest h
      have hne : inner.references ≠ [] :=
        List.ne_nil_of_mem (Datum.references_subset_of_get? hr List.mem_cons_self)
      have hkey : (other == key) = false :=
        beq_false_of_ne fun hkey => hne (hhidden _ (mem_of_lookup hinner) hkey)
      exact ⟨other, inner, path, by rw [List.lookup_cons, hkey]; exact hinner, r, hr⟩
    · obtain ⟨path, hpath⟩ := Datum.exists_isReferenceAt hd hnone
      exact ⟨key, d, path, List.lookup_cons_self, hpath⟩

end

/-- Where a reference is put there is one, and nothing that was below is left. -/
lemma Datum.isReferenceAt_set {path : List String} (hold : d.objectAt? path = some members)
    (r : Reference) (q : List String) :
    (d.set path (.reference r)).IsReferenceAt q ↔
      q = path ∨ d.IsReferenceAt q ∧ ¬path <+: q := by
  induction path generalizing d q with
  | nil =>
    cases q with
    | nil => exact iff_of_true ⟨r, rfl⟩ (.inl rfl)
    | cons key q => simp [IsReferenceAt, Datum.set, Datum.get?, Datum.members?]
  | cons key path ih =>
    obtain ⟨old, hget, -⟩ := Datum.objectAt?_eq_some.mp hold
    obtain ⟨siblings, inner, hmembers, hinner, -⟩ := Datum.exists_of_get?_cons hget
    have hset := Datum.members?_set hmembers key path (.reference r)
    rw [Datum.objectAt?_cons hmembers, hinner, Option.bind_some] at hold
    cases q with
    | nil =>
      have hnone : ∀ e : Datum, ∀ others, e.members? = some others → ¬e.IsReferenceAt [] := by
        rintro e others he ⟨r', hr⟩
        cases hr
        cases he
      simp [hnone _ _ hset, hnone _ _ hmembers]
    | cons k q =>
      rw [Datum.isReferenceAt_cons hset, Datum.isReferenceAt_cons hmembers, lookup_modifyMember,
        List.cons_prefix_cons]
      by_cases hk : k = key
      · subst hk
        simpa [hinner] using ih hold q
      · have hkey : key ≠ k := fun h => hk h.symm
        simp [hk, hkey]

lemma mem_data_columns :
    d ∈ data (columns members) ↔ (∀ r, d ≠ .reference r) ∧ ∃ key, (key, d) ∈ members := by
  induction members with
  | nil => simp [columns]
  | cons m rest ih =>
    obtain ⟨key, e⟩ := m
    rw [columns_cons, data_cons, List.mem_append, ih]
    cases e with
    | reference r =>
      have hdata : data (Value.string key, Datum.reference r) = [] := rfl
      rw [hdata]
      aesop
    | _ =>
      change d ∈ [_] ∨ _ ↔ _
      aesop

/-- The references that a row binds are those that are found below its columns. -/
lemma holdReference_columns (h : AreOpen members) :
    HoldReference (data (columns members)) ↔
      ∃ key inner path, members.lookup key = some inner ∧ path ≠ [] ∧
        inner.IsReferenceAt path := by
  constructor
  · rintro ⟨d, hd, hne⟩
    obtain ⟨hvalue, key, hmem⟩ := mem_data_columns.mp hd
    obtain ⟨hopen, hlookup⟩ := h.of_mem hmem
    obtain ⟨path, r, hr⟩ := Datum.exists_isReferenceAt hopen hne
    refine ⟨key, d, path, hlookup hne, ?_, r, hr⟩
    rintro rfl
    cases hr
    exact hvalue r rfl
  · rintro ⟨key, inner, path, hinner, hpath, r, hr⟩
    refine ⟨inner, mem_data_columns.mpr ⟨?_, key, mem_of_lookup hinner⟩,
      List.ne_nil_of_mem (Datum.references_subset_of_get? hr List.mem_cons_self)⟩
    rintro r' rfl
    obtain ⟨k, path, rfl⟩ := List.exists_cons_of_ne_nil hpath
    cases hr

end Data

/-! ### What is left behind by taking rows out -/

/-- One path leads from another more than one step down. -/
def IsFarAbove (p q : List String) : Prop :=
  p <+: q ∧ p.length + 1 < q.length

namespace Taking

variable {t : Taking} {members : List (String × Datum)} {path : List String}
  {e : PlacedJoin × List (String × Datum)}

/-- A row was taken out, and the row around it was not. -/
def IsLeft (t : Taking) (e : PlacedJoin × List (String × Datum)) : Prop :=
  e ∈ t.taken ∧ ∀ f ∈ t.taken, f.1.path ≠ e.1.path.dropLast

/-- A row was taken out, and no row that holds it was. -/
def IsTop (t : Taking) (e : PlacedJoin × List (String × Datum)) : Prop :=
  e ∈ t.taken ∧ ∀ f ∈ t.taken, f.1.path <+: e.1.path → f.1.path = e.1.path

/-- References stand where rows were taken out, unless they went along with a row that holds them.
With the rows that were taken out references are bound for those that were left behind in them. -/
structure Planted (t : Taking) : Prop where
  isOpen : t.root.IsOpen
  isReferenceAt : ∀ path, t.root.IsReferenceAt path ↔ ∃ e, t.IsTop e ∧ e.1.path = path
  holdReference : HoldReference (data (t.taken.map nestedRow)) ↔
    ∃ e, t.IsLeft e ∧ ∃ f ∈ t.taken, IsFarAbove f.1.path e.1.path

/-- With the row at a path those references are bound that stand more than one step below it. -/
lemma Planted.holdReference_columns (h : t.Planted)
    (hpath : t.root.objectAt? path = some members) :
    HoldReference (data (columns members)) ↔ ∃ e, t.IsTop e ∧ IsFarAbove path e.1.path := by
  obtain ⟨inner, hinner, hmembers⟩ := Datum.objectAt?_eq_some.mp hpath
  have hopen := (Datum.isOpen_of_members? hmembers).mp (h.isOpen.get? hinner)
  have hbelow (key : String) (rest : List String) :
      t.root.IsReferenceAt (path ++ key :: rest) ↔
        ∃ inner, members.lookup key = some inner ∧ inner.IsReferenceAt rest := by
    rw [← Datum.isReferenceAt_cons hmembers]
    unfold Datum.IsReferenceAt
    rw [Datum.get?_append, hinner, Option.bind_some]
  rw [Query.holdReference_columns hopen]
  constructor
  · rintro ⟨key, d, rest, hd, hne, hreference⟩
    obtain ⟨e, he, heq⟩ := (h.isReferenceAt _).mp ((hbelow key rest).mpr ⟨d, hd, hreference⟩)
    have hlength := List.length_pos_iff.mpr hne
    refine ⟨e, he, heq ▸ List.prefix_append _ _, ?_⟩
    rw [heq, List.length_append, List.length_cons]
    omega
  · rintro ⟨e, he, ⟨suffix, hsuffix⟩, hlength⟩
    rw [← hsuffix, List.length_append] at hlength
    obtain ⟨key, rest, rfl⟩ := List.exists_cons_of_length_pos (l := suffix) (by omega)
    rw [List.length_cons] at hlength
    have hreference := (h.isReferenceAt _).mpr ⟨e, he, hsuffix.symm⟩
    obtain ⟨d, hd, hrest⟩ := (hbelow key rest).mp hreference
    exact ⟨key, d, rest, hd, List.length_pos_iff.mp (by omega), hrest⟩

/-- What holds a row is the row around it or more than one step above. -/
lemma IsLeft.isFarAbove (h : t.IsLeft e) {f : PlacedJoin × List (String × Datum)}
    (hf : f ∈ t.taken) (hleads : f.1.path <+: e.1.path) (hne : f.1.path ≠ e.1.path) :
    IsFarAbove f.1.path e.1.path := by
  refine ⟨hleads, ?_⟩
  have hshorter := hleads.length_le
  have hlength : f.1.path.length ≠ e.1.path.length := fun h => hne (hleads.eq_of_length h)
  have hparent : f.1.path.length ≠ e.1.path.dropLast.length := by
    intro heq
    have hbegins := List.prefix_of_prefix_length_le hleads (List.dropLast_prefix _) heq.le
    exact h.2 f hf (hbegins.eq_of_length heq)
  rw [List.length_dropLast] at hparent
  omega

lemma IsTop.isLeft (h : t.IsTop e) (hne : e.1.path ≠ []) : t.IsLeft e := by
  refine ⟨h.1, fun f hf hparent => ?_⟩
  have heq := congrArg List.length (h.2 f hf (hparent ▸ List.dropLast_prefix _))
  have hlength := List.length_pos_iff.mpr hne
  rw [hparent, List.length_dropLast] at heq
  omega

/-- Of the rows more than one step below a path one is left behind exactly if it is below some other
row as well, or if nothing around it was taken out. -/
lemma exists_isLeft_iff (t : Taking) (path : List String) :
    (∃ e, t.IsLeft e ∧ (IsFarAbove path e.1.path ∨ ∃ f ∈ t.taken, IsFarAbove f.1.path e.1.path)) ↔
      (∃ e, t.IsLeft e ∧ ∃ f ∈ t.taken, IsFarAbove f.1.path e.1.path) ∨
        ∃ e, t.IsTop e ∧ IsFarAbove path e.1.path := by
  constructor
  · rintro ⟨e, he, hpath | hrow⟩
    · by_cases htop : t.IsTop e
      · exact .inr ⟨e, htop, hpath⟩
      · have hinside : ∃ f ∈ t.taken, f.1.path <+: e.1.path ∧ f.1.path ≠ e.1.path := by
          simpa [IsTop, he.1] using htop
        obtain ⟨f, hf, hleads, hne⟩ := hinside
        exact .inl ⟨e, he, f, hf, he.isFarAbove hf hleads hne⟩
    · exact .inl ⟨e, he, hrow⟩
  · rintro (⟨e, he, hrow⟩ | ⟨e, he, hpath⟩)
    · exact ⟨e, he, .inr hrow⟩
    · refine ⟨e, he.isLeft ?_, .inl hpath⟩
      rintro hnil
      have hlength := hpath.2
      simp [hnil] at hlength

lemma planted_nothing_taken (v : Value) : Planted { root := .value v } where
  isOpen := trivial
  isReferenceAt path := by
    have hnone : ∀ (w : Value) (path : List String), ¬(Datum.value w).IsReferenceAt path := by
      rintro w path ⟨r, hr⟩
      have hmem := Datum.references_subset_of_get? hr List.mem_cons_self
      cases hmem
    simp [hnone, IsTop]
  holdReference := by simp [HoldReference]

/-- The deepest rows are taken out first, so no row is put back among what was taken. -/
lemma Planted.take {start : Datum} (h : t.Planted) (hsound : Sound start t) {p : PlacedJoin}
    (hdeeper : ∀ e ∈ t.taken, p.path.length ≤ e.1.path.length) : (t.take p).Planted := by
  cases hp : t.root.objectAt? p.path with
  | none => rwa [take_of_none hp]
  | some members =>
    obtain ⟨inner, hinner, -⟩ := Datum.objectAt?_eq_some.mp hp
    have houtside : ∀ e ∈ t.taken, ¬e.1.path <+: p.path := by
      have hsome : (t.root.objectAt? p.path).isSome := by rw [hp]; rfl
      exact ((hsound.objectAt? p.path).mp hsome).2
    rw [take_of_some hp]
    constructor
    · exact h.isOpen.set hinner _
    · intro q
      rw [Datum.isReferenceAt_set hp, h.isReferenceAt]
      unfold IsTop
      simp only [List.mem_append, List.mem_singleton]
      constructor
      · rintro (rfl | ⟨⟨e, ⟨he, htop⟩, rfl⟩, hq⟩)
        · refine ⟨(p, members), ⟨.inr rfl, ?_⟩, rfl⟩
          rintro f (hf | rfl) hleads
          · exact absurd hleads (houtside f hf)
          · rfl
        · refine ⟨e, ⟨.inl he, ?_⟩, rfl⟩
          rintro f (hf | rfl) hleads
          · exact htop f hf hleads
          · exact absurd hleads hq
      · rintro ⟨e, ⟨he | rfl, htop⟩, rfl⟩
        · by_cases hq : p.path <+: e.1.path
          · exact .inl (htop _ (.inr rfl) hq).symm
          · exact .inr ⟨⟨e, ⟨he, fun f hf => htop f (.inl hf)⟩, rfl⟩, hq⟩
        · exact .inl rfl
    · rw [List.map_append, data_append, holdReference_append, h.holdReference]
      have hcolumns := h.holdReference_columns hp
      change _ ∨ HoldReference (data (columns members) ++ []) ↔ _
      rw [List.append_nil, hcolumns, ← exists_isLeft_iff]
      unfold IsLeft
      simp only [List.mem_append, List.mem_singleton]
      constructor
      · rintro ⟨e, ⟨he, hleft⟩, hfar⟩
        have hbelow : p.path.length + 1 < e.1.path.length := by
          rcases hfar with hfar | ⟨f, hf, hfar⟩
          · exact hfar.2
          · have hle := hdeeper f hf
            have hlt := hfar.2
            omega
        refine ⟨e, ⟨.inl he, ?_⟩, ?_⟩
        · rintro f (hf | rfl) hparent
          · exact hleft f hf hparent
          · have hlength : p.path.length = e.1.path.dropLast.length := congrArg List.length hparent
            rw [List.length_dropLast] at hlength
            omega
        · rcases hfar with hfar | ⟨f, hf, hfar⟩
          · exact ⟨(p, members), .inr rfl, hfar⟩
          · exact ⟨f, .inl hf, hfar⟩
      · rintro ⟨e, ⟨he, hleft⟩, f, hf, hfar⟩
        have habove : p.path.length ≤ f.1.path.length := by
          rcases hf with hf | rfl
          · exact hdeeper f hf
          · exact le_rfl
        have hmem : e ∈ t.taken := by
          rcases he with he | rfl
          · exact he
          · have hlt : f.1.path.length + 1 < p.path.length := hfar.2
            omega
        refine ⟨e, ⟨hmem, fun f hf => hleft f (.inl hf)⟩, ?_⟩
        rcases hf with hf | rfl
        · exact .inr ⟨f, hf, hfar⟩
        · exact .inl hfar

lemma Planted.foldl_take {start : Datum} {placed : List PlacedJoin} (h : t.Planted)
    (hsound : Sound start t)
    (hsorted : placed.Pairwise fun a b => b.path.length ≤ a.path.length)
    (hdeeper : ∀ p ∈ placed, ∀ e ∈ t.taken, p.path.length ≤ e.1.path.length) :
    (placed.foldl Taking.take t).Planted := by
  induction placed generalizing t with
  | nil => exact h
  | cons p rest ih =>
    obtain ⟨hfirst, hrest⟩ := List.pairwise_cons.mp hsorted
    apply ih (h.take hsound (hdeeper p List.mem_cons_self)) (hsound.take p) hrest
    intro q hq e he
    rcases (mem_taken_take e.1 p).mp (List.mem_map_of_mem he) with he | ⟨he, -⟩
    · obtain ⟨f, hf, hpath⟩ := List.mem_map.mp he
      rw [← hpath]
      exact hdeeper q (List.mem_cons_of_mem p hq) f hf
    · rw [he]
      exact hfirst q hq

lemma planted_all (row : List (String × Value)) (placed : List PlacedJoin) :
    (all row placed).Planted := by
  apply (planted_nothing_taken (.object row)).foldl_take (Sound.nothing_taken _)
  · exact List.pairwise_mergeSort'
      (Order.Preimage (fun p : PlacedJoin => p.path.length) (· ≥ ·)) placed
  · simp

end Taking

lemma Datum.isSome_objectAt?_of_prefix {d : Datum} {p q : List String}
    (h : (d.objectAt? q).isSome) (hleads : p <+: q) : (d.objectAt? p).isSome := by
  obtain ⟨suffix, rfl⟩ := hleads
  obtain ⟨members, hmembers⟩ := Option.isSome_iff_exists.mp h
  obtain ⟨inner, hinner, hinside⟩ := Datum.objectAt?_eq_some.mp hmembers
  rw [Datum.get?_append] at hinner
  obtain ⟨outer, houter, hrest⟩ := Option.bind_eq_some_iff.mp hinner
  unfold Datum.objectAt?
  rw [houter, Option.bind_some]
  cases suffix with
  | nil =>
    cases hrest
    rw [hinside]
    rfl
  | cons key suffix =>
    obtain ⟨others, -, hothers, -⟩ := Datum.exists_of_get?_cons hrest
    rw [hothers]
    rfl

lemma exists_takes {start : Datum} {placed : List PlacedJoin} {q : PlacedJoin} (hq : q ∈ placed)
    (hobject : (start.objectAt? q.path).isSome) :
    ∃ p, Taking.Takes start placed p ∧ p.path = q.path := by
  have hsome : (placed.find? (·.path = q.path)).isSome := by
    rw [List.find?_isSome]
    exact ⟨q, hq, by simp⟩
  obtain ⟨p, hp⟩ := Option.isSome_iff_exists.mp hsome
  have hpath : p.path = q.path := by simpa using List.find?_some hp
  exact ⟨p, ⟨by rw [hpath, hp], by rw [hpath]; exact hobject⟩, hpath⟩

/-- Among all that is planned to be bound is a reference exactly if a stray row is taken out. -/
lemma holdReference_all (row : List (String × Value)) (placed : List PlacedJoin)
    (hpaths : ∀ p ∈ placed, p.path ≠ []) :
    HoldReference (data (WritePlan.mk (Taking.all row placed).extraction.nested
        (Taking.all row placed).extraction.row)) ↔
      ∃ p, IsStray (.object row) placed p := by
  have hplanted := Taking.planted_all row placed
  have htakes := Taking.mem_taken_all row placed
  obtain ⟨members, hmembers, -⟩ := Taking.members?_all row hpaths
  have hroot : (Taking.all row placed).root.objectAt? [] = some members := hmembers
  rw [data_writePlan, holdReference_append, Taking.row_extraction hmembers,
    hplanted.holdReference_columns hroot]
  change HoldReference (data ((Taking.all row placed).taken.map Taking.nestedRow)) ∨ _ ↔ _
  rw [hplanted.holdReference, ← Taking.exists_isLeft_iff]
  constructor
  · rintro ⟨e, ⟨he, hleft⟩, hfar⟩
    obtain ⟨hfirst, hobject⟩ := (htakes e.1).mp (List.mem_map_of_mem he)
    have hnested : 1 < e.1.path.length := by
      rcases hfar with hfar | ⟨f, -, hfar⟩
      · exact hfar.2
      · have hlt := hfar.2
        omega
    refine ⟨e.1, List.mem_of_find?_eq_some hfirst, hnested, (objectAt?_value _ _).mp hobject, ?_⟩
    intro q hq hparent
    obtain ⟨p, hp⟩ := exists_takes hq
      (hparent ▸ Datum.isSome_objectAt?_of_prefix hobject (List.dropLast_prefix _))
    obtain ⟨f, hf, rfl⟩ := List.mem_map.mp ((htakes p).mpr hp.1)
    exact hleft f hf (hp.2.trans hparent)
  · rintro ⟨p, hp, hnested, hobject, hparent⟩
    obtain ⟨q, hq⟩ := exists_takes hp ((objectAt?_value _ _).mpr hobject)
    obtain ⟨e, he, rfl⟩ := List.mem_map.mp ((htakes q).mpr hq.1)
    refine ⟨e, ⟨he, fun f hf => ?_⟩, .inl ⟨List.nil_prefix, ?_⟩⟩
    · rw [hq.2]
      exact hparent f.1 (List.mem_of_find?_eq_some ((htakes f.1).mp (List.mem_map_of_mem hf)).1)
    · rw [hq.2]
      exact hnested

/-- A place in a row is a place among other joins. -/
lemma Join.place_of_placeInRow {j : Join} {p : PlacedJoin} (h : j.placeInRow = .ok p) :
    j.place = .ok p := by
  obtain ⟨named, hnamed, h⟩ := exists_of_bind_eq_ok h
  obtain ⟨⟨⟩, horder, h⟩ := exists_of_bind_eq_ok h
  cases h
  unfold Join.place
  rw [hnamed, horder, ok_bind]
  split <;> rfl

/-! ### What else is bound -/

/-- The values that a fragment binds: the items of the lists among its values count one by one. -/
def Raw.operands (r : Raw) : List Value :=
  match r.values with
  | none => []
  | some v => (items v).flatMap items

/-- The values that a comparison or a fragment binds. -/
def Condition.operands : Condition → List Value
  | term t => Raw.items t.value
  | raw r => r.operands
  | _ => []

/-- The values that the conditions of a query bind. -/
def operands : TableGateway.Query → List Value
  | .update q => (Condition.leavesOfEach q.conditions).flatMap Condition.operands
  | _ => []

lemma Raw.data_inline {r : Raw} {x : Rendering} (h : r.inline = .ok x) :
    data x = r.operands.map .value := by
  unfold operands
  cases hvalues : r.values with
  | none =>
    unfold inline at h
    rw [hvalues] at h
    cases h
    rfl
  | some v =>
    obtain ⟨fragment, -, hcount, rfl⟩ := exists_of_inline_eq_ok hvalues h
    exact data_inlineFill (by rw [Text.length_splitAt, hcount]; exact Nat.lt_succ_self _)

lemma Term.data_inline {source : String} {t : Term} {x : Rendering} (h : t.inline source = .ok x) :
    data x = (Raw.items t.value).map .value := by
  obtain ⟨field, v, operator⟩ := t
  by_cases harray : ∃ items, v = .array items
  · obtain ⟨items, rfl⟩ := harray
    cases items with
    | nil => cases h
    | cons v rest =>
      cases h
      simp [data_inlineAll, Raw.items]
  · have hne : ∀ items, v ≠ .array items := fun items hv => harray ⟨items, hv⟩
    have hone : Raw.items v = [v] := by
      cases v with
      | array items => exact absurd rfl (hne items)
      | _ => rfl
    rw [inline_of_ne_array source field operator hne] at h
    cases h
    simp [hone]

namespace Condition

variable {source : String}

mutual

lemma data_inline : ∀ {c : Condition} {x : Rendering}, c.inline source = .ok x →
    data x = (c.leaves.flatMap operands).map .value
  | all parts, x, h => by
    rw [inline] at h
    obtain ⟨xs, hxs, h⟩ := exists_of_bind_eq_ok h
    cases h
    rw [data_grouped, leaves]
    exact data_inlineEach hxs
  | any parts, x, h => by
    rw [inline] at h
    obtain ⟨xs, hxs, h⟩ := exists_of_bind_eq_ok h
    cases h
    rw [data_grouped, leaves]
    exact data_inlineEach hxs
  | raw r, x, h => by simpa [leaves, operands] using Raw.data_inline h
  | term t, x, h => by simpa [leaves, operands] using Term.data_inline h
  | unsupported v, x, h => by cases h

lemma data_inlineEach : ∀ {cs : List Condition} {xs : List Rendering},
    inlineEach source cs = .ok xs → data xs = ((leavesOfEach cs).flatMap operands).map .value
  | [], xs, h => by
    cases h
    rfl
  | c :: rest, xs, h => by
    rw [inlineEach] at h
    obtain ⟨x, hx, h⟩ := exists_of_bind_eq_ok h
    obtain ⟨xs, hxs, h⟩ := exists_of_bind_eq_ok h
    cases h
    rw [data_cons, data_inline hx, data_inlineEach hxs, leavesOfEach, List.flatMap_append,
      List.map_append]

end

end Condition

lemma data_inlineWhere {source : String} {conditions : List Condition} {x : Rendering}
    (h : inlineWhere source conditions = .ok x) :
    data x = ((Condition.leavesOfEach conditions).flatMap Condition.operands).map .value := by
  cases conditions with
  | nil =>
    cases h
    rfl
  | cons c rest =>
    obtain ⟨xs, hxs, h⟩ := exists_of_bind_eq_ok h
    cases h
    rw [data_append, data_grouped]
    exact Condition.data_inlineEach hxs

/-- Behind the values that are written stand those of the conditions. -/
lemma values_of_statement {q : TableGateway.Query} {row : Value} {joins : List Join}
    {p : WritePlan} {s : Statement} (hq : q.written? = some (row, joins))
    (hp : WritePlan.of row joins = .ok p) (hs : q.statement = .ok s) :
    s.values = data p ++ (operands q).map .value := by
  obtain ⟨r, hr, rfl⟩ := q.exists_inline_of_statement hs
  cases q with
  | create q =>
    cases hq
    obtain ⟨p', hp', hr⟩ := exists_of_bind_eq_ok hr
    cases hp.symm.trans hp'
    obtain ⟨-, -, hr⟩ := exists_of_bind_eq_ok hr
    obtain ⟨returning, -, hr⟩ := exists_of_bind_eq_ok hr
    cases hr
    simp [data_inlineWith, data_inlineInsertion, data_writePlan, operands]
  | update q =>
    cases hq
    obtain ⟨p', hp', hr⟩ := exists_of_bind_eq_ok hr
    cases hp.symm.trans hp'
    dsimp only at hr
    split at hr
    · cases hr
    · obtain ⟨filter, hfilter, hr⟩ := exists_of_bind_eq_ok hr
      obtain ⟨returning, -, hr⟩ := exists_of_bind_eq_ok hr
      cases hr
      simp [data_inlineWith, Rendering.data_separated, data_inlineAssignments, data_writePlan,
        data_inlineWhere hfilter, operands]
  | _ => cases hq

lemma not_holdReference_values (values : List Value) :
    ¬HoldReference (values.map .value) := by
  rintro ⟨d, hd, hne⟩
  obtain ⟨v, -, rfl⟩ := List.mem_map.mp hd
  exact hne rfl

/-- Behind the values that are written there is no reference. -/
lemma exists_values_of_statement {q : TableGateway.Query} {row : Value} {joins : List Join}
    {p : WritePlan} {s : Statement} (hq : q.written? = some (row, joins))
    (hp : WritePlan.of row joins = .ok p) (hs : q.statement = .ok s) :
    ∃ more, s.values = data p ++ more ∧ ¬HoldReference more :=
  ⟨_, values_of_statement hq hp hs, not_holdReference_values _⟩

end TableGateway.Query

namespace TableGateway

open Query

/-- A create or an update binds a reference, inside of some value, exactly if a row at least two
keys deep is taken out while no join takes out the row around it. So no reference is bound if with
every path the one to its parent is among the joins, as it is for joins along foreign keys. -/
theorem Query.reference_bound_iff (q : Query) (row : List (String × Value)) (joins : List Join)
    (placed : List PlacedJoin) (hq : q.written? = some (.object row, joins))
    (hkeys : (row.map Prod.fst).Nodup) (hplaced : joins.mapM Join.placeInRow = .ok placed)
    (hpaths : ∀ p ∈ placed, p.path ≠ []) :
    (∃ w bound, (Write.plan (.object row) joins).run.run {} = (.ok w, ⟨bound⟩) ∧
        (HoldReference bound ↔ ∃ p, IsStray (.object row) placed p) ∧
        ∀ s, q.statement = .ok s → bound <+: s.values) ∧
      (∀ s, q.statement = .ok s →
        (HoldReference s.values ↔ ∃ p, IsStray (.object row) placed p)) ∧
      (IsTree placed → ∀ s, q.statement = .ok s → ¬HoldReference s.values) ∧
      ∀ (g : Catalog.Graph) (name : Value), AreAlong g name joins → IsTree placed := by
  have hplan := WritePlan.of_object hkeys hplaced hpaths
  have hall := holdReference_all row placed hpaths
  have hrun := (Write.plan_follows (.object row) joins).run_eq_ok hplan {}
  have hvalues : ∀ s, q.statement = .ok s →
      (HoldReference s.values ↔ ∃ p, IsStray (.object row) placed p) := by
    intro s hs
    obtain ⟨more, hmore, hnone⟩ := exists_values_of_statement hq hplan hs
    rw [hmore, holdReference_append, hall]
    exact or_iff_left hnone
  refine ⟨⟨_, _, hrun, hall, ?_⟩, hvalues, ?_, ?_⟩
  · intro s hs
    obtain ⟨more, hmore, -⟩ := exists_values_of_statement hq hplan hs
    exact ⟨more, hmore.symm⟩
  · intro htree s hs
    rw [hvalues s hs]
    rintro ⟨p, hp⟩
    obtain ⟨parent, hparent, hpath⟩ := htree.parent p hp.mem hp.nested
    exact hp.parent parent hparent hpath
  · intro g name halong
    exact halong.isTree (mapM_eq_ok_iff.mpr
      ((mapM_eq_ok_iff.mp hplaced).imp fun _ _ => Join.place_of_placeInRow))

/-- A task with its owner, who belongs to an organization. If the organization is taken out alone,
the reference to it stays inside of the owner, who is bound as one value. -/
theorem Query.reference_bound_owner :
    let row : List (String × Value) := [("owner",
      .object [("name", .string "n"), ("organization", .object [("city", .string "c")])])]
    let users : Join := ⟨.string "users", .array [.string "owner"], .string "owner", .string "id"⟩
    let organizations : Join := ⟨.string "organizations",
      .array [.string "owner", .string "organization"], .string "organization", .string "id"⟩
    let placedUsers : PlacedJoin := ⟨"users", ["owner"], "owner", "id"⟩
    let placedOrganizations : PlacedJoin :=
      ⟨"organizations", ["owner", "organization"], "organization", "id"⟩
    let q (joins : List Join) : Query := .create { source := "tasks", row := .object row, joins }
    let g := (Catalog.Graph.build taskSources).1
    (∃ s, (q [organizations]).statement = .ok s ∧ HoldReference s.values ∧
        IsStray (.object row) [placedOrganizations] placedOrganizations) ∧
      AreAlong g (.string "tasks") [organizations, users] ∧
      IsTree [placedOrganizations, placedUsers] ∧
      ∃ s, (q [organizations, users]).statement = .ok s ∧ ¬HoldReference s.values := by
  intro row users organizations placedUsers placedOrganizations q g
  have hkeys : (row.map Prod.fst).Nodup := by decide
  obtain ⟨-, halone, -, -⟩ := (q [organizations]).reference_bound_iff row [organizations]
    [placedOrganizations] rfl hkeys rfl (by simp [placedOrganizations])
  obtain ⟨-, -, htree, halong⟩ := (q [organizations, users]).reference_bound_iff row
    [organizations, users] [placedOrganizations, placedUsers] rfl hkeys rfl
    (by simp [placedOrganizations, placedUsers])
  have hstray : IsStray (.object row) [placedOrganizations] placedOrganizations :=
    ⟨List.mem_singleton_self _, by decide, ⟨_, rfl⟩, by decide⟩
  have hjoins : g.joinsFor (.string "tasks") (.array [.string "owner", .string "organization"]) =
      .ok [users, organizations] := joinsFor_taskSources
  have hall : AreAlong g (.string "tasks") [organizations, users] := by
    intro j hj
    exact ⟨_, _, hjoins, by simpa [or_comm] using hj, by simp⟩
  obtain ⟨s, hs⟩ : ∃ s, (q [organizations]).statement = .ok s := ⟨_, by cbv⟩
  obtain ⟨t, ht⟩ : ∃ t, (q [organizations, users]).statement = .ok t := ⟨_, by cbv⟩
  exact ⟨⟨s, hs, (halone s hs).mpr ⟨_, hstray⟩, hstray⟩, hall, halong g _ hall, t, ht,
    htree (halong g _ hall) t ht⟩

end TableGateway
