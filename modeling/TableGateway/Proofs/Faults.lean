import Mathlib
import TableGateway.Proofs.Markers
import TableGateway.Proofs.Replacement
import TableGateway.Proofs.SharedFilters

/-!
# Queries without a statement

A query of the right types has a statement unless something is wrong with it: an update assigns
nothing, a comparison or a fragment does not have the values it should have, something is no
condition at all, or there is no such page. Of several faults the one that stands first is reported,
if the integers in its message can be written. What is left are pages so large that their bounds
cannot be written.
-/

namespace TableGateway

/-! ### The first of several errors -/

/-- Work fails with the first of some errors, and succeeds if there is none. -/
inductive Reports {ε α : Type} : Except ε α → List ε → Prop
  | ok (a : α) : Reports (.ok a) []
  | error (e : ε) (later : List ε) : Reports (.error e) (e :: later)

namespace Reports

variable {ε α β : Type} {x : Except ε α} {es es' : List ε}

lemma of_exists (h : ∃ a, x = .ok a) : Reports x [] := by
  obtain ⟨a, rfl⟩ := h
  exact .ok a

lemma bind {f : α → Except ε β} (hx : Reports x es) (hf : ∀ a, x = .ok a → Reports (f a) es') :
    Reports (x >>= f) (es ++ es') := by
  cases hx with
  | ok a => exact hf a rfl
  | error e later => exact .error e (later ++ es')

lemma map (hx : Reports x es) (f : α → β) : Reports (f <$> x) es := by
  cases hx with
  | ok a => exact .ok (f a)
  | error e later => exact .error e later

lemma mapError {φ : Type} (hx : Reports x es) (f : ε → φ) : Reports (x.mapError f) (es.map f) := by
  cases hx with
  | ok a => exact .ok a
  | error e later => exact .error (f e) (later.map f)

/-- Of the errors of several steps the one of the first step counts. -/
lemma mapM {f : α → Except ε β} {error? : α → Option ε} {items : List α}
    (h : ∀ a ∈ items, Reports (f a) (error? a).toList) :
    Reports (items.mapM f) (items.filterMap error?) := by
  induction items with
  | nil => exact .ok []
  | cons a rest ih =>
    have hrest := ih fun b hb => h b (List.mem_cons_of_mem a hb)
    rw [List.filterMap_eq_flatMap_toList] at hrest ⊢
    rw [List.mapM_cons, List.flatMap_cons]
    exact (h a List.mem_cons_self).bind fun b _ => hrest.map (b :: ·)

lemma exists_ok_iff (h : Reports x es) : (∃ a, x = .ok a) ↔ es = [] := by
  cases h <;> simp

lemma eq_error_iff (h : Reports x es) {e : ε} : x = .error e ↔ es.head? = some e := by
  cases h <;> simp

end Reports

lemma integerText_reports (n : Int) : Reports (integerText n) (lengthError? n).toList := by
  unfold integerText
  cases lengthError? n with
  | some e => exact .error e []
  | none => exact .ok _

namespace Query

/-! ### What is wrong with a query -/

/-- What is wrong with a fragment: it has values, but another number of markers. -/
def Raw.fault? (r : Raw) : Option Error :=
  match r.values, r.fragment with
  | some v, .string fragment =>
    let markers := fragment.toList.count '?'
    let values := (Raw.items v).length
    if markers = values then none else some (.markerMismatch fragment markers values)
  | _, _ => none

/-- What is wrong with a comparison: it is one with no values. -/
def Term.fault? (t : Term) : Option Error :=
  if t.value = .array [] then some (.emptyList t.field) else none

namespace Condition

/-- What is wrong with a condition that has no parts. -/
def fault? : Condition → Option Error
  | raw r => r.fault?
  | term t => t.fault?
  | unsupported v => some (.unsupported v)
  | _ => none

/-- What is wrong in some conditions, from left to right and depth first. -/
def faultsOfEach (conditions : List Condition) : List Error :=
  (leavesOfEach conditions).filterMap fault?

end Condition

/-- What is wrong with a column of a read. -/
def Field.fault? : Field → Option Error
  | column _ => none
  | raw r => r.fault?

namespace Page

/-- What is wrong with a page: it is before the first one or of a negative size. -/
def fault? : Page → Option Error
  | ⟨.int size, .int number⟩ =>
    if number < 1 ∨ size < 0 then some (.invalidPage (.int size) (.int number)) else none
  | _ => none

/-- Why the limit and the offset of a page cannot be written. -/
def overflows : Page → List Error
  | ⟨.int size, .int number⟩ =>
    ([size, size * (number - 1)].filterMap lengthError?).map .pageBounds
  | _ => []

end Page

/-- What is wrong with a query, in the order in which it is found. -/
def faults : TableGateway.Query → List Error
  | .create _ => []
  | .read q =>
    q.fields.filterMap Field.fault? ++ Condition.faultsOfEach q.conditions
      ++ (q.page.bind Page.fault?).toList
  | .update q =>
    (if q.row = .object [] then [.emptyUpdate q.source] else [])
      ++ Condition.faultsOfEach q.conditions
  | .delete q => Condition.faultsOfEach q.conditions
  | .count q => Condition.faultsOfEach q.conditions

/-- Why the page of a query cannot be written. -/
def overflows : TableGateway.Query → List Error
  | .read q => q.page.toList.flatMap Page.overflows
  | _ => []

/-- A query of the right types: its fragments are texts, and what it writes is an object with places
for its joins. -/
structure IsWellTyped (q : TableGateway.Query) : Prop where
  typed : q.IsTyped
  fragments : ∀ r ∈ fragments q, r.fragment.isText
  row : ∀ row joins, q.written? = some (row, joins) →
    ∃ members, row = .object members ∧ (members.map Prod.fst).Nodup
  paths : ∀ row joins, q.written? = some (row, joins) → ∀ j ∈ joins, j.path ≠ .array []

/-! ### Conditions -/

lemma Raw.inline_reports {r : Raw} (h : r.fragment.isText) : Reports r.inline r.fault?.toList := by
  obtain ⟨fragment, values⟩ := r
  cases fragment with
  | string fragment =>
    cases values with
    | none => exact .ok _
    | some v =>
      unfold inline fault?
      dsimp only
      rw [Text.length_splitAt, Nat.add_sub_cancel]
      split
      · exact .ok _
      · exact .error _ []
  | _ => cases h

lemma Term.inline_reports (source : String) (t : Term) :
    Reports (t.inline source) t.fault?.toList := by
  obtain ⟨field, v, operator⟩ := t
  cases v with
  | array items =>
    cases items with
    | nil => exact .error _ []
    | cons item rest => exact .ok _
  | _ => exact .ok _

namespace Condition

mutual

lemma inline_reports (source : String) : ∀ {c : Condition},
    (∀ r ∈ c.fragments, r.fragment.isText) →
      Reports (c.inline source) (c.leaves.filterMap fault?)
  | all parts, h => (inlineEach_reports source h).map _
  | any parts, h => (inlineEach_reports source h).map _
  | raw r, h => by
    have hr := Raw.inline_reports (h r List.mem_cons_self)
    simpa [leaves, inline, fault?, List.filterMap_eq_flatMap_toList] using hr
  | term t, _ => by
    simpa [leaves, inline, fault?, List.filterMap_eq_flatMap_toList] using t.inline_reports source
  | unsupported v, _ => .error _ []

lemma inlineEach_reports (source : String) : ∀ {cs : List Condition},
    (∀ r ∈ fragmentsOfEach cs, r.fragment.isText) →
      Reports (inlineEach source cs) (faultsOfEach cs)
  | [], _ => .ok []
  | c :: rest, h => by
    unfold fragmentsOfEach leavesOfEach at h
    rw [List.filterMap_append, List.forall_mem_append] at h
    unfold faultsOfEach leavesOfEach
    rw [List.filterMap_append]
    exact (inline_reports source h.1).bind fun _ _ => (inlineEach_reports source h.2).map _

end

end Condition

lemma inlineWhere_reports (source : String) {conditions : List Condition}
    (h : ∀ r ∈ Condition.fragmentsOfEach conditions, r.fragment.isText) :
    Reports (inlineWhere source conditions) (Condition.faultsOfEach conditions) := by
  cases conditions with
  | nil => exact .ok []
  | cons c rest => exact (Condition.inlineEach_reports source h).map _

/-! ### Columns and pages of reads -/

lemma Field.inline_reports (source : String) {f : Field}
    (h : ∀ r ∈ f.fragments, r.fragment.isText) : Reports (f.inline source) f.fault?.toList := by
  cases f with
  | column name => exact .ok _
  | raw r => exact Raw.inline_reports (h r List.mem_cons_self)

lemma Read.inlineColumns_reports {q : Read}
    (h : ∀ r ∈ q.fields.flatMap Field.fragments, r.fragment.isText) :
    Reports q.inlineColumns (q.fields.filterMap Field.fault?) := by
  unfold inlineColumns
  split
  · next hfields =>
    rw [hfields]
    exact .ok _
  · refine .mapM fun f hf => Field.inline_reports q.source fun r hr => ?_
    exact h r (List.mem_flatMap.mpr ⟨f, hf, hr⟩)

lemma checkFields_of_texts {fields : List Field}
    (h : ∀ r ∈ fields.flatMap Field.fragments, r.fragment.isText) : checkFields fields = .ok () := by
  induction fields with
  | nil => rfl
  | cons f rest ih =>
    rw [List.flatMap_cons, List.forall_mem_append] at h
    cases f with
    | column name => exact ih h.2
    | raw r =>
      obtain ⟨fragment, values⟩ := r
      have htext := h.1 _ List.mem_cons_self
      cases fragment with
      | string fragment => exact ih h.2
      | _ => cases htext

lemma pageBounds_reports (size number : Int) :
    Reports (pageBounds (.whole size) (.whole number))
      ([size, size * (number - 1)].filterMap lengthError?) := by
  rw [pageBounds_whole, List.filterMap_eq_flatMap_toList, List.flatMap_cons, List.flatMap_singleton]
  exact (integerText_reports size).bind fun _ _ => (integerText_reports _).map _

/-- A page of integers fails on what is wrong with it, and else on what is too long to be written. -/
lemma pageClause_reports {page : Option Page}
    (h : ∀ p, page = some p → ∃ size number, p = ⟨.int size, .int number⟩) :
    Reports (pageClause page)
      ((page.bind Page.fault?).toList ++ page.toList.flatMap Page.overflows) := by
  cases page with
  | none => exact .ok []
  | some p =>
    obtain ⟨size, number, rfl⟩ := h p rfl
    rw [Option.toList_some, List.flatMap_singleton, Option.bind_some]
    unfold pageClause Page.fault? Page.overflows
    dsimp only
    rw [Page.read_whole]
    by_cases hfault : number < 1 ∨ size < 0
    · rw [if_pos hfault, if_pos hfault, Option.toList_some, List.singleton_append]
      exact .error _ _
    · rw [if_neg hfault, if_neg hfault, ok_bind, Option.toList_none, List.nil_append]
      exact ((pageBounds_reports size number).mapError _).map _

/-! ### Queries -/

lemma path_ne_nil {j : Join} {p : PlacedJoin} (hp : j.placeInRow = .ok p) (hnames : IsNames j.path)
    (hpath : j.path ≠ .array []) : p.path ≠ [] := by
  intro hnil
  obtain ⟨names, hnames⟩ := hnames
  obtain ⟨hitems, -⟩ := Join.of_placeInRow hp
  rw [hnames, hnil] at hitems
  exact hpath (by rw [hnames, Except.ok.inj hitems, List.map_nil])

/-- What is written to places in a row can be planned, and the columns stay the same. -/
lemma WritePlan.exists_of_object {row : List (String × Value)} {joins : List Join}
    (hkeys : (row.map Prod.fst).Nodup) (hnames : ∀ j ∈ joins, IsNames j.path)
    (hpaths : ∀ j ∈ joins, j.path ≠ .array []) :
    ∃ p, WritePlan.of (.object row) joins = .ok p ∧
      p.row.map Prod.fst = (row.map Prod.fst).map .string := by
  obtain ⟨placed, hplaced⟩ := exists_mapM_eq_ok fun j hj => placeInRow_of_isNames (hnames j hj)
  have hplaces : ∀ p ∈ placed, p.path ≠ [] := by
    intro p hp
    obtain ⟨j, hj, hpj⟩ := exists_of_forall₂ (mapM_eq_ok_iff.mp hplaced) hp
    exact path_ne_nil hpj (hnames j hj) (hpaths j hj)
  obtain ⟨members, hmembers, hfst⟩ := Taking.members?_all row hplaces
  refine ⟨_, WritePlan.of_object hkeys hplaced hplaces, ?_⟩
  dsimp only
  rw [Taking.row_extraction hmembers, ← hfst, columns, List.map_map, List.map_map]
  rfl

/-- What an insertion or an update is to write. -/
lemma IsWellTyped.exists_plan {q : TableGateway.Query} (h : IsWellTyped q) {row : Value}
    {joins : List Join} (hq : q.written? = some (row, joins))
    (hnames : ∀ j ∈ joins, IsNames j.path) :
    ∃ p, WritePlan.of row joins = .ok p ∧ Value.areTexts (p.row.map Prod.fst) = .ok () ∧
      (p.row.isEmpty ↔ row = .object []) := by
  obtain ⟨members, rfl, hkeys⟩ := h.row row joins hq
  obtain ⟨p, hp, hfst⟩ := WritePlan.exists_of_object hkeys hnames (h.paths _ _ hq)
  refine ⟨p, hp, by rw [hfst, areTexts_map_string], ?_⟩
  have hlength := congrArg List.length hfst
  rw [List.length_map, List.length_map, List.length_map] at hlength
  rw [List.isEmpty_iff_length_eq_zero, hlength, List.length_eq_zero_iff, Value.object.injEq]

lemma inline_reports {q : TableGateway.Query} (h : IsWellTyped q) :
    Reports q.inline (faults q ++ overflows q) := by
  cases q with
  | create q =>
    obtain ⟨hreturning, hnames⟩ := h.typed
    obtain ⟨p, hp, htexts, -⟩ := h.exists_plan rfl hnames
    change Reports q.inline []
    unfold Create.inline
    rw [hp, ok_bind, htexts]
    exact (Reports.of_exists (returningClause_of_isNames hreturning)).map _
  | read q =>
    -- what binds no values succeeds, so the fields, the conditions and the page are left
    obtain ⟨hnames, horder, hpage⟩ := h.typed
    obtain ⟨hfields, hconditions⟩ := List.forall_mem_append.mp h.fragments
    change Reports q.inline (_ ++ _)
    unfold Read.inline faults overflows
    dsimp only
    rw [List.append_assoc, List.append_assoc]
    refine (Read.inlineColumns_reports hfields).bind fun columns _ => ?_
    refine (Reports.of_exists (placeJoins_of_isNames hnames)).bind fun joins _ => ?_
    rw [checkFields_of_texts hfields, ok_bind]
    refine (inlineWhere_reports q.source hconditions).bind fun filter _ => ?_
    refine (Reports.of_exists (orderClause_of_texts horder)).bind fun order _ => ?_
    exact (pageClause_reports hpage).map _
  | update q =>
    obtain ⟨hreturning, hnames⟩ := h.typed
    obtain ⟨p, hp, -, hempty⟩ := h.exists_plan rfl hnames
    change Reports q.inline (_ ++ [])
    unfold Update.inline faults
    dsimp only
    rw [List.append_assoc, hp, ok_bind]
    by_cases hrow : q.row = .object []
    · rw [if_pos (hempty.mpr hrow), if_pos hrow]
      exact .error _ _
    · rw [if_neg (mt hempty.mp hrow), if_neg hrow]
      exact (inlineWhere_reports q.source h.fragments).bind fun filter _ =>
        (Reports.of_exists (returningClause_of_isNames hreturning)).map _
  | delete q =>
    change Reports q.inline (_ ++ [])
    rw [List.append_nil]
    exact (inlineWhere_reports q.source h.fragments).map _
  | count q =>
    change Reports q.inlineCount (_ ++ [])
    rw [List.append_nil]
    exact (Reports.of_exists (placeJoins_of_isNames h.typed)).bind fun joins _ =>
      (inlineWhere_reports q.source h.fragments).map _

lemma statement_reports {q : TableGateway.Query} (h : IsWellTyped q) :
    Reports q.statement (faults q ++ overflows q) := by
  rw [q.statement_eq]
  exact (inline_reports h).map _

/-! ### What is reported -/

lemma isDocumented_of_raw {r : Raw} {e : Error} (h : r.fault? = some e) : e.IsDocumented := by
  unfold Raw.fault? at h
  split at h
  · dsimp only at h
    split at h <;> cases h
    trivial
  · cases h

lemma isDocumented_of_condition {c : Condition} {e : Error} (h : c.fault? = some e) :
    e.IsDocumented := by
  cases c with
  | raw r => exact isDocumented_of_raw h
  | term t =>
    change (if _ then _ else _) = _ at h
    split at h <;> cases h
    trivial
  | unsupported v =>
    cases h
    trivial
  | _ => cases h

lemma isDocumented_of_faultsOfEach {conditions : List Condition} {e : Error}
    (h : e ∈ Condition.faultsOfEach conditions) : e.IsDocumented := by
  obtain ⟨c, -, hc⟩ := List.mem_filterMap.mp h
  exact isDocumented_of_condition hc

lemma isDocumented_of_page {p : Page} {e : Error} (h : p.fault? = some e) : e.IsDocumented := by
  unfold Page.fault? at h
  split at h
  · split at h <;> cases h
    trivial
  · cases h

lemma isDocumented_of_mem_faults {q : TableGateway.Query} {e : Error} (h : e ∈ faults q) :
    e.IsDocumented := by
  cases q with
  | create q => cases h
  | read q =>
    rcases List.mem_append.mp h with h | h
    · rcases List.mem_append.mp h with h | h
      · obtain ⟨f, -, hf⟩ := List.mem_filterMap.mp h
        cases f with
        | column name => cases hf
        | raw r => exact isDocumented_of_raw hf
      · exact isDocumented_of_faultsOfEach h
    · obtain ⟨p, -, hp⟩ := Option.bind_eq_some_iff.mp (Option.mem_toList.mp h)
      exact isDocumented_of_page hp
  | update q =>
    rcases List.mem_append.mp h with h | h
    · split at h
      · cases List.mem_singleton.mp h
        trivial
      · cases h
    · exact isDocumented_of_faultsOfEach h
  | delete q => exact isDocumented_of_faultsOfEach h
  | count q => exact isDocumented_of_faultsOfEach h

lemma not_isDocumented_of_mem_overflows {q : TableGateway.Query} {e : Error} (h : e ∈ overflows q) :
    ¬e.IsDocumented := by
  cases q with
  | read q =>
    obtain ⟨p, -, hp⟩ := List.mem_flatMap.mp h
    unfold Page.overflows at hp
    split at hp
    · obtain ⟨cause, -, rfl⟩ := List.mem_map.mp hp
      exact not_false
    · cases hp
  | _ => cases h

lemma eq_of_integerText {n : Int} {text : String} (h : integerText n = .ok text) :
    text = toString n := by
  unfold integerText at h
  split at h
  · cases h
  · exact (Except.ok.inj h).symm

lemma pageClause_whole {size number : Int} {s : Sql}
    (h : pageClause (some ⟨.int size, .int number⟩) = .ok s) :
    1 ≤ number ∧ 0 ≤ size ∧
      s = sql (" LIMIT " ++ toString size ++ " OFFSET " ++ toString (size * (number - 1))) := by
  unfold pageClause at h
  dsimp only at h
  rw [Page.read_whole] at h
  split at h
  · cases h
  · next hfault =>
    rw [not_or, not_lt, not_lt] at hfault
    rw [ok_bind] at h
    obtain ⟨bounds, hbounds, h⟩ := exists_of_bind_eq_ok h
    rw [mapError_eq_ok, pageBounds_whole] at hbounds
    obtain ⟨limit, hlimit, hbounds⟩ := exists_of_bind_eq_ok hbounds
    obtain ⟨offset, hoffset, hbounds⟩ := exists_of_bind_eq_ok hbounds
    cases hbounds
    cases h
    rw [eq_of_integerText hlimit, eq_of_integerText hoffset]
    exact ⟨hfault.1, hfault.2, rfl⟩

/-- A query of the right types has no statement exactly if something is wrong with it, and what is
reported is the first thing that is wrong; but a page may also be too large to be written, and so may
an integer in the message about what is wrong. A page that is written has bounds that are not
negative. -/
theorem statement_error_iff (q : TableGateway.Query) (h : IsWellTyped q) :
    (∀ e ∈ faults q, e.IsDocumented ∧
      (e.IsForeseen ↔ ∀ n ∈ e.integers, n.natAbs < 10 ^ longestInteger) ∧
      (¬e.IsForeseen → ∃ digits, e.failure = .unexpected (IntegerError.tooLong digits).fault)) ∧
      (∀ e, e.IsDocumented → (q.statement = .error e ↔ (faults q).head? = some e)) ∧
      (∀ e, ¬e.IsDocumented →
        (q.statement = .error e ↔ faults q = [] ∧ (overflows q).head? = some e)) ∧
      ((∃ s, q.statement = .ok s) ↔ faults q = [] ∧ overflows q = []) ∧
      ∀ r size number s, q = .read r → r.page = some ⟨.int size, .int number⟩ →
        q.statement = .ok s → 0 ≤ size ∧ 0 ≤ size * (number - 1) ∧
          ∃ front, s.sql = front ++
            sql (" LIMIT " ++ toString size ++ " OFFSET " ++ toString (size * (number - 1))) := by
  have hreports := statement_reports h
  refine ⟨fun e he => ?_, ?_, ?_, ?_, ?_⟩
  · have hdocumented := isDocumented_of_mem_faults he
    exact ⟨hdocumented, hdocumented.isForeseen_iff, hdocumented.failure_of_not_isForeseen⟩
  · intro e hdocumented
    rw [hreports.eq_error_iff]
    cases hfaults : faults q with
    | nil =>
      refine iff_of_false (fun he => ?_) (by simp)
      exact not_isDocumented_of_mem_overflows (List.mem_of_mem_head? he) hdocumented
    | cons f rest => rfl
  · intro e hdocumented
    rw [hreports.eq_error_iff]
    cases hfaults : faults q with
    | nil => simp
    | cons f rest =>
      refine iff_of_false (fun he => hdocumented ?_) (by simp)
      cases he
      exact isDocumented_of_mem_faults (hfaults ▸ List.mem_cons_self)
  · rw [hreports.exists_ok_iff, List.append_eq_nil_iff]
  · rintro r size number s rfl hpage hs
    obtain ⟨p, bound, hparts⟩ := Read.exists_parts hs
    obtain ⟨hnumber, hsize, hsql⟩ := pageClause_whole (hpage ▸ hparts.page)
    exact ⟨hsize, mul_nonneg hsize (by omega), _, hsql ▸ hparts.sql⟩

theorem statement_error_iff_update :
    let q : TableGateway.Query := .update {
      source := "t"
      row := .object [("a", .int 1)]
      conditions := [.any [.term ⟨"b", .array [], "IN"⟩, .unsupported .null],
        .raw ⟨.string "c = ?", some (.array [])⟩] }
    IsWellTyped q ∧ q.statement = .error (.emptyList "b") := by
  intro q
  have hq : IsWellTyped q := by
    refine ⟨⟨⟨[], rfl⟩, by simp⟩, ?_, ?_, ?_⟩
    · simp [q, fragments, Condition.fragmentsOfEach, Condition.leavesOfEach, Condition.leaves,
        Condition.raw?, Value.isText]
    · rintro row joins ⟨⟩
      exact ⟨_, rfl, by simp⟩
    · rintro row joins ⟨⟩
      simp
  exact ⟨hq, ((statement_error_iff q hq).2.1 (.emptyList "b") trivial).mpr rfl⟩

lemma lengthError?_pow_eq_none_iff {k : Nat} :
    lengthError? (10 ^ k) = none ↔ k < longestInteger := by
  have hten : (10 : Int).natAbs = 10 := rfl
  rw [lengthError?_eq_none_iff, Int.natAbs_pow, hten, Nat.pow_lt_pow_iff_right (by decide)]

/-- A read of the page behind `10 ^ k` pages of `10 ^ k` rows. -/
def farPage (k : Nat) : TableGateway.Query :=
  .read { source := "t", page := some ⟨.int (10 ^ k), .int (10 ^ k + 1)⟩ }

lemma isWellTyped_farPage (k : Nat) : IsWellTyped (farPage k) where
  typed := by simp [farPage, Query.IsTyped]
  fragments := by simp [farPage, fragments, Condition.fragmentsOfEach, Condition.leavesOfEach]
  row := by simp [farPage, Query.written?]
  paths := by simp [farPage, Query.written?]

lemma faults_farPage (k : Nat) : faults (farPage k) = [] := by
  have hpos : (0 : Int) < 10 ^ k := by positivity
  have hfault : (Page.mk (.int (10 ^ k)) (.int (10 ^ k + 1))).fault? = none := by
    unfold Page.fault?
    exact if_neg (by omega)
  simp [farPage, faults, Condition.faultsOfEach, Condition.leavesOfEach, hfault]

lemma overflows_farPage {k : Nat} (hk : k < longestInteger) (hoffset : longestInteger ≤ k + k) :
    ∃ digits, overflows (farPage k) = [.pageBounds (.tooLong digits)] := by
  have hlimit : lengthError? (10 ^ k) = none := lengthError?_pow_eq_none_iff.mpr hk
  have hlong : lengthError? (10 ^ (k + k)) ≠ none :=
    mt lengthError?_pow_eq_none_iff.mp (not_lt.mpr hoffset)
  obtain ⟨e, he⟩ := Option.ne_none_iff_exists'.mp hlong
  obtain ⟨digits, rfl⟩ := lengthError?_eq_some he
  refine ⟨digits, ?_⟩
  change List.flatMap Page.overflows [_] = _
  rw [List.flatMap_singleton]
  unfold Page.overflows
  dsimp only
  rw [add_sub_cancel_right, ← pow_add, List.filterMap_eq_flatMap_toList, List.flatMap_cons,
    List.flatMap_singleton, hlimit, he]
  rfl

lemma statement_farPage {k : Nat} (hk : k < longestInteger) (hoffset : longestInteger ≤ k + k) :
    ∃ digits, (farPage k).statement = .error (.pageBounds (.tooLong digits)) := by
  obtain ⟨digits, hoverflows⟩ := overflows_farPage hk hoffset
  refine ⟨digits, (statement_reports (isWellTyped_farPage k)).eq_error_iff.mpr ?_⟩
  rw [faults_farPage, hoverflows]
  rfl

/-- With nothing wrong, a page far behind the others has an offset that is too long. -/
theorem statement_offsetTooLong :
    IsWellTyped (farPage 2200) ∧ faults (farPage 2200) = [] ∧
      ∃ digits, (farPage 2200).statement = .error (.pageBounds (.tooLong digits)) :=
  ⟨isWellTyped_farPage 2200, faults_farPage 2200, statement_farPage (by decide) (by decide)⟩

end Query

end TableGateway
