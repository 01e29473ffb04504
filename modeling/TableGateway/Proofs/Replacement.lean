import Mathlib
import TableGateway.Proofs.Likeness
import TableGateway.Proofs.TypedClauses
import TableGateway.Proofs.Writes

/-!
# Replacing values in a query

The SQL of a query does not depend on the values in it. Two queries that differ in scalars only,
within the row, the comparisons and the values of fragments, have statements of the same text, whose
values differ where the scalars of the queries do; or both fail for the same reason.
-/

namespace TableGateway.Query

/-! ### Queries that differ in values -/

/-- A fragment with values that are alike. -/
inductive Raw.Alike (R : Value → Value → Prop) : Raw → Raw → Prop
  | bare (fragment : String) : Alike R ⟨.string fragment, none⟩ ⟨.string fragment, none⟩
  | filled (fragment : String) {v w : Value} (h : v.Alike R w) :
    Alike R ⟨.string fragment, some v⟩ ⟨.string fragment, some w⟩

/-- A comparison with values that are alike. -/
inductive Term.Alike (R : Value → Value → Prop) : Term → Term → Prop
  | mk (field operator : String) {v w : Value} (h : v.Alike R w) :
    Alike R ⟨field, v, operator⟩ ⟨field, w, operator⟩

/-- Conditions that differ in values only. -/
inductive Condition.Alike (R : Value → Value → Prop) : Condition → Condition → Prop
  | all {cs ds : List Condition} (h : List.Forall₂ (Alike R) cs ds) : Alike R (.all cs) (.all ds)
  | any {cs ds : List Condition} (h : List.Forall₂ (Alike R) cs ds) : Alike R (.any cs) (.any ds)
  | raw {r s : Raw} (h : r.Alike R s) : Alike R (.raw r) (.raw s)
  | term {t u : Term} (h : t.Alike R u) : Alike R (.term t) (.term u)

/-- Columns of a read that differ in the values of fragments only. -/
inductive Field.Alike (R : Value → Value → Prop) : Field → Field → Prop
  | column (name : String) : Alike R (.column name) (.column name)
  | raw {r s : Raw} (h : r.Alike R s) : Alike R (.raw r) (.raw s)

section Alike

variable {R : Value → Value → Prop}

/-! ### Conditions -/

lemma Value.Alike.array_or {v w : Value} (h : v.Alike R w) :
    (∃ vs ws, v = .array vs ∧ w = .array ws ∧ List.Forall₂ (Value.Alike R) vs ws) ∨
      (∀ vs, v ≠ .array vs) ∧ ∀ ws, w ≠ .array ws := by
  cases h with
  | scalar hv hw =>
    refine .inr ⟨?_, ?_⟩
    · rintro vs rfl
      cases hv
    · rintro ws rfl
      cases hw
  | array h => exact .inl ⟨_, _, rfl, rfl, h⟩
  | object h => exact .inr ⟨by simp, by simp⟩

lemma inlineAll_alike {vs ws : List Value} (h : List.Forall₂ (Value.Alike R) vs ws) :
    Rendering.Alike R (inlineAll vs) (inlineAll ws) := by
  apply Rendering.Alike.separated
  exact List.rel_map (fun _ _ hvw => .datum (.value hvw)) h

lemma inlineItems_of_ne_array {v : Value} (h : ∀ vs, v ≠ .array vs) :
    inlineItems v = [.datum (.value v)] := by
  cases v with
  | array items => exact absurd rfl (h items)
  | _ => rfl

lemma inlineItems_alike {v w : Value} (h : v.Alike R w) :
    Rendering.Alike R (inlineItems v) (inlineItems w) := by
  rcases Value.Alike.array_or h with ⟨vs, ws, rfl, rfl, hitems⟩ | ⟨hv, hw⟩
  · exact inlineAll_alike hitems
  · rw [inlineItems_of_ne_array hv, inlineItems_of_ne_array hw]
    exact .datum (.value h)

lemma Raw.inlineFill_alike (stretches : List (List Char)) {vs ws : List Value}
    (h : List.Forall₂ (Value.Alike R) vs ws) :
    Rendering.Alike R (Raw.inlineFill stretches vs) (Raw.inlineFill stretches ws) := by
  induction stretches generalizing vs ws with
  | nil => exact .nil
  | cons stretch rest ih =>
    cases h with
    | nil => exact .text _
    | cons hvw hrest => exact ((Rendering.Alike.text _).append (inlineItems_alike hvw)).append (ih hrest)

lemma Raw.items_of_ne_array {v : Value} (h : ∀ vs, v ≠ .array vs) : Raw.items v = [v] := by
  cases v with
  | array items => exact absurd rfl (h items)
  | _ => rfl

lemma Raw.items_alike {v w : Value} (h : v.Alike R w) :
    List.Forall₂ (Value.Alike R) (Raw.items v) (Raw.items w) := by
  rcases Value.Alike.array_or h with ⟨vs, ws, rfl, rfl, hitems⟩ | ⟨hv, hw⟩
  · exact hitems
  · rw [Raw.items_of_ne_array hv, Raw.items_of_ne_array hw]
    exact .cons h .nil

lemma Raw.inline_alike {r s : Raw} (h : r.Alike R s) :
    Agree Error.IsForeseen (Rendering.Alike R) r.inline s.inline := by
  cases h with
  | bare fragment => exact .ok (.text _)
  | filled fragment h =>
    have hitems := Raw.items_alike h
    unfold Raw.inline
    dsimp only
    rw [hitems.length_eq]
    split
    · exact .ok (Raw.inlineFill_alike _ hitems)
    · exact .error ⟨_, rfl⟩

lemma Term.inline_of_ne_array {v : Value} (source field operator : String)
    (h : ∀ vs, v ≠ .array vs) :
    Term.inline source ⟨field, v, operator⟩ =
      .ok (Rendering.text (source ++ "." ++ field ++ " " ++ operator ++ " ") ++ [.datum (.value v)]) := by
  cases v with
  | array items => exact absurd rfl (h items)
  | _ => rfl

lemma Term.inline_alike (source : String) {t u : Term} (h : t.Alike R u) :
    Agree Error.IsForeseen (Rendering.Alike R) (t.inline source) (u.inline source) := by
  obtain ⟨field, operator, h⟩ := h
  rcases Value.Alike.array_or h with ⟨vs, ws, rfl, rfl, hitems⟩ | ⟨hv, hw⟩
  · cases hitems with
    | nil => exact .error ⟨_, rfl⟩
    | cons hvw hrest =>
      have hall := inlineAll_alike (.cons hvw hrest)
      exact .ok (((Rendering.Alike.text _).append (.text "(")).append hall |>.append (.text ")"))
  · rw [Term.inline_of_ne_array _ _ _ hv, Term.inline_of_ne_array _ _ _ hw]
    exact .ok ((Rendering.Alike.text _).append (.datum (.value h)))

lemma Rendering.Alike.grouped (operator empty : String) {parts others : List Rendering}
    (h : List.Forall₂ (Rendering.Alike R) parts others) :
    Rendering.Alike R (.grouped operator empty parts) (.grouped operator empty others) := by
  cases h with
  | nil => exact .text empty
  | cons hpart hrest =>
    apply Rendering.Alike.separated
    apply List.rel_map _ (.cons hpart hrest)
    intro part other hparts
    exact ((Rendering.Alike.text "(").append hparts).append (.text ")")

namespace Condition

mutual

lemma inline_alike (source : String) : ∀ {c d : Condition}, c.Alike R d →
    Agree Error.IsForeseen (Rendering.Alike R) (c.inline source) (d.inline source)
  | all parts, _, h => by
    cases h with
    | all h =>
      rw [inline, inline]
      exact (inlineEach_alike source h).bind fun _ _ hparts => .ok (.grouped _ _ hparts)
  | any parts, _, h => by
    cases h with
    | any h =>
      rw [inline, inline]
      exact (inlineEach_alike source h).bind fun _ _ hparts => .ok (.grouped _ _ hparts)
  | raw r, _, h => by
    cases h with
    | raw h => exact Raw.inline_alike h
  | term t, _, h => by
    cases h with
    | term h => exact Term.inline_alike source h
  | unsupported v, _, h => nomatch h

lemma inlineEach_alike (source : String) : ∀ {cs ds : List Condition},
    List.Forall₂ (Alike R) cs ds →
      Agree Error.IsForeseen (List.Forall₂ (Rendering.Alike R)) (inlineEach source cs)
        (inlineEach source ds)
  | [], _, h => by
    cases h
    exact .ok .nil
  | c :: rest, _, h => by
    cases h with
    | cons hcd hrest =>
      rw [inlineEach, inlineEach]
      apply (inline_alike source hcd).bind
      intro r s hrs
      apply (inlineEach_alike source hrest).bind
      intro rs ss hrests
      exact .ok (.cons hrs hrests)

end

end Condition

lemma inlineWhere_alike (source : String) {cs ds : List Condition}
    (h : List.Forall₂ (Condition.Alike R) cs ds) :
    Agree Error.IsForeseen (Rendering.Alike R) (inlineWhere source cs) (inlineWhere source ds) := by
  cases h with
  | nil => exact .ok .nil
  | cons hcd hrest =>
    apply (Condition.inlineEach_alike source (.cons hcd hrest)).bind
    intro rs ss hparts
    exact .ok ((Rendering.Alike.text _).append (.grouped _ _ hparts))

lemma inlineColumns_alike (source : String) {fs gs : List Field}
    (h : List.Forall₂ (Field.Alike R) fs gs) (conditions others : List Condition)
    (joins : List Join) (order : List Order) (page : Option Page) :
    Agree Error.IsForeseen (List.Forall₂ (Rendering.Alike R))
      (Read.inlineColumns ⟨source, fs, conditions, joins, order, page⟩)
      (Read.inlineColumns ⟨source, gs, others, joins, order, page⟩) := by
  cases h with
  | nil => exact .ok (.cons (.text _) .nil)
  | cons hfg hrest =>
    apply Agree.mapM (.cons hfg hrest)
    intro f g hfg
    cases hfg with
    | column name => exact .ok (.text _)
    | raw h => exact Raw.inline_alike h

/-! ### Nested rows -/

/-- A datum is looked for alike in data that are alike, and the search fails on no path of names. -/
lemma Datum.membersAt?_alike {d e : Datum} (h : d.Alike R e) (path : List Value) :
    Agree (fun _ => ¬∀ v ∈ path, v.isText) (Option.Rel (MembersAlike R)) (d.membersAt? path)
      (e.membersAt? path) := by
  induction path generalizing d e with
  | nil => exact .ok h.members?
  | cons segment path ih =>
    have hmembers := h.members?
    unfold Datum.membersAt?
    generalize d.members? = ms, e.members? = ns at hmembers ⊢
    cases hmembers with
    | none => exact .ok .none
    | @some ms ns hmembers =>
      cases segment with
      | string key =>
        have hlookup := hmembers.lookup key
        dsimp only
        generalize ms.lookup key = d', ns.lookup key = e' at hlookup ⊢
        cases hlookup with
        | none => exact .ok .none
        | some hde =>
          apply (ih hde).mono
          intro _ hpath hall
          exact hpath fun v hv => hall v (List.mem_cons_of_mem _ hv)
      | array items =>
        exact .error fun hall => Bool.false_ne_true (hall (.array items) List.mem_cons_self)
      | object members =>
        exact .error fun hall => Bool.false_ne_true (hall (.object members) List.mem_cons_self)
      | _ => exact .ok .none

lemma valueUnder?_alike {x y : Row} (h : List.Forall₂ (SameKey (Datum.Alike R)) x y) (key : Value) :
    Option.Rel (Datum.Alike R) (valueUnder? key x) (valueUnder? key y) := by
  unfold valueUnder?
  induction h with
  | nil => exact .none
  | cons hde _ ih =>
    obtain ⟨column, hde⟩ := hde
    rw [List.find?_cons, List.find?_cons]
    cases column.equals key with
    | true => exact .some hde
    | false => exact ih

lemma Row.membersAt?_alike {x y : Row} (h : List.Forall₂ (SameKey (Datum.Alike R)) x y)
    (column : Value) (path : List Value) :
    Agree (fun _ => ¬∀ v ∈ column :: path, v.isText) (Option.Rel (MembersAlike R))
      (Row.membersAt? x column path) (Row.membersAt? y column path) := by
  have hunder := valueUnder?_alike h column
  unfold Row.membersAt?
  apply Agree.bind_same
  · intro e he hall
    have hcolumn := hall column List.mem_cons_self
    cases column with
    | string name => cases he
    | _ => cases hcolumn
  · intro _ _
    generalize valueUnder? column x = d, valueUnder? column y = e at hunder ⊢
    cases hunder with
    | none => exact .ok .none
    | some hde =>
      apply (Datum.membersAt?_alike hde path).mono
      intro _ hpath hall
      exact hpath fun v hv => hall v (List.mem_cons_of_mem _ hv)

lemma Row.set_alike {x y : Row} (h : List.Forall₂ (SameKey (Datum.Alike R)) x y)
    (path : List String) {new new' : Datum} (hnew : new.Alike R new') :
    List.Forall₂ (SameKey (Datum.Alike R)) (x.set path new) (y.set path new') := by
  cases path with
  | nil => exact h
  | cons key path =>
    apply List.rel_map _ h
    rintro _ _ ⟨column, hde⟩
    dsimp only
    split
    · exact .mk column (hde.set hnew path)
    · exact .mk column hde

lemma Row.map_fst_set (x : Row) (path : List String) (new : Datum) :
    (x.set path new).map Prod.fst = x.map Prod.fst := by
  cases path with
  | nil => rfl
  | cons key path =>
    unfold Row.set
    rw [List.map_map]
    apply List.map_congr_left
    intro e _
    dsimp only [Function.comp_apply]
    split <;> rfl

/-- Nested rows that differ in values only. -/
inductive NestedRow.Alike (R : Value → Value → Prop) : NestedRow → NestedRow → Prop
  | mk (name table returning : String) {x y : Row}
    (h : List.Forall₂ (SameKey (Datum.Alike R)) x y) :
    Alike R ⟨name, table, x, returning⟩ ⟨name, table, y, returning⟩

/-- Nested rows and a row that differ in values only; the columns of the row have names. -/
structure WrittenAlike (R : Value → Value → Prop) (ns ns' : List NestedRow) (x y : Row) :
    Prop where
  nested : List.Forall₂ (NestedRow.Alike R) ns ns'
  row : List.Forall₂ (SameKey (Datum.Alike R)) x y
  named : Value.areTexts (x.map Prod.fst) = .ok ()

lemma columns_alike {ms ns : List (String × Datum)} (h : MembersAlike R ms ns) :
    List.Forall₂ (SameKey (Datum.Alike R)) (columns ms) (columns ns) := by
  apply List.rel_map _ h
  rintro _ _ ⟨key, hde⟩
  exact .mk (Value.string key) hde

lemma Extraction.extract_alike (join : Join) (x y : Extraction)
    (h : WrittenAlike R x.nested y.nested x.row y.row) :
    Agree (fun e => IsNames join.path → e = .emptyJoinPath ∧ join.path = .array [])
      (fun x y => WrittenAlike R x.nested y.nested x.row y.row) (x.extract join)
      (y.extract join) := by
  have hkeys := map_fst_of_sameKey h.row
  unfold Extraction.extract
  apply Agree.bind_same
  · rintro e he ⟨names, hnames⟩
    rw [hnames] at he
    cases he
  · intro items hitems
    have hnames : IsNames join.path → (∀ v ∈ items, v.isText) ∧
        (items = [] → join.path = .array []) := by
      rintro ⟨names, hnames⟩
      rw [hnames] at hitems ⊢
      cases hitems
      constructor
      · intro v hv
        obtain ⟨name, -, rfl⟩ := List.mem_map.mp hv
        rfl
      · intro hempty
        rw [hempty]
    cases items with
    | nil =>
      dsimp only
      rw [← hkeys, h.named]
      apply Agree.bind_same
      · rintro e ⟨⟩
      · intro _ _
        -- names stand in a list, and of a list a part can be taken
        apply Agree.bind_same
        · rintro e he ⟨names, hnames'⟩
          rw [hnames'] at he
          cases he
        · intro _ _
          exact .error fun hpath => ⟨rfl, (hnames hpath).2 rfl⟩
    | cons column path =>
      apply ((Row.membersAt?_alike h.row column path).mapError _).bind
      · intro ms ns hmembers
        cases hmembers with
        | none => exact .ok h
        | @some ms ns hmembers =>
          apply Agree.bind_same
          · intro e he hpath
            obtain ⟨p, hp⟩ := placeInRow_of_isNames hpath
            rw [hp] at he
            cases he
          · intro p _
            refine .ok ⟨?_, ?_, ?_⟩
            · exact List.rel_append h.nested (.cons (.mk _ _ _ (columns_alike hmembers)) .nil)
            · exact Row.set_alike h.row p.path (.reference _)
            · dsimp only
              rw [Row.map_fst_set, h.named]
      · intro e hsegments hpath
        exact absurd (hnames hpath).1 hsegments

lemma WritePlan.of_alike {ms ns : List (String × Value)}
    (h : List.Forall₂ (SameKey (Value.Alike R)) ms ns) (joins : List Join) :
    Agree (fun e => (∀ j ∈ joins, IsNames j.path) →
        e = .emptyJoinPath ∧ ∃ j ∈ joins, j.path = .array [])
      (fun p p' => WrittenAlike R p.nested p'.nested p.row p'.row)
      (WritePlan.of (.object ms) joins) (WritePlan.of (.object ns) joins) := by
  have hnamed : Value.areTexts ((columns (ms.map fun m => (m.1, .value m.2))).map Prod.fst) =
      .ok () := by
    have hnames := areTexts_map_string (ms.map Prod.fst)
    rw [List.map_map] at hnames
    unfold columns
    rw [List.map_map, List.map_map]
    exact hnames
  rw [WritePlan.of_members, WritePlan.of_members]
  apply Agree.bind_same
  · intro e he hnames
    have hitems : ∀ j ∈ joins, ∃ items, j.path.items = .ok items := by
      intro j hj
      obtain ⟨names, hpath⟩ := hnames j hj
      exact ⟨_, by rw [hpath]; rfl⟩
    rw [forM_items hitems] at he
    cases he
  · intro _ _
    apply Agree.bind (S := fun x y => WrittenAlike R x.nested y.nested x.row y.row)
    · apply Agree.foldlM _ ⟨.nil, columns_alike (.value h), hnamed⟩
      intro join hjoin x y hxy
      have hjoin : join ∈ joins := List.mem_mergeSort.mp hjoin
      apply (Extraction.extract_alike join x y hxy).mono
      intro e he hnames
      obtain ⟨hempty, hpath⟩ := he (hnames join hjoin)
      exact ⟨hempty, join, hjoin, hpath⟩
    · intro x y hxy
      exact .ok hxy

/-! ### Renderings of rows -/

lemma inlineCell_alike {e f : Value × Datum} (h : SameKey (Datum.Alike R) e f) :
    Rendering.Alike R (inlineCell e) (inlineCell f) := by
  obtain ⟨column, h⟩ := h
  cases h with
  | value h => exact .datum (.value h)
  | object h => exact .datum (.object h)
  | reference r => exact .text r.text

lemma inlineInsertion_alike (table : String) {x y : Row}
    (h : List.Forall₂ (SameKey (Datum.Alike R)) x y) :
    Rendering.Alike R (inlineInsertion table x) (inlineInsertion table y) := by
  have hcells : Rendering.Alike R (.separated ", " (x.map inlineCell))
      (.separated ", " (y.map inlineCell)) := by
    apply Rendering.Alike.separated
    exact List.rel_map (fun _ _ hef => inlineCell_alike hef) h
  have hshown : x.map (·.1.shown) = y.map (·.1.shown) := by
    have hkeys := congrArg (List.map Value.shown) (map_fst_of_sameKey h)
    rwa [List.map_map, List.map_map] at hkeys
  cases h with
  | nil => exact .text _
  | cons hef hrest =>
    unfold inlineInsertion
    dsimp only
    rw [hshown]
    exact ((Rendering.Alike.text _).append hcells).append (.text ")")

lemma NestedRow.inline_alike {n n' : NestedRow} (h : n.Alike R n') :
    Rendering.Alike R n.inline n'.inline := by
  obtain ⟨name, table, returning, h⟩ := h
  exact ((Rendering.Alike.text _).append (inlineInsertion_alike table h)).append (.text _)

lemma inlineWith_alike {ns ns' : List NestedRow} (h : List.Forall₂ (NestedRow.Alike R) ns ns')
    (x y : Row) : Rendering.Alike R (WritePlan.mk ns x).inlineWith (WritePlan.mk ns' y).inlineWith := by
  cases h with
  | nil => exact .nil
  | cons hn hrest =>
    refine ((Rendering.Alike.text _).append (.separated ", " ?_)).append (.text " ")
    exact List.rel_map (fun _ _ hn => NestedRow.inline_alike hn) (.cons hn hrest)

lemma inlineAssignments_alike {x y : Row} (h : List.Forall₂ (SameKey (Datum.Alike R)) x y)
    (ns ns' : List NestedRow) :
    List.Forall₂ (Rendering.Alike R) (WritePlan.mk ns x).inlineAssignments
      (WritePlan.mk ns' y).inlineAssignments := by
  apply List.rel_map _ h
  rintro _ _ hef
  have hcell := inlineCell_alike hef
  obtain ⟨column, -⟩ := hef
  exact (Rendering.Alike.text _).append hcell

lemma checkFields_of_alike {fs gs : List Field} (h : List.Forall₂ (Field.Alike R) fs gs) :
    checkFields fs = .ok () ∧ checkFields gs = .ok () := by
  induction h with
  | nil => exact ⟨rfl, rfl⟩
  | cons hfg _ ih =>
    cases hfg with
    | column name => exact ih
    | raw h => cases h <;> exact ih

end Alike

end TableGateway.Query

namespace TableGateway

open Query

/-- Queries that differ in scalars only: within the row, in the values of comparisons and in the
values of fragments. -/
inductive Query.Alike (R : Value → Value → Prop) : Query → Query → Prop
  | create {source : String} {returning : Value} {joins : List Join}
    {ms ns : List (String × Value)} (hrow : List.Forall₂ (SameKey (Value.Alike R)) ms ns) :
    Alike R (.create ⟨source, .object ms, returning, joins⟩)
      (.create ⟨source, .object ns, returning, joins⟩)
  | read {source : String} {fs gs : List Field} {cs ds : List Condition} {joins : List Join}
    {order : List Order} {page : Option Page} (hfields : List.Forall₂ (Field.Alike R) fs gs)
    (hconditions : List.Forall₂ (Condition.Alike R) cs ds) :
    Alike R (.read ⟨source, fs, cs, joins, order, page⟩)
      (.read ⟨source, gs, ds, joins, order, page⟩)
  | update {source : String} {returning : Value} {cs ds : List Condition} {joins : List Join}
    {ms ns : List (String × Value)} (hrow : List.Forall₂ (SameKey (Value.Alike R)) ms ns)
    (hconditions : List.Forall₂ (Condition.Alike R) cs ds) :
    Alike R (.update ⟨source, .object ms, returning, cs, joins⟩)
      (.update ⟨source, .object ns, returning, ds, joins⟩)
  | delete {source : String} {cs ds : List Condition}
    (hconditions : List.Forall₂ (Condition.Alike R) cs ds) :
    Alike R (.delete ⟨source, cs⟩) (.delete ⟨source, ds⟩)
  | count {source : String} {fs gs : List Field} {cs ds : List Condition} {joins : List Join}
    {order : List Order} {page : Option Page} (hfields : List.Forall₂ (Field.Alike R) fs gs)
    (hconditions : List.Forall₂ (Condition.Alike R) cs ds) :
    Alike R (.count ⟨source, fs, cs, joins, order, page⟩)
      (.count ⟨source, gs, ds, joins, order, page⟩)

/-- Whether what a query is made of is of the right types. -/
def Query.IsTyped : Query → Prop
  | create q => IsNames q.returning ∧ ∀ j ∈ q.joins, IsNames j.path
  | read q =>
    (∀ j ∈ q.joins, IsNames j.path) ∧
      (∀ o ∈ q.order, ∃ direction, o.direction = .string direction) ∧
      ∀ p, q.page = some p → ∃ size number, p = ⟨.int size, .int number⟩
  | update q => IsNames q.returning ∧ ∀ j ∈ q.joins, IsNames j.path
  | delete _ => True
  | count q => ∀ j ∈ q.joins, IsNames j.path

/-- How a query of the right types may fail. -/
inductive Query.FailsWith (q : Query) : Query.Error → Prop
  | foreseen {e : Query.Error} (h : e.IsForeseen) : FailsWith q e
  | emptyJoinPath {row : Value} {joins : List Join} {j : Join}
    (hq : q.written? = some (row, joins)) (hj : j ∈ joins) (hpath : j.path = .array []) :
    FailsWith q .emptyJoinPath
  | pageBounds (digits : Nat) : FailsWith q (.pageBounds (.tooLong digits))
  /-- The message about a page shows an integer that is too long. -/
  | pageMessage {size number n : Int} (hn : n ∈ [size, number])
    (hlong : 10 ^ longestInteger ≤ n.natAbs) : FailsWith q (.invalidPage (.int size) (.int number))

lemma Query.FailsWith.invalidPage (q : Query) (size number : Int) :
    q.FailsWith (.invalidPage (.int size) (.int number)) := by
  have hdocumented : (Query.Error.invalidPage (.int size) (.int number)).IsDocumented := trivial
  by_cases hshort : ∀ n ∈ [size, number], n.natAbs < 10 ^ longestInteger
  · exact .foreseen (hdocumented.isForeseen_iff.mpr hshort)
  · simp only [not_forall, not_lt] at hshort
    obtain ⟨n, hn, hlong⟩ := hshort
    exact .pageMessage hn hlong

section Alike

variable {R : Value → Value → Prop}

/-- If the query is of the right types, it may fail in this way. -/
def Query.Admits (q : Query) (e : Query.Error) : Prop :=
  q.IsTyped → q.FailsWith e

lemma Query.Create.inline_alike {source : String} {returning : Value} {joins : List Join}
    {ms ns : List (String × Value)} (hrow : List.Forall₂ (SameKey (Value.Alike R)) ms ns) :
    Agree (Query.create ⟨source, .object ms, returning, joins⟩).Admits (Rendering.Alike R)
      (Create.inline ⟨source, .object ms, returning, joins⟩)
      (Create.inline ⟨source, .object ns, returning, joins⟩) := by
  unfold Create.inline
  apply Agree.bind ((WritePlan.of_alike hrow joins).mono _)
  · rintro p p' ⟨hnested, hrow, hnamed⟩
    rw [← map_fst_of_sameKey hrow, hnamed]
    apply Agree.bind_same
    · rintro e ⟨⟩
    · intro _ _
      apply Agree.bind_same
      · rintro e he ⟨hreturning, -⟩
        exact absurd he (ne_error_of_ok (returningClause_of_isNames hreturning) e)
      · intro returning _
        exact .ok (((inlineWith_alike hnested _ _).append (inlineInsertion_alike _ hrow)).append
          (.ofSql returning))
  · rintro e he ⟨-, hjoins⟩
    obtain ⟨rfl, j, hj, hpath⟩ := he hjoins
    exact .emptyJoinPath rfl hj hpath

lemma Query.Update.inline_alike {source : String} {returning : Value} {cs ds : List Condition}
    {joins : List Join} {ms ns : List (String × Value)}
    (hrow : List.Forall₂ (SameKey (Value.Alike R)) ms ns)
    (hconditions : List.Forall₂ (Condition.Alike R) cs ds) :
    Agree (Query.update ⟨source, .object ms, returning, cs, joins⟩).Admits (Rendering.Alike R)
      (Update.inline ⟨source, .object ms, returning, cs, joins⟩)
      (Update.inline ⟨source, .object ns, returning, ds, joins⟩) := by
  unfold Update.inline
  apply Agree.bind ((WritePlan.of_alike hrow joins).mono _)
  · rintro p p' ⟨hnested, hrow, hnamed⟩
    have hempty : p.row.isEmpty = p'.row.isEmpty := by
      rw [Bool.eq_iff_iff, List.isEmpty_iff_length_eq_zero, List.isEmpty_iff_length_eq_zero,
        hrow.length_eq]
    dsimp only
    rw [hempty]
    split
    · exact .error fun _ => .foreseen ⟨_, rfl⟩
    · apply Agree.bind ((inlineWhere_alike source hconditions).mono fun _ he _ => .foreseen he)
      intro filter filter' hfilter
      apply Agree.bind_same
      · rintro e he ⟨hreturning, -⟩
        exact absurd he (ne_error_of_ok (returningClause_of_isNames hreturning) e)
      · intro returning _
        exact .ok (((((inlineWith_alike hnested _ _).append (.text _)).append
          (.separated ", " (inlineAssignments_alike hrow _ _))).append hfilter).append
          (.ofSql returning))
  · rintro e he ⟨-, hjoins⟩
    obtain ⟨rfl, j, hj, hpath⟩ := he hjoins
    exact .emptyJoinPath rfl hj hpath

lemma Query.Read.inline_alike {source : String} {fs gs : List Field} {cs ds : List Condition}
    {joins : List Join} {order : List Order} {page : Option Page}
    (hfields : List.Forall₂ (Field.Alike R) fs gs)
    (hconditions : List.Forall₂ (Condition.Alike R) cs ds) :
    Agree (Query.read ⟨source, fs, cs, joins, order, page⟩).Admits (Rendering.Alike R)
      (Read.inline ⟨source, fs, cs, joins, order, page⟩)
      (Read.inline ⟨source, gs, ds, joins, order, page⟩) := by
  obtain ⟨hfs, hgs⟩ := checkFields_of_alike hfields
  unfold Read.inline
  apply Agree.bind ((inlineColumns_alike source hfields cs ds joins order page).mono
    fun _ he _ => .foreseen he)
  intro columns columns' hcolumns
  apply Agree.bind_same
  · rintro e he ⟨hjoins, -⟩
    exact absurd he (ne_error_of_ok (placeJoins_of_isNames hjoins) e)
  intro placed _
  rw [hfs, hgs]
  apply Agree.bind_same
  · rintro e ⟨⟩
  intro _ _
  apply Agree.bind ((inlineWhere_alike source hconditions).mono fun _ he _ => .foreseen he)
  intro filter filter' hfilter
  apply Agree.bind_same
  · rintro e he ⟨-, horder, -⟩
    exact absurd he (ne_error_of_ok (orderClause_of_texts horder) e)
  intro ordered _
  apply Agree.bind_same
  · rintro e he ⟨-, -, hpage⟩
    cases page with
    | none => cases he
    | some p =>
      obtain ⟨size, number, rfl⟩ := hpage p rfl
      rcases pageClause_whole_error he with rfl | ⟨digits, rfl⟩
      · exact .invalidPage _ size number
      · exact .pageBounds digits
  intro paged _
  have hembeddings : List.Forall₂ (Rendering.Alike R) ((embeddings placed).map Rendering.ofSql)
      ((embeddings placed).map Rendering.ofSql) := by
    rw [List.forall₂_map_left_iff, List.forall₂_map_right_iff, List.forall₂_same]
    exact fun s _ => .ofSql s
  exact .ok ((((((Rendering.Alike.text _).append
    (.separated ", " (List.rel_append hcolumns hembeddings))).append (.text _)).append
    (.ofSql _)).append hfilter).append (.ofSql ordered) |>.append (.ofSql paged))

lemma Query.Read.inlineCount_alike {source : String} {fs gs : List Field} {cs ds : List Condition}
    {joins : List Join} {order : List Order} {page : Option Page}
    (hconditions : List.Forall₂ (Condition.Alike R) cs ds) :
    Agree (Query.count ⟨source, fs, cs, joins, order, page⟩).Admits (Rendering.Alike R)
      (Read.inlineCount ⟨source, fs, cs, joins, order, page⟩)
      (Read.inlineCount ⟨source, gs, ds, joins, order, page⟩) := by
  unfold Read.inlineCount
  apply Agree.bind_same
  · rintro e he hjoins
    exact absurd he (ne_error_of_ok (placeJoins_of_isNames hjoins) e)
  intro placed _
  apply Agree.bind ((inlineWhere_alike source hconditions).mono fun _ he _ => .foreseen he)
  intro filter filter' hfilter
  exact .ok (((Rendering.Alike.text _).append (.ofSql _)).append hfilter)

lemma Query.inline_alike {q q' : Query} (h : q.Alike R q') :
    Agree q.Admits (Rendering.Alike R) q.inline q'.inline := by
  cases h with
  | create hrow => exact Query.Create.inline_alike hrow
  | read hfields hconditions => exact Query.Read.inline_alike hfields hconditions
  | update hrow hconditions => exact Query.Update.inline_alike hrow hconditions
  | delete hconditions =>
    apply Agree.bind ((inlineWhere_alike _ hconditions).mono fun _ he _ => .foreseen he)
    intro filter filter' hfilter
    exact .ok ((Rendering.Alike.text _).append hfilter)
  | count _ hconditions => exact Query.Read.inlineCount_alike hconditions

end Alike

end TableGateway
