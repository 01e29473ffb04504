import Mathlib
import TableGateway.Proofs.Clashes
import TableGateway.Proofs.Outcomes

/-!
# Offers

What the row of an entity is offered as, and why this is what is built from the entity.
-/

namespace TableGateway.Discovery

open Catalog

/-- What is read from the items of a field. -/
def readEach {α : Type} (read : Value → Except ShapeError α) (details : Value) (field : String) :
    Except ShapeError (List α) := do
  (← details.itemsIfGiven field).mapM read

/-- What the row of an entity is offered as: it is made of the details of the entity under the first
rule whose scopes choose it. A view has no keys and no relationships. -/
inductive Offers (db : Database) (rules : List Rule) : EntityKind × Value → Source → Prop
  | table {row schema name details : Value} {keys : List Value} {rule : Rule}
    {columns : List Column} {document : Document} {has belongsTo : List Relationship}
    (hschema : row.field "table_schema" = .ok schema)
    (hname : row.field "table_name" = .ok name)
    (hkeys : row.itemsIfGiven "primary_keys" = .ok keys)
    (hdetails : db.details schema name = .ok details)
    (hrule : rules.find? (fun rule =>
      Scope.chosenBy rule.schemas schema && Scope.chosenBy rule.tables name) = some rule)
    (hcolumns : readEach Column.ofRow details "columns" = .ok columns)
    (hdocument : Document.ofColumns name columns rule.strictNumbers.isTruthy = .ok document)
    (hhas : readEach Relationship.ofRow details "has" = .ok has)
    (hbelongsTo : readEach Relationship.ofRow details "belongs_to" = .ok belongsTo) :
    Offers db rules (.table, row) {
      name, identifyingProperties := keys, has, belongsTo
      schema := document.toValue, actions := rule.actions }
  | view {row schema name details : Value} {rule : Rule} {columns : List Column}
    {document : Document}
    (hschema : row.field "table_schema" = .ok schema)
    (hname : row.field "table_name" = .ok name)
    (hdetails : db.details schema name = .ok details)
    (hrule : rules.find? (fun rule =>
      Scope.chosenBy rule.schemas schema && Scope.chosenBy rule.views name) = some rule)
    (hcolumns : readEach Column.ofRow details "columns" = .ok columns)
    (hdocument : Document.ofColumns name columns rule.strictNumbers.isTruthy = .ok document) :
    Offers db rules (.view, row) {
      name, schema := document.toValue, actions := rule.actions }

/-- The source is what is built from the details of an entity. -/
def IsBuiltFrom (db : Database) (rules : List Rule) (e : Entity) (source : Source) : Prop :=
  ∃ details, db.details e.schema e.name = .ok details ∧ sourceOf rules e details = .ok source

lemma sourceOf_eq_ok {rules : List Rule} {e : Entity} {details : Value} {source : Source} :
    sourceOf rules e details = .ok source ↔
      ∃ rule, ruleFor? rules e = some rule ∧ buildSource e details rule = .ok source := by
  unfold sourceOf
  cases ruleFor? rules e with
  | none => simp
  | some rule => simp [mapError_eq_ok]

lemma buildSource_eq (e : Entity) (details : Value) (rule : Rule) :
    buildSource e details rule = (do
      let columns ← readEach Column.ofRow details "columns"
      match e.kind with
      | .view => do
        let document ← Document.ofColumns e.name columns rule.strictNumbers.isTruthy
        return { name := e.name, schema := document.toValue, actions := rule.actions }
      | .table => do
        let has ← readEach Relationship.ofRow details "has"
        let belongsTo ← readEach Relationship.ofRow details "belongs_to"
        let document ← Document.ofColumns e.name columns rule.strictNumbers.isTruthy
        return {
          name := e.name, identifyingProperties := e.primaryKeys, has, belongsTo
          schema := document.toValue, actions := rule.actions }) := by
  unfold buildSource readEach
  cases e.kind <;> simp only [bind_assoc]

lemma offers_iff {db : Database} {rules : List Rule} {kind : EntityKind} {row : Value} {e : Entity}
    {source : Source} (he : Entity.ofRow kind row = .ok e) :
    Offers db rules (kind, row) source ↔ IsBuiltFrom db rules e source := by
  unfold IsBuiltFrom
  obtain ⟨schema, hschema, he⟩ := exists_of_bind_eq_ok he
  obtain ⟨name, hname, he⟩ := exists_of_bind_eq_ok he
  simp only [sourceOf_eq_ok, buildSource_eq]
  cases kind with
  | table =>
    obtain ⟨_, _, he⟩ := exists_of_bind_eq_ok he
    obtain ⟨keys, hkeys, he⟩ := exists_of_bind_eq_ok he
    cases he
    constructor
    · intro h
      cases h with
      | table hschema' hname' hkeys' hdetails hrule hcolumns hdocument hhas hbelongsTo =>
        obtain rfl := Except.ok.inj (hschema.symm.trans hschema')
        obtain rfl := Except.ok.inj (hname.symm.trans hname')
        obtain rfl := Except.ok.inj (hkeys.symm.trans hkeys')
        refine ⟨_, hdetails, _, hrule, ?_⟩
        rw [hcolumns, ok_bind, hhas, ok_bind, hbelongsTo, ok_bind, hdocument]
        rfl
    · rintro ⟨details, hdetails, rule, hrule, h⟩
      obtain ⟨columns, hcolumns, h⟩ := exists_of_bind_eq_ok h
      obtain ⟨has, hhas, h⟩ := exists_of_bind_eq_ok h
      obtain ⟨belongsTo, hbelongsTo, h⟩ := exists_of_bind_eq_ok h
      obtain ⟨document, hdocument, h⟩ := exists_of_bind_eq_ok h
      cases h
      exact .table hschema hname hkeys hdetails hrule hcolumns hdocument hhas hbelongsTo
  | view =>
    cases he
    constructor
    · intro h
      cases h with
      | view hschema' hname' hdetails hrule hcolumns hdocument =>
        obtain rfl := Except.ok.inj (hschema.symm.trans hschema')
        obtain rfl := Except.ok.inj (hname.symm.trans hname')
        refine ⟨_, hdetails, _, hrule, ?_⟩
        rw [hcolumns, ok_bind, hdocument]
        rfl
    · rintro ⟨details, hdetails, rule, hrule, h⟩
      obtain ⟨columns, hcolumns, h⟩ := exists_of_bind_eq_ok h
      obtain ⟨document, hdocument, h⟩ := exists_of_bind_eq_ok h
      cases h
      exact .view hschema hname hdetails hrule hcolumns hdocument

section

variable {db : Database} {rules : List Rule} {es : List Entity}

lemma forall₂_offers {rows : List (EntityKind × Value)} {sources : List Source}
    (h : List.Forall₂ (fun r e => Entity.ofRow r.1 r.2 = .ok e) rows es) :
    List.Forall₂ (Offers db rules) rows sources ↔
      List.Forall₂ (IsBuiltFrom db rules) es sources := by
  induction h generalizing sources with
  | nil => simp
  | @cons r e rows es he _ ih =>
    cases sources with
    | nil => simp
    | cons source sources =>
      rw [List.forall₂_cons, List.forall₂_cons, ih]
      exact and_congr_left fun _ => offers_iff he

lemma name_of_sourceOf {e : Entity} {details : Value} {source : Source}
    (h : sourceOf rules e details = .ok source) : source.name = e.name := by
  obtain ⟨rule, _, h⟩ := sourceOf_eq_ok.mp h
  rw [buildSource_eq] at h
  obtain ⟨columns, _, h⟩ := exists_of_bind_eq_ok h
  split at h
  · obtain ⟨document, _, h⟩ := exists_of_bind_eq_ok h
    cases h
    rfl
  · obtain ⟨has, _, h⟩ := exists_of_bind_eq_ok h
    obtain ⟨belongsTo, _, h⟩ := exists_of_bind_eq_ok h
    obtain ⟨document, _, h⟩ := exists_of_bind_eq_ok h
    cases h
    rfl

lemma plainNames_built {sources : List Source}
    (h : List.Forall₂ (IsBuiltFrom db rules) es sources) :
    sources.map (·.name.plain) = plainNames es := by
  induction h with
  | nil => rfl
  | cons hsource _ ih =>
    obtain ⟨details, _, hsource⟩ := hsource
    rw [List.map_cons, name_of_sourceOf hsource, ih]
    rfl

end

end TableGateway.Discovery
