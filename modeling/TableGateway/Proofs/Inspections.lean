import Mathlib
import TableGateway.Proofs.Offers
import TableGateway.Proofs.Selection

/-!
# What inspections find

An inspection offers every entity that was listed, or fails as a whole.
-/

namespace TableGateway.Discovery

open Catalog

/-! ### Work on a database -/

/-- Whatever is in the journal, the work has an outcome and asks for the given details. -/
def Gives {α : Type} (work : Inspecting α) (outcome : Except InspectionError α)
    (asked : List (Value × Value)) : Prop :=
  ∀ j, (work.run.run j).1 = outcome ∧ (work.run.run j).2.details = j.details ++ asked

namespace Gives

variable {α β ε : Type} {work : Inspecting α} {rest : α → Inspecting β}
  {asked more : List (Value × Value)}

lemma pure (a : α) : Gives (Pure.pure a) (.ok a) [] :=
  fun _ => ⟨rfl, (List.append_nil _).symm⟩

lemma throw (e : InspectionError) : Gives (throw e : Inspecting α) (.error e) [] :=
  fun _ => ⟨rfl, (List.append_nil _).symm⟩

lemma bind_ok {a : α} {outcome : Except InspectionError β} (h : Gives work (.ok a) asked)
    (hrest : Gives (rest a) outcome more) : Gives (work >>= rest) outcome (asked ++ more) := by
  intro j
  obtain ⟨hok, hdetails⟩ := h j
  obtain ⟨houtcome, hmore⟩ := hrest (work.run.run j).2
  rw [run_bind_of_run_ok (Prod.ext hok rfl)]
  exact ⟨houtcome, by rw [hmore, hdetails, List.append_assoc]⟩

lemma bind_error {e : InspectionError} (h : Gives work (.error e) asked) :
    Gives (work >>= rest) (.error e) asked := by
  intro j
  obtain ⟨herror, hdetails⟩ := h j
  rw [run_bind_of_run_error (Prod.ext herror rfl)]
  exact ⟨rfl, hdetails⟩

/-- Work that asks for no details. -/
lemma bind {x : Except InspectionError α} {y : α → Except InspectionError β}
    (h : Gives work x []) (hrest : ∀ a, Gives (rest a) (y a) []) :
    Gives (work >>= rest) (x >>= y) [] := by
  cases x with
  | error e => exact h.bind_error
  | ok a => exact h.bind_ok (hrest a)

lemma lift (error : ε → InspectionError) (x : Except ε α) :
    Gives (Inspecting.lift error x) (x.mapError error) [] := by
  cases x with
  | error e => exact throw (error e)
  | ok a => exact pure a

lemma lift_ok {error : ε → InspectionError} {x : Except ε α} {a : α} (h : x = .ok a) :
    Gives (Inspecting.lift error x) (.ok a) [] :=
  h ▸ pure a

lemma lift_error {error : ε → InspectionError} {x : Except ε α} {e : ε} (h : x = .error e) :
    Gives (Inspecting.lift error x) (.error (error e)) [] :=
  h ▸ throw (error e)

lemma note (message : String) : Gives (Inspecting.note message) (.ok ()) [] :=
  fun _ => ⟨rfl, (List.append_nil _).symm⟩

lemma tell (db : Database) (notes : Engine → List Note) :
    Gives (Inspecting.tell db notes) (.ok ()) [] :=
  fun _ => ⟨rfl, (List.append_nil _).symm⟩

lemma readDetails (db : Database) (e : Entity) : Gives (readDetails db e)
    ((db.details e.schema e.name).mapError .details) [(e.schema, e.name)] := by
  have hasked : Gives (modify fun j => { j with details := j.details ++ [(e.schema, e.name)] })
      (.ok ()) [(e.schema, e.name)] := fun _ => ⟨rfl, rfl⟩
  exact hasked.bind_ok (lift _ _)

end Gives

/-! ### The stages of an inspection -/

def listAll (db : Database) (rules : List Rule) : Inspecting (List Entity) := do
  let tablesText ← questionText rules .table
  let viewsText ← questionText rules .view
  let tables ← listEntities db .table tablesText
  let views ← listEntities db .view viewsText
  return tables ++ views

def checkNames (entities : List Entity) : Inspecting Unit := do
  Inspecting.lift .data (entities.forM fun e => e.name.asKey)
  if clashGroups entities ≠ [] then
    throw (.clashes (clashGroups entities))

def offerAll (db : Database) (rules : List Rule) (readers : Option Value)
    (entities : List Entity) : Inspecting (List Source) := do
  Inspecting.note ("Discovered " ++ toString entities.length ++ " entities, fetching details")
  Inspecting.lift id (checkReaders readers)
  Inspecting.tell db fun engine => engine.schedule (entities.map (readerNotes db engine))
  let details ← entities.mapM (readDetails db)
  let sources ← Inspecting.lift id
    ((entities.zip details).mapM fun (e, row) => sourceOf rules e row)
  Inspecting.note ("Built " ++ toString sources.length ++ " sources")
  return sources

lemma inspect_eq (db : Database) (rules : List Rule) (readers : Option Value) :
    inspect db rules readers = (do
      let entities ← listAll db rules
      checkNames entities
      offerAll db rules readers entities) := by
  simp only [inspect, listAll, checkNames, bind_assoc, pure_bind]
  refine bind_congr fun tablesText => bind_congr fun viewsText => bind_congr fun tables =>
    bind_congr fun views => bind_congr fun _ => ?_
  -- With clashes neither side goes on.
  split <;> rfl

/-! ### Listings -/

def rowsOf (tables views : List Value) : EntityKind → List Value
  | .table => tables
  | .view => views

/-- Rows of both kinds, first those of tables. -/
def inTurn (rows : EntityKind → List Value) : List (EntityKind × Value) :=
  (rows .table).map (.table, ·) ++ (rows .view).map (.view, ·)

/-- The rows that a database answers with when it is asked for the entities that rules cover, and
the entities that they are. -/
structure Listing (db : Database) (rules : List Rule) where
  rows : EntityKind → List Value
  entities : List Entity
  answered : ∀ kind, ∃ condition, conditionText kind rules = .ok condition ∧
    db.entities kind (enumerationText kind condition) = .ok (rows kind)
  read : List.Forall₂ (fun r e => Entity.ofRow r.1 r.2 = .ok e) (inTurn rows) entities

section Listings

variable {db : Database} {rules : List Rule} {kind : EntityKind} {text : String}

lemma gives_questionText {condition : String} (h : conditionText kind rules = .ok condition) :
    Gives (questionText rules kind) (.ok (enumerationText kind condition)) [] := by
  exact (Gives.lift_ok h).bind_ok (.pure _)

lemma gives_questionText_error {e : NamesError} (h : conditionText kind rules = .error e) :
    Gives (questionText rules kind) (.error (.names e)) [] :=
  (Gives.lift_error h).bind_error

lemma gives_listEntities (db : Database) (kind : EntityKind) (text : String) :
    Gives (listEntities db kind text) (do
      let rows ← (db.entities kind text).mapError .listing
      (rows.mapM (Entity.ofRow kind)).mapError fun e => .listing e.fault) [] := by
  have hnoted : Gives (modify fun j => { j with statements := j.statements ++ [text] })
      (.ok ()) [] := fun _ => ⟨rfl, (List.append_nil _).symm⟩
  exact hnoted.bind_ok ((Gives.tell _ _).bind_ok ((Gives.lift _ _).bind fun rows => .lift _ _))

lemma gives_listEntities_ok {rows : List Value} {es : List Entity}
    (hrows : db.entities kind text = .ok rows) (hes : rows.mapM (Entity.ofRow kind) = .ok es) :
    Gives (listEntities db kind text) (.ok es) [] := by
  have h := gives_listEntities db kind text
  rw [hrows] at h
  change Gives _ (Except.mapError _ (rows.mapM _)) _ at h
  rwa [hes] at h

lemma gives_listEntities_cases (db : Database) (kind : EntityKind) (text : String) :
    (∃ rows es, db.entities kind text = .ok rows ∧ rows.mapM (Entity.ofRow kind) = .ok es) ∨
      ∃ fault, Gives (listEntities db kind text) (.error (.listing fault)) [] := by
  have h := gives_listEntities db kind text
  cases hrows : db.entities kind text with
  | error fault =>
    rw [hrows] at h
    exact .inr ⟨fault, h⟩
  | ok rows =>
    rw [hrows] at h
    change Gives _ (Except.mapError _ (rows.mapM _)) _ at h
    cases hes : rows.mapM (Entity.ofRow kind) with
    | error e =>
      rw [hes] at h
      exact .inr ⟨e.fault, h⟩
    | ok es => exact .inl ⟨rows, es, rfl, hes⟩

lemma mapM_inTurn {rows : EntityKind → List Value} :
    (inTurn rows).mapM (fun r => Entity.ofRow r.1 r.2) = (do
      let tables ← (rows .table).mapM (Entity.ofRow .table)
      let views ← (rows .view).mapM (Entity.ofRow .view)
      return tables ++ views) := by
  rw [inTurn, List.mapM_append, List.mapM_map, List.mapM_map]
  rfl

lemma Listing.gives_listAll (l : Listing db rules) :
    Gives (listAll db rules) (.ok l.entities) [] := by
  obtain ⟨tablesCondition, htablesText, htables⟩ := l.answered .table
  obtain ⟨viewsCondition, hviewsText, hviews⟩ := l.answered .view
  have hread := mapM_eq_ok_iff.mpr l.read
  rw [mapM_inTurn] at hread
  obtain ⟨tables, htablesRead, hread⟩ := exists_of_bind_eq_ok hread
  obtain ⟨views, hviewsRead, hread⟩ := exists_of_bind_eq_ok hread
  have hentities : tables ++ views = l.entities := Except.ok.inj hread
  rw [← hentities]
  exact (gives_questionText htablesText).bind_ok <| (gives_questionText hviewsText).bind_ok <|
    (gives_listEntities_ok htables htablesRead).bind_ok <|
    (gives_listEntities_ok hviews hviewsRead).bind_ok <| .pure _

/-- Without a listing the entities cannot be asked for, or the database fails to list them. -/
lemma gives_listAll_of_isEmpty (hempty : IsEmpty (Listing db rules)) :
    (∃ kind e, conditionText kind rules = .error e ∧
      Gives (listAll db rules) (.error (.names e)) []) ∨
    ∃ fault, Gives (listAll db rules) (.error (.listing fault)) [] := by
  cases htablesText : conditionText .table rules with
  | error e =>
    exact .inl ⟨.table, e, htablesText, (gives_questionText_error htablesText).bind_error⟩
  | ok tablesCondition =>
  have hasked := gives_questionText htablesText
  cases hviewsText : conditionText .view rules with
  | error e =>
    exact .inl ⟨.view, e, hviewsText,
      hasked.bind_ok (gives_questionText_error hviewsText).bind_error⟩
  | ok viewsCondition =>
  have hviewsAsked := gives_questionText hviewsText
  rcases gives_listEntities_cases db .table (enumerationText .table tablesCondition) with
    ⟨tableRows, tables, htables, htablesRead⟩ | ⟨fault, hfault⟩
  · rcases gives_listEntities_cases db .view (enumerationText .view viewsCondition) with
      ⟨viewRows, views, hviews, hviewsRead⟩ | ⟨fault, hfault⟩
    · refine (hempty.false ⟨rowsOf tableRows viewRows, tables ++ views, ?_, ?_⟩).elim
      · rintro (_ | _)
        · exact ⟨tablesCondition, htablesText, htables⟩
        · exact ⟨viewsCondition, hviewsText, hviews⟩
      · rw [← mapM_eq_ok_iff, mapM_inTurn, rowsOf, htablesRead, ok_bind, rowsOf, hviewsRead]
        rfl
    · exact .inr ⟨fault, hasked.bind_ok <| hviewsAsked.bind_ok <|
        (gives_listEntities_ok htables htablesRead).bind_ok hfault.bind_error⟩
  · exact .inr ⟨fault, hasked.bind_ok <| hviewsAsked.bind_ok hfault.bind_error⟩

lemma gives_listAll_of_isValid (h : ∀ rule ∈ rules, rule.IsValid)
    (hempty : IsEmpty (Listing db rules)) :
    ∃ fault, Gives (listAll db rules) (.error (.listing fault)) [] := by
  rcases gives_listAll_of_isEmpty hempty with ⟨kind, e, he, _⟩ | hlisting
  · obtain ⟨clauses, hclauses, _⟩ := clauses_valid kind h
    rw [conditionText, hclauses] at he
    cases he
  · exact hlisting

end Listings

/-! ### Names -/

lemma gives_checkNames {es : List Entity} (hkeys : ∀ e ∈ es, e.name.isKey) :
    Gives (checkNames es)
      (if (plainNames es).Nodup then .ok () else .error (.clashes (clashGroups es))) [] := by
  have hforM : es.forM (fun e => e.name.asKey) = .ok () := by
    induction es with
    | nil => rfl
    | cons e rest ih =>
      obtain ⟨he, hrest⟩ := List.forall_mem_cons.mp hkeys
      change (e.name.asKey >>= fun _ => rest.forM fun e => e.name.asKey) = _
      rw [Value.asKey, if_pos he, ok_bind, ih hrest]
  refine (Gives.lift_ok hforM).bind_ok ?_
  by_cases hnodup : (plainNames es).Nodup
  · rw [if_neg (not_not_intro (clashGroups_eq_nil.mpr hnodup)), if_pos hnodup]
    exact .pure ()
  · rw [if_pos (clashGroups_eq_nil.not.mpr hnodup), if_neg hnodup]
    exact .throw _

lemma gives_checkNames_error {es : List Entity} (hkeys : ∃ e ∈ es, e.name.isKey = false) :
    ∃ e ∈ es, e.name.isKey = false ∧
      Gives (checkNames es) (.error (.data (.notAKey e.name))) [] := by
  have hforM : ∃ e ∈ es, e.name.isKey = false ∧
      es.forM (fun e => e.name.asKey) = .error (.notAKey e.name) := by
    induction es with
    | nil => simp at hkeys
    | cons e rest ih =>
      change ∃ f ∈ _, _ ∧ (e.name.asKey >>= fun _ => rest.forM fun e => e.name.asKey) = _
      rw [Value.asKey]
      cases he : e.name.isKey with
      | false => exact ⟨e, List.mem_cons_self, he, rfl⟩
      | true =>
        obtain ⟨f, hf, hkey, hforM⟩ := ih (by simpa [he] using hkeys)
        exact ⟨f, List.mem_cons_of_mem _ hf, hkey, hforM⟩
  obtain ⟨e, he, hkey, hforM⟩ := hforM
  exact ⟨e, he, hkey, (Gives.lift_error hforM).bind_error⟩

/-! ### Offering -/

/-- Work with an outcome, whatever details it asks for. -/
def EndsWith {α : Type} (work : Inspecting α) (outcome : Except InspectionError α) : Prop :=
  ∃ asked, Gives work outcome asked

namespace EndsWith

variable {α β : Type} {work : Inspecting α} {rest : α → Inspecting β}

lemma bind {x : Except InspectionError α} {y : α → Except InspectionError β}
    (h : EndsWith work x) (hrest : ∀ a, EndsWith (rest a) (y a)) :
    EndsWith (work >>= rest) (x >>= y) := by
  obtain ⟨asked, h⟩ := h
  cases x with
  | error e => exact ⟨asked, h.bind_error⟩
  | ok a =>
    obtain ⟨more, hrest⟩ := hrest a
    exact ⟨asked ++ more, h.bind_ok hrest⟩

lemma lift (x : Except InspectionError α) : EndsWith (Inspecting.lift id x) x := by
  cases x with
  | error e => exact ⟨[], .throw e⟩
  | ok a => exact ⟨[], .pure a⟩

lemma mapM {f : α → Inspecting β} {g : α → Except InspectionError β}
    (h : ∀ a, EndsWith (f a) (g a)) (items : List α) :
    EndsWith (items.mapM f) (items.mapM g) := by
  induction items with
  | nil => exact ⟨[], .pure []⟩
  | cons a rest ih =>
    rw [List.mapM_cons, List.mapM_cons]
    exact (h a).bind fun b => ih.bind fun bs => ⟨[], .pure _⟩

end EndsWith

section Offering

variable {db : Database} {rules : List Rule} {readers : Option Value} {es : List Entity}

def detailsOf (db : Database) (e : Entity) : Except InspectionError Value :=
  (db.details e.schema e.name).mapError .details

/-- What comes of offering entities, apart from what is noted. -/
def offered (db : Database) (rules : List Rule) (readers : Option Value) (es : List Entity) :
    Except InspectionError (List Source) := do
  checkReaders readers
  let details ← es.mapM (detailsOf db)
  (es.zip details).mapM fun (e, row) => sourceOf rules e row

lemma endsWith_offerAll (db : Database) (rules : List Rule) (readers : Option Value)
    (es : List Entity) : EndsWith (offerAll db rules readers es) (offered db rules readers es) := by
  have hnoted (message : String) : EndsWith (Inspecting.note message) (.ok ()) := ⟨[], .note _⟩
  have hread (e : Entity) : EndsWith (readDetails db e) (detailsOf db e) :=
    ⟨_, .readDetails db e⟩
  -- The note at the end changes nothing in what was built.
  have hbuilt (x : Except InspectionError (List Source)) : EndsWith (do
      let sources ← Inspecting.lift id x
      Inspecting.note ("Built " ++ toString sources.length ++ " sources")
      return sources) x := by
    have hx : (x >>= fun sources => Except.ok () >>= fun _ => .ok sources) = x := by
      cases x <;> rfl
    have h := (EndsWith.lift x).bind fun sources =>
      (hnoted ("Built " ++ toString sources.length ++ " sources")).bind
        fun _ => ⟨[], Gives.pure sources⟩
    rwa [hx] at h
  have htold : EndsWith (Inspecting.tell db fun engine =>
      engine.schedule (es.map (readerNotes db engine))) (.ok ()) := ⟨[], .tell _ _⟩
  have hread := (EndsWith.lift (checkReaders readers)).bind fun _ => htold.bind fun _ =>
    (EndsWith.mapM hread es).bind fun details =>
      hbuilt ((es.zip details).mapM fun (e, row) => sourceOf rules e row)
  have hoffered := (hnoted ("Discovered " ++ toString es.length
    ++ " entities, fetching details")).bind fun _ => hread
  exact hoffered

lemma offered_eq_ok {sources : List Source} : offered db rules readers es = .ok sources ↔
    checkReaders readers = .ok () ∧ List.Forall₂ (IsBuiltFrom db rules) es sources := by
  have hbuilt (e : Entity) (source : Source) : IsBuiltFrom db rules e source ↔
      ∃ details, detailsOf db e = .ok details ∧ sourceOf rules e details = .ok source := by
    simp only [IsBuiltFrom, detailsOf, mapError_eq_ok]
  have hsources : (∃ details, es.mapM (detailsOf db) = .ok details ∧
      ((es.zip details).mapM fun (e, row) => sourceOf rules e row) = .ok sources) ↔
      List.Forall₂ (IsBuiltFrom db rules) es sources := by
    rw [funext₂ fun e source => propext (hbuilt e source)]
    exact exists_zip_mapM_eq_ok_iff
  rw [← hsources]
  constructor
  · intro h
    obtain ⟨_, hreaders, h⟩ := exists_of_bind_eq_ok h
    exact ⟨hreaders, exists_of_bind_eq_ok h⟩
  · rintro ⟨hreaders, details, hread, hsources⟩
    rw [offered, hreaders, ok_bind, hread, ok_bind, hsources]

lemma offered_eq_error {before after : List Entity} {e : Entity} {fault : Fault}
    (hreaders : checkReaders readers = .ok ())
    (hbefore : ∀ b ∈ before, ∃ details, db.details b.schema b.name = .ok details)
    (he : db.details e.schema e.name = .error fault) :
    offered db rules readers (before ++ e :: after) = .error (.details fault) := by
  have hread : (before ++ e :: after).mapM (detailsOf db) = .error (.details fault) := by
    refine mapM_append_cons_eq_error (fun b hb => ?_) ?_
    · obtain ⟨details, hdetails⟩ := hbefore b hb
      exact ⟨details, mapError_eq_ok.mpr hdetails⟩
    · rw [detailsOf, he]
      rfl
  rw [offered, hreaders, ok_bind, hread]
  rfl

end Offering

lemma Gives.start {work : Inspecting (List Source)} {outcome : Except InspectionError (List Source)}
    {asked : List (Value × Value)} (h : Gives work outcome asked) :
    work.start.outcome = outcome ∧ work.start.journal.details = asked := by
  obtain ⟨houtcome, hdetails⟩ := h {}
  exact ⟨houtcome, hdetails⟩

namespace Listing

variable {db : Database} {rules : List Rule} (l : Listing db rules) (readers : Option Value)

lemma inspect_of_unusable (h : ∃ e ∈ l.entities, e.name.isKey = false) :
    ∃ e ∈ l.entities, e.name.isKey = false ∧
      Gives (inspect db rules readers) (.error (.data (.notAKey e.name))) [] := by
  obtain ⟨e, he, hkey, hchecked⟩ := gives_checkNames_error h
  rw [inspect_eq]
  exact ⟨e, he, hkey, l.gives_listAll.bind_ok hchecked.bind_error⟩

variable (hkeys : ∀ e ∈ l.entities, e.name.isKey)
include hkeys

lemma inspect_of_clashes (h : ¬(plainNames l.entities).Nodup) :
    Gives (inspect db rules readers) (.error (.clashes (clashGroups l.entities))) [] := by
  have hchecked := gives_checkNames hkeys
  rw [if_neg h] at hchecked
  rw [inspect_eq]
  exact l.gives_listAll.bind_ok hchecked.bind_error

lemma inspect_of_nodup (h : (plainNames l.entities).Nodup) :
    EndsWith (inspect db rules readers) (offered db rules readers l.entities) := by
  have hchecked := gives_checkNames hkeys
  rw [if_pos h] at hchecked
  obtain ⟨asked, hoffered⟩ := endsWith_offerAll db rules readers l.entities
  rw [inspect_eq]
  exact ⟨asked, l.gives_listAll.bind_ok (hchecked.bind_ok hoffered)⟩

lemma inspect_ok_iff {sources : List Source} :
    (inspect db rules readers).start.outcome = .ok sources ↔ checkReaders readers = .ok () ∧
      List.Forall₂ (Offers db rules) (inTurn l.rows) sources ∧
      (sources.map (·.name.plain)).Nodup := by
  rw [forall₂_offers l.read]
  by_cases hnodup : (plainNames l.entities).Nodup
  · obtain ⟨asked, hends⟩ := l.inspect_of_nodup readers hkeys hnodup
    rw [hends.start.1, offered_eq_ok]
    refine and_congr_right fun _ => ⟨fun hoffers => ⟨hoffers, ?_⟩, fun h => h.1⟩
    rwa [plainNames_built hoffers]
  · rw [(l.inspect_of_clashes readers hkeys hnodup).start.1]
    constructor
    · intro h
      cases h
    · rintro ⟨_, hoffers, hunique⟩
      rw [plainNames_built hoffers] at hunique
      exact absurd hunique hnodup

end Listing

lemma Listing.isKey_of_ok {db : Database} {rules : List Rule} {readers : Option Value}
    {sources : List Source} (l : Listing db rules)
    (h : (inspect db rules readers).start.outcome = .ok sources) :
    ∀ e ∈ l.entities, e.name.isKey := by
  by_contra hkeys
  simp only [not_forall, Bool.not_eq_true, exists_prop] at hkeys
  obtain ⟨e, _, _, he⟩ := l.inspect_of_unusable readers hkeys
  rw [he.start.1] at h
  cases h

/-- What is offered was listed. -/
lemma exists_listing_of_ok {db : Database} {rules : List Rule} {readers : Option Value}
    {sources : List Source} (h : (inspect db rules readers).start.outcome = .ok sources) :
    ∃ l : Listing db rules, List.Forall₂ (Offers db rules) (inTurn l.rows) sources := by
  rcases isEmpty_or_nonempty (Listing db rules) with hempty | ⟨⟨l⟩⟩
  · have hfails : ∃ e, Gives (inspect db rules readers) (.error e) [] := by
      rw [inspect_eq]
      rcases gives_listAll_of_isEmpty hempty with ⟨kind, e, _, he⟩ | ⟨fault, hfault⟩
      · exact ⟨_, he.bind_error⟩
      · exact ⟨_, hfault.bind_error⟩
    obtain ⟨e, he⟩ := hfails
    rw [he.start.1] at h
    cases h
  · exact ⟨l, ((l.inspect_ok_iff readers (l.isKey_of_ok h)).mp h).2.1⟩

/-- An inspection offers all entities that are listed, in the order of the listing, or fails as a
whole: without a listing, when a name cannot be a key, when entities share a name, and otherwise
with the first entity whose details cannot be read. -/
theorem inspect_complete_or_fails (db : Database) (rules : List Rule) (readers : Option Value)
    (h : ∀ rule ∈ rules, rule.IsValid) :
    let inspected := (inspect db rules readers).start
    let report := inspected.outcome.mapError InspectionError.failure
    (IsEmpty (Listing db rules) → inspected.journal.details = [] ∧ ∃ fault,
      report = .error (.foreseen
        { area := .discovery, message := "Failed to enumerate tables and views",
          cause := some fault })) ∧
    ∀ l : Listing db rules,
      ((∃ e ∈ l.entities, e.name.isKey = false) → inspected.journal.details = [] ∧
        ∃ e ∈ l.entities, e.name.isKey = false ∧
          report = .error (.unexpected (ShapeError.notAKey e.name).fault)) ∧
      ((∀ e ∈ l.entities, e.name.isKey) →
        (∀ sources, inspected.outcome = .ok sources ↔ checkReaders readers = .ok () ∧
          List.Forall₂ (Offers db rules) (inTurn l.rows) sources ∧
          (sources.map (·.name.plain)).Nodup) ∧
        (¬(plainNames l.entities).Nodup → inspected.journal.details = [] ∧
          ∃ groups, AreClashes l.entities groups ∧
            report = .error (.foreseen
              { area := .discovery, message := "Discovered entities share a source name: "
                  ++ "; ".intercalate (groups.map fun names => ", ".intercalate names) })) ∧
        ((plainNames l.entities).Nodup → checkReaders readers = .ok () →
          ∀ before e after fault, l.entities = before ++ e :: after →
            (∀ b ∈ before, ∃ details, db.details b.schema b.name = .ok details) →
            db.details e.schema e.name = .error fault →
            report = .error (.foreseen
              { area := .discovery, message := "Failed to fetch entity details",
                cause := some fault }))) := by
  intro inspected report
  refine ⟨fun hempty => ?_, fun l => ⟨fun hnames => ?_, fun hkeys => ⟨fun sources => ?_, ?_, ?_⟩⟩⟩
  · obtain ⟨fault, hfault⟩ := gives_listAll_of_isValid h hempty
    have hinspect : Gives (inspect db rules readers) (.error (.listing fault)) [] :=
      inspect_eq db rules readers ▸ hfault.bind_error
    exact ⟨hinspect.start.2, fault, congrArg (Except.mapError _) hinspect.start.1⟩
  · obtain ⟨e, he, hkey, hinspect⟩ := l.inspect_of_unusable readers hnames
    exact ⟨hinspect.start.2, e, he, hkey, congrArg (Except.mapError _) hinspect.start.1⟩
  · exact l.inspect_ok_iff readers hkeys
  · intro hclash
    have hinspect := l.inspect_of_clashes readers hkeys hclash
    exact ⟨hinspect.start.2, clashGroups l.entities, areClashes_clashGroups l.entities,
      congrArg (Except.mapError _) hinspect.start.1⟩
  · intro hnodup hreaders before e after fault hentities hbefore he
    obtain ⟨asked, hinspect⟩ := l.inspect_of_nodup readers hkeys hnodup
    rw [hentities, offered_eq_error hreaders hbefore he] at hinspect
    exact congrArg (Except.mapError _) hinspect.start.1

/-- A database with a table and a view. -/
def shop : Recording where
  tables := .array [.object [("table_schema", .string "public"), ("table_name", .string "orders"),
    ("primary_keys", .array [.string "id"])]]
  views := .array [.object [("table_schema", .string "public"), ("table_name", .string "totals")]]
  details := .array [
    .object [("schema", .string "public"), ("name", .string "orders"),
      ("columns", .array [.object [
        ("name", .string "id"), ("type", .string "integer"), ("nullable", .bool false)]])],
    .object [("schema", .string "public"), ("name", .string "totals")]]

/-- The rule that covers all. -/
def everything : Rule where
  schemas := some .all
  tables := some .all
  views := some .all
  actions := defaultActions

def shopListing : Listing shop.database [everything] where
  rows := rowsOf
    [.object [("table_schema", .string "public"), ("table_name", .string "orders"),
      ("primary_keys", .array [.string "id"])]]
    [.object [("table_schema", .string "public"), ("table_name", .string "totals")]]
  entities := [⟨.table, .string "public", .string "orders", [.string "id"]⟩,
    ⟨.view, .string "public", .string "totals", []⟩]
  answered
    | .table => ⟨_, rfl, rfl⟩
    | .view => ⟨_, rfl, rfl⟩
  read := .cons rfl (.cons rfl .nil)

theorem inspect_shop :
    ∃ sources, (inspect shop.database [everything]).start.outcome = .ok sources ∧
      sources.map (·.name) = [.string "orders", .string "totals"] ∧
      List.Forall₂ (Offers shop.database [everything]) (inTurn shopListing.rows) sources := by
  have hvalid : ∀ rule ∈ [everything], rule.IsValid := by
    rintro rule (_ | ⟨_, h⟩)
    · constructor <;> simp [everything, Scope.IsValid]
    · cases h
  have hkeys : ∀ e ∈ shopListing.entities, e.name.isKey := by decide
  obtain ⟨_, hlisted⟩ := inspect_complete_or_fails shop.database [everything] none hvalid
  obtain ⟨hoffered, _, _⟩ := (hlisted shopListing).2 hkeys
  exact ⟨_, rfl, rfl, ((hoffered _).mp rfl).2.1⟩

/-- A database with two tables of one name, which is a list. -/
def listNames : Recording where
  tables := .array [
    .object [("table_schema", .string "s"), ("table_name", .array [.string "a"]),
      ("primary_keys", .array [.string "id"])],
    .object [("table_schema", .string "t"), ("table_name", .array [.string "a"]),
      ("primary_keys", .array [.string "id"])]]

def listNamesListing : Listing listNames.database [everything] where
  rows := rowsOf
    [.object [("table_schema", .string "s"), ("table_name", .array [.string "a"]),
      ("primary_keys", .array [.string "id"])],
     .object [("table_schema", .string "t"), ("table_name", .array [.string "a"]),
      ("primary_keys", .array [.string "id"])]]
    []
  entities := [⟨.table, .string "s", .array [.string "a"], [.string "id"]⟩,
    ⟨.table, .string "t", .array [.string "a"], [.string "id"]⟩]
  answered
    | .table => ⟨_, rfl, rfl⟩
    | .view => ⟨_, rfl, rfl⟩
  read := .cons rfl (.cons rfl .nil)

/-- Tables that share a list for a name are not reported as tables that share a name. -/
theorem inspect_listNames :
    ¬(plainNames listNamesListing.entities).Nodup ∧
      ∀ report, (inspect listNames.database [everything]).start.outcome.mapError
        InspectionError.failure ≠ .error (.foreseen report) := by
  refine ⟨by decide, ?_⟩
  intro report h
  cases h

end TableGateway.Discovery
