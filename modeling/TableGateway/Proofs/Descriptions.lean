import Mathlib
import TableGateway.Catalog.Document
import TableGateway.Proofs.Clashes
import TableGateway.Proofs.ConfiguredProviders

/-!
# Which descriptions of rows are schemas

Draft 4 of JSON Schema says of each keyword what stands under it. A description of rows keeps to
that except in one place: the array under `required` must not be empty, and the description of a
table without required columns has an empty one.
-/

namespace TableGateway

/-! ### Schemas -/

/-- What a keyword of a schema demands of the data under it. -/
inductive Demand where
  | nothing
  | text
  | count
  /-- The name of a kind of data, or several. -/
  | kinds
  | names
  | choices
  | schemas
  | schemasByName
  | truthOrSchema
deriving Repr, DecidableEq

/-- The demands of the keywords that occur in descriptions. Other keywords are free. -/
def Demand.of : String → Demand
  | "$schema" | "title" | "pattern" | "format" => text
  | "type" => kinds
  | "enum" => choices
  | "oneOf" => schemas
  | "properties" => schemasByName
  | "additionalProperties" => truthOrSchema
  | "minProperties" => count
  | "required" => names
  | _ => nothing

/-- The names of the kinds of data. -/
def kindNames : List Value :=
  ["array", "boolean", "integer", "null", "number", "object", "string"].map .string

/-- A set, written as an array, that is not empty. -/
def isSet (items : List Value) : Bool :=
  !items.isEmpty && decide items.Nodup

namespace Value

mutual

/-- Whether data is a schema. -/
def isSchema : Value → Bool
  | object keywords => meetDemands keywords
  | _ => false

def meets : Demand → Value → Bool
  | .nothing, _ => true
  | .text, v => v.isText
  | .count, int n => 0 ≤ n
  | .kinds, string kind => kindNames.contains (string kind)
  | .kinds, array kinds => isSet kinds && kinds.all kindNames.contains
  | .names, array names => isSet names && names.all isText
  | .choices, array choices => isSet choices
  | .schemas, array items => !items.isEmpty && areSchemas items
  | .schemasByName, object members => areSchemasByName members
  | .truthOrSchema, bool _ => true
  | .truthOrSchema, object keywords => meetDemands keywords
  | _, _ => false

def areSchemas : List Value → Bool
  | [] => true
  | v :: rest => isSchema v && areSchemas rest

def areSchemasByName : List (String × Value) → Bool
  | [] => true
  | (_, v) :: rest => isSchema v && areSchemasByName rest

/-- Whether each keyword has what it demands. -/
def meetDemands : List (String × Value) → Bool
  | [] => true
  | (keyword, v) :: rest => meets (.of keyword) v && meetDemands rest

end

lemma areSchemas_iff {items : List Value} : areSchemas items ↔ ∀ v ∈ items, v.isSchema := by
  induction items with
  | nil => simp [areSchemas]
  | cons v rest ih => simp [areSchemas, ih]

lemma areSchemasByName_iff {members : List (String × Value)} :
    areSchemasByName members ↔ ∀ m ∈ members, m.2.isSchema := by
  induction members with
  | nil => simp [areSchemasByName]
  | cons m rest ih => simp [areSchemasByName, ih]

lemma meetDemands_append (keywords others : List (String × Value)) :
    meetDemands (keywords ++ others) = (meetDemands keywords && meetDemands others) := by
  induction keywords with
  | nil => rfl
  | cons k rest ih => rw [List.cons_append, meetDemands, ih, meetDemands, Bool.and_assoc]

/-- An object without what stands under a key; other data as it is. -/
def without (key : String) : Value → Value
  | object members => object (members.filter (·.1 ≠ key))
  | v => v

end Value

namespace Catalog

open Value (meetDemands meets)

/-! ### Columns and their properties -/

namespace Column

/-- A column whose name, type and checks are texts. -/
@[mk_iff]
structure IsTyped (c : Column) : Prop where
  name : c.name.isText
  type : c.type.isText
  checks : ∀ check ∈ c.constraints, check.isTruthy → check.isText

/-- The property of a typed column. -/
def described (strict : Bool) (c : Column) : Property where
  type := .ofColumnType strict c.type.keyText
  readOnly := c.isReadOnly
  enumeration :=
    ((c.constraints.filter Value.isTruthy).flatMap fun check =>
      valuesOfCheck check.keyText).eraseDups

lemma string_keyText {v : Value} (h : v.isText) : .string v.keyText = v := by
  cases v with
  | string s => rfl
  | _ => cases h

lemma mapM_asText {values : List Value} (h : ∀ v ∈ values, v.isText) :
    values.mapM Value.asText = .ok (values.map Value.keyText) := by
  rw [mapM_eq_ok_iff, List.forall₂_map_right_iff, List.forall₂_same]
  intro v hv
  rw [← string_keyText (h v hv)]
  rfl

lemma IsTyped.property_eq {c : Column} (hc : c.IsTyped) (strict : Bool) :
    c.property strict = .ok (c.described strict) := by
  have htype : c.propertyType strict = .ok (.ofColumnType strict c.type.keyText) := by
    rw [propertyType, ← string_keyText hc.type]
    rfl
  have hchecks : ∀ check ∈ c.constraints.filter Value.isTruthy, check.isText := by
    intro check hcheck
    obtain ⟨hmem, htruthy⟩ := List.mem_filter.mp hcheck
    exact hc.checks check hmem htruthy
  rw [property, htype, enumeration, mapM_asText hchecks, described, ← List.flatMap_map]
  rfl

/-- What must be given is not set by the database. -/
lemma isReadOnly_of_isRequired {c : Column} (h : c.isRequired) : c.isReadOnly = false := by
  rw [isRequired, Bool.and_eq_true, decide_eq_true_eq] at h
  have hdefault : c.hasSequence = false := by rw [hasSequence, h.2]
  rw [isReadOnly, hdefault, Bool.and_false]

end Column

/-- The description of rows with typed columns of different names. -/
def Document.described (title : String) (columns : List Column) (strict : Bool) : Document where
  title := .string title
  properties := columns.map fun c => (c.name, c.described strict)
  required := (columns.filter Column.isRequired).map (·.name)

lemma Document.ofColumns_eq (title : String) {columns : List Column}
    (htyped : ∀ c ∈ columns, c.IsTyped) (hnames : (columns.map (·.name)).Nodup) (strict : Bool) :
    Document.ofColumns (.string title) columns strict = .ok (.described title columns strict) := by
  let entry (c : Column) : Value × Property := (c.name, c.described strict)
  have hentries : columns.mapM (fun c => do
      let property ← c.property strict
      c.name.asKey
      return (c.name, property)) = .ok (columns.map entry) := by
    rw [mapM_eq_ok_iff, List.forall₂_map_right_iff, List.forall₂_same]
    intro c hc
    have hkey : c.name.asKey = .ok () := by
      rw [← Column.string_keyText (htyped c hc).name]
      rfl
    rw [(htyped c hc).property_eq, ok_bind, hkey]
    rfl
  -- entries stand under the plain forms of their keys, and a text is its own plain form
  have hplain : columns.map (fun c => c.name.plain) = columns.map (·.name) := by
    refine List.map_congr_left fun c hc => ?_
    rw [← Column.string_keyText (htyped c hc).name, Value.plain]
  have hkeys : (plainKeys ([] : List (Value × Property)) ++
      (columns.map entry).map fun p => p.1.plain).Nodup := by
    rw [List.map_map, plainKeys, List.map_nil, List.nil_append]
    exact hplain ▸ hnames
  have hfold := foldl_setEntry_of_nodup (f := Prod.snd) hkeys
  rw [Document.ofColumns, hentries, ok_bind, hfold, List.map_map]
  rfl

/-! ### Properties as schemas -/

lemma Primitive.isSchema_toValue (p : Primitive) : p.toValue.isSchema := by
  obtain ⟨kind, pattern, format⟩ := p
  cases kind <;> cases pattern <;> cases format <;> rfl

lemma PropertyType.meetDemands_members {t : PropertyType} (h : t ≠ .oneOf []) :
    meetDemands t.members := by
  cases t with
  | anything => rfl
  | simple p => exact p.isSchema_toValue
  | oneOf alternatives =>
    have hschemas : Value.areSchemas (alternatives.map Primitive.toValue) := by
      rw [Value.areSchemas_iff, List.forall_mem_map]
      exact fun p _ => p.isSchema_toValue
    cases alternatives with
    | nil => exact absurd rfl h
    | cons p rest => simpa [members, meetDemands, Demand.of, meets] using hschemas
  | record format least parts =>
    have hschemas : Value.areSchemasByName (parts.map fun m => (m.1, m.2.toValue)) := by
      rw [Value.areSchemasByName_iff, List.forall_mem_map]
      exact fun m _ => m.2.isSchema_toValue
    have hkind : .string DataKind.object.text ∈ kindNames := by decide
    simp [members, meetDemands, Demand.of, meets, Value.isText, hkind, hschemas]

lemma PropertyType.ofColumnType_ne (strict : Bool) (type : String) :
    ofColumnType strict type ≠ .oneOf [] := by
  unfold ofColumnType numberType
  cases strict <;> split_ifs <;> simp

lemma meetDemands_enumerationMembers {values : List String} (h : values.Nodup) :
    meetDemands (enumerationMembers values) := by
  cases values with
  | nil => rfl
  | cons s rest =>
    have hset : isSet ((s :: rest).map .string) := by
      have hnodup := h.map fun _ _ => Value.string.inj
      simpa [isSet] using hnodup
    simpa [enumerationMembers, meetDemands, Demand.of, meets] using hset

namespace Property

lemma isSchema_toValue {p : Property} (htype : p.type ≠ .oneOf []) (hvalues : p.enumeration.Nodup) :
    p.toValue.isSchema := by
  have hreadOnly : meetDemands (readOnlyMembers p.readOnly) := by
    cases p.readOnly <;> rfl
  have htype := PropertyType.meetDemands_members htype
  have hvalues := meetDemands_enumerationMembers hvalues
  rw [toValue, Value.isSchema, Value.meetDemands_append, Value.meetDemands_append, htype,
    hreadOnly, hvalues]
  rfl

lemma get?_readOnly (p : Property) :
    p.toValue.get? "readOnly" = if p.readOnly then some (.bool true) else none := by
  have htype : p.type.members.lookup "readOnly" = none := by
    cases p.type with
    | simple q =>
      obtain ⟨kind, pattern, format⟩ := q
      cases pattern <;> cases format <;> rfl
    | _ => rfl
  have hvalues : (enumerationMembers p.enumeration).lookup "readOnly" = none := by
    cases p.enumeration <;> rfl
  change (p.type.members ++ readOnlyMembers p.readOnly ++ _).lookup "readOnly" = _
  rw [List.lookup_append, List.lookup_append, htype, hvalues]
  cases p.readOnly <;> rfl

end Property

lemma Column.isSchema_described (strict : Bool) (c : Column) :
    (c.described strict).toValue.isSchema :=
  Property.isSchema_toValue (PropertyType.ofColumnType_ne _ _) (Discovery.nodup_eraseDups _)

/-! ### Descriptions as schemas -/

namespace Document

/-- All but the required names is as it should be. -/
lemma isSchema_without {d : Document} {title : String} (htitle : d.title = .string title)
    (hproperties : ∀ p ∈ d.properties, p.2.toValue.isSchema) :
    (d.toValue.without "required").isSchema := by
  have hschemas : Value.areSchemasByName
      (d.properties.map fun p => (p.1.keyText, p.2.toValue)) := by
    rwa [Value.areSchemasByName_iff, List.forall_mem_map]
  have hkind : .string DataKind.object.text ∈ kindNames := by decide
  simp [toValue, Value.without, Value.isSchema, meetDemands, Demand.of, meets, Value.isText,
    htitle, hkind, hschemas]

lemma isSchema_toValue (d : Document) :
    d.toValue.isSchema =
      ((d.toValue.without "required").isSchema && isSet d.required &&
        d.required.all Value.isText) := by
  simp [toValue, Value.without, Value.isSchema, meetDemands, Demand.of, meets, Bool.and_assoc]

/-- The description of rows is a schema exactly if some column is required. Everything else is as it
should be: each column has one property, and the required names are different names of properties
that the database does not set by itself. -/
theorem isSchema_iff (title : String) (columns : List Column) (strict : Bool)
    (htyped : ∀ c ∈ columns, c.IsTyped) (hnames : (columns.map (·.name)).Nodup) :
    ∃ d properties required, Document.ofColumns (.string title) columns strict = .ok d ∧
      d.toValue.get? "properties" = some (.object properties) ∧
      properties.map (fun p => Value.string p.1) = columns.map (·.name) ∧
      (∀ p ∈ properties, p.2.isSchema) ∧
      d.toValue.get? "required" = some (.array required) ∧
      required = (columns.filter Column.isRequired).map (·.name) ∧
      required.Nodup ∧
      (∀ name ∈ required, ∃ p ∈ properties, name = .string p.1 ∧ p.2.get? "readOnly" = none) ∧
      (d.toValue.without "required").isSchema ∧
      (d.toValue.isSchema ↔ required ≠ []) := by
  let member (c : Column) : String × Value := (c.name.keyText, (c.described strict).toValue)
  have hname : ∀ c ∈ columns, c.name = .string (member c).1 := by
    intro c hc
    exact (Column.string_keyText (htyped c hc).name).symm
  have hrequired : ((columns.filter Column.isRequired).map (·.name)).Nodup :=
    hnames.sublist (List.filter_sublist.map _)
  have hrest : ((described title columns strict).toValue.without "required").isSchema :=
    isSchema_without rfl (List.forall_mem_map.mpr fun c _ => c.isSchema_described strict)
  refine ⟨_, columns.map member, _, ofColumns_eq title htyped hnames strict, ?_, ?_, ?_, rfl, rfl,
    hrequired, ?_, hrest, ?_⟩
  · change some (Value.object ((columns.map _).map _)) = _
    rw [List.map_map]
    rfl
  · rw [List.map_map]
    exact List.map_congr_left fun c hc => (hname c hc).symm
  · exact List.forall_mem_map.mpr fun c _ => c.isSchema_described strict
  · intro name hmem
    obtain ⟨c, hc, rfl⟩ := List.mem_map.mp hmem
    obtain ⟨hc, hrequired⟩ := List.mem_filter.mp hc
    refine ⟨member c, List.mem_map_of_mem hc, hname c hc, ?_⟩
    rw [Property.get?_readOnly]
    exact if_neg (by simp [Column.described, Column.isReadOnly_of_isRequired hrequired])
  · have htexts : ∀ name ∈ (columns.filter Column.isRequired).map (·.name), name.isText := by
      intro name hmem
      obtain ⟨c, hc, rfl⟩ := List.mem_map.mp hmem
      exact (htyped c (List.mem_of_mem_filter hc)).name
    rw [isSchema_toValue, hrest]
    simp only [described, List.all_eq_true.mpr htexts]
    simp [isSet, hrequired]

/-- The columns of products with a rating, of which the name must be given. -/
def ratedColumns : List Column :=
  [{ name := .string "id", type := .string "integer", nullable := .bool false,
     default := .string "nextval('test_id_seq'::regclass)", isPrimaryKey := .bool true },
   { name := .string "name", type := .string "text", nullable := .bool false },
   { name := .string "rating", type := .string "text", nullable := .bool true,
     constraints := [.string "(rating = ANY (ARRAY['good'::text, 'bad'::text]))"] }]

lemma isTyped_ratedColumns : ∀ c ∈ ratedColumns, c.IsTyped := by
  simp [ratedColumns, Column.isTyped_iff, Value.isText]

theorem isSchema_rated :
    (∀ c ∈ ratedColumns, c.IsTyped) ∧ (ratedColumns.map (·.name)).Nodup ∧
      ∃ d, Document.ofColumns (.string "test") ratedColumns true = .ok d ∧ d.toValue.isSchema := by
  have hnames : (ratedColumns.map (·.name)).Nodup := by decide
  obtain ⟨d, properties, required, hd, -, -, -, -, hrequired, -, -, -, hschema⟩ :=
    isSchema_iff "test" ratedColumns true isTyped_ratedColumns hnames
  refine ⟨isTyped_ratedColumns, hnames, d, hd, hschema.mpr ?_⟩
  rw [hrequired]
  decide

/-- With no column that must be given the array of required names is empty, and no schema. -/
theorem not_isSchema_optional :
    ∃ d, Document.ofColumns (.string "t")
        [{ name := .string "a", type := .string "text", nullable := .bool true }] false = .ok d ∧
      d.toValue.isSchema = false :=
  ⟨_, rfl, by decide⟩

end Document

end Catalog

end TableGateway
