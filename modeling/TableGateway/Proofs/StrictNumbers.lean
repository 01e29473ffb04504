import Mathlib
import TableGateway.Proofs.Descriptions

/-!
# What strict numbers rule out

A description says which rows are valid. Whatever the columns are, the rows that are valid when
numbers are strict are those that are valid otherwise and have no text in the place of a number.
-/

namespace TableGateway

/-! ### The meaning of schemas -/

/-- What a keyword of a schema says of data. -/
inductive Rule where
  | nothing
  | kind
  | oneOf
  | pattern
  | choice
  | properties
  | required
  | least
  | additional
deriving Repr, DecidableEq

def Rule.of : String → Rule
  | "type" => kind
  | "oneOf" => oneOf
  | "pattern" => pattern
  | "enum" => choice
  | "properties" => properties
  | "required" => required
  | "minProperties" => least
  | "additionalProperties" => additional
  | _ => nothing

/-- The names of the properties that keywords tell of. -/
def propertyNames (keywords : List (String × Value)) : List String :=
  (((keywords.lookup "properties").bind Value.members?).getD []).map (·.1)

namespace Value

/-- The names of the kinds that data is of. Whole numbers are numbers. -/
def kinds : Value → List String
  | null => ["null"]
  | bool _ => ["boolean"]
  | int _ => ["integer", "number"]
  | double _ => ["number"]
  | string _ => ["string"]
  | array _ => ["array"]
  | object _ => ["object"]

section Validity

variable (fits : String → String → Bool)

mutual

/-- Whether data is valid under a schema. `fits` tells whether a regular expression is found in a
text. -/
def accepts : Value → Value → Bool
  | object keywords, v => agrees (propertyNames keywords) keywords v
  | _, _ => false
termination_by structural schema => schema

/-- Whether data is as a rule says. `names` are the properties that the schema tells of. -/
def obeys (names : List String) : Rule → Value → Value → Bool
  | .kind, string kind, v => v.kinds.contains kind
  | .kind, array kinds, v => v.kinds.any fun kind => kinds.contains (string kind)
  | .oneOf, array schemas, v => count schemas v = 1
  | .pattern, string pattern, string s => fits pattern s
  | .choice, array choices, v => choices.contains v
  | .properties, object schemas, object members => acceptsByName schemas members
  | .required, array required, object members =>
    required.all fun name => members.any fun m => .string m.1 = name
  | .least, int n, object members => n ≤ members.length
  | .additional, bool allowed, object members =>
    members.all fun m => names.contains m.1 || allowed
  | .additional, object keywords, object members =>
    members.all fun m => names.contains m.1 || agrees (propertyNames keywords) keywords m.2
  | _, _, _ => true
termination_by structural _ argument => argument

/-- How many schemas data is valid under. -/
def count : List Value → Value → Nat
  | [], _ => 0
  | schema :: rest, v => (accepts schema v).toNat + count rest v
termination_by structural schemas => schemas

/-- Whether each member is valid under the schema of its name. -/
def acceptsByName : List (String × Value) → List (String × Value) → Bool
  | [], _ => true
  | (name, schema) :: rest, members =>
    (match members.lookup name with
      | some v => accepts schema v
      | none => true) && acceptsByName rest members
termination_by structural schemas => schemas

/-- Whether data is as all keywords say. -/
def agrees (names : List String) : List (String × Value) → Value → Bool
  | [], _ => true
  | (keyword, argument) :: rest, v =>
    obeys names (.of keyword) argument v && agrees names rest v
termination_by structural keywords => keywords

end

variable {fits}

lemma agrees_append {names : List String} (keywords others : List (String × Value)) (v : Value) :
    agrees fits names (keywords ++ others) v =
      (agrees fits names keywords v && agrees fits names others v) := by
  induction keywords with
  | nil => rfl
  | cons k rest ih => rw [List.cons_append, agrees, ih, agrees, Bool.and_assoc]

lemma acceptsByName_iff {schemas members : List (String × Value)} :
    acceptsByName fits schemas members ↔
      ∀ p ∈ schemas, ∀ v, members.lookup p.1 = some v → accepts fits p.2 v := by
  induction schemas with
  | nil => simp [acceptsByName]
  | cons p rest ih =>
    rw [acceptsByName, Bool.and_eq_true, ih, List.forall_mem_cons]
    cases members.lookup p.1 <;> simp

end Validity

end Value

namespace Catalog

open Value (accepts agrees obeys)

variable {fits : String → String → Bool}

/-! ### The meaning of properties -/

/-- That the database sets a property makes no difference, and a restriction to some values counts
besides the type. -/
lemma Property.accepts_toValue (p : Property) (v : Value) :
    accepts fits p.toValue v =
      (accepts fits (.object p.type.members) v &&
        agrees fits [] (enumerationMembers p.enumeration) v) := by
  -- the names of properties, which count for `additionalProperties`, come from the type alone
  have hnames : propertyNames (p.type.members ++ readOnlyMembers p.readOnly ++
      enumerationMembers p.enumeration) = propertyNames p.type.members := by
    have hreadOnly : (readOnlyMembers p.readOnly).lookup "properties" = none := by
      cases p.readOnly <;> rfl
    have hvalues : (enumerationMembers p.enumeration).lookup "properties" = none := by
      cases p.enumeration <;> rfl
    rw [propertyNames, List.lookup_append, List.lookup_append, hreadOnly, hvalues, Option.or_none,
      Option.or_none]
    rfl
  have hreadOnly : ∀ names, agrees fits names (readOnlyMembers p.readOnly) v := by
    intro names
    cases p.readOnly <;> rfl
  have hvalues : ∀ names, agrees fits names (enumerationMembers p.enumeration) v =
      agrees fits [] (enumerationMembers p.enumeration) v := by
    intro names
    cases p.enumeration <;> rfl
  rw [toValue, accepts, hnames, Value.agrees_append, Value.agrees_append, hreadOnly,
    Bool.and_true, hvalues, accepts]

/-- No data but a number is valid when numbers are strict; otherwise exactly one of the two types
takes a number, too. -/
lemma accepts_numberType (pattern : Pattern) (v : Value) :
    accepts fits (.object (numberType true pattern).members) v =
      (accepts fits (.object (numberType false pattern).members) v && !v.isText) := by
  cases v with
  | string s => exact (Bool.and_false _).symm
  | _ => rfl

/-- A column of whole numbers or of numbers with a fraction. -/
def Column.IsNumeric (c : Column) : Prop :=
  ∃ type ∈ integerTypes ++ decimalTypes, c.type = .string type

namespace PropertyType

variable {type : String}

lemma ofColumnType_of_mem (h : type ∈ integerTypes ++ decimalTypes) :
    ∃ pattern, ∀ strict, ofColumnType strict type = numberType strict pattern := by
  by_cases hinteger : type ∈ integerTypes
  · exact ⟨.digits, fun strict => by simp [ofColumnType, hinteger]⟩
  · have hdecimal : type ∈ decimalTypes := (List.mem_append.mp h).resolve_left hinteger
    exact ⟨.decimal, fun strict => by simp [ofColumnType, hinteger, hdecimal]⟩

lemma ofColumnType_of_not_mem (h : type ∉ integerTypes ++ decimalTypes) :
    ofColumnType true type = ofColumnType false type := by
  rw [List.mem_append, not_or] at h
  simp [ofColumnType, h.1, h.2]

end PropertyType

lemma Column.accepts_described {c : Column} (hc : c.IsTyped) (v : Value) :
    accepts fits (c.described true).toValue v ↔
      accepts fits (c.described false).toValue v ∧ (c.IsNumeric → ¬v.isText) := by
  have htype : c.IsNumeric ↔ c.type.keyText ∈ integerTypes ++ decimalTypes := by
    rw [IsNumeric, ← string_keyText hc.type]
    simp [Value.keyText]
  rw [Property.accepts_toValue, Property.accepts_toValue, htype]
  unfold described
  by_cases hnumeric : c.type.keyText ∈ integerTypes ++ decimalTypes
  · obtain ⟨pattern, hpattern⟩ := PropertyType.ofColumnType_of_mem hnumeric
    simp only [hpattern, accepts_numberType, hnumeric]
    simp only [Bool.and_eq_true, Bool.not_eq_true', forall_const, Bool.not_eq_true]
    exact and_right_comm
  · simp [PropertyType.ofColumnType_of_not_mem hnumeric, hnumeric]

/-! ### The meaning of descriptions -/

namespace Document

/-- A row is valid if its members have the properties of their names and those that are required are
there. -/
lemma accepts_toValue (d : Document) (members : List (String × Value)) :
    accepts fits d.toValue (.object members) ↔
      (∀ p ∈ d.properties, ∀ v, members.lookup p.1.keyText = some v →
        accepts fits p.2.toValue v) ∧
      ∀ name ∈ d.required, ∃ m ∈ members, .string m.1 = name := by
  have htitle : ∀ names, obeys fits names .nothing d.title (.object members) := by
    intro names
    cases d.title <;> rfl
  have hproperties : Value.acceptsByName fits
      (d.properties.map fun p => (p.1.keyText, p.2.toValue)) members ↔
      ∀ p ∈ d.properties, ∀ v, members.lookup p.1.keyText = some v →
        accepts fits p.2.toValue v := by
    rw [Value.acceptsByName_iff, List.forall_mem_map]
  rw [toValue, accepts, ← hproperties]
  simp [agrees, Rule.of, htitle, obeys, Value.kinds, DataKind.text]

/-- The rows that are valid when numbers are strict are those that are valid otherwise and have no
text in a column of numbers. -/
theorem accepts_strict_iff (fits : String → String → Bool) (title : String) (columns : List Column)
    (htyped : ∀ c ∈ columns, c.IsTyped) (hnames : (columns.map (·.name)).Nodup) :
    ∃ strict lenient, Document.ofColumns (.string title) columns true = .ok strict ∧
      Document.ofColumns (.string title) columns false = .ok lenient ∧
      ∀ members, accepts fits strict.toValue (.object members) ↔
        accepts fits lenient.toValue (.object members) ∧
        ∀ c ∈ columns, c.IsNumeric → ∀ name v, c.name = .string name →
          members.lookup name = some v → ¬v.isText := by
  refine ⟨_, _, ofColumns_eq title htyped hnames true, ofColumns_eq title htyped hnames false, ?_⟩
  intro members
  have hproperty : ∀ strict,
      (∀ p ∈ (described title columns strict).properties, ∀ v,
        members.lookup p.1.keyText = some v → accepts fits p.2.toValue v) ↔
      ∀ c ∈ columns, ∀ v, members.lookup c.name.keyText = some v →
        accepts fits (c.described strict).toValue v :=
    fun strict => List.forall_mem_map
  rw [accepts_toValue, accepts_toValue, hproperty, hproperty]
  constructor
  · rintro ⟨hstrict, hrequired⟩
    have heach c (hc : c ∈ columns) v (hv : members.lookup c.name.keyText = some v) :=
      (Column.accepts_described (htyped c hc) v).mp (hstrict c hc v hv)
    refine ⟨⟨fun c hc v hv => (heach c hc v hv).1, hrequired⟩, ?_⟩
    intro c hc hnumeric name v hname hv
    have hkey : c.name.keyText = name := by rw [hname, Value.keyText]
    exact (heach c hc v (hkey ▸ hv)).2 hnumeric
  · rintro ⟨⟨hlenient, hrequired⟩, hnumbers⟩
    refine ⟨fun c hc v hv => ?_, hrequired⟩
    have hname : c.name = .string c.name.keyText := (Column.string_keyText (htyped c hc).name).symm
    exact (Column.accepts_described (htyped c hc) v).mpr
      ⟨hlenient c hc v hv, fun hnumeric => hnumbers c hc hnumeric _ v hname hv⟩

/-- The expressions for numbers, as far as they are found in texts of digits only. -/
def fitsDigits (_ s : String) : Bool :=
  s ≠ "" && s.toList.all Char.isDigit

theorem accepts_strict_iff_rated :
    (∀ c ∈ ratedColumns, c.IsTyped) ∧ (ratedColumns.map (·.name)).Nodup ∧
      ∃ strict lenient, Document.ofColumns (.string "test") ratedColumns true = .ok strict ∧
        Document.ofColumns (.string "test") ratedColumns false = .ok lenient ∧
        accepts fitsDigits lenient.toValue
          (.object [("id", .string "7"), ("name", .string "n")]) ∧
        ¬accepts fitsDigits strict.toValue
          (.object [("id", .string "7"), ("name", .string "n")]) := by
  have hnames : (ratedColumns.map (·.name)).Nodup := by decide
  obtain ⟨strict, lenient, hstrict, hlenient, hrows⟩ :=
    accepts_strict_iff fitsDigits "test" ratedColumns isTyped_ratedColumns hnames
  refine ⟨isTyped_ratedColumns, hnames, strict, lenient, hstrict, hlenient, ?_, ?_⟩
  · obtain rfl := Except.ok.inj hlenient
    decide
  · rw [hrows]
    rintro ⟨-, hnumbers⟩
    exact hnumbers _ List.mem_cons_self ⟨"integer", by decide, rfl⟩ "id" (.string "7") rfl rfl rfl

end Document

end Catalog

end TableGateway
