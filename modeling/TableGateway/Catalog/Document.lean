import TableGateway.Catalog.Enumeration
import TableGateway.Value.Equality

/-!
# Descriptions of rows

A table or view is described by a JSON Schema document: every column is a property, with the type
of its values, and the columns that must be given are required.
-/

namespace TableGateway.Catalog

/-- The kinds of JSON data. -/
inductive DataKind where
  | string
  | number
  | boolean
  | object
deriving Repr, DecidableEq

def DataKind.text : DataKind → String
  | string => "string"
  | number => "number"
  | boolean => "boolean"
  | object => "object"

/-- The patterns of texts. -/
inductive Pattern where
  /-- One or more digits. -/
  | digits
  /-- One or more digits, and possibly a point and more digits. -/
  | decimal
deriving Repr, DecidableEq

/-- The regular expression of a pattern. -/
def Pattern.text : Pattern → String
  | digits => "^\\d+$"
  | decimal => "^\\d+(\\.\\d+)?$"

/-- A kind of data, possibly restricted by a pattern or a format. -/
structure Primitive where
  kind : DataKind
  pattern : Option Pattern := none
  format : Option String := none
deriving Repr, DecidableEq

/-- The type of a property. -/
inductive PropertyType where
  /-- Any data. -/
  | anything
  | simple (p : Primitive)
  /-- Data of exactly one of the types. -/
  | oneOf (alternatives : List Primitive)
  /-- An object with at least `least` of the given members and no others. -/
  | record (format : String) (least : Nat) (members : List (String × Primitive))
deriving Repr, DecidableEq

/-- A property of a row. -/
structure Property where
  type : PropertyType
  readOnly : Bool := false
  /-- The values it takes, or none if it is not restricted to a list. -/
  enumeration : List String := []
deriving Repr, DecidableEq

/-- The description of the rows of a table or view. Title and names should be texts. -/
structure Document where
  title : Value
  properties : List (Value × Property)
  required : List Value
deriving Repr, DecidableEq

/-- The types of columns that hold whole numbers. -/
def integerTypes : List String :=
  ["smallint", "integer", "bigint", "smallserial", "serial", "bigserial"]

/-- The types of columns that hold numbers with a fraction. -/
def decimalTypes : List String :=
  ["numeric", "decimal", "real", "double precision"]

/-- The types of columns that hold a moment in time. -/
def momentTypes : List String :=
  ["date", "time without time zone", "time with time zone", "timestamp without time zone",
   "timestamp with time zone"]

/-- The units of an interval. -/
def intervalUnits : List String :=
  ["milliseconds", "seconds", "minutes", "hours", "days", "months", "years"]

/-- The type of a number. Unless numbers are strict, it may also be a text of digits, so that large
numbers survive. -/
def numberType (strict : Bool) (pattern : Pattern) : PropertyType :=
  if strict then .simple { kind := .number }
  else .oneOf [{ kind := .number }, { kind := .string, pattern := some pattern }]

/-- The type of the values of a column type. -/
def PropertyType.ofColumnType (strict : Bool) (type : String) : PropertyType :=
  if integerTypes.contains type then numberType strict .digits
  else if decimalTypes.contains type then numberType strict .decimal
  else if type = "boolean" then .simple { kind := .boolean }
  else if ["character", "character varying", "text"].contains type then
    .simple { kind := .string }
  else if ["json", "jsonb"].contains type then .simple { kind := .object }
  else if momentTypes.contains type then
    .simple { kind := .string, format := some "date-time" }
  else if type = "interval" then
    .record "interval" 1 (intervalUnits.map fun unit => (unit, { kind := .number }))
  else .anything

/-- The type of the values of a column. A column type that is no text is not known, but it must be
one that can be looked up. -/
def Column.propertyType (strict : Bool) (c : Column) : Except ShapeError PropertyType :=
  match c.type with
  | .string type => .ok (.ofColumnType strict type)
  | type => type.asKey.map fun _ => .anything

/-- The property of a column. -/
def Column.property (strict : Bool) (c : Column) : Except ShapeError Property := do
  return {
    type := ← c.propertyType strict
    readOnly := c.isReadOnly
    enumeration := ← c.enumeration }

/-- The description of rows with the given columns. Of several columns of one name the last one
counts, in the place of the first. -/
def Document.ofColumns (title : Value) (columns : List Column) (strict : Bool) :
    Except ShapeError Document := do
  let properties ← columns.mapM fun c => do
    let property ← c.property strict
    c.name.asKey
    return (c.name, property)
  return {
    title
    properties := properties.foldl (fun ps p => setEntry p.1 p.2 ps) []
    required := (columns.filter Column.isRequired).map (·.name) }

/-! The documents as data -/

/-- The members of a primitive type. -/
def Primitive.members (p : Primitive) : List (String × Value) :=
  [("type", .string p.kind.text)]
    ++ (p.pattern.map fun x => ("pattern", Value.string x.text)).toList
    ++ (p.format.map fun x => ("format", Value.string x)).toList

def Primitive.toValue (p : Primitive) : Value :=
  .object p.members

/-- The members that describe a type. -/
def PropertyType.members : PropertyType → List (String × Value)
  | anything => []
  | simple p => p.members
  | oneOf alternatives => [("oneOf", .array (alternatives.map Primitive.toValue))]
  | record format least members =>
    [("type", .string DataKind.object.text), ("format", .string format),
     ("minProperties", .int least), ("additionalProperties", .bool false),
     ("properties", .object (members.map fun m => (m.1, m.2.toValue)))]

/-- The member that marks a property as set by the database alone. -/
def readOnlyMembers (readOnly : Bool) : List (String × Value) :=
  if readOnly then [("readOnly", .bool true)] else []

/-- The member that lists the values of a property. -/
def enumerationMembers : List String → List (String × Value)
  | [] => []
  | values => [("enum", .array (values.map .string))]

def Property.toValue (p : Property) : Value :=
  .object (p.type.members ++ readOnlyMembers p.readOnly ++ enumerationMembers p.enumeration)

/-- The document as data. -/
def Document.toValue (d : Document) : Value :=
  .object [
    ("$schema", .string "http://json-schema.org/draft-04/schema#"),
    ("title", d.title),
    ("type", .string DataKind.object.text),
    ("properties", .object (d.properties.map fun p => (p.1.keyText, p.2.toValue))),
    ("required", .array d.required)]

end TableGateway.Catalog
