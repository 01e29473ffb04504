import TableGateway.Failure
import TableGateway.Value.Quoted

/-!
# The shape of data

Data that comes from outside may be of any shape. What is asked of it, a field, its items, its use
as a key, succeeds or fails with the reason.
-/

namespace TableGateway

/-- Why data cannot be used in its place. -/
inductive ShapeError where
  /-- Data that has no items. -/
  | notAList (v : Value)
  /-- Data that has no fields. -/
  | notAnObject (v : Value)
  /-- An object without a field. -/
  | missingField (name : String)
  /-- An object in the place of a list of which a part is taken. -/
  | notInOrder (v : Value)
  /-- An item that is no pair of a key and a value. -/
  | notAPair (v : Value)
  /-- An array or object in the place of a key. -/
  | notAKey (v : Value)
  | notAText (v : Value)
  | notANumber (v : Value)
  /-- Data on which there is no such operation. -/
  | lacks (v : Value) (operation : String)
  /-- Null in the place of a node. -/
  | nullNode
deriving Repr, DecidableEq

/-- The name of the kind of a value in messages. -/
def Value.kindName : Value → String
  | null => "NoneType"
  | bool _ => "bool"
  | int _ => "int"
  | double _ => "float"
  | string _ => "str"
  | array _ => "list"
  | object _ => "dict"

/-- The kind of a value in quotes. -/
def Value.quotedKind (v : Value) : String :=
  quotedString v.kindName

/-- What is reported of data that cannot be used. -/
def ShapeError.fault : ShapeError → Fault
  | notAList v => ⟨.wrongKind, v.quotedKind ++ " object is not iterable"⟩
  | notAnObject (.string _) => ⟨.wrongKind, "string indices must be integers, not 'str'"⟩
  | notAnObject (.array _) => ⟨.wrongKind, "list indices must be integers or slices, not str"⟩
  | notAnObject v => ⟨.wrongKind, v.quotedKind ++ " object is not subscriptable"⟩
  | missingField name => ⟨.missingField, Value.quotedString name⟩
  | notInOrder v => ⟨.wrongKind, "no part can be taken of " ++ v.quoted⟩
  | notAPair v => ⟨.badValue, v.quoted ++ " is no pair of a key and a value"⟩
  | notAKey v => ⟨.wrongKind, "unhashable type: " ++ v.quotedKind⟩
  | notAText v => ⟨.wrongKind, "expected string or bytes-like object, got " ++ v.quotedKind⟩
  | notANumber v => ⟨.wrongKind, v.quoted ++ " is not a number"⟩
  | lacks v operation => ⟨.noMembers,
      v.quotedKind ++ " object has no attribute " ++ Value.quotedString operation⟩
  | nullNode => ⟨.badValue, "None cannot be a node"⟩

namespace Value

/-- A field that an object must have. -/
def field (v : Value) (name : String) : Except ShapeError Value :=
  match v with
  | object members =>
    match members.lookup name with
    | some w => .ok w
    | none => .error (.missingField name)
  | v => .error (.notAnObject v)

/-- A field that may be absent, or null, which means the same. -/
def given? (v : Value) (name : String) : Option Value :=
  match v.get? name with
  | none | some null => none
  | w => w

/-- The items of a value. -/
def items (v : Value) : Except ShapeError (List Value) :=
  match v.elements? with
  | some items => .ok items
  | none => .error (.notAList v)

/-- The items of a field that may be absent. -/
def itemsOf (v : Value) (name : String) : Except ShapeError (List Value) :=
  match v.get? name with
  | none => .ok []
  | some w => w.items

/-- The items of a field that may be absent or null. -/
def itemsUnlessNull (v : Value) (name : String) : Except ShapeError (List Value) :=
  match v.given? name with
  | none => .ok []
  | some w => w.items

/-- The items of a field that may be absent; what does not count as given has none. -/
def itemsIfGiven (v : Value) (name : String) : Except ShapeError (List Value) :=
  match v.get? name with
  | none => .ok []
  | some w => if w.isTruthy then w.items else .ok []

/-- Succeeds for a value of which a part can be taken. -/
def inOrder (v : Value) : Except ShapeError Unit :=
  match v with
  | object _ => .error (.notInOrder v)
  | _ => .ok ()

/-- Succeeds for a value that can be a key. -/
def asKey (v : Value) : Except ShapeError Unit :=
  if v.isKey then .ok () else .error (.notAKey v)

/-- The text that a value is. -/
def asText : Value → Except ShapeError String
  | string s => .ok s
  | v => .error (.notAText v)

/-- Succeeds for values that are texts. -/
def areTexts (values : List Value) : Except ShapeError Unit :=
  values.forM fun v => v.asText.map fun _ => ()

end Value

end TableGateway
