import TableGateway.Value.Number

/-!
# Queries that have no statement

The ways in which a query cannot be written as SQL, and what is said about each.
-/

namespace TableGateway.Query

/-- Why a query has no statement. -/
inductive Error where
  /-- An update that assigns nothing. -/
  | emptyUpdate (source : String)
  /-- A comparison with a list of no values. -/
  | emptyList (field : String)
  /-- Something in the place of a condition that is none. -/
  | unsupported (condition : Value)
  /-- A fragment whose markers are not as many as its values. -/
  | markerMismatch (fragment : String) (markers values : Nat)
  /-- A page before the first one, or of a negative size. -/
  | invalidPage (size number : Value)
  /-- A page whose limit or offset is no integer, or too long. -/
  | pageBounds (cause : IntegerError)
  /-- A join of a write that names no place in the row. -/
  | emptyJoinPath
  /-- Data of a shape that its place does not allow. -/
  | data (e : ShapeError)
deriving Repr, DecidableEq

/-- The wording of an error. -/
def Error.message : Error → String
  | emptyUpdate source => "An update of '" ++ source ++ "' requires at least one value"
  | emptyList field => "Condition on '" ++ field ++ "' has an empty list of values"
  | unsupported condition => "Unsupported condition: " ++ condition.quoted
  | markerMismatch fragment markers values =>
    "Raw fragment " ++ Value.quotedString fragment ++ " has " ++ toString markers
      ++ " markers but " ++ toString values ++ " values"
  | invalidPage size number =>
    "Invalid page: size=" ++ size.shown ++ ", number=" ++ number.shown
  | pageBounds cause => cause.fault.text
  | emptyJoinPath => "A join names no place in the row"
  | data e => e.fault.text

/-- The integers that the message of an error shows, as they come from the query. -/
def Error.integers : Error → List Int
  | unsupported condition => condition.integers
  | invalidPage size number => size.integers ++ number.integers
  | _ => []

/-- What is reported of an error. A join without a place is not foreseen, nor are data of the wrong
shape, pages of no integers and messages with an integer that is too long to be written. -/
def Error.failure : Error → Failure
  | emptyJoinPath => .unexpected ⟨.outOfRange, emptyJoinPath.message⟩
  | pageBounds cause => .unexpected cause.fault
  | data e => .unexpected e.fault
  | e =>
    match e.integers.findSome? lengthError? with
    | some cause => .unexpected cause.fault
    | none => .foreseen { area := .query, message := e.message }

end TableGateway.Query
