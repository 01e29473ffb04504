import TableGateway.Query.Statement
import TableGateway.Text.DecimalDigit

/-!
# Named parameters

A database driver takes a statement whose slots are written `%(p1)s`, and in which any other
percent sign is doubled. Text without values is sent as it stands.
-/

namespace TableGateway.Query

/-- A part of a numbered text: a slot, with its digits, or a character. -/
inductive Segment where
  | char (c : Char)
  | slot (digits : List Char)
deriving Repr, DecidableEq

namespace Segment

/-- The characters of the numbered text that a segment stands for. -/
def text : Segment → List Char
  | char c => [c]
  | slot digits => '$' :: digits

/-- The digits at the head of a list of segments. -/
def leadingDigits : List Segment → List Char
  | char c :: rest => if Text.isDigit c then c :: leadingDigits rest else []
  | _ => []

theorem isDigit_of_mem_leadingDigits {segments : List Segment} {c : Char}
    (h : c ∈ leadingDigits segments) : Text.isDigit c := by
  fun_induction leadingDigits segments <;> grind

/-- Reads a text as slots and characters: a slot is a dollar sign and all the digits that follow,
at least one. -/
def scan : List Char → List Segment
  | [] => []
  | c :: s =>
    let rest := scan s
    let digits := leadingDigits rest
    if c = '$' ∧ digits ≠ [] then
      slot digits :: rest.drop digits.length
    else
      char c :: rest

/-- The segment in the driver's notation. -/
def named : Segment → List Char
  | char c => if c = '%' then ['%', '%'] else [c]
  | slot digits => "%(p".toList ++ digits ++ ")s".toList

end Segment

/-- A value as it is handed to the driver. -/
inductive Parameter where
  | plain (d : Datum)
  /-- An object, which the driver sends as JSON. -/
  | json (d : Datum)
deriving Repr

/-- How a bound value is handed over. -/
def Parameter.ofDatum (d : Datum) : Parameter :=
  if d.members?.isSome then .json d else .plain d

/-- A statement in the driver's notation. Without parameters the text is sent untouched. -/
structure NamedStatement where
  text : String
  parameters : Option (List (String × Parameter))
deriving Repr

/-- The parameters `p1`, `p2`, … of a list of values. -/
def namedParameters (values : List Datum) : List (String × Parameter) :=
  values.zipIdx.map fun (d, i) => ("p" ++ toString (i + 1), Parameter.ofDatum d)

/-- A numbered text in the notation of the driver. -/
def NamedStatement.ofText (text : String) (values : List Datum) : NamedStatement :=
  match values with
  | [] => ⟨text, none⟩
  | values =>
    ⟨String.ofList ((Segment.scan text.toList).flatMap Segment.named),
      some (namedParameters values)⟩

/-- A statement as it is sent to the database. -/
def Statement.named (s : Statement) : NamedStatement :=
  NamedStatement.ofText s.text s.values

end TableGateway.Query
