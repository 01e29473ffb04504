import TableGateway.Catalog.Column

/-!
# Enumerations

A check of the form `(… = ANY (ARRAY['a'::text, …]))` lists the values that a column takes. The
values are the quoted literals of the list, in which a doubled quote stands for one.
-/

namespace TableGateway.Catalog

/-- The text that comes before the list. -/
def listOpening : List Char := " = ANY (ARRAY[".toList

/-- The text that comes after the list. -/
def listClosing : List Char := "]))".toList

/-- The text before the last occurrence of another text. -/
def beforeLast? (closing : List Char) : List Char → Option (List Char)
  | [] => none
  | c :: s =>
    match beforeLast? closing s with
    | some inner => some (c :: inner)
    | none => if closing.isPrefixOf (c :: s) then some [] else none

/-- The longest list after the last opening that a closing follows. -/
def innermostList? : List Char → Option (List Char)
  | [] => none
  | c :: s =>
    match innermostList? s with
    | some list => some list
    | none => (listOpening.isPrefixOf? (c :: s)).bind (beforeLast? listClosing)

/-- The list of a check, which stands on its first line. -/
def listOfCheck? : List Char → Option (List Char)
  | '(' :: s => innermostList? (s.takeWhile (· ≠ '\n'))
  | _ => none

/-- Where the reading of literals stands. -/
inductive LiteralState where
  | outside
  /-- Inside a literal. `fallback` is the literal that ends at the last doubled quote, which counts
  when no other end is found. -/
  | inside (body : List Char) (fallback : Option (List Char))
deriving Repr, DecidableEq

/-- The literals in a text. -/
def literals : LiteralState → List Char → List (List Char)
  | .outside, [] => []
  | .outside, '\'' :: s => literals (.inside [] none) s
  | .outside, _ :: s => literals .outside s
  | .inside _ fallback, [] => fallback.toList
  | .inside body _, '\'' :: '\'' :: s => literals (.inside (body ++ ['\'']) (some body)) s
  | .inside body _, '\'' :: s => body :: literals .outside s
  | .inside body fallback, c :: s => literals (.inside (body ++ [c]) fallback) s

/-- The values that a check lists. -/
def valuesOfCheck (check : String) : List String :=
  match listOfCheck? check.toList with
  | none => []
  | some list => (literals .outside list).map String.ofList

/-- The values that the checks of a column list, each once, in the order of their first mention. A
check that is given must be a text. -/
def Column.enumeration (c : Column) : Except ShapeError (List String) := do
  let checks ← (c.constraints.filter Value.isTruthy).mapM Value.asText
  return (checks.flatMap valuesOfCheck).eraseDups

end TableGateway.Catalog
