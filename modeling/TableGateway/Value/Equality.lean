import TableGateway.Value.Basic

/-!
# Equal values

Values count as equal when they differ only in how they are written: `1`, `1.0` and `true` are one
number, and the members of an object may stand in any order. Each value has a plain form, and
values are equal when their plain forms are the same. Lists of entries are searched by equal keys.
-/

namespace TableGateway

namespace Value

mutual

/-- The plain form of a value: a number without a fraction is whole, truth values are one and zero,
and members stand in the order of their keys. -/
def plain : Value → Value
  | null => null
  | bool b => int (if b then 1 else 0)
  | int n => int n
  | double x =>
    match x.integer? with
    | some n => int n
    | none => double x
  | string s => string s
  | array items => array (plainItems items)
  | object members => object ((plainMembers members).mergeSort fun a b => !(b.1 < a.1))

def plainItems : List Value → List Value
  | [] => []
  | v :: rest => plain v :: plainItems rest

def plainMembers : List (String × Value) → List (String × Value)
  | [] => []
  | (key, v) :: rest => (key, plain v) :: plainMembers rest

end

/-- Whether two values are equal. -/
def equals (v w : Value) : Bool :=
  v.plain = w.plain

@[simp] theorem equals_self (v : Value) : v.equals v = true := by
  simp [equals]

/-- Whether a value is the double that is no number. -/
def isNotANumber : Value → Bool
  | double x => x.magnitude = .notANumber
  | _ => false

/-- Whether a comparison of two values succeeds: they are equal, but what is no number is found
different from everything, even from itself. -/
def compares (v w : Value) : Bool :=
  v.equals w && !v.isNotANumber

/-- Texts are equal only to themselves. -/
@[simp] theorem equals_string (s t : String) : (string s).equals (string t) = (s == t) := by
  simp [equals, plain, BEq.beq]

end Value

/-- What stands under a key. -/
def valueUnder? {α : Type} (key : Value) (entries : List (Value × α)) : Option α :=
  (entries.find? (·.1.equals key)).map (·.2)

/-- Puts something under a key, in the place of what stands there or at the end. The first spelling
of a key is kept. -/
def setEntry {α : Type} (key : Value) (a : α) : List (Value × α) → List (Value × α)
  | [] => [(key, a)]
  | e :: rest => if e.1.equals key then (e.1, a) :: rest else e :: setEntry key a rest

/-- A value as a key: the spelling under which it is already listed, or itself. -/
def spelling (keys : List Value) (v : Value) : Value :=
  (keys.find? (·.equals v)).getD v

end TableGateway
