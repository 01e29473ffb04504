import TableGateway.Value.Integer
import TableGateway.Value.Shape

/-!
# Numbers

A number is whole or a double; truth values count as one and zero. Arithmetic on whole numbers is
exact, and as soon as a double takes part it is that of doubles.
-/

namespace TableGateway

namespace Double

/-- The double nearest to a whole number, unless there is none. -/
def ofInt? (n : Int) : Option Double :=
  let x := ofDecimal (n < 0) n.natAbs 0
  if x.magnitude = .infinite then none else some x

/-- The sum of two doubles. -/
def add (x y : Double) : Double :=
  ⟨(Float.ofBits x.bits + Float.ofBits y.bits).toBits⟩

/-- The product of two doubles. -/
def mul (x y : Double) : Double :=
  ⟨(Float.ofBits x.bits * Float.ofBits y.bits).toBits⟩

/-- Whether a double is less than a whole number. -/
def isBelow (x : Double) (limit : Int) : Bool :=
  match x.magnitude with
  | .finite mantissa exponent =>
    let n : Int := mantissa * power 2 exponent
    (if x.isNegative then -n else n) < limit * power 2 (-exponent)
  | .infinite => x.isNegative
  | .notANumber => false

end Double

inductive Number where
  | whole (n : Int)
  | double (x : Double)
deriving Repr, DecidableEq

/-- The number that a value is. -/
def Value.asNumber : Value → Except ShapeError Number
  | .bool b => .ok (.whole (if b then 1 else 0))
  | .int n => .ok (.whole n)
  | .double x => .ok (.double x)
  | v => .error (.notANumber v)

namespace Number

/-- Whether a number is less than a whole number. -/
def isBelow (limit : Int) : Number → Bool
  | whole n => n < limit
  | double x => x.isBelow limit

/-- Whether a number is zero or less. -/
def isAtMostZero : Number → Bool
  | whole n => n ≤ 0
  | double x => x.isZero || x.isBelow 0

/-- The number as a double. -/
def toDouble : Number → Except IntegerError Double
  | whole n =>
    match Double.ofInt? n with
    | some x => .ok x
    | none => .error .beyondDoubles
  | double x => .ok x

/-- The number less one. -/
def pred : Number → Number
  | whole n => whole (n - 1)
  | double x => double (x.add (.ofDecimal true 1 0))

/-- The product of two numbers. -/
def mul : Number → Number → Except IntegerError Number
  | whole m, whole n => .ok (whole (m * n))
  | a, b => do
    let x ← a.toDouble
    let y ← b.toDouble
    return double (x.mul y)

/-- The integer that is left when the fraction is dropped. -/
def truncate : Number → Except IntegerError Int
  | whole n => .ok n
  | double x => x.toInteger

end Number

end TableGateway
