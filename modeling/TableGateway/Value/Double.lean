/-!
# Double-precision numbers

A number with a fraction is kept as the 64 bits of its double-precision form, so equality is
decidable and tells `0.0` from `-0.0`. A finite magnitude is `mantissa * 2 ^ exponent`.
-/

namespace TableGateway

/-- A double-precision number, given by its bits. -/
structure Double where
  bits : UInt64
deriving DecidableEq, Repr, Inhabited

namespace Double

/-- A power of a base; a negative exponent counts as zero. -/
def power (base : Nat) (exponent : Int) : Nat :=
  Nat.pow base exponent.toNat

/-- The size of a double without its sign. -/
inductive Magnitude where
  | finite (mantissa : Nat) (exponent : Int)
  | infinite
  | notANumber
deriving DecidableEq, Repr

def isNegative (x : Double) : Bool :=
  x.bits >>> 63 != 0

/-- The eleven bits between the sign and the fraction. -/
def exponentField (x : Double) : Nat :=
  ((x.bits >>> 52) &&& 0x7FF).toNat

/-- The lowest fifty-two bits. -/
def fractionField (x : Double) : Nat :=
  (x.bits &&& 0xFFFFFFFFFFFFF).toNat

def magnitude (x : Double) : Magnitude :=
  if x.exponentField = 0x7FF then
    if x.fractionField = 0 then .infinite else .notANumber
  else if x.exponentField = 0 then
    .finite x.fractionField (-1074)
  else
    .finite (power 2 52 + x.fractionField) ((x.exponentField : Int) - 1075)

def infinity : Double := ⟨0x7FF0000000000000⟩

def minusInfinity : Double := ⟨0xFFF0000000000000⟩

/-- The double that is no number. -/
def notANumber : Double := ⟨0x7FF8000000000000⟩

/-- Whether the double is one of the two zeros. -/
def isZero (x : Double) : Bool :=
  x.magnitude matches .finite 0 _

/-- The integer part of `mantissa * 2 ^ exponent`. -/
def integerPart (mantissa : Nat) (exponent : Int) : Nat :=
  mantissa * power 2 exponent / power 2 (-exponent)

/-- The integer that is left when the fraction is dropped, for a finite double. -/
def truncate? (x : Double) : Option Int :=
  match x.magnitude with
  | .finite mantissa exponent =>
    let n := integerPart mantissa exponent
    some (if x.isNegative then -n else n)
  | _ => none

/-- The integer that a double without a fraction stands for. -/
def integer? (x : Double) : Option Int :=
  match x.magnitude with
  | .finite mantissa exponent =>
    if mantissa * power 2 exponent % power 2 (-exponent) = 0 then x.truncate? else none
  | _ => none

/-- The double nearest to `digits * 10 ^ exponent`, ties to the even mantissa. Exponents far outside
the range of doubles give infinity and zero without any large power being computed. -/
def ofDecimal (negative : Bool) (digits : Nat) (exponent : Int) : Double :=
  let size : Int := (Nat.toDigits 10 digits).length + exponent
  let bits :=
    if digits = 0 || size < -400 then 0
    else if 400 < size then infinity.bits
    else (Float.ofScientific digits (exponent < 0) exponent.natAbs).toBits
  ⟨if negative then bits ||| 0x8000000000000000 else bits⟩

end Double

end TableGateway
