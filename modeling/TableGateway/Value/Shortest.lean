import TableGateway.Value.Double

/-!
# The shortest decimal of a double

A double stands for all reals that round to it. `Double.shortest` finds the decimal with the fewest
digits among them, the nearest one if there are several of that length, and `Double.toText` writes
it: in positional form while the point lies within sixteen digits after the first one and four
zeros before it, otherwise with a signed exponent of at least two digits.
-/

namespace TableGateway

namespace Double

/-- The reals that round to `mantissa * 2 ^ exponent`, measured in quarters of the last place: from
`low` to `4 * mantissa + 2`, ends included when the mantissa is even. -/
structure Neighbourhood where
  mantissa : Nat
  exponent : Int
  low : Nat
deriving Repr

/-- The gap below a power of two is half the gap above it, except at the smallest exponents. -/
def neighbourhood (mantissa : Nat) (exponent : Int) : Neighbourhood :=
  ⟨mantissa, exponent,
    if mantissa = power 2 52 && -1074 < exponent then 4 * mantissa - 1 else 4 * mantissa - 2⟩

/-- The multiple of `10 ^ place` that rounds to the double, if there is one: of the two multiples
next to the double the nearer, or the even one when they are equally near. -/
def Neighbourhood.multiple? (x : Neighbourhood) (place : Int) : Option Nat :=
  let step := power 10 place * power 2 (2 - x.exponent)
  let quarter := power 2 (x.exponent - 2) * power 10 (-place)
  let value := 4 * x.mantissa * quarter
  let rounds (n : Nat) : Bool :=
    if x.mantissa % 2 = 0 then
      x.low * quarter ≤ n * step && n * step ≤ (4 * x.mantissa + 2) * quarter
    else
      x.low * quarter < n * step && n * step < (4 * x.mantissa + 2) * quarter
  let below := value / step
  match rounds below, rounds (below + 1) with
  | true, true =>
    match compare (2 * value) ((2 * below + 1) * step) with
    | .lt => some below
    | .gt => some (below + 1)
    | .eq => some (if below % 2 = 0 then below else below + 1)
  | true, false => some below
  | false, true => some (below + 1)
  | false, false => none

/-- The position of the leading digit: the least `k` with `mantissa * 2 ^ exponent < 10 ^ k`. -/
def leading (mantissa : Nat) (exponent : Int) : Int :=
  let numerator := mantissa * power 2 exponent
  let denominator := power 2 (-exponent)
  if denominator ≤ numerator then
    (Nat.toDigits 10 (numerator / denominator)).length
  else
    let zeros := (Nat.toDigits 10 (denominator / numerator)).length - 1
    if numerator * power 10 zeros < denominator then -zeros else 1 - zeros

/-- A decimal: `digits * 10 ^ place`. -/
structure Decimal where
  digits : Nat
  place : Int
deriving DecidableEq, Repr

/-- The shortest decimal that rounds to the positive double `mantissa * 2 ^ exponent`. Seventeen
digits are always enough; were they not, the exact value would be given. -/
def shortest (mantissa : Nat) (exponent : Int) : Decimal :=
  let x := neighbourhood mantissa exponent
  let top := leading mantissa exponent
  let found := (List.range 17).findSome? fun n =>
    let place := top - (n + 1 : Nat)
    (x.multiple? place).map fun digits => (⟨digits, place⟩ : Decimal)
  found.getD
    ⟨mantissa * power 2 exponent * power 5 (-exponent), min exponent 0⟩

/-- The decimal digits of a positive decimal without the zeros at its end, and the position of the
point counted from the first digit. -/
def Decimal.pointed (d : Decimal) : List Char × Int :=
  let digits := Nat.toDigits 10 d.digits
  ((digits.reverse.dropWhile (· == '0')).reverse, digits.length + d.place)

/-- Digits with the point at a position: positional within the limits, else with an exponent. -/
def layOut (digits : List Char) (point : Int) : List Char :=
  if -4 < point && point ≤ 0 then
    '0' :: '.' :: List.replicate (-point).toNat '0' ++ digits
  else if 0 < point && point ≤ 16 then
    let whole := digits.take point.toNat
    let fraction := digits.drop point.toNat
    whole ++ List.replicate (point.toNat - whole.length) '0' ++ '.' ::
      (if fraction.isEmpty then ['0'] else fraction)
  else
    let exponent := (Nat.toDigits 10 (point - 1).natAbs)
    digits.take 1 ++ (if digits.length = 1 then [] else '.' :: digits.drop 1) ++
      ['e', if point - 1 < 0 then '-' else '+'] ++
      List.replicate (2 - exponent.length) '0' ++ exponent

/-- The text of a double, given the words for infinity and for what is no number. -/
def toText (x : Double) (infinite notANumber : String) : String :=
  let sign := if x.isNegative then "-" else ""
  match x.magnitude with
  | .notANumber => notANumber
  | .infinite => sign ++ infinite
  | .finite 0 _ => sign ++ "0.0"
  | .finite mantissa exponent =>
    let (digits, point) := (shortest mantissa exponent).pointed
    sign ++ String.ofList (layOut digits point)

end Double

end TableGateway
