import TableGateway.Failure
import TableGateway.Text.Blank
import TableGateway.Text.DecimalDigit
import TableGateway.Text.Split
import TableGateway.Value.Quoted

/-!
# Values as integers

Numbers count as integers without their fraction, truth values as one and zero, and texts when they
are written as an integer: digits of any script, single underscores between them, a sign before
them and blanks around.
-/

namespace TableGateway

/-- Why a value is no integer. -/
inductive IntegerError where
  /-- Neither a number nor a text. -/
  | notNumeric (v : Value)
  /-- A text that is not written as an integer. -/
  | malformed (text : String)
  /-- A text with too many digits. -/
  | tooLong (digits : Nat)
  | notANumber
  | infinite
  /-- A whole number beyond all doubles. -/
  | beyondDoubles
deriving Repr, DecidableEq

/-- The most digits that are read or written. -/
def longestInteger : Nat := 4300

/-- The fault of a value that is no integer. -/
def IntegerError.fault : IntegerError → Fault
  | notNumeric v => ⟨.wrongKind, v.quoted ++ " is neither a number nor a text"⟩
  | malformed text => ⟨.badValue, "invalid literal for int() with base 10: "
      ++ ((Value.quotedString text).take 200).toString⟩
  | tooLong digits => ⟨.badValue, "Exceeds the limit (" ++ toString longestInteger
      ++ " digits) for integer string conversion: value has " ++ toString digits
      ++ " digits; use sys.set_int_max_str_digits() to increase the limit"⟩
  | notANumber => ⟨.badValue, "what is not a number has no integer part"⟩
  | infinite => ⟨.tooLarge, "infinity has no integer part"⟩
  | beyondDoubles => ⟨.tooLarge, "no double is as large as that"⟩

namespace Text

/-- The blanks that may surround a number: the separators U+001C to U+001F are not among them. -/
def isNumberBlank (c : Char) : Bool :=
  isBlank c && !(0x1c ≤ c.toNat && c.toNat ≤ 0x1f)

/-- The number written by a run of digits. -/
def decimalValue (digits : List Char) : Nat :=
  digits.foldl (fun n c => 10 * n + (digit? c).getD 0) 0

/-- Reads what follows the sign of an integer: groups of digits, joined by single underscores, and
blanks. -/
def naturalOfText (text : String) (s : List Char) : Except IntegerError Nat :=
  let isPart (c : Char) := isDigit c || c == '_'
  let groups := splitAt '_' (s.takeWhile isPart)
  let digits := groups.flatten
  if groups.any List.isEmpty then .error (.malformed text)
  else if longestInteger < digits.length then .error (.tooLong digits.length)
  else if (s.dropWhile isPart).all isNumberBlank then .ok (decimalValue digits)
  else .error (.malformed text)

/-- Reads an integer. -/
def integerOfText (text : String) : Except IntegerError Int :=
  match text.toList.dropWhile isNumberBlank with
  | '-' :: s => (naturalOfText text s).map fun n => -(n : Int)
  | '+' :: s => (naturalOfText text s).map Int.ofNat
  | s => (naturalOfText text s).map Int.ofNat

end Text

/-- Why an integer cannot be written: it has too many digits. -/
def lengthError? (n : Int) : Option IntegerError :=
  let digits := (toString n.natAbs).length
  if longestInteger < digits then some (.tooLong digits) else none

/-- The decimal digits of an integer, unless they are too many. -/
def integerText (n : Int) : Except IntegerError String :=
  match lengthError? n with
  | some e => .error e
  | none => .ok (toString n)

/-- The integer that is left of a double when its fraction is dropped. -/
def Double.toInteger (x : Double) : Except IntegerError Int :=
  match x.truncate?, x.magnitude with
  | some n, _ => .ok n
  | none, .notANumber => .error .notANumber
  | none, _ => .error .infinite

/-- The integer that a value counts as. -/
def Value.toInteger : Value → Except IntegerError Int
  | .bool b => .ok (if b then 1 else 0)
  | .int n => .ok n
  | .double x => x.toInteger
  | .string s => Text.integerOfText s
  | v => .error (.notNumeric v)

end TableGateway
