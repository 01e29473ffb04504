import TableGateway.Value.Basic

/-!
# Reading JSON text

A text is cut into lexemes by one pass over its characters, and the lexemes are put together by one
pass with a stack of open arrays and objects. A key that occurs twice in an object keeps its first
place and its last value.
-/

namespace TableGateway

namespace Value

/-- The smallest parts of a JSON text; numbers and words are kept as they are written. -/
inductive Lexeme where
  | openArray
  | closeArray
  | openObject
  | closeObject
  | comma
  | colon
  | string (s : String)
  | atom (text : List Char)
deriving DecidableEq, Repr

/-- Code points of a string in which a character may still be a pair of surrogates. -/
def joinSurrogates : List Nat → List Char
  | [] => []
  | high :: low :: rest =>
    if 0xD800 ≤ high && high < 0xDC00 && 0xDC00 ≤ low && low < 0xE000 then
      Char.ofNat (0x10000 + (high - 0xD800) * 0x400 + (low - 0xDC00)) :: joinSurrogates rest
    else
      single high :: joinSurrogates (low :: rest)
  | [code] => [single code]
where
  /-- A lone surrogate is no character and is replaced. -/
  single (code : Nat) : Char :=
    if 0xD800 ≤ code && code < 0xE000 then '\ufffd' else Char.ofNat code

def hexDigit? (c : Char) : Option Nat :=
  if c.isDigit then some (c.toNat - '0'.toNat)
  else if 'a' ≤ c && c ≤ 'f' then some (c.toNat - 'a'.toNat + 10)
  else if 'A' ≤ c && c ≤ 'F' then some (c.toNat - 'A'.toNat + 10)
  else none

/-- The character that a letter after a backslash stands for. -/
def unescape? : Char → Option Char
  | '"' => some '"'
  | '\\' => some '\\'
  | '/' => some '/'
  | 'b' => some '\x08'
  | 'f' => some '\x0c'
  | 'n' => some '\n'
  | 'r' => some '\r'
  | 't' => some '\t'
  | _ => none

/-- Where the pass over the characters stands; codes and characters are gathered in reverse. -/
inductive LexMode where
  | between
  | inString (codes : List Nat)
  | escape (codes : List Nat)
  | hex (codes : List Nat) (missing code : Nat)
  | inAtom (text : List Char)

def punctuation? : Char → Option Lexeme
  | '[' => some .openArray
  | ']' => some .closeArray
  | '\x7b' => some .openObject
  | '\x7d' => some .closeObject
  | ',' => some .comma
  | ':' => some .colon
  | _ => none

/-- A character outside of strings, with the lexemes found so far in reverse. -/
def lexPlain (found : List Lexeme) (c : Char) : LexMode × List Lexeme :=
  match punctuation? c with
  | some lexeme => (.between, lexeme :: found)
  | none =>
    if c = '"' then (.inString [], found)
    else if c.isWhitespace then (.between, found)
    else (.inAtom [c], found)

/-- The lexemes of a text, or nothing if a string or an escape in it is broken. -/
def lex : LexMode → List Lexeme → List Char → Option (List Lexeme)
  | .between, found, [] => some found.reverse
  | .inAtom text, found, [] => some (.atom text.reverse :: found).reverse
  | _, _, [] => none
  | .between, found, c :: rest =>
    let (mode, found) := lexPlain found c
    lex mode found rest
  | .inAtom text, found, c :: rest =>
    if c.isAlphanum || c = '.' || c = '+' || c = '-' then
      lex (.inAtom (c :: text)) found rest
    else
      let (mode, found) := lexPlain (.atom text.reverse :: found) c
      lex mode found rest
  | .inString codes, found, c :: rest =>
    if c = '"' then
      lex .between (.string (String.ofList (joinSurrogates codes.reverse)) :: found) rest
    else if c = '\\' then lex (.escape codes) found rest
    else if c.toNat < 0x20 then none
    else lex (.inString (c.toNat :: codes)) found rest
  | .escape codes, found, c :: rest =>
    if c = 'u' then lex (.hex codes 4 0) found rest
    else
      match unescape? c with
      | some d => lex (.inString (d.toNat :: codes)) found rest
      | none => none
  | .hex codes missing code, found, c :: rest =>
    match hexDigit? c with
    | some d =>
      let code := 16 * code + d
      if missing ≤ 1 then lex (.inString (code :: codes)) found rest
      else lex (.hex codes (missing - 1) code) found rest
    | none => none

/-- The number written by decimal digits. -/
def naturalOf (digits : List Char) : Nat :=
  digits.foldl (fun n c => 10 * n + (c.toNat - '0'.toNat)) 0

/-- The exponent written after an `e`, with an optional sign. -/
def exponentOf? : List Char → Option Int
  | '-' :: digits => if digits.isEmpty || !digits.all Char.isDigit then none
    else some (-(naturalOf digits : Int))
  | '+' :: digits => if digits.isEmpty || !digits.all Char.isDigit then none
    else some (naturalOf digits)
  | digits => if digits.isEmpty || !digits.all Char.isDigit then none
    else some (naturalOf digits)

/-- A number without its sign: whole when it has neither a point nor an exponent. -/
def unsigned? (negative : Bool) (text : List Char) : Option Value := do
  let whole := text.takeWhile Char.isDigit
  if whole.isEmpty || (whole.length > 1 && whole.head? == some '0') then none
  match text.dropWhile Char.isDigit with
  | [] => some (int (if negative then -(naturalOf whole : Int) else naturalOf whole))
  | '.' :: rest =>
    let fraction := rest.takeWhile Char.isDigit
    if fraction.isEmpty then none
    match rest.dropWhile Char.isDigit with
    | [] => some (double (.ofDecimal negative (naturalOf (whole ++ fraction)) (-fraction.length)))
    | e :: exponent =>
      if e = 'e' || e = 'E' then
        let n ← exponentOf? exponent
        some (double (.ofDecimal negative (naturalOf (whole ++ fraction)) (n - fraction.length)))
      else none
  | e :: exponent =>
    if e = 'e' || e = 'E' then
      let n ← exponentOf? exponent
      some (double (.ofDecimal negative (naturalOf whole) n))
    else none

/-- The value of a word or number. The numbers that are not finite are words. -/
def ofAtom? (text : List Char) : Option Value :=
  if text = ['n', 'u', 'l', 'l'] then some null
  else if text = ['t', 'r', 'u', 'e'] then some (bool true)
  else if text = ['f', 'a', 'l', 's', 'e'] then some (bool false)
  else if text = "NaN".toList then some (double .notANumber)
  else if text = "Infinity".toList then some (double .infinity)
  else if text = "-Infinity".toList then some (double .minusInfinity)
  else
    match text with
    | '-' :: rest => unsigned? true rest
    | _ => unsigned? false text

/-- An array or object that is still open. Items are gathered in reverse. -/
inductive Frame where
  | items (done : List Value)
  | members (done : List (String × Value))
  | member (done : List (String × Value)) (key : String)

/-- What may come next. At the start of an array or object it may be closed at once. -/
inductive Progress where
  | value (stack : List Frame) (start : Bool)
  | key (stack : List Frame) (start : Bool)
  | colon (stack : List Frame)
  | separator (stack : List Frame)
  | done (v : Value)
  | failed

/-- Puts a finished value into the innermost open array or object. -/
def deliver (v : Value) : List Frame → Progress
  | [] => .done v
  | .items done :: stack => .separator (.items (v :: done) :: stack)
  | .member done key :: stack => .separator (.members (setMember key v done) :: stack)
  | .members _ :: _ => .failed

/-- Takes one more lexeme in. -/
def advance : Progress → Lexeme → Progress
  | .value stack _, .openArray => .value (.items [] :: stack) true
  | .value stack _, .openObject => .key (.members [] :: stack) true
  | .value stack _, .string s => deliver (string s) stack
  | .value stack _, .atom text =>
    match ofAtom? text with
    | some v => deliver v stack
    | none => .failed
  | .value (.items done :: stack) true, .closeArray => deliver (array done.reverse) stack
  | .key (.members done :: stack) true, .closeObject => deliver (object done) stack
  | .key (.members done :: stack) _, .string s => .colon (.member done s :: stack)
  | .colon stack, .colon => .value stack false
  | .separator (.items done :: stack), .comma => .value (.items done :: stack) false
  | .separator (.items done :: stack), .closeArray => deliver (array done.reverse) stack
  | .separator (.members done :: stack), .comma => .key (.members done :: stack) false
  | .separator (.members done :: stack), .closeObject => deliver (object done) stack
  | _, _ => .failed

/-- The value written as JSON. -/
def read? (text : String) : Option Value := do
  let lexemes ← lex .between [] text.toList
  match lexemes.foldl advance (.value [] false) with
  | .done v => some v
  | _ => none

end Value

end TableGateway
