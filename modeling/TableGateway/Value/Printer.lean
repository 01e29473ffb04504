import TableGateway.Value.Shortest
import TableGateway.Value.Basic

/-!
# Writing JSON text

Values are written as ASCII: every other character, and the control characters, become `\u` escapes
of their UTF-16 units. There is a compact form and one with a line for each item and member.
-/

namespace TableGateway

namespace Value

/-- The last `width` hexadecimal digits of a number, in small letters. -/
def hexDigits : Nat → Nat → List Char
  | 0, _ => []
  | width + 1, n => hexDigits width (n / 16) ++ [Nat.digitChar (n % 16)]

/-- The form of a character inside a JSON string. -/
def escapeChar (c : Char) : List Char :=
  match c with
  | '"' => ['\\', '"']
  | '\\' => ['\\', '\\']
  | '\n' => ['\\', 'n']
  | '\r' => ['\\', 'r']
  | '\t' => ['\\', 't']
  | '\x08' => ['\\', 'b']
  | '\x0c' => ['\\', 'f']
  | c =>
    let n := c.toNat
    if 0x20 ≤ n && n < 0x7F then [c]
    else if n < 0x10000 then '\\' :: 'u' :: hexDigits 4 n
    else
      '\\' :: 'u' :: hexDigits 4 (0xD800 + (n - 0x10000) / 0x400) ++
        '\\' :: 'u' :: hexDigits 4 (0xDC00 + (n - 0x10000) % 0x400)

/-- A JSON string. -/
def jsonString (s : String) : String :=
  "\"" ++ String.ofList (s.toList.flatMap escapeChar) ++ "\""

/-- Doubles are written shortest. The two infinities and what is no number have words of their
own. -/
def jsonDouble (x : Double) : String :=
  x.toText "Infinity" "NaN"

mutual

/-- The value on one line. -/
def compact : Value → String
  | null => "null"
  | bool b => if b then "true" else "false"
  | int n => toString n
  | double x => jsonDouble x
  | string s => jsonString s
  | array items => "[" ++ ", ".intercalate (compactItems items) ++ "]"
  | object members => "\x7b" ++ ", ".intercalate (compactMembers members) ++ "\x7d"

def compactItems : List Value → List String
  | [] => []
  | v :: rest => compact v :: compactItems rest

def compactMembers : List (String × Value) → List String
  | [] => []
  | (key, v) :: rest => (jsonString key ++ ": " ++ compact v) :: compactMembers rest

end

/-- The key of an object that a value is written as: a text is a key itself. -/
def keyText : Value → String
  | string s => s
  | v => v.compact

/-- Lines between brackets, each indented by two more blanks than the line they close on. -/
def bracketed (opening closing : String) (depth : Nat) (lines : List String) : String :=
  if lines.isEmpty then opening ++ closing
  else
    let margin (n : Nat) := "\n" ++ String.ofList (List.replicate (2 * n) ' ')
    opening ++ margin (depth + 1) ++ ("," ++ margin (depth + 1)).intercalate lines ++
      margin depth ++ closing

mutual

/-- The value with a line for each item and member, at a depth of nesting. -/
def indentedAt (depth : Nat) : Value → String
  | null => "null"
  | bool b => if b then "true" else "false"
  | int n => toString n
  | double x => jsonDouble x
  | string s => jsonString s
  | array items => bracketed "[" "]" depth (indentedItems (depth + 1) items)
  | object members => bracketed "\x7b" "\x7d" depth (indentedMembers (depth + 1) members)

def indentedItems (depth : Nat) : List Value → List String
  | [] => []
  | v :: rest => indentedAt depth v :: indentedItems depth rest

def indentedMembers (depth : Nat) : List (String × Value) → List String
  | [] => []
  | (key, v) :: rest =>
    (jsonString key ++ ": " ++ indentedAt depth v) :: indentedMembers depth rest

end

/-- The value over several lines. -/
def indented (v : Value) : String :=
  indentedAt 0 v

end Value

end TableGateway
