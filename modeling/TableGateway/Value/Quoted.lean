import TableGateway.Text.Printable
import TableGateway.Value.Printer

/-!
# Values inside messages

Messages show a value in a notation of their own: strings in single quotes, or in double quotes
when they hold a single quote and no double one, and characters that cannot be printed as escapes.
-/

namespace TableGateway

namespace Value

/-- The form of a character inside a quoted text. -/
def quotedChar (quote c : Char) : List Char :=
  if c = quote || c = '\\' then ['\\', c]
  else if c = '\n' then ['\\', 'n']
  else if c = '\r' then ['\\', 'r']
  else if c = '\t' then ['\\', 't']
  else if Text.isPrintable c then [c]
  else if c.toNat < 0x100 then '\\' :: 'x' :: hexDigits 2 c.toNat
  else if c.toNat < 0x10000 then '\\' :: 'u' :: hexDigits 4 c.toNat
  else '\\' :: 'U' :: hexDigits 8 c.toNat

/-- A text in quotes. -/
def quotedString (s : String) : String :=
  let quote := if s.toList.contains '\'' && !s.toList.contains '"' then '"' else '\''
  String.ofList (quote :: s.toList.flatMap (quotedChar quote) ++ [quote])

mutual

/-- The value in the notation of messages. -/
def quoted : Value → String
  | null => "None"
  | bool b => if b then "True" else "False"
  | int n => toString n
  | double x => x.toText "inf" "nan"
  | string s => quotedString s
  | array items => "[" ++ ", ".intercalate (quotedItems items) ++ "]"
  | object members => "\x7b" ++ ", ".intercalate (quotedMembers members) ++ "\x7d"

def quotedItems : List Value → List String
  | [] => []
  | v :: rest => quoted v :: quotedItems rest

def quotedMembers : List (String × Value) → List String
  | [] => []
  | (key, v) :: rest => (quotedString key ++ ": " ++ quoted v) :: quotedMembers rest

end

mutual

/-- The integers that are shown with a value, in turn. -/
def integers : Value → List Int
  | int n => [n]
  | array items => integersOfItems items
  | object members => integersOfMembers members
  | _ => []

def integersOfItems : List Value → List Int
  | [] => []
  | v :: rest => integers v ++ integersOfItems rest

def integersOfMembers : List (String × Value) → List Int
  | [] => []
  | (_, v) :: rest => integers v ++ integersOfMembers rest

end

/-- The value as part of a sentence: a string stands for itself, without quotes. -/
def shown : Value → String
  | string s => s
  | v => quoted v

/-- A list of names in the notation of messages. -/
def quotedNames (names : List String) : String :=
  quoted (array (names.map string))

end Value

end TableGateway
