import TableGateway.Failure
import TableGateway.Text.Lowercase
import TableGateway.Value.Quoted

/-!
# Names of columns

A column is named as it stands when its name is one of small letters, digits, underscores and dollar
signs and no word of SQL; otherwise the name is quoted.
-/

namespace TableGateway.Discovery

/-- The words that cannot name a column as they stand. -/
def reservedWords : List String :=
  ["all", "analyse", "analyze", "and", "any", "array", "as", "asc", "asymmetric", "authorization",
   "between", "binary", "both", "case", "cast", "check", "collate", "column", "constraint",
   "create", "cross", "current_catalog", "current_date", "current_role", "current_schema",
   "current_time", "current_timestamp", "current_user", "default", "deferrable", "desc",
   "distinct", "do", "else", "end", "except", "false", "fetch", "for", "foreign", "freeze", "from",
   "full", "grant", "group", "having", "ilike", "in", "initially", "inner", "intersect", "into",
   "is", "isnull", "join", "leading", "left", "like", "limit", "localtime", "localtimestamp",
   "natural", "new", "not", "notnull", "null", "of", "off", "offset", "old", "on", "only", "or",
   "order", "outer", "over", "overlaps", "placing", "primary", "references", "returning", "right",
   "select", "session_user", "similar", "some", "symmetric", "table", "then", "to", "trailing",
   "true", "union", "unique", "user", "using", "variadic", "verbose", "when", "where", "window",
   "with"]

/-- Whether a character may stand in a name that is not quoted. The long s and the dotless i count
as letters, being capital letters of ASCII in another case. -/
def isPlainNameChar (c : Char) : Bool :=
  c.isAlphanum || c = '_' || c = '$' || c = 'ſ' || c = 'ı'

/-- Whether a name can stand without quotes. It may end in one line break. -/
def isPlainName (name : String) : Bool :=
  let s := name.toList
  let s := if s.getLast? = some '\n' then s.dropLast else s
  !reservedWords.contains name && s ≠ [] && s.all isPlainNameChar
    && !(s.head?.any fun c => c.isDigit || c = '$') && Text.lowercase name = name

/-- A name in quotes: quotes and percent signs are doubled. -/
def quotedName (name : String) : String :=
  String.ofList ('"' :: name.toList.flatMap (fun c =>
    if c = '"' ∨ c = '%' then [c, c] else [c]) ++ ['"'])

/-- Why a column cannot be named. -/
inductive ColumnNameError where
  | empty
  | absent
  /-- The name is no text. -/
  | notAText (v : Value)
deriving Repr, DecidableEq

/-- What is reported of a column that cannot be named. -/
def ColumnNameError.fault : ColumnNameError → Fault
  | empty => ⟨.outOfRange, "A name has at least one character"⟩
  | absent => ⟨.noStatement, "A column without a name cannot be written"⟩
  | notAText v => ⟨.wrongKind, v.quoted ++ " is no name"⟩

/-- A column name as SQL. -/
def columnName : Value → Except ColumnNameError String
  | .string "" => .error .empty
  | .string name => .ok (if isPlainName name then name else quotedName name)
  | .null => .error .absent
  | v => .error (.notAText v)

end TableGateway.Discovery
