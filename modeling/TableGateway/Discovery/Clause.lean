import TableGateway.Discovery.Rule
import TableGateway.Value.Shape

/-!
# Rules as SQL

The database is asked only for the entities that the rules cover. A scope becomes a test of one
column; the tests of a rule are joined by `AND`, where what always or never holds is left out, and
the rules by `OR`.
-/

namespace TableGateway.Discovery

/-- A test of the row of an entity. -/
inductive Clause where
  | always
  | never
  /-- The column holds one of the names. -/
  | oneOf (column : String) (names : List String)
  /-- The column holds none of the names. -/
  | noneOf (column : String) (names : List String)
  | both (left right : Clause)
deriving Repr, DecidableEq

/-- A text as a literal of SQL: the quote, the percent sign and the backslash are doubled. -/
def literal (s : String) : String :=
  String.ofList ('\'' :: s.toList.flatMap (fun c =>
    if c = '\'' ∨ c = '%' ∨ c = '\\' then [c, c] else [c]) ++ ['\''])

/-- Why the names of a scope cannot be listed in SQL. -/
inductive NamesError where
  /-- The first name is no text. -/
  | kindless
  /-- A name after a text is no text. -/
  | notAText (name : Value)
deriving Repr, DecidableEq

/-- The fault of names that cannot be listed. -/
def NamesError.fault : NamesError → Fault
  | kindless => ⟨.noMembers, "'NullType' object has no attribute 'types'"⟩
  | notAText name => ⟨.noStatement, "Could not render literal value \"" ++ name.quoted
      ++ "\" with datatype VARCHAR; see parent stack trace for more detail."⟩

/-- Names that are texts. The first one tells of what kind all of them should be. -/
def textsOf : List Value → Except NamesError (List String)
  | [] => .ok []
  | .string s :: rest => do
    let texts ← rest.mapM fun name => name.asText.mapError fun _ => .notAText name
    return s :: texts
  | _ :: _ => .error .kindless

namespace Clause

/-- The test of a column against a scope. -/
def ofScope (column : String) : Option Scope → Except NamesError Clause
  | none => .ok never
  | some .all => .ok always
  | some (.only names) => (textsOf names).map (oneOf column)
  | some (.except names) => (textsOf names).map (noneOf column)

/-- Whether the column matters to the test that a scope makes of it. -/
def needsColumn : Option Scope → Bool
  | some (.only _) | some (.except _) => true
  | _ => false

/-- Both tests. -/
def and : Clause → Clause → Clause
  | never, _ | _, never => never
  | always, c | c, always => c
  | a, b => both a b

/-- Names between parentheses. -/
def list (names : List String) : String :=
  "(" ++ ", ".intercalate (names.map literal) ++ ")"

/-- The test as SQL. No value is in an empty list, and every value is outside it. -/
def text : Clause → String
  | always => "true"
  | never => "false"
  | oneOf column [] => column ++ " IN (NULL) AND (1 != 1)"
  | oneOf column names => column ++ " IN " ++ list names
  | noneOf column [] => "(" ++ column ++ " NOT IN (NULL) OR (1 = 1))"
  | noneOf column names => "(" ++ column ++ " NOT IN " ++ list names ++ ")"
  | both a b => a.text ++ " AND " ++ b.text

end Clause

/-- The kinds of entities. -/
inductive EntityKind where
  | table
  | view
deriving Repr, DecidableEq

/-- The scope of a rule for the names of one kind of entity. -/
def Rule.scope (rule : Rule) : EntityKind → Option Scope
  | .table => rule.tables
  | .view => rule.views

/-- Whether a rule covers an entity. -/
def Rule.covers (rule : Rule) (kind : EntityKind) (schema name : Value) : Bool :=
  Scope.chosenBy rule.schemas schema && Scope.chosenBy (rule.scope kind) name

/-- The test that a rule puts to entities. -/
def Rule.clause (kind : EntityKind) (rule : Rule) : Except NamesError Clause := do
  return (← Clause.ofScope "table_schema" rule.schemas).and
    (← Clause.ofScope "table_name" (rule.scope kind))

/-- The tests that select the entities covered by any of the rules; without rules there are
none. -/
def textOfClauses : List Clause → String
  | [] => Clause.never.text
  | clauses => " OR ".intercalate (clauses.map Clause.text)

/-- The SQL that selects the entities covered by any of the rules. -/
def conditionText (kind : EntityKind) (rules : List Rule) : Except NamesError String := do
  return textOfClauses (← rules.mapM (Rule.clause kind))

end TableGateway.Discovery
