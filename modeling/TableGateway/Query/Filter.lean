import TableGateway.Query.Sql

/-!
# Filters

A filter is a condition whose values are bound: tests combined by conjunction and disjunction. It
is written with every part in parentheses, so that nothing depends on the precedence of operators.
-/

namespace TableGateway.Query

/-- A combination of tests; the tests are SQL. -/
inductive Filter where
  /-- Every part holds. -/
  | all (parts : List Filter)
  /-- Some part holds. -/
  | any (parts : List Filter)
  | test (body : Sql)
deriving Repr, Inhabited

/-- A word of a written filter. -/
inductive FilterToken where
  | opening
  | closing
  | conjunction
  | disjunction
  | always
  | never
  | test (body : Sql)
deriving Repr, DecidableEq

/-- A word as SQL. -/
def FilterToken.sql : FilterToken → Sql
  | opening => Query.sql "("
  | closing => Query.sql ")"
  | conjunction => Query.sql " AND "
  | disjunction => Query.sql " OR "
  | always => Query.sql "TRUE"
  | never => Query.sql "FALSE"
  | test body => body

namespace Filter

/-- Joins groups of words by an operator; without groups there is only the given word. -/
def grouped (operator empty : FilterToken) : List (List FilterToken) → List FilterToken
  | [] => [empty]
  | groups => List.intercalate [operator] (groups.map fun g => .opening :: g ++ [.closing])

mutual

/-- The words of a filter. -/
def tokens : Filter → List FilterToken
  | all parts => grouped .conjunction .always (tokensOfEach parts)
  | any parts => grouped .disjunction .never (tokensOfEach parts)
  | test body => [.test body]

def tokensOfEach : List Filter → List (List FilterToken)
  | [] => []
  | f :: rest => tokens f :: tokensOfEach rest

end

/-- The filter as SQL. -/
def sql (f : Filter) : Sql :=
  f.tokens.flatMap FilterToken.sql

end Filter

end TableGateway.Query
