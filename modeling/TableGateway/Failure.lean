/-!
# Failures

What is reported when something fails. Foreseen failures carry a numbered code, which is also the
exit status of the command line, and sometimes the fault that led to them; other faults are
unexpected.
-/

namespace TableGateway

/-- The numbered kinds of foreseen failures. -/
inductive FailureCode where
  | versionMissing
  | configInvalid
  | scopeInvalid
  | discoveryFailed
  | notConfigured
  | noProviders
  | driverNotFound
  | queryInvalid
deriving Repr, DecidableEq

/-- The number of a code. -/
def FailureCode.number : FailureCode → Nat
  | versionMissing => 1
  | configInvalid => 2
  | scopeInvalid => 3
  | discoveryFailed => 4
  | notConfigured => 5
  | noProviders => 6
  | driverNotFound => 7
  | queryInvalid => 8

/-- The parts of the program that foreseen failures belong to. -/
inductive FailureArea where
  | general
  | config
  | scope
  | discovery
  | gateway
  | driver
  | query
deriving Repr, DecidableEq

namespace FailureArea

/-- The code of a failure that names none itself. -/
def defaultCode : FailureArea → FailureCode
  | general | config => .configInvalid
  | scope => .scopeInvalid
  | discovery => .discoveryFailed
  | gateway => .notConfigured
  | driver => .driverNotFound
  | query => .queryInvalid

/-- Whether the configuration is at fault; an invalid scope is a part of it. -/
def isConfig : FailureArea → Bool
  | config | scope => true
  | _ => false

end FailureArea

/-- The kinds of faults that are not failures of this program's own. -/
inductive FaultKind where
  /-- A value of the right kind that does not make sense. -/
  | badValue
  /-- A value of the wrong kind. -/
  | wrongKind
  /-- A value that lacks the operations of an object. -/
  | noMembers
  /-- An object without a field that it must have. -/
  | missingField
  /-- A position outside a list. -/
  | outOfRange
  /-- A number too large to be represented. -/
  | tooLarge
  /-- SQL that cannot be written. -/
  | noStatement
  /-- The database refused a statement. -/
  | database
  /-- No connection to the database. -/
  | connection
  /-- One row was needed and there was none. -/
  | noRow
  /-- One row was needed and there were several. -/
  | severalRows
  /-- Rows were asked of a result that has none. -/
  | noResultSet
deriving Repr, DecidableEq

/-- A fault and what is said about it. -/
structure Fault where
  kind : FaultKind
  text : String
deriving Repr, DecidableEq

/-- A foreseen failure. -/
structure Report where
  area : FailureArea
  message : String
  code : FailureCode := area.defaultCode
  cause : Option Fault := none
deriving Repr, DecidableEq

inductive Failure where
  | foreseen (report : Report)
  | unexpected (fault : Fault)
deriving Repr, DecidableEq

namespace Failure

/-- What is logged about a failure. -/
def line : Failure → String
  | foreseen report =>
    match report.cause with
    | none => report.message
    | some fault => report.message ++ " (" ++ fault.text ++ ")"
  | unexpected fault => "Unexpected error: " ++ fault.text

/-- The exit status of a run that ends in a failure. -/
def exitStatus : Failure → Nat
  | foreseen report => report.code.number
  | unexpected _ => 1

end Failure

end TableGateway
