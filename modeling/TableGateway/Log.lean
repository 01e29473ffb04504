import TableGateway.Value.Shape

/-!
# The log

What is written to the log: a level, the name of the logger and a message. Connections to databases
tell what happens on them. Loggers form a tree by their dotted names; one without a level of its own
takes that of the nearest one above it.
-/

namespace TableGateway

/-- How important a record is. -/
inductive LogLevel where
  | debug
  | info
  | error
deriving Repr, DecidableEq

namespace LogLevel

def name : LogLevel → String
  | debug => "DEBUG"
  | info => "INFO"
  | error => "ERROR"

/-- The importance as a number. -/
def number : LogLevel → Int
  | debug => 10
  | info => 20
  | error => 40

end LogLevel

structure LogRecord where
  level : LogLevel
  logger : String
  message : String
deriving Repr, DecidableEq

/-- Whether a record is at least as important as asked for. -/
def LogRecord.reaches (r : LogRecord) (threshold : LogLevel) : Bool :=
  threshold.number ≤ r.level.number

/-- The record as one line. -/
def LogRecord.line (r : LogRecord) : String :=
  r.level.name ++ " " ++ r.logger ++ ": " ++ r.message

/-- The logger of the program, above all its other loggers. -/
def mainLogger : String := "hypergres"

/-- A message of the program itself. -/
def LogRecord.main (level : LogLevel) (message : String) : LogRecord :=
  ⟨level, mainLogger, message⟩

/-- The logger of database statements. -/
def statementLogger : String := "hypergres.postgresql"

/-- What is told of the connections to a database. -/
inductive ConnectionEvent where
  | opened
  | sent (text : String)
  | answered
  /-- No connection, or no answer; the words are those of the driver. -/
  | failed (words : String)
deriving Repr, DecidableEq

namespace ConnectionEvent

def level : ConnectionEvent → LogLevel
  | failed _ => .error
  | _ => .debug

/-- What is said of an event. Durations are not measured: an `N` stands in their place. -/
def message : ConnectionEvent → String
  | opened => "Connected"
  | sent text => text
  | answered => "Query took N ms"
  | failed words => "Query failed: " ++ words

/-- The record of an event, with the id of the provider. -/
def record (id : Value) (e : ConnectionEvent) : LogRecord :=
  ⟨e.level, statementLogger, "[" ++ id.shown ++ "] " ++ e.message⟩

end ConnectionEvent

/-- The level of a logger: a number, which may be written as a truth value. Zero is no level. -/
inductive Threshold where
  | number (n : Int)
  | truth (b : Bool)
deriving Repr, DecidableEq

namespace Threshold

/-- The importance from which on records are written. -/
def importance : Threshold → Int
  | number n => n
  | truth b => if b then 1 else 0

/-- The threshold as it was written. -/
def toValue : Threshold → Value
  | number n => .int n
  | truth b => .bool b

/-- The names of levels. -/
def named : List (String × Int) :=
  [("CRITICAL", 50), ("FATAL", 50), ("ERROR", 40), ("WARN", 30), ("WARNING", 30), ("INFO", 20),
   ("DEBUG", 10), ("NOTSET", 0)]

/-- Reads a threshold: a whole number, a truth value or the name of a level. -/
def ofValue : Value → Except Fault Threshold
  | .int n => .ok (number n)
  | .bool b => .ok (truth b)
  | .string name =>
    match named.lookup name with
    | some n => .ok (number n)
    | none => .error ⟨.badValue, "Unknown level: " ++ Value.quotedString name⟩
  | v => .error ⟨.wrongKind, "Level not an integer or a valid string: " ++ v.shown⟩

end Threshold

/-- The loggers that were set up, with their levels. -/
abbrev Loggers := List (String × Threshold)

namespace Loggers

/-- How the handler of a logger writes a record. -/
def recordFormat : String := "%(asctime)s - %(name)s - %(levelname)s - %(message)s"

/-- The level of a logger itself. -/
def level (loggers : Loggers) (name : String) : Threshold :=
  (loggers.lookup name).getD (.number 0)

/-- Sets up a logger. Without a level it keeps the one that it has, and a new one informs. -/
def setUp (loggers : Loggers) (name : String) (level : Option Threshold) : Loggers :=
  match level, loggers.lookup name with
  | some t, _ => setLevel t
  | none, none => setLevel (.number LogLevel.info.number)
  | none, some _ => loggers
where
  setLevel (t : Threshold) : Loggers :=
    (loggers.filter (·.1 ≠ name)) ++ [(name, t)]

/-- The names above a name, from the nearest to the farthest. The name is given in reverse; it is
cut before its dots, but of two dots side by side only the last one counts. -/
def namesAbove : List Char → List String
  | [] => []
  | '.' :: c :: rest => String.ofList (c :: rest).reverse :: namesAbove rest
  | _ :: rest => namesAbove rest

/-- The names above a name are shorter. -/
theorem length_lt_of_mem_namesAbove {s : List Char} {name : String} (h : name ∈ namesAbove s) :
    name.length < s.length := by
  fun_induction namesAbove s with
  | case1 => simp at h
  | case2 c rest ih =>
    rcases List.mem_cons.1 h with rfl | h
    · simp
    · exact Nat.lt_add_right 2 (ih h)
  | case3 c rest _ ih => exact Nat.lt_add_right 1 (ih h)

/-- The nearest logger above a name that was set up. -/
def parent? (loggers : Loggers) (name : String) : Option String :=
  (namesAbove name.toList.reverse).find? fun n => loggers.any (·.1 = n)

theorem length_lt_of_parent? {loggers : Loggers} {name above : String}
    (h : loggers.parent? name = some above) : above.length < name.length := by
  have := length_lt_of_mem_namesAbove (List.mem_of_find?_eq_some h)
  rwa [List.length_reverse, String.length_toList] at this

/-- The level that decides for a logger: its own or, without one, that of its parent; above all
loggers it is that of warnings. -/
def effectiveLevel (loggers : Loggers) (name : String) : Int :=
  let own := (loggers.level name).importance
  if own ≠ 0 then own
  else match _h : loggers.parent? name with
    | none => 30
    | some above => effectiveLevel loggers above
termination_by name.length
decreasing_by exact length_lt_of_parent? _h

/-- Whether a record is written. -/
def admits (loggers : Loggers) (r : LogRecord) : Bool :=
  loggers.effectiveLevel r.logger ≤ r.level.number

end Loggers

end TableGateway
