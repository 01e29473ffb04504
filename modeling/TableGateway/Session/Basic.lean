import TableGateway.Log
import TableGateway.Query.Named
import TableGateway.Value.Integer

/-!
# Sessions

A session sends the statements of queries to a database, in transactions. A transaction ends with
the first query that fails and is then rolled back; otherwise it is committed. The connection is
opened by the first transaction and then kept.
-/

namespace TableGateway

/-- What a database answers to a statement. -/
inductive Reply where
  | resultSet (columns : List String) (rows : List (List Value))
  /-- No rows, but the number of those affected. -/
  | affected (count : Value)
  | refusal (text : String)
deriving Repr, DecidableEq

/-- What a query brings. -/
inductive QueryResult where
  | rows (rows : List (List (String × Value)))
  | count (n : Value)
deriving Repr, DecidableEq

/-- Why a transaction fails. -/
inductive SessionError where
  | query (e : Query.Error)
  | refused (text : String)
  | unreachable (text : String)
  /-- A row with fewer values than there are columns. -/
  | shortRow
  /-- A count without a row. -/
  | noRow
  /-- A count with several rows. -/
  | severalRows
  /-- A count without a result set. -/
  | noResultSet
  /-- A count that is no number. -/
  | notACount (e : IntegerError)
deriving Repr, DecidableEq

/-- What is reported of a failed transaction. -/
def SessionError.failure : SessionError → Failure
  | query e => e.failure
  | refused text => .unexpected ⟨.database, text⟩
  | unreachable text => .unexpected ⟨.connection, text⟩
  | shortRow => .unexpected ⟨.outOfRange, "A row has no value for a column"⟩
  | noRow => .unexpected ⟨.noRow, "No row was found when one was required"⟩
  | severalRows =>
    .unexpected ⟨.severalRows, "Multiple rows were found when exactly one was required"⟩
  | noResultSet => .unexpected ⟨.noResultSet, "The result has no rows"⟩
  | notACount e => .unexpected e.fault

/-- What happens in a transaction, as the database sees it. -/
inductive TraceEntry where
  | begun
  | sent (statement : Query.NamedStatement)
  | committed
  | rolledBack
deriving Repr

/-- A session with the replies that the database is going to give; without one it has affected
nothing. -/
structure Session where
  id : Value
  replies : List Reply := []
  /-- Why no connection can be opened. -/
  barrier : Option String := none
  isConnected : Bool := false
deriving Repr

/-- A session at work. -/
structure Working where
  session : Session
  trace : List TraceEntry := []
  log : List LogRecord := []
deriving Repr

namespace Working

/-- Notes what happens on the connection. -/
def tell (event : ConnectionEvent) (w : Working) : Working :=
  { w with log := w.log ++ [event.record w.session.id] }

def record (entry : TraceEntry) (w : Working) : Working :=
  { w with trace := w.trace ++ [entry] }

/-- The next reply of the database. -/
def nextReply (w : Working) : Reply × Working :=
  match w.session.replies with
  | [] => (.affected (.int 0), w)
  | r :: rest => (r, { w with session := { w.session with replies := rest } })

end Working

/-- The row as an object with the columns as keys. Every column must have a value. -/
def rowObject (columns : List String) (row : List Value) :
    Except SessionError (List (String × Value)) :=
  if row.length < columns.length then .error .shortRow
  else .ok ((columns.zip row).foldl (fun members m => setMember m.1 m.2 members) [])

/-- The one number of a count. -/
def Reply.number : Reply → Except SessionError Int
  | resultSet _ [] => .error .noRow
  | resultSet _ [[]] => .error .shortRow
  | resultSet _ [v :: _] => v.toInteger.mapError .notACount
  | resultSet _ _ => .error .severalRows
  | _ => .error .noResultSet

/-- What a reply means to a query. -/
def Reply.result (q : Query) (reply : Reply) : Except SessionError QueryResult :=
  match q, reply with
  | _, refusal text => .error (.refused text)
  | .count _, reply => reply.number.map fun n => .count (.int n)
  | .delete _, resultSet _ rows => .ok (.count (.int rows.length))
  | .delete _, affected n => .ok (.count n)
  | _, resultSet columns rows => (rows.mapM (rowObject columns)).map .rows
  | _, affected _ => .ok (.rows [])

namespace Session

/-- Sends the statement of a query and takes the reply. A query without a statement sends nothing. -/
def perform (q : Query) : ExceptT SessionError (StateM Working) QueryResult := do
  match q.statement with
  | .error e => throw (.query e)
  | .ok statement =>
    let named := statement.named
    modify fun w => (w.tell (.sent named.text)).record (.sent named)
    let reply ← modifyGet Working.nextReply
    match reply with
    | .refusal text => modify (Working.tell (.failed text))
    | _ => modify (Working.tell .answered)
    liftExcept (reply.result q)
where
  liftExcept : Except SessionError QueryResult → ExceptT SessionError (StateM Working) QueryResult
    | .ok r => return r
    | .error e => throw e

/-- Performs queries in turn, up to the first that fails. -/
def performAll : List Query → StateM Working (List QueryResult × Option SessionError)
  | [] => return ([], none)
  | q :: rest => do
    match ← (perform q).run with
    | .error e => return ([], some e)
    | .ok r =>
      let (results, failure) ← performAll rest
      return (r :: results, failure)

end Session

/-- What came of a transaction. -/
structure Transaction where
  /-- The results of the queries before the one that failed. -/
  results : List QueryResult
  failure : Option SessionError
  trace : List TraceEntry
  log : List LogRecord
deriving Repr

namespace Session

/-- Opens the connection, unless it is open. -/
def connect (w : Working) : Working :=
  if w.session.isConnected then w
  else
    let w := w.tell .opened
    { w with session := { w.session with isConnected := true } }

/-- Performs queries in one transaction. -/
def transact (s : Session) (queries : List Query) : Transaction × Session :=
  match s.barrier with
  | some text =>
    let w := (Working.mk s [] []).tell (.failed text)
    (⟨[], some (.unreachable text), [], w.log⟩, s)
  | none =>
    let ((results, failure), w) :=
      (performAll queries).run ((connect ⟨s, [], []⟩).record .begun)
    let w := w.record (if failure.isNone then .committed else .rolledBack)
    (⟨results, failure, w.trace, w.log⟩, w.session)

end Session

end TableGateway
