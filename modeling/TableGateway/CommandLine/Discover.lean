import TableGateway.CommandLine.Arguments
import TableGateway.Config.Environment
import TableGateway.Gateway.Basic
import TableGateway.Text.Line

/-!
# The command `discover`

The program has one command. It discovers what the database named by the environment offers and
prints the sources as JSON.
-/

namespace TableGateway.CommandLine

/-- The settings of the command. -/
inductive Setting where
  /-- Without a name it is a schema that cannot be asked for. -/
  | schema (name : Option String)
  | strictNumbers
  | verbose
deriving Repr, DecidableEq

/-- The option that asks for help. -/
def helpOption {α : Type} : OptionSpec α := ⟨["-h", "--help"], .help⟩

/-- The options of the program itself. -/
def mainOptions : List (OptionSpec Unit) := [helpOption]

/-- The options of the command. -/
def discoverOptions : List (OptionSpec Setting) :=
  [helpOption, ⟨["--schema"], .valued .schema⟩, ⟨["--strict-numbers"], .flag .strictNumbers⟩,
   ⟨["--verbose"], .flag .verbose⟩]

/-- The help on the program. -/
def mainHelp : String :=
  "usage: hypergres [-h] \x7bdiscover\x7d ...

Discover tables and views of a PostgreSQL database and describe them as
Sources

positional arguments:
  \x7bdiscover\x7d
    discover  Print the discovered Sources as JSON

options:
  -h, --help  show this help message and exit
"

/-- The help on the command. -/
def discoverHelp : String :=
  "usage: hypergres discover [-h] [--schema NAME] [--strict-numbers] [--verbose]

options:
  -h, --help        show this help message and exit
  --schema NAME     Schema to discover (repeatable, defaults to
                    HYPERGRES_SCHEMAS or public)
  --strict-numbers  Describe numeric columns as plain JSON numbers
  --verbose         Log SQL statements
"

/-- What a command line asks for. -/
inductive Request where
  | help (text : String)
  | misuse (program message : String)
  | discover (settings : List Setting)
deriving Repr, DecidableEq

/-- The name of the program in messages. -/
def programName : String := "hypergres"

/-- The name of the command in messages. -/
def commandName : String := "discover"

/-- What is asked for when the reading of arguments ends early. -/
def Stop.request (program helpText : String) : Stop → Request
  | help => .help helpText
  | misuse message => .misuse program message

/-- Reads the words behind the command; `before` is what was left over before it. -/
def readDiscover (before : List String) (arguments : List String) : Request :=
  match (words discoverOptions arguments).bind (settings discoverOptions) with
  | .error stop => stop.request (programName ++ " " ++ commandName) discoverHelp
  | .ok s =>
    match before ++ s.leftover with
    | [] => .discover s.made
    | leftover =>
      .misuse programName ("unrecognized arguments: " ++ " ".intercalate leftover)

/-- Reads a command line. -/
def read (arguments : List String) : Request :=
  let found := do findCommand mainOptions (← words mainOptions arguments) arguments
  match found with
  | .error stop => stop.request programName mainHelp
  | .ok (none, _) =>
    .misuse programName "the following arguments are required: command"
  | .ok (some [], leftover) => readDiscover leftover []
  | .ok (some (command :: rest), leftover) =>
    if command = commandName then readDiscover leftover rest
    else .misuse programName ("argument command: invalid choice: " ++ Value.quotedString command
      ++ " (choose from " ++ Value.quotedString commandName ++ ")")

/-- What a run of the program leaves behind. -/
structure Outcome where
  exitStatus : Nat
  output : String := ""
  /-- The message that says how the command line was misused. -/
  usageError : Option String := none
  log : List LogRecord := []
  trace : List TraceEntry := []
deriving Repr

/-- The line on which the message about a misused command line begins. -/
def Outcome.usageLine (o : Outcome) : Option String :=
  o.usageError.map Text.firstLine

/-- The schemas that were named, if any. An empty list stands for one without a name. -/
def namedSchemas (settings : List Setting) : Option Value :=
  match settings.filterMap fun | .schema name => some name | _ => none with
  | [] => none
  | names => some (.array (names.map fun name => (name.map .string).getD (.array [])))

/-- Whether strict numbers were asked for; otherwise the environment decides. -/
def askedStrictNumbers (settings : List Setting) : Option Value :=
  if settings.contains .strictNumbers then some (.bool true) else none

/-- How important a record must be to be written. -/
def threshold (settings : List Setting) : LogLevel :=
  if settings.contains .verbose then .debug else .info

/-- The outcome of a run that fails. -/
def Outcome.ofFailure (failure : Failure) (log : List LogRecord) (trace : List TraceEntry) :
    Outcome :=
  { exitStatus := failure.exitStatus, log := log ++ [.main .error failure.line], trace }

/-- The sources as they are printed. -/
def printed (sources : List Catalog.Source) : String :=
  (Value.array (sources.map Catalog.Source.toValue)).indented ++ "\n"

/-- Runs the command in an environment, on a database. -/
def discover (env : Config.Environment) (db : Discovery.Database) (settings : List Setting) :
    Outcome :=
  match Config.ofEnvironment env (namedSchemas settings) (askedStrictNumbers settings) with
  | .error e => .ofFailure e.failure [] []
  | .ok config =>
    let step := Gateway.run {} (Gateway.configure (fun _ => db) config)
    let log := step.log.filter (·.reaches (threshold settings))
    match step.outcome with
    | .error e => .ofFailure e.failure log step.trace
    | .ok sources => { exitStatus := 0, output := printed sources, log, trace := step.trace }

/-- Runs the program. -/
def run (arguments : List String) (env : Config.Environment) (db : Discovery.Database) : Outcome :=
  match read arguments with
  | .help text => { exitStatus := 0, output := text }
  | .misuse program message =>
    { exitStatus := 2, usageError := some (program ++ ": error: " ++ message) }
  | .discover settings => discover env db settings

end TableGateway.CommandLine
