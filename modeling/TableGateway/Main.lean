import TableGateway.CommandLine.Discover
import TableGateway.Value.Reader

/-!
# The program

Runs the command line in the environment of the process. What the database answers is read from
standard input, as a recording; the log is written to standard error.
-/

namespace TableGateway.CommandLine

/-- The variables that the program reads. -/
def environmentVariables : List String :=
  ["HYPERGRES_SCHEMAS", "HYPERGRES_STRICT_NUMBERS", "POSTGRES_HOST", "POSTGRES_PORT",
   "POSTGRES_USER", "POSTGRES_PASSWORD", "POSTGRES_DB"]

/-- The environment of the process. -/
def processEnvironment : IO Config.Environment :=
  environmentVariables.filterMapM fun name => do
    return (← IO.getEnv name).map fun value => (name, value)

/-- The recording on standard input. -/
def readRecording : IO Discovery.Recording := do
  let text ← (← IO.getStdin).readToEnd
  return match Value.read? text with
    | some v => .ofValue v
    | none => {}

/-- Runs the program and says how it ends. -/
def execute (arguments : List String) : IO UInt32 := do
  let recording ← match read arguments with
    | .discover _ => readRecording
    | _ => pure {}
  let outcome := run arguments (← processEnvironment) recording.database
  for record in outcome.log do
    IO.eprintln record.line
  for message in outcome.usageError.toList do
    IO.eprintln message
  IO.print outcome.output
  return outcome.exitStatus.toUInt32

end TableGateway.CommandLine

def main (arguments : List String) : IO UInt32 :=
  TableGateway.CommandLine.execute arguments
