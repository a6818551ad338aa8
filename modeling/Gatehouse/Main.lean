import Gatehouse.Command.Operator
import Gatehouse.Command.Server
import Gatehouse.Log.Filter
import Gatehouse.Log.Line
import Gatehouse.Session.Password
import Std.Time.DateTime.Timestamp

/-!
# The command line

The first argument `server` starts the server, and any other arguments ask for an operation of the
operator. Reading the arguments and doing the work are calls of the library; what is here looks at
the environment, draws random bytes, reads the clock and prints.

The process reaches nothing beyond itself: the tables last as long as it does, there is no way to
other machines, and nothing can be listened to.
-/

namespace Gatehouse.Command

/-! ## Surroundings -/

/-- What the programs take. -/
def allForms : List Form :=
  [ServerOptions.form, Operation.bootstrapForm, Operation.createProjectForm,
    Operation.updateProjectForm, Operation.createApiKeyForm, Operation.revokeApiKeyForm,
    Operation.statusForm]

/-- The variable that chooses which log events are printed. -/
def logVariable : String := "PORTIER_LOG"

/-- The variables that the programs look at. -/
def variableNames : List String :=
  logVariable :: (allForms.flatMap (·.options)).filterMap (·.source?)

/-- The variables that are set. -/
def readVariables : IO Variables :=
  variableNames.filterMapM fun name => return (← IO.getEnv name).map (name, ·)

/-- Whether each of some variables is set. -/
def areSet (names : List String) : IO Bool :=
  names.allM fun name => return (← IO.getEnv name).isSome

/-- What the environment offers for key management services. -/
def readCloud : IO CloudEnvironment :=
  return {
    hasAwsRegion := (← areSet ["AWS_REGION"]) || (← areSet ["AWS_DEFAULT_REGION"])
    hasAwsCredentials := ← areSet ["AWS_ACCESS_KEY_ID", "AWS_SECRET_ACCESS_KEY"]
    hasGoogleCredentials := ← areSet ["GOOGLE_APPLICATION_CREDENTIALS"] }

/-- Random blocks, as many as the most demanding call draws. -/
def drawBlocks : IO (List Bytes) :=
  (List.replicate 6 ()).mapM fun _ => return (← IO.getRandomBytes 32).toList

/-- A stored password that no password fits, for want of the function that makes digests. -/
def sealedPassword (salt : Bytes) : String :=
  PasswordHash.text { salt := salt.take 16, digest := [] }

/-- What the process finds. -/
def readHost : IO (Host Unit) := do
  let blocks ← drawBlocks
  let salt := (← IO.getRandomBytes 16).toList
  return {
    cloud := ← readCloud, network := .none Unit
    listenProblem := fun _ => some "Operation not supported (os error 95)"
    hashPassword := fun _ => sealedPassword salt
    entropy := ⟨fun i => blocks.getD i []⟩
    now := (← Std.Time.Timestamp.now).toSecondsSinceUnixEpoch.val }

/-! ## Outcomes -/

/-- The exit code of a program that could not understand its arguments. -/
def usageCode : UInt32 := 2

/-- How the program is called. -/
def usage : String :=
  "usage: gatehouse server [OPTIONS]\n" ++
  "       gatehouse bootstrap | create-project [OPTIONS]\n" ++
  "       gatehouse update-project | create-backend-api-key [OPTIONS] PROJECT\n" ++
  "       gatehouse revoke-backend-api-key [OPTIONS] PROJECT KEY\n" ++
  "       gatehouse status [OPTIONS]"

/-- Makes a call on empty tables, has its events printed where `log` says, and prints its text or
the report of its failure. The value is the exit code. -/
def execute (env : Variables) (log : String → IO Unit)
    (call : Host Unit → Call Unit Failure String) : IO UInt32 := do
  let (result, world) := (call (← readHost)).run ⟨.empty, (), []⟩
  let filter := Log.Filter.parse ((env.lookup logVariable).getD "")
  for event in world.log.filter filter.admits do log event.line
  match result with
  | .ok text =>
    IO.print text
    return 0
  | .error failure =>
    IO.eprint failure.report
    return 1

/-- Runs the program that arguments ask for. -/
def runProgram (args : List String) : IO UInt32 := do
  let env ← readVariables
  match args with
  | "server" :: rest =>
    if let some options := ServerOptions.ofArguments? env rest then
      return ← execute env IO.println fun host => do
        (← Server.start host options).stop
        return ""
  | _ =>
    if let some operation := Operation.ofArguments? env args then
      return ← execute env IO.eprintln operation.run
  IO.eprintln usage
  return usageCode

end Gatehouse.Command

/-- The entry of the program. -/
def main (args : List String) : IO UInt32 :=
  Gatehouse.Command.runProgram args
