import AirflowDeploy.Check.Script
import AirflowDeploy.Check.Setup
import AirflowDeploy.Daemon.LogFrame
import AirflowDeploy.Daemon.ValueStream
import AirflowDeploy.Engine.Basic
import AirflowDeploy.EnvFile.Assignment
import AirflowDeploy.Image.BuildContext

/-!
# Check containers

Checks run in containers with the project mounted. A container that was created is removed
whatever happens.
-/
namespace AirflowDeploy.Engine

open Machine

/-- Where the project is mounted in a container. -/
def mountPoint : String := "/usr/local/airflow"

/-- The assignments of an environment file. -/
def readEnvFile (environment : Environment) (path : String) : Action Fault (List String) := do
  if !(← isFile path) then throw (.invalidInput ("env file path is incorrect: " ++ path))
  let unreadable (text : String) : Fault := .invalidInput ("env file " ++ path ++ ": " ++ text)
  let content ← expect (fun e => unreadable e.message) (ask (.fileContent path))
  let valueOf (name : List Char) : Option (List Char) :=
    (environment (String.ofList name)).map String.toList
  match EnvFile.read valueOf content with
  | .ok assignments => return assignments
  | .error e => throw (unreadable e.message)

/-- Reads what the checks of one deploy are made with. -/
def prepareChecks (environment : Environment) (ctx : BuildContext) : Action Fault Check.Setup := do
  let env ← match ctx.envFile with
    | some path => readEnvFile environment path
    | none => pure []
  let projectDir ← expect
    (fun e => .invalidInput ("project directory " ++ ctx.projectDir ++ ": " ++ e.message))
    (ask (.absolutePath ctx.projectDir))
  let runId ← freshRunId
  return { projectDir, env, runId }

/-- How a check container ended and what it wrote. -/
structure CheckResult where
  exitCode : Int
  output : String
  deriving DecidableEq, Repr

def containerSpec (setup : Check.Setup) (image : String) (command : List String) :
    Daemon.ContainerSpec where
  image := image
  command := command
  env := setup.env
  workingDir := mountPoint
  binds := [setup.projectDir ++ ":" ++ mountPoint ++ ":rw"]

/-- The exit code that the first value of a wait stream tells. -/
def exitCodeIn (body : List UInt8) : Except Fault Int :=
  let failed (e : DaemonError) : Except Fault Int :=
    .error (.executionFailed ("Failed waiting for container: " ++ e.message))
  match (Daemon.values body).head? with
  | none => .error (.executionFailed "Container wait ended without a status")
  | some (.error e) => failed e
  | some (.ok (.object members)) =>
    match (members.lookup (some "StatusCode")).bind Json.int64? with
    | some code => .ok code
    | none => failed .malformed
  | some (.ok _) => failed .malformed

/-- Starts a container, waits for its end and reads its log. -/
def startAndWait (e : Engine) (name : String) : Action Fault CheckResult := do
  let failed (what : String) (error : DaemonError) : Fault :=
    .executionFailed (what ++ ": " ++ error.message)
  let _ ← expect (failed "Failed to start container") (e.request (.start name))
  let waited ← expect (failed "Failed waiting for container") (e.request (.wait name))
  let exitCode ← exitCodeIn waited
  let output ← expect (failed "Failed to read logs")
    ((·.bind Daemon.logText) <$> e.request (.logs name))
  return { exitCode, output }

/-- Runs a command in a new container. -/
def runCheck (e : Engine) (setup : Check.Setup) (check image : String) (command : List String) :
    Action Fault CheckResult := do
  let name := Check.containerName check setup.runId
  let _ ← expect (fun error => .executionFailed ("Failed to create container: " ++ error.message))
    (e.request (.create name (containerSpec setup image command)))
  ExceptT.mk do
    let result ← (startAndWait e name).run
    let _ ← e.request (.remove name)
    return result

/-- Whether a container that loads the DAGs has found them sound. -/
def parseOutcome (result : CheckResult) : Except Fault Unit :=
  if result.exitCode = 0 then .ok ()
  else
    .error <| .executionFailed <| "DAG parse exited with code " ++
      String.ofList (Text.integer result.exitCode) ++ "\n" ++ trimmedEnd result.output

/-- Loads the DAGs. -/
def parse (e : Engine) (setup : Check.Setup) (image : String) : Action Fault Unit := do
  let result ← e.runCheck setup "parse" image Check.parseCommand
  parseOutcome result

/-- Runs the tests and gives their output. -/
def pytest (e : Engine) (setup : Check.Setup) (file : Option String) (image : String) :
    Action Fault String := do
  let result ← e.runCheck setup "pytest" image (Check.testCommand file)
  return result.output

end AirflowDeploy.Engine
