import AirflowDeploy.Command.Listing
import AirflowDeploy.Command.Login
import AirflowDeploy.Deploy.Pipeline

/-!
# Running commands

A command line is read and its command is carried out. The exit code tells the class of a failure.
-/
namespace AirflowDeploy.Command

open Machine

def deploy (environment : Environment) (a : DeployArguments) : Action Unit := do
  let context ← authenticatedContext (← loadConfig environment)
  let project ← expect
    (fun e => (CommandFailure.mk [] (.config e)).within
      ("failed to load project config in " ++ a.path))
    (ProjectConfig.load a.path).run
  let client ← clientFor context
  let engine ← because .fault (Engine.connect (environment Engine.socketVariable)).run
  let services : Services := { client, engine, environment }
  let report ← because .deploy (services.perform (Deploy.deploy context (a.options project)))
  sayLines (report.printed a.json)

def perform (environment : Environment) : Subcommand → Action Unit
  | .deploy arguments => deploy environment arguments
  | .login arguments => login environment arguments
  | .logout => logout environment
  | .listWorkspaces => listWorkspaces environment
  | .listDeployments workspaceId => listDeployments environment workspaceId

def usage : String :=
  "Build, check and deploy Airflow projects\n\n" ++
  "Usage: dagship [OPTIONS] <COMMAND>\n\n" ++
  "Commands:\n" ++
  "  deploy           Build the project image and deploy it to a deployment\n" ++
  "  login            Authenticate with a platform domain\n" ++
  "  logout           Forget the token of the current context\n" ++
  "  workspace list   List accessible workspaces\n" ++
  "  deployment list  List deployments in a workspace\n"

/-- Tells why a command line gives no command. -/
def tellUsage : UsageError → Dialogue machine Unit
  | .helpRequested => do let _ ← ask (.write usage)
  | .versionRequested => do let _ ← ask (.write "dagship 0.1.0\n")
  | error => do let _ ← ask (.writeError ("error: " ++ error.message ++ "\n\n" ++ usage))

/-- Carries out a command line, without the program's name, and gives the exit code. -/
def run (environment : Environment) (arguments : List String) : Dialogue machine Nat := do
  match Invocation.parse environment arguments with
  | .error error =>
    tellUsage error
    return error.exitCode
  | .ok invocation =>
    match ← (perform environment invocation.command).run with
    | .ok () => return 0
    | .error failure =>
      let _ ← ask (.writeError ("Error: " ++ failure.shown ++ "\n"))
      return failure.exitCode

end AirflowDeploy.Command
