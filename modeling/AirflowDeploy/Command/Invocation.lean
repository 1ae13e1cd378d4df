import AirflowDeploy.Command.Usage
import AirflowDeploy.Config.Project
import AirflowDeploy.Deploy.Options

/-!
# Invocations

The commands with their arguments, as a command line asks for them.
-/
namespace AirflowDeploy

inductive LogFormat where
  | text
  | json
  deriving DecidableEq, Repr

structure DeployArguments where
  path : String := "."
  deploymentId : Option String := none
  workspaceId : Option String := none
  parse : Bool := false
  pytest : Option String := none
  imageName : Option String := none
  runtimeVersion : Option String := none
  prompt : Bool := false
  envFile : Option String := none
  /-- The report is printed as JSON. -/
  json : Bool := false
  deriving DecidableEq, Repr

structure LoginArguments where
  domain : String
  token : String
  workspaceId : Option String := none
  organizationId : Option String := none
  deriving DecidableEq, Repr

inductive Subcommand where
  | deploy (arguments : DeployArguments)
  | login (arguments : LoginArguments)
  | logout
  | listWorkspaces
  | listDeployments (workspaceId : Option String)
  deriving DecidableEq, Repr

structure Invocation where
  verbose : Bool
  logFormat : LogFormat
  command : Subcommand
  deriving DecidableEq, Repr

/-- The options of a deploy: what the arguments leave open is taken from the project. -/
def DeployArguments.options (a : DeployArguments) (project : ProjectConfig) : Deploy.Options where
  path := a.path
  workspaceId := a.workspaceId.getD ""
  deploymentId := a.deploymentId.or project.deployment
  mode := .ofFlags a.parse a.pytest
  prompt := a.prompt
  envFile := a.envFile.or project.envFile
  dockerfile := project.dockerfile.getD BuildContext.defaultDockerfile
  imageName := a.imageName
  runtimeVersion := a.runtimeVersion

namespace Invocation

open Usage

def isSet (values : Values) (name : String) : Bool := (values.lookup name).isSome

def commandOf (level : Level) (values : Values) : Except UsageError Subcommand :=
  match level with
  | .deploy =>
    .ok <| .deploy {
      path := (values.lookup "path").getD "."
      deploymentId := values.lookup "deployment-id"
      workspaceId := values.lookup "workspace-id"
      parse := isSet values "parse"
      pytest := values.lookup "pytest"
      imageName := values.lookup "image-name"
      runtimeVersion := values.lookup "runtime-version"
      prompt := isSet values "prompt"
      envFile := values.lookup "env"
      json := isSet values "json" }
  | .login =>
    match values.lookup "domain", values.lookup "token" with
    | some domain, some token =>
      .ok <| .login {
        domain
        token
        workspaceId := values.lookup "workspace-id"
        organizationId := values.lookup "organization-id" }
    | _, _ => .error .missingArgument
  | .logout => .ok .logout
  | .workspaceList => .ok .listWorkspaces
  | .deploymentList => .ok (.listDeployments (values.lookup "workspace-id"))
  | .root | .workspace | .deployment => .error .missingSubcommand

/-- The invocation that the arguments after the program's name ask for. -/
def parse (environment : Environment) (arguments : List String) :
    Except UsageError Invocation := do
  let (level, values) ← Usage.parse environment .root arguments
  return {
    verbose := isSet values "verbose"
    logFormat := if values.lookup "log-format" = some "json" then .json else .text
    command := ← commandOf level values }

end Invocation

end AirflowDeploy
