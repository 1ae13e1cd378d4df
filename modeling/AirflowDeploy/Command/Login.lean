import AirflowDeploy.Command.Invocation
import AirflowDeploy.Command.Session
import AirflowDeploy.Deploy.Selection

/-!
# Login and logout

A login checks the token, settles the default workspace and makes the context the current one. A
logout forgets the token of the current context.
-/
namespace AirflowDeploy.Command

open Machine

/-- The only element of a list. -/
def only? : List α → Option α
  | [a] => some a
  | _ => none

/-- The workspace that becomes the default. One that is asked for has to be there; without one,
the only one that the token sees counts. -/
def defaultWorkspace (domain : String) (workspaceId : Option String) :
    ExceptT CommandFailure (Dialogue Deploy.outside) (Option Workspace) :=
  match workspaceId with
  | some id =>
    ExceptT.mk ((fun answer => (answer.map some).mapError fun e => ⟨[], .deploy e⟩) <$>
      (Deploy.validateWorkspace id).run)
  | none =>
    ExceptT.mk ((fun answer => (answer.map only?).mapError fun e =>
        (CommandFailure.mk [] (.fault e)).within ("failed to authenticate to " ++ domain)) <$>
      Deploy.Action.ask .listWorkspaces)

/-- The context with its default workspace and the organization, where one that is asked for
wins over the workspace's own. -/
def settle (context : Context) (workspace : Option Workspace) (organizationId : Option String) :
    Context :=
  { context with
    workspace := (workspace.map (·.id)).getD context.workspace
    organization :=
      (organizationId.or (workspace.map (·.organizationId))).getD context.organization }

/-- Checks the token of a context and settles its defaults. -/
def authenticate (context : Context) (workspaceId organizationId : Option String) :
    ExceptT CommandFailure (Dialogue Deploy.outside) Context := do
  let workspace ← defaultWorkspace context.domain workspaceId
  return settle context workspace organizationId

/-- The context for a domain, a new one if there is none. -/
def contextFor (config : GlobalConfig) (domain token : String) : Context :=
  { (config.find? domain).getD { domain := domain } with token := token }

def login (environment : Environment) (a : LoginArguments) : Action Unit := do
  let path ← configFile environment
  let config ← because .config (GlobalConfig.load path).run
  let context := contextFor config a.domain a.token
  let client ← clientFor context
  let services : Services := { client, environment }
  let context ← ExceptT.mk
    (services.perform (authenticate context a.workspaceId a.organizationId).run)
  sayLine ("Successfully authenticated to " ++ context.domain)
  if !context.workspace.isEmpty then sayLine ("Default workspace: " ++ context.workspace)
  because .config ((config.setCurrent context).save path).run

def logout (environment : Environment) : Action Unit := do
  let path ← configFile environment
  let config ← because .config (GlobalConfig.load path).run
  match config.current? with
  | none => sayLine "No context set"
  | some context =>
    because .config ((config.editCurrent fun c => { c with token := "" }).save path).run
    sayLine ("Logged out of " ++ context.domain)

end AirflowDeploy.Command
