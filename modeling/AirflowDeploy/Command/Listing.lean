import AirflowDeploy.Command.Session
import AirflowDeploy.Deploy.Selection

/-!
# Lists of workspaces and deployments

What the platform has for the current context, as tables.
-/
namespace AirflowDeploy.Command

open Machine

def workspaceHeaders : List String := ["NAME", "ID", "ORGANIZATION", "CURRENT"]

/-- One row a workspace, with a mark at the current one. -/
def workspaceRow (current : String) (w : Workspace) : List String :=
  [w.label, w.id, w.organizationId, if w.id == current then "*" else ""]

def workspaceTable (current : String) (workspaces : List Workspace) : List String :=
  Table.render workspaceHeaders (workspaces.map (workspaceRow current))

def listWorkspaces (environment : Environment) : Action Unit := do
  let context ← authenticatedContext (← loadConfig environment)
  let client ← clientFor context
  let workspaces ← expect
    (fun e => (CommandFailure.mk [] (.fault e)).within "failed to list workspaces")
    client.listWorkspaces
  sayLines (workspaceTable context.workspace workspaces)

/-- The workspace with an id, and its deployments. -/
def deploymentsOf (workspaceId : String) : Deploy.Action (Workspace × List Deployment) := do
  let workspace ← Deploy.validateWorkspace workspaceId
  let deployments ← Deploy.Action.step "list deployments"
    (Deploy.Action.ask (.listDeployments workspace.id))
  return (workspace, deployments)

/-- The deployments of the workspace that is given, otherwise of the one of the context. -/
def chosenDeployments (context : Context) (workspaceId : Option String) :
    Deploy.Action (Workspace × List Deployment) :=
  deploymentsOf (workspaceId.getD context.workspace)

def listDeployments (environment : Environment) (workspaceId : Option String) : Action Unit := do
  let context ← authenticatedContext (← loadConfig environment)
  let client ← clientFor context
  let services : Services := { client, environment }
  let (workspace, deployments) ← because .deploy
    (services.perform (chosenDeployments context workspaceId).run)
  if deployments.isEmpty then sayLine ("No deployments in workspace " ++ workspace.id)
  else sayLines (Deploy.deploymentTable deployments)

end AirflowDeploy.Command
