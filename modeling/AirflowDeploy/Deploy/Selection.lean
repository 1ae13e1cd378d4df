import AirflowDeploy.Deploy.Outside
import AirflowDeploy.Table

/-!
# Selecting the workspace and the deployment

Both are looked up in what the platform lists. A deployment may also be picked by its number in
a table.
-/
namespace AirflowDeploy.Deploy

open Deploy.Action

def findWorkspace (workspaces : List Workspace) (id : String) : Except DeployError Workspace :=
  match workspaces.find? fun w => w.id == id with
  | some workspace => .ok workspace
  | none => .error (.workspaceNotFound id)

/-- The caller's workspace with this id. -/
def validateWorkspace (id : String) : Action Workspace := do
  if id.isEmpty then throw .noWorkspaceId
  let workspaces ← step "list workspaces" (ask .listWorkspaces)
  findWorkspace workspaces id

def findDeployment (deployments : List Deployment) (id : String) :
    Except DeployError Deployment :=
  match deployments.find? fun d => d.id == id with
  | some deployment => .ok deployment
  | none => .error (.deploymentNotFound id)

def deploymentHeaders : List String := ["#", "LABEL", "DEPLOYMENT NAME", "DEPLOYMENT ID", "RUNTIME"]

/-- The cells of the deployments, numbered from `n`. -/
def deploymentRows (n : Nat) : List Deployment → List (List String)
  | [] => []
  | d :: rest =>
    [String.ofList (Text.decimal n), d.label, d.releaseName, d.id, d.runtimeRelease.version] ::
      deploymentRows (n + 1) rest

def deploymentTable (deployments : List Deployment) : List String :=
  Table.render deploymentHeaders (deploymentRows 1 deployments)

/-- The deployment whose number stands in the answer. -/
def pick? (deployments : List Deployment) (answer : String) : Option Deployment :=
  match Text.readNatural? (Text.trim answer.toList) with
  | some (n + 1) => deployments[n]?
  | _ => none

/-- Shows the deployments and reads one line with the number of one. -/
def promptForDeployment (domain : String) (workspace : Workspace) (deployments : List Deployment) :
    Action Deployment := do
  if deployments.isEmpty then throw .noDeployments
  let label := if workspace.label.isEmpty then workspace.id else workspace.label
  sayLine ("Workspace: " ++ label ++ " (" ++ domain ++ ")")
  sayLine "Select which Deployment you want to deploy to:"
  sayLines (deploymentTable deployments)
  say "\n> "
  flush
  let answer ← expect .input (ask .readLine)
  match pick? deployments answer with
  | some deployment => pure deployment
  | none => throw .invalidDeploymentKey

end AirflowDeploy.Deploy
