import AirflowDeploy.Config.Context
import AirflowDeploy.Deploy.CheckStage
import AirflowDeploy.Deploy.ImageStage
import AirflowDeploy.Deploy.Options
import AirflowDeploy.Deploy.Report
import AirflowDeploy.Deploy.Selection

/-!
# The deploy pipeline

Select, build, check, push, register. Nothing is pushed before the check has passed, and nothing
is registered before the push has succeeded.
-/
namespace AirflowDeploy.Deploy

open Deploy.Action

/-- The registry user of platform tokens. -/
def registryUsername : String := "cli"

def registryHost (domain : String) : String := "images." ++ domain

/-- The repository of a release; an unknown organization is left out. -/
def repository (registry organization releaseName : String) : String :=
  if organization.isEmpty then registry ++ "/" ++ releaseName
  else registry ++ "/" ++ organization ++ "/" ++ releaseName

/-- The tag of an image that is pushed at some time. -/
def pushTag (now : Instant) : String := "deploy-" ++ now.stamp

def dashboardUrl (domain workspaceId deploymentId : String) : String :=
  "https://cloud." ++ domain ++ "/" ++ workspaceId ++ "/deployments/" ++ deploymentId

/-- The address of the web server, with a scheme. -/
def airflowUrl (webserverUrl : String) : String :=
  if webserverUrl.isEmpty || Text.contains "://".toList webserverUrl.toList then webserverUrl
  else "https://" ++ webserverUrl

/-- What a deploy is about once everything is looked up. -/
structure Target where
  context : Context
  workspace : Workspace
  deployment : Deployment
  catalog : List RuntimeRelease

namespace Target

/-- The local image of the deployment. -/
def image (t : Target) : String := ImageReference.ofRelease t.deployment.releaseName "latest"

def organization (t : Target) : String :=
  if t.context.organization.isEmpty then t.workspace.organizationId else t.context.organization

def registry (t : Target) : String := registryHost t.context.domain

def repository (t : Target) : String :=
  Deploy.repository t.registry t.organization t.deployment.releaseName

def auth (t : Target) : RegistryAuth := ⟨t.registry, registryUsername, t.context.token⟩

def buildContext (t : Target) (options : Options) : BuildContext where
  projectDir := options.path
  dockerfile := options.dockerfile
  envFile := options.envFile.map (Path.join options.path)
  runtimeTag := ""
  image := t.image

def imageRequest (t : Target) (options : Options) : ImageRequest where
  ctx := t.buildContext options
  source := options.imageName
  override := options.runtimeVersion
  currentVersion := t.deployment.currentVersion
  catalog := t.catalog

end Target

/-- The context to deploy with, which has to carry a token. -/
def authenticated? (context : Option Context) : Option Context :=
  context.filter (·.isAuthenticated)

def chooseDeployment (context : Context) (options : Options) (workspace : Workspace)
    (deployments : List Deployment) : Action Deployment :=
  match options.deploymentId, options.prompt with
  | some id, false => findDeployment deployments id
  | _, _ => promptForDeployment context.domain workspace deployments

def listReleases (context : Context) : Action (List RuntimeRelease) :=
  step "list runtime releases" <|
    if context.systemAdmin then ask .listInternalReleases else ask .listPublicReleases

/-- Finds the workspace, the deployment and the releases. -/
def resolveTarget (context : Context) (options : Options) : Action Target := do
  let workspace ← validateWorkspace
    (if options.workspaceId.isEmpty then context.workspace else options.workspaceId)
  enter .workspaceValidated ""
  let deployments ← step "list deployments" (ask (.listDeployments workspace.id))
  let deployment ← chooseDeployment context options workspace deployments
  let catalog ← listReleases context
  enter .deploymentResolved deployment.id
  return { context, workspace, deployment, catalog }

/-- Runs the check that the options ask for. -/
def validate (t : Target) (options : Options) (version : String) : Action Unit := do
  if options.mode = .unchecked then return
  let setup ← step "prepare checks" (ask (.prepareChecks (t.buildContext options)))
  runCheck options.mode setup t.image version
  enter .validated t.deployment.id

/-- Uploads the image and gives its tag. -/
def pushImage (t : Target) : Action String := do
  let now ← (ask .now : Dialogue outside Instant)
  let tag := pushTag now
  sayLine ("Pushing image " ++ t.repository ++ ":" ++ tag)
  step "push image" (ask (.push t.image t.auth t.repository tag))
  enter .pushed t.deployment.id
  return tag

/-- Registers the pushed image, moves the deployment onto it and gives its id. -/
def register (t : Target) (tag : String) : Action String := do
  let created ← step "register image"
    (ask (.createImage { deploymentId := t.deployment.id, tag := tag }))
  let deployed ← step "deploy image"
    (ask (.deployImage { imageId := created.id, tag := tag, repository := t.repository }))
  enter .registered t.deployment.id
  return if deployed.id.isEmpty then created.id else deployed.id

def report (t : Target) (version tag imageId : String) : Report where
  deploymentId := t.deployment.id
  releaseName := t.deployment.releaseName
  runtimeVersion := version
  repository := t.repository
  tag := tag
  imageId := imageId
  dashboardUrl := dashboardUrl t.context.domain t.workspace.id t.deployment.id
  airflowUrl := airflowUrl t.deployment.webserverUrl

/-- One deploy up to its last change of state. -/
def attempt (context : Option Context) (options : Options) : Action Report := do
  match authenticated? context with
  | none => throw .noContextSet
  | some context =>
    let target ← resolveTarget context options
    ask (.selectImage target.image)
    let version ← produceImage (target.imageRequest options)
    enter .built target.deployment.id
    validate target options version
    let tag ← pushImage target
    let imageId ← register target tag
    return report target version tag imageId

/-- One deploy. It ends in the state `done` or `failed`. -/
def deploy (context : Option Context) (options : Options) :
    Dialogue outside (Except DeployError Report) := do
  match ← (attempt context options).run with
  | .ok report =>
    ask (.enter .done report.deploymentId)
    return .ok report
  | .error e =>
    ask (.enter .failed "")
    return .error e

/-- The changes of state from `before` on, where states are entered in this order. -/
def transitions (before : State) : List (State × String) → List Transition
  | [] => []
  | (after, id) :: rest => ⟨before, after, id⟩ :: transitions after rest

end AirflowDeploy.Deploy
