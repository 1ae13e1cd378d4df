import AirflowDeploy.Deploy.Mode
import AirflowDeploy.Image.BuildContext

/-!
# Deploy options

Everything that one deploy takes from the command line and the project's defaults.
-/
namespace AirflowDeploy.Deploy

structure Options where
  /-- The project directory. -/
  path : String
  /-- Empty for the context's default. -/
  workspaceId : String := ""
  /-- None to be asked. -/
  deploymentId : Option String := none
  mode : Mode := .unchecked
  /-- Ask for the deployment even when one is given. -/
  prompt : Bool := false
  /-- Environment file for the checks, relative to the project. -/
  envFile : Option String := none
  /-- Dockerfile, relative to the project. -/
  dockerfile : String := BuildContext.defaultDockerfile
  /-- A local image to deploy instead of building one. -/
  imageName : Option String := none
  /-- The runtime version to build for, in place of a detected one. -/
  runtimeVersion : Option String := none
  deriving DecidableEq, Repr, Inhabited

end AirflowDeploy.Deploy
