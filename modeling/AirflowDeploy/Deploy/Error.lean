import AirflowDeploy.Dockerfile.Basic
import AirflowDeploy.Fault

/-!
# Deploy errors

Why a deploy failed, the message for each cause, and the class that decides the exit code.
-/
namespace AirflowDeploy

inductive DeployError where
  | noContextSet
  | noWorkspaceId
  | workspaceNotFound (id : String)
  | noDeployments
  | invalidDeploymentKey
  | deploymentNotFound (id : String)
  | dockerfileParse (path : String) (source : DockerfileError)
  | invalidRuntimeTag (tag : String)
  | invalidUpgrade (current candidate : String)
  | dagsParseFailed (source : Fault)
  | pytestFailed
  /-- An operation of the platform or the engine failed. -/
  | step (operation : String) (source : Fault)
  | input (source : IoFault)
  | output (source : IoFault)
  deriving DecidableEq, Repr

inductive ErrorClass where
  /-- Missing authentication or input. -/
  | precondition
  /-- No such workspace or deployment. -/
  | resolution
  /-- A build, version or check failure. -/
  | validation
  /-- A failure of the platform, the registry or the login. -/
  | transport
  | other
  deriving DecidableEq, Repr

namespace ErrorClass

def exitCode : ErrorClass → Nat
  | .other => 1
  | .precondition => 2
  | .resolution => 3
  | .validation => 4
  | .transport => 5

end ErrorClass

/-- The class of an operation that failed with this fault. -/
def Fault.errorClass : Fault → ErrorClass
  | .invalidInput _ => .precondition
  | .notFound _ => .resolution
  | .buildFailed _ | .executionFailed _ => .validation
  | .unauthorized _ | .transport _ | .api _ _ | .pushFailed _ => .transport
  | .unexpected _ => .other

namespace DeployError

def message : DeployError → String
  | .noContextSet =>
    "no context set, have you authenticated to the platform? Run dagship login and try again"
  | .noWorkspaceId => "no workspace id provided"
  | .workspaceNotFound id => "no workspaces with id (" ++ id ++ ") found"
  | .noDeployments => "no deployments found in this workspace"
  | .invalidDeploymentKey => "invalid deployment selection"
  | .deploymentNotFound id => "no deployment with id (" ++ id ++ ") found in this workspace"
  | .dockerfileParse path _ => "failed to parse dockerfile: " ++ path
  | .invalidRuntimeTag tag => "runtime version " ++ tag ++ " is not a supported runtime release"
  | .invalidUpgrade current candidate =>
    "cannot deploy runtime version " ++ candidate ++ " to a deployment running " ++ current ++
      ", downgrades are not supported"
  | .dagsParseFailed _ =>
    "your local DAGs did not parse, fix the listed errors or rerun the command without the " ++
      "'--parse' flag to deploy"
  | .pytestFailed =>
    "pytests failed, please fix failures or rerun the command without the '--pytest' flag to deploy"
  | .step operation source => "failed to " ++ operation ++ ": " ++ source.message
  | .input source => "failed to read deployment selection: " ++ source.message
  | .output source => "failed to write output: " ++ source.message

/-- The texts of the causes below the message, outermost first. -/
def causes : DeployError → List String
  | .dockerfileParse _ (.unreadable path cause) =>
    [(DockerfileError.unreadable path cause).message, cause.message]
  | .dockerfileParse _ source => [source.message]
  | .dagsParseFailed source | .step _ source => [source.message]
  | .input source | .output source => [source.message]
  | _ => []

def errorClass : DeployError → ErrorClass
  | .noContextSet | .noWorkspaceId => .precondition
  | .workspaceNotFound _ | .noDeployments | .invalidDeploymentKey | .deploymentNotFound _ =>
    .resolution
  | .dockerfileParse _ _ | .invalidRuntimeTag _ | .invalidUpgrade _ _ | .dagsParseFailed _
  | .pytestFailed => .validation
  | .step _ source => source.errorClass
  | .input _ | .output _ => .other

def exitCode (e : DeployError) : Nat := e.errorClass.exitCode

end DeployError

end AirflowDeploy
