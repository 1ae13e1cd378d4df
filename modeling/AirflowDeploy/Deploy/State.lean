/-!
# Deploy states

How far a deploy has come.
-/
namespace AirflowDeploy.Deploy

inductive State where
  | idle | workspaceValidated | deploymentResolved | built | validated | pushed | registered
  | done | failed
  deriving DecidableEq, Repr

namespace State

def name : State → String
  | .idle => "idle"
  | .workspaceValidated => "workspace-validated"
  | .deploymentResolved => "deployment-resolved"
  | .built => "built"
  | .validated => "validated"
  | .pushed => "pushed"
  | .registered => "registered"
  | .done => "done"
  | .failed => "failed"

def all : List State :=
  [.idle, .workspaceValidated, .deploymentResolved, .built, .validated, .pushed, .registered,
    .done, .failed]

end State

/-- A change of state, with the deployment that it is about. -/
structure Transition where
  before : State
  after : State
  deploymentId : String
  deriving DecidableEq, Repr

end AirflowDeploy.Deploy
