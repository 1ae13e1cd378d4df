import AirflowDeploy.Deploy.Pipeline

/-!
# Deployers

A deployer makes one deploy after the other against the same outside. All that it keeps of a
deploy is the state that this one ended in, and the next deploy starts over.
-/
namespace AirflowDeploy.Deploy

/-- A deploy that a deployer is asked for. -/
structure Request where
  context : Option Context
  options : Options

/-- The state that is entered, with the deployment that it is about. -/
def Query.entered? : Query → Option (State × String)
  | .enter state id => some (state, id)
  | _ => none

def entered (trace : List (Exchange outside)) : List (State × String) :=
  trace.filterMap fun e => Query.entered? e.query

/-- What a deployer did for a request. -/
structure Attempt where
  trace : List (Exchange outside)
  result : Except DeployError Report
  /-- The states that the deployer was in, from the start of the deploy on. -/
  visited : List State
  transitions : List Transition

structure Deployer where
  state : State := .idle
  deriving DecidableEq, Repr

namespace Deployer

variable {σ : Type}

/-- Before every deploy the state is set back. -/
def reset (d : Deployer) : Deployer := { d with state := .idle }

/-- The states of a deployer that enters others one after the other. -/
def visit (d : Deployer) (changes : List (State × String)) : List State :=
  d.state :: changes.map (·.1)

/-- The deployer that has entered them all. -/
def enterAll (d : Deployer) (changes : List (State × String)) : Deployer :=
  changes.foldl (fun d change => { d with state := change.1 }) d

/-- Makes a deploy in an outside that has a state of its own. -/
def deploy (answer : (q : Query) → StateM σ q.Answer) (request : Request) :
    StateM (Deployer × σ) Attempt := fun (d, world) =>
  let ((trace, result), world) :=
    (Deploy.deploy request.context request.options).recorded answer world
  let changes := entered trace
  ({ trace, result, visited := d.reset.visit changes,
     transitions := transitions d.reset.state changes },
    d.reset.enterAll changes, world)

end Deployer

end AirflowDeploy.Deploy
