import AirflowDeploy.Check.Outcome
import AirflowDeploy.Deploy.Mode
import AirflowDeploy.Deploy.Outside
import AirflowDeploy.Version.Upgrade

/-!
# The checks of a deploy

Before the push, the DAGs are loaded or the tests are run inside of the built image.
-/
namespace AirflowDeploy.Deploy

open Deploy.Action Check

/-- The oldest runtime whose images can load the DAGs. -/
def parseMinimum : String := "4.1.0"

def isTooOldToParse (version : String) : Bool := Version.compareTexts version parseMinimum == .lt

/-- Loads the DAGs, unless the runtime is too old for it. -/
def checkParse (setup : Setup) (image version : String) : Action Unit := do
  if isTooOldToParse version then
    sayLine ("Skipping DAG parse: runtime " ++ version ++ " is older than " ++ parseMinimum)
  else
    sayLine "Testing image for DAG import errors..."
    match ← (ask (.parse setup image) : Dialogue outside (Except Fault Unit)) with
    | .ok () => sayLine "No DAG import errors found"
    | .error fault =>
      match fault with
      | .executionFailed output => sayLine (trimmedEnd output)
      | _ => pure ()
      throw (.dagsParseFailed fault)

/-- The output of a test run. A run whose output tells a failure has completed, even when the
engine reports it as a fault. -/
def testOutput : Except Fault String → Except Fault String
  | .error (.executionFailed output) =>
    if (classify output).isFailed then .ok output else .error (.executionFailed output)
  | answer => answer

/-- Runs the tests. An output without an exit status passes. -/
def checkPytest (setup : Setup) (file : Option String) (image : String) : Action Unit := do
  sayLine "Running pytests..."
  let output ← step "run pytests" (testOutput <$> ask (.pytest setup file image))
  say output
  if (classify output).isFailed then throw .pytestFailed

/-- The check that a mode asks for. -/
def runCheck (mode : Mode) (setup : Setup) (image version : String) : Action Unit :=
  match mode with
  | .unchecked => pure ()
  | .parse => checkParse setup image version
  | .pytest file => checkPytest setup file image

end AirflowDeploy.Deploy
