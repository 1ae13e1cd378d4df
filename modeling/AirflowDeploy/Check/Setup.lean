import AirflowDeploy.RunId

/-!
# Check setups

What every check container of one deploy is made with.
-/
namespace AirflowDeploy.Check

structure Setup where
  /-- The project directory, as an absolute path. -/
  projectDir : String
  /-- Assignments `KEY=value`. -/
  env : List String
  runId : RunId
  deriving DecidableEq, Repr

/-- The name of the container of one check, told apart between runs. -/
def containerName (check : String) (runId : RunId) : String :=
  "dagship-" ++ check ++ "-" ++ runId.short

end AirflowDeploy.Check
