import AirflowDeploy.Text.Blank

/-!
# Check modes

Which check runs on the built image before it is pushed.
-/
namespace AirflowDeploy.Deploy

inductive Mode where
  | unchecked
  | parse
  /-- Tests in one file, or all tests. -/
  | pytest (file : Option String)
  deriving DecidableEq, Repr, Inhabited

namespace Mode

/-- The value that asks for all tests, as an empty one does. -/
def allTests : String := "all-tests"

/-- Asking for tests wins over asking for a parse. -/
def ofFlags (parse : Bool) : Option String → Mode
  | some file =>
    let file := trimmed file
    .pytest (if file.isEmpty || file == allTests then none else some file)
  | none => if parse then .parse else .unchecked

def name : Mode → String
  | .unchecked => "none"
  | .parse => "parse"
  | .pytest _ => "pytest"

end Mode

end AirflowDeploy.Deploy
