import AirflowDeploy.Text.Numeral

/-!
# Failures of the platform and the engine

Each failure has a cause and a text; its message puts the cause in front.
-/
namespace AirflowDeploy

inductive Fault where
  | notFound (text : String)
  | invalidInput (text : String)
  | unauthorized (text : String)
  | buildFailed (text : String)
  | executionFailed (text : String)
  | pushFailed (text : String)
  | transport (text : String)
  | api (status : Nat) (text : String)
  | unexpected (text : String)
  deriving DecidableEq, Repr

namespace Fault

/-- The answer of a web service, told by its status. -/
def statusMessage (status : Nat) (text : String) : String :=
  "API error (" ++ String.ofList (Text.decimal status) ++ "): " ++ text

def message : Fault → String
  | .notFound text => "not found: " ++ text
  | .invalidInput text => "invalid input: " ++ text
  | .unauthorized text => "unauthorized: " ++ text
  | .buildFailed text => "image build failed: " ++ text
  | .executionFailed text => "execution failed: " ++ text
  | .pushFailed text => "image push failed: " ++ text
  | .transport text => "request failed: " ++ text
  | .api status text => statusMessage status text
  | .unexpected text => "internal error: " ++ text

end Fault

end AirflowDeploy
