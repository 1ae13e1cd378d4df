import AirflowDeploy.Text.Cut
import AirflowDeploy.Text.Lines
import AirflowDeploy.Text.Numeral

/-!
# Test outcomes

A test run writes its exit status on a last line of its own. The outcome is read from the last
line of that form.
-/
namespace AirflowDeploy.Check

open Text

/-- What stands before the exit status. -/
def marker : String := "exit code"

inductive Outcome where
  | passed
  | failed (exitCode : Int)
  | unknown
  deriving DecidableEq, Repr

/-- The text after the marker on a line that starts with it. -/
def status? (line : List Char) : Option (List Char) := afterPrefix? marker.toList (trim line)

def Outcome.ofStatus (status : List Char) : Outcome :=
  match readInteger? (trim status) with
  | some n => if n = 0 then .passed else .failed n
  | none => .unknown

def classify (output : String) : Outcome :=
  match (lines output.toList).reverse.findSome? status? with
  | some status => .ofStatus status
  | none => .unknown

def Outcome.isFailed : Outcome → Bool
  | .failed _ => true
  | _ => false

end AirflowDeploy.Check
