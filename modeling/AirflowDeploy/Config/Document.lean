import AirflowDeploy.Config.Error
import AirflowDeploy.Kdl.Printer
import AirflowDeploy.Kdl.Reader
import AirflowDeploy.Text.Utf8

/-!
# Configuration documents

Configuration files are KDL. A file that is missing stands for an empty document.
-/
namespace AirflowDeploy.Config

def readDocument (text : String) : Except ConfigError Kdl.Document :=
  match Kdl.read? text with
  | some document => .ok document
  | none => .error .syntaxError

/-- The text of a file, none where the file is missing. -/
def contentText (path : String) : Except IoFault (List UInt8) → Except ConfigError (Option String)
  | .error .missing => .ok none
  | .error cause => .error (.inaccessible path cause)
  | .ok bytes =>
    match Text.Utf8.decode? bytes with
    | some cs => .ok (some (String.ofList cs))
    | none => .error (.inaccessible path .notText)

end AirflowDeploy.Config
