import AirflowDeploy.Fault
import AirflowDeploy.Url.Basic

/-!
# Errors of the platform client

Why a call to the platform failed, and the failure that this is for the rest of the program.
-/
namespace AirflowDeploy

inductive ClientError where
  /-- The platform's address is none. -/
  | url (cause : UrlError)
  | request (text : String)
  /-- The platform refused, with a status and a text. -/
  | api (status : Nat) (text : String)
  /-- The answer could not be read. -/
  | unreadable (text : String)
  deriving DecidableEq, Repr

namespace ClientError

def message : ClientError → String
  | .url cause => "invalid platform URL: " ++ cause.message
  | .request text => "request failed: " ++ text
  | .api status text => Fault.statusMessage status text
  | .unreadable text => "failed to parse response: " ++ text

/-- The texts of the causes below the message. -/
def causes : ClientError → List String
  | .url cause => [cause.message]
  | _ => []

def toFault : ClientError → Fault
  | .url cause => .invalidInput cause.message
  | .request text => .transport text
  | .api 401 text | .api 403 text => .unauthorized text
  | .api 404 text => .notFound text
  | .api status text => .api status text
  | .unreadable text => .transport text

end ClientError

end AirflowDeploy
