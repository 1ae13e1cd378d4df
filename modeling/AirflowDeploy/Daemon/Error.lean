import AirflowDeploy.Daemon.Message
import AirflowDeploy.Json.Fields
import AirflowDeploy.Json.Reader
import AirflowDeploy.Text.Numeral

/-!
# Errors of the container daemon

Why a request of the daemon failed.
-/
namespace AirflowDeploy

inductive DaemonError where
  /-- No reply came. -/
  | unreachable (text : String)
  | refused (status : Nat) (text : String)
  /-- The daemon reported a failure while it was at work. -/
  | reported (text : String)
  /-- The reply is not of the expected form. -/
  | malformed
  /-- The reply breaks off. -/
  | cutOff
  deriving DecidableEq, Repr

namespace DaemonError

def message : DaemonError → String
  | .unreachable text => text
  | .refused status text =>
    "Docker responded with status code " ++ String.ofList (Text.decimal status) ++ ": " ++ text
  | .reported _ => "Docker stream error"
  | .malformed => "Failed to deserialize JSON"
  | .cutOff => "bytes remaining on stream"

/-- What a refusal says: the message in its body, or else the body itself. -/
def refusalText (body : List UInt8) : String :=
  let text := Text.Utf8.decodeLossy body
  let message := (Json.read? text).bind fun j =>
    match j.fields? ["message"] with
    | some [message] => Json.required? Json.text? message
    | _ => none
  message.getD (String.ofList text)

/-- The body of a reply that is no refusal. -/
def bodyOf (reply : Daemon.Reply) : Except DaemonError (List UInt8) :=
  if reply.isSuccess then .ok reply.body
  else .error (.refused reply.status (refusalText reply.body))

end DaemonError

end AirflowDeploy
