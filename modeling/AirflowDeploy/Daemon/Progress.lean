import AirflowDeploy.Daemon.ValueStream

/-!
# Progress of an upload

The daemon tells how an upload goes in a stream of messages. A message that cannot be received
comes as an error in its place.
-/
namespace AirflowDeploy.Daemon

/-- What a message says about an upload. -/
structure Progress where
  error : Option String
  deriving DecidableEq, Repr

/-- The messages on an upload, in the order in which they come in. -/
abbrev ProgressStream := List (Except DaemonError Progress)

/-- The message that a value stands for. One that holds the text of an error comes as an error. -/
def progressOf : Except DaemonError Json → Except DaemonError Progress
  | .error e => .error e
  | .ok (.object members) =>
    match (members.lookup (some "error")).bind Json.text? with
    | some text => .error (.reported text)
    | none => .ok ⟨none⟩
  | .ok _ => .error .malformed

/-- The stream behind the answer to an upload. A refusal is all of its stream. -/
def progressStream : Except DaemonError (List UInt8) → ProgressStream
  | .error e => [.error e]
  | .ok body => (values body).map progressOf

end AirflowDeploy.Daemon
