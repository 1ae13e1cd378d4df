import AirflowDeploy.Proofs.Dialogue.Behaviour
import AirflowDeploy.Proofs.Engine.CheckRun

/-!
# Removal of check containers

Whatever the daemon answers, a container that was created for a check is removed, once and at the
end, and how that goes has no part in the result. The check of the DAGs passes exactly where the
answers let the container run to its end with status zero and tell its whole log, and else it fails
with what was refused or left untold first.
-/
namespace AirflowDeploy.Engine

open Dialogue Machine

variable {e : Engine} {name : String} {spec : Daemon.ContainerSpec}
  {trace : List (Exchange machine)} {result : Except Fault CheckResult} {b : Behaviour machine}

@[simp] theorem requests_nil : e.requests [] = [] := rfl

/-- What the daemon answers to the requests of a check, where each one is made after those before
it. -/
structure Answers where
  created : Except String Daemon.Reply
  started : Except String Daemon.Reply
  waited : Except String Daemon.Reply
  logged : Except String Daemon.Reply

/-- A reply came, and it is no refusal. -/
def Succeeds (reply : Except String Daemon.Reply) : Prop := ∃ body, replyBody reply = .ok body

namespace Answers

/-- What the answers let a check come to. -/
def outcome (a : Answers) : Except Fault CheckResult := do
  let _ ← (replyBody a.created).mapError (containerFault "Failed to create container")
  let _ ← (replyBody a.started).mapError (containerFault "Failed to start container")
  let status ← (replyBody a.waited).mapError (containerFault "Failed waiting for container")
  let exitCode ← exitCodeIn status
  let output ← (loggedText a.logged).mapError (containerFault "Failed to read logs")
  return { exitCode, output }

/-- What goes wrong first between the creation of a container and the reading of its log. -/
inductive FailsFirst (a : Answers) : String → Prop where
  | creation {error : DaemonError} (h : replyBody a.created = .error error) :
      FailsFirst a ("Failed to create container" ++ ": " ++ error.message)
  | start {error : DaemonError} (hcreated : Succeeds a.created)
      (h : replyBody a.started = .error error) :
      FailsFirst a ("Failed to start container" ++ ": " ++ error.message)
  | wait {error : DaemonError} (hcreated : Succeeds a.created) (hstarted : Succeeds a.started)
      (h : replyBody a.waited = .error error) :
      FailsFirst a ("Failed waiting for container" ++ ": " ++ error.message)
  | exit {body : List UInt8} {text : String} (hcreated : Succeeds a.created)
      (hstarted : Succeeds a.started) (hwaited : replyBody a.waited = .ok body)
      (huntold : ∀ code, ¬ TellsExit body code)
      (h : exitCodeIn body = .error (.executionFailed text)) : FailsFirst a text
  | log {body : List UInt8} {code : Int} {error : DaemonError} (hcreated : Succeeds a.created)
      (hstarted : Succeeds a.started) (hwaited : replyBody a.waited = .ok body)
      (htold : TellsExit body code) (h : loggedText a.logged = .error error) :
      FailsFirst a ("Failed to read logs" ++ ": " ++ error.message)

variable {a : Answers} {code : Int} {output text : String}

end Answers

/-- A machine whose daemon grants every request, tells a status for each container and has one line
in each log. -/
def telling (status : Char) : Behaviour machine
  | _, .daemon _ (.wait _) =>
    .ok ⟨200, Text.Utf8.encode ("\x7b\"StatusCode\":".toList ++ [status, '\x7d'])⟩
  | _, .daemon _ (.logs _) =>
    .ok ⟨200, Daemon.LogFrame.encode ⟨.stdout, Text.Utf8.encode "loaded\n".toList⟩⟩
  | _, .daemon _ _ => .ok ⟨200, []⟩
  | _, .web _ => none
  | _, .process _ _ _ => .ok ⟨[], .code 0⟩
  | _, .fileContent _ => .ok []
  | _, .pathExists _ | _, .isFile _ => true
  | _, .absolutePath path => .ok path
  | _, .makeDirectory _ | _, .writeFile _ _ | _, .restrictFile _ => .ok ()
  | _, .write _ | _, .writeError _ | _, .flush => .ok ()
  | _, .readLine => .ok "\n"
  | _, .now => .ofSeconds 0
  | _, .freshRunId => ⟨0⟩

end AirflowDeploy.Engine
