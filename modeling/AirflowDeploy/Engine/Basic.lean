import AirflowDeploy.Daemon.Error
import AirflowDeploy.Fault
import AirflowDeploy.Machine
import AirflowDeploy.Text.Cut

/-!
# The container engine

A local daemon, reached through a socket, and a program for builds.
-/
namespace AirflowDeploy

structure Engine where
  socket : String
  /-- The program that builds images. -/
  program : String := "docker"
  deriving DecidableEq, Repr

namespace Engine

/-- The variable that names the socket. -/
def socketVariable : String := "DOCKER_HOST"

def socketScheme : List Char := "unix://".toList

def defaultSocket : String := "/var/run/docker.sock"

/-- The socket that the variable names, or else the default one. -/
def socketOf (configured : Option String) : String :=
  match configured.bind fun address => Text.afterPrefix? socketScheme address.toList with
  | some path => String.ofList path
  | none => defaultSocket

/-- The engine behind the socket, which has to be there. -/
def connect (configured : Option String) : Machine.Action Fault Engine := do
  let socket := socketOf configured
  if ← Machine.pathExists socket then return { socket }
  else throw (.unexpected ("Socket not found: " ++ socket))

/-- The body of the daemon's reply to a request. -/
def request (e : Engine) (r : Daemon.Request) :
    Dialogue machine (Except DaemonError (List UInt8)) :=
  (fun reply => (reply.mapError .unreachable).bind DaemonError.bodyOf) <$>
    Machine.ask (.daemon e.socket r)

/-- Whether the daemon answers. -/
def ping (e : Engine) : Dialogue machine Bool := Except.isOk <$> e.request .ping

end Engine

end AirflowDeploy
