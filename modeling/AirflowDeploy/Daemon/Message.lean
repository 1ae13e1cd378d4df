import AirflowDeploy.Image.RegistryAuth

/-!
# Messages of the container daemon

The requests that the program makes of the local daemon, and its replies.
-/
namespace AirflowDeploy.Daemon

/-- What a container is made with. -/
structure ContainerSpec where
  image : String
  command : List String
  /-- Assignments `KEY=value`. -/
  env : List String
  workingDir : String
  /-- Mounted directories, as `host:container:mode`. -/
  binds : List String
  deriving DecidableEq, Repr

inductive Request where
  | ping
  | tag (source repository tag : String)
  | inspect (image : String)
  | push (repository tag : String) (auth : RegistryAuth)
  | create (name : String) (spec : ContainerSpec)
  | start (name : String)
  /-- Answered when the container does not run any more. -/
  | wait (name : String)
  /-- Everything that the container has written. -/
  | logs (name : String)
  /-- Removed even while it runs. -/
  | remove (name : String)
  deriving DecidableEq, Repr

structure Reply where
  status : Nat
  body : List UInt8
  deriving DecidableEq, Repr

namespace Reply

def isSuccess (r : Reply) : Bool := (200 ≤ r.status && r.status < 300) || r.status == 304

end Reply

end AirflowDeploy.Daemon
