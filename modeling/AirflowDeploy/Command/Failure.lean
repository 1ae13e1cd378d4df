import AirflowDeploy.Config.Error
import AirflowDeploy.Deploy.Error
import AirflowDeploy.Platform.ClientError

/-!
# Failures of commands

Why a command failed and what it was doing, with the text for the user and the exit code.
-/
namespace AirflowDeploy

inductive CommandCause where
  | deploy (error : DeployError)
  | config (error : ConfigError)
  | client (error : ClientError)
  | fault (fault : Fault)
  | output (cause : IoFault)
  | other (text : String)
  deriving DecidableEq, Repr

namespace CommandCause

def message : CommandCause → String
  | .deploy error => error.message
  | .config error => error.message
  | .client error => error.message
  | .fault f => f.message
  | .output cause => cause.message
  | .other text => text

/-- The texts of the causes below the message, outermost first. -/
def causes : CommandCause → List String
  | .deploy error => error.causes
  | .config error => error.causes
  | .client error => error.causes
  | _ => []

/-- A configuration that cannot be used counts as a missing precondition. -/
def exitCode : CommandCause → Nat
  | .deploy error => error.exitCode
  | .config _ => ErrorClass.precondition.exitCode
  | .fault f => f.errorClass.exitCode
  | .client _ | .output _ | .other _ => ErrorClass.other.exitCode

end CommandCause

structure CommandFailure where
  /-- What was being done, outermost first. -/
  during : List String := []
  cause : CommandCause
  deriving DecidableEq, Repr

namespace CommandFailure

def within (activity : String) (f : CommandFailure) : CommandFailure :=
  { f with during := activity :: f.during }

/-- The texts from the outermost activity down to the innermost cause. -/
def texts (f : CommandFailure) : List String := f.during ++ f.cause.message :: f.cause.causes

/-- The outermost text. -/
def top (f : CommandFailure) : String := f.during.head?.getD f.cause.message

def message (f : CommandFailure) : String := String.intercalate ": " f.texts

/-- What the user reads. The message of a failed deploy tells its cause already. -/
def shown (f : CommandFailure) : String :=
  match f.cause with
  | .deploy _ => f.top
  | _ => f.message

def exitCode (f : CommandFailure) : Nat := f.cause.exitCode

end CommandFailure

end AirflowDeploy
