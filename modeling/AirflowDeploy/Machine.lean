import AirflowDeploy.Build.Process
import AirflowDeploy.Daemon.Message
import AirflowDeploy.Dialogue
import AirflowDeploy.Http.Message
import AirflowDeploy.RunId
import AirflowDeploy.Time.Instant

/-!
# The machine and the network

Everything that the program asks of the machine it runs on: web requests, the container daemon,
processes, files, streams, the clock and fresh identifiers.
-/
namespace AirflowDeploy

/-- The values of the environment variables. -/
abbrev Environment := String → Option String

namespace Machine

inductive Query where
  /-- Answered with nothing where no reply comes. -/
  | web (request : Http.Request)
  /-- A request of the daemon that listens on a socket. -/
  | daemon (socket : String) (request : Daemon.Request)
  /-- Runs a program in a directory. -/
  | process (program directory : String) (arguments : List String)
  | fileContent (path : String)
  | pathExists (path : String)
  | isFile (path : String)
  | absolutePath (path : String)
  /-- Makes a directory and those above it. -/
  | makeDirectory (path : String)
  | writeFile (path content : String)
  /-- Lets nobody but the owner read or write a file. -/
  | restrictFile (path : String)
  | write (text : String)
  | writeError (text : String)
  | flush
  | readLine
  | now
  | freshRunId

def Query.Answer : Query → Type
  | .web _ => Option Http.Reply
  | .daemon _ _ => Except String Daemon.Reply
  | .process _ _ _ => Except IoFault Build.Run
  | .fileContent _ => Except IoFault (List UInt8)
  | .pathExists _ | .isFile _ => Bool
  | .absolutePath _ => Except IoFault String
  | .makeDirectory _ | .writeFile _ _ | .restrictFile _ => Except IoFault Unit
  | .write _ | .writeError _ | .flush => Except IoFault Unit
  | .readLine => Except IoFault String
  | .now => Instant
  | .freshRunId => RunId

end Machine

abbrev machine : Interface := ⟨Machine.Query, Machine.Query.Answer⟩

namespace Machine

/-- Something that is asked of the machine, which may fail. -/
abbrev Action (ε : Type) := ExceptT ε (Dialogue machine)

def ask (q : Query) : Dialogue machine q.Answer := Dialogue.query (I := machine) q

def pathExists (path : String) : Dialogue machine Bool := ask (.pathExists path)

def isFile (path : String) : Dialogue machine Bool := ask (.isFile path)

def freshRunId : Dialogue machine RunId := ask .freshRunId

/-- Goes on with an answer, where its failure is told as another one. -/
def expect (f : δ → ε) (d : Dialogue machine (Except δ α)) : Action ε α :=
  ExceptT.mk ((fun answer => answer.mapError f) <$> d)

end Machine

end AirflowDeploy
