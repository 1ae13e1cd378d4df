import AirflowDeploy.Config.Document
import AirflowDeploy.Files.Path

/-!
# Project configurations

The deploy defaults of one project. Each may be given once.
-/
namespace AirflowDeploy

structure ProjectConfig where
  deployment : Option String := none
  dockerfile : Option String := none
  envFile : Option String := none
  deriving DecidableEq, Repr, Inhabited

namespace ProjectConfig

/-- A setting that is not yet given. -/
def readText (node : Kdl.Node) (known : Option String) : Except ConfigError (Option String) :=
  match node.text? with
  | none => .error (.invalidValue node.name "expected a string argument")
  | some text => if known.isSome then .error (.duplicate node.name) else .ok (some text)

/-- One node of the document. Unknown ones are passed over. -/
def readNode (c : ProjectConfig) (node : Kdl.Node) : Except ConfigError ProjectConfig :=
  match node.name with
  | "deployment" => (readText node c.deployment).map fun text => { c with deployment := text }
  | "dockerfile" => (readText node c.dockerfile).map fun text => { c with dockerfile := text }
  | "env-file" => (readText node c.envFile).map fun text => { c with envFile := text }
  | _ => .ok c

def parse (text : String) : Except ConfigError ProjectConfig := do
  (← Config.readDocument text).foldlM readNode {}

def fileIn (projectDir : String) : String := Path.join projectDir ".dagship/config.kdl"

/-- The configuration in the content of a file. -/
def ofContent (path : String) (content : Except IoFault (List UInt8)) :
    Except ConfigError ProjectConfig := do
  match ← Config.contentText path content with
  | some text => parse text
  | none => return {}

end ProjectConfig

end AirflowDeploy
