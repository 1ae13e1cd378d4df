import AirflowDeploy.Config.Context
import AirflowDeploy.Config.Document
import AirflowDeploy.Files.Path

/-!
# The global configuration

One context for each platform domain, and the name of the current one.
-/
namespace AirflowDeploy

structure GlobalConfig where
  currentContext : Option String := none
  contexts : List Context := []
  deriving DecidableEq, Repr, Inhabited

namespace GlobalConfig

def hasContext (c : GlobalConfig) (domain : String) : Bool :=
  c.contexts.any fun context => context.domain == domain

/-- One setting of a context. A text that is missing is empty. -/
def readSetting (context : Context) (node : Kdl.Node) : Except ConfigError Context :=
  match node.name with
  | "token" => .ok { context with token := node.text?.getD "" }
  | "workspace" => .ok { context with workspace := node.text?.getD "" }
  | "organization" => .ok { context with organization := node.text?.getD "" }
  | "system-admin" =>
    match node.bool? with
    | some value => .ok { context with systemAdmin := value }
    | none => .error (.invalidValue "system-admin" "expected #true or #false")
  | _ => .ok context

def readContext (node : Kdl.Node) : Except ConfigError Context :=
  match node.text? with
  | some domain => node.children.foldlM readSetting { domain := domain }
  | none => .error (.missingField "context domain")

/-- One node of the document. Unknown ones are passed over. -/
def readNode (c : GlobalConfig) (node : Kdl.Node) : Except ConfigError GlobalConfig :=
  match node.name with
  | "current-context" => .ok { c with currentContext := node.text? }
  | "context" => do
    let context ← readContext node
    if c.hasContext context.domain then throw (.duplicate ("context '" ++ context.domain ++ "'"))
    return { c with contexts := c.contexts ++ [context] }
  | _ => .ok c

/-- The current context has to be there. -/
def checkCurrent (c : GlobalConfig) : Except ConfigError GlobalConfig :=
  match c.currentContext with
  | none => .ok c
  | some current =>
    if c.hasContext current then .ok c
    else .error (.invalidValue "current-context" ("no context named '" ++ current ++ "'"))

def ofDocument (document : Kdl.Document) : Except ConfigError GlobalConfig := do
  checkCurrent (← document.foldlM readNode {})

def parse (text : String) : Except ConfigError GlobalConfig := do
  ofDocument (← Config.readDocument text)

/-- The configuration in the content of a file. -/
def ofContent (path : String) (content : Except IoFault (List UInt8)) :
    Except ConfigError GlobalConfig := do
  match ← Config.contentText path content with
  | some text => parse text
  | none => return {}

def contextNode (c : Context) : Kdl.Node :=
  .ofValue "context" (.string c.domain)
    [.ofText "token" c.token, .ofText "workspace" c.workspace,
      .ofText "organization" c.organization, .ofBool "system-admin" c.systemAdmin]

def toDocument (c : GlobalConfig) : Kdl.Document :=
  (c.currentContext.toList.map fun current => Kdl.Node.ofText "current-context" current) ++
    c.contexts.map contextNode

def render (c : GlobalConfig) : String := Kdl.render c.toDocument

def find? (c : GlobalConfig) (domain : String) : Option Context :=
  c.contexts.find? fun context => context.domain == domain

def current? (c : GlobalConfig) : Option Context := c.currentContext.bind c.find?

/-- Changes the first element with a property. -/
def updateFirst (p : Context → Bool) (f : Context → Context) : List Context → List Context
  | [] => []
  | context :: rest => if p context then f context :: rest else context :: updateFirst p f rest

/-- Changes the current context, if there is one. -/
def editCurrent (c : GlobalConfig) (f : Context → Context) : GlobalConfig :=
  match c.currentContext with
  | none => c
  | some current =>
    { c with contexts := updateFirst (fun context => context.domain == current) f c.contexts }

/-- Puts a context in the place of the one for its domain, or at the end, and makes it current. -/
def setCurrent (c : GlobalConfig) (context : Context) : GlobalConfig where
  currentContext := some context.domain
  contexts :=
    if c.hasContext context.domain then
      updateFirst (fun other => other.domain == context.domain) (fun _ => context) c.contexts
    else c.contexts ++ [context]

/-- The variable that names the directory of the configuration. -/
def homeVariable : String := "DAGSHIP_HOME"

/-- The directory of the configuration: the one that the variable names, or else a hidden one in
the user's home directory. -/
def directory (configured userHome : Option String) : Except ConfigError String :=
  match configured.filter (!·.isEmpty) with
  | some directory => .ok directory
  | none =>
    match userHome.filter (!·.isEmpty) with
    | some home => .ok (Path.join home ".dagship")
    | none => .error .noHomeDirectory

def fileIn (directory : String) : String := Path.join directory "config.kdl"

end GlobalConfig

end AirflowDeploy
