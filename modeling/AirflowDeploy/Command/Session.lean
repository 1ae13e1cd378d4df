import AirflowDeploy.Command.Failure
import AirflowDeploy.Config.Storage
import AirflowDeploy.Deploy.Outside
import AirflowDeploy.Engine.Check
import AirflowDeploy.Engine.Image
import AirflowDeploy.Platform.Client

/-!
# Sessions

What the commands share: the stored configuration, the current context, the client of its
platform, and how the questions of a deploy are answered by the platform, the engine and the
machine.
-/
namespace AirflowDeploy.Command

open Machine

/-- A command that is carried out on the machine. -/
abbrev Action := ExceptT CommandFailure (Dialogue machine)

/-- Goes on with an answer, where its failure becomes the cause of the command's failure. -/
def because (cause : ε → CommandCause) (d : Dialogue machine (Except ε α)) : Action α :=
  expect (fun e => ⟨[], cause e⟩) d

def sayLine (text : String) : Action Unit := because .output (ask (.write (text ++ "\n")))

def sayLines : List String → Action Unit
  | [] => pure ()
  | line :: rest => do
    sayLine line
    sayLines rest

def configFile (environment : Environment) : Except CommandFailure String :=
  (GlobalConfig.file environment).mapError fun e => ⟨[], .config e⟩

def loadConfig (environment : Environment) : Action GlobalConfig := do
  let path ← configFile environment
  because .config (GlobalConfig.load path).run

/-- The current context, if it has a token. -/
def authenticatedContext (config : GlobalConfig) : Except CommandFailure Context :=
  match config.current?.filter (·.isAuthenticated) with
  | some context => .ok context
  | none => .error ⟨[], .deploy .noContextSet⟩

/-- The client of a context's platform. -/
def clientFor (context : Context) : Except CommandFailure Client :=
  (Client.ofDomain context.domain context.token).mapError fun e =>
    (CommandFailure.mk [] (.client e)).within ("invalid platform domain: " ++ context.domain)

/-- Everything that answers the questions of a deploy. Commands that only use the platform leave
the engine as it is. -/
structure Services where
  client : Client
  engine : Engine := { socket := Engine.defaultSocket }
  environment : Environment

/-- How a question of a deploy is answered. -/
def Services.answer (s : Services) : (q : Deploy.Query) → Dialogue machine q.Answer
  | .listWorkspaces => s.client.listWorkspaces
  | .listDeployments workspaceId => s.client.listDeployments workspaceId
  | .listPublicReleases => s.client.listPublicReleases
  | .listInternalReleases => s.client.listInternalReleases
  | .createImage creation => s.client.createImage creation
  | .deployImage rollout => s.client.deployImage rollout
  | .selectImage _ => pure ()
  | .build image ctx => s.engine.build image ctx
  | .tagLocal image source => (s.engine.tagLocal image source).run
  | .label image key => s.engine.label image key
  | .push image auth repository tag => (s.engine.push image auth repository tag).run
  | .prepareChecks ctx => (Engine.prepareChecks s.environment ctx).run
  | .parse setup image => (s.engine.parse setup image).run
  | .pytest setup file image => (s.engine.pytest setup file image).run
  | .write text => ask (.write text)
  | .flush => ask .flush
  | .readLine => ask .readLine
  | .fileContent path => ask (.fileContent path)
  | .now => ask .now
  | .enter _ _ => pure ()

/-- Carries a part of a deploy out. -/
def Services.perform (s : Services) (d : Dialogue Deploy.outside α) : Dialogue machine α :=
  d.through s.answer

end AirflowDeploy.Command
