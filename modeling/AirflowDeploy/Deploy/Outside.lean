import AirflowDeploy.Check.Setup
import AirflowDeploy.Deploy.Error
import AirflowDeploy.Deploy.State
import AirflowDeploy.Dialogue
import AirflowDeploy.Image.BuildContext
import AirflowDeploy.Image.RegistryAuth
import AirflowDeploy.Platform.Record

/-!
# The world outside of a deploy

Every question that a deploy asks: of the platform, of the container engine, of the user, of the
file system and of the clock. Changes of state are told to the outside as well.
-/
namespace AirflowDeploy.Deploy

inductive Query where
  | listWorkspaces
  | listDeployments (workspaceId : String)
  | listPublicReleases
  | listInternalReleases
  | createImage (creation : ImageCreation)
  | deployImage (rollout : ImageRollout)
  /-- Names the local image that the following image operations are about. -/
  | selectImage (image : String)
  | build (image : String) (ctx : BuildContext)
  /-- Tags an existing local image as `image`. -/
  | tagLocal (image source : String)
  /-- A label of the image, empty where it is absent. -/
  | label (image key : String)
  /-- Tags the image as `repository:tag` and uploads it. -/
  | push (image : String) (auth : RegistryAuth) (repository tag : String)
  | prepareChecks (ctx : BuildContext)
  | parse (setup : Check.Setup) (image : String)
  /-- The output of the tests, whatever their outcome. -/
  | pytest (setup : Check.Setup) (file : Option String) (image : String)
  | write (text : String)
  | flush
  | readLine
  | fileContent (path : String)
  | now
  | enter (state : State) (deploymentId : String)
  deriving DecidableEq, Repr

def Query.Answer : Query → Type
  | .listWorkspaces => Except Fault (List Workspace)
  | .listDeployments _ => Except Fault (List Deployment)
  | .listPublicReleases | .listInternalReleases => Except Fault (List RuntimeRelease)
  | .createImage _ | .deployImage _ => Except Fault Image
  | .selectImage _ => Unit
  | .build _ _ | .tagLocal _ _ | .push _ _ _ _ | .parse _ _ => Except Fault Unit
  | .label _ _ | .pytest _ _ _ => Except Fault String
  | .prepareChecks _ => Except Fault Check.Setup
  | .write _ | .flush => Except IoFault Unit
  | .readLine => Except IoFault String
  | .fileContent _ => Except IoFault (List UInt8)
  | .now => Instant
  | .enter _ _ => Unit

abbrev outside : Interface := ⟨Query, Query.Answer⟩

/-- A part of a deploy, which may fail. -/
abbrev Action := ExceptT DeployError (Dialogue outside)

namespace Action

def ask (q : Query) : Dialogue outside q.Answer := Dialogue.query (I := outside) q

/-- Goes on with an answer, where its failure is told as an error of the deploy. -/
def expect (f : ε → DeployError) (d : Dialogue outside (Except ε α)) : Action α :=
  ExceptT.mk ((fun answer => answer.mapError f) <$> d)

/-- An operation of the platform or the engine, whose fault is told with its name. -/
def step (operation : String) (d : Dialogue outside (Except Fault α)) : Action α :=
  expect (.step operation) d

/-- Output, where an empty text needs no write. -/
def say (text : String) : Action Unit :=
  if text.isEmpty then pure () else expect .output (ask (.write text))

def sayLine (text : String) : Action Unit := say (text ++ "\n")

def sayLines : List String → Action Unit
  | [] => pure ()
  | line :: rest => do
    sayLine line
    sayLines rest

def flush : Action Unit := expect .output (ask .flush)

/-- Tells that a state is reached. -/
def enter (state : State) (deploymentId : String) : Action Unit :=
  ExceptT.lift (ask (.enter state deploymentId))

end Action

end AirflowDeploy.Deploy
