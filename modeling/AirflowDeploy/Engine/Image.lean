import AirflowDeploy.Daemon.Progress
import AirflowDeploy.Engine.Basic
import AirflowDeploy.Image.BuildContext
import AirflowDeploy.Image.Reference

/-!
# Images of the engine

Building, tagging, inspecting and pushing one local image.
-/
namespace AirflowDeploy.Engine

open Machine

/-- Builds an image in the project directory. -/
def build (e : Engine) (image : String) (ctx : BuildContext) :
    Dialogue machine (Except Fault Unit) :=
  Build.outcome e.program <$> ask (.process e.program ctx.projectDir (ctx.arguments image))

def tagFault (source : String) : DaemonError → Fault
  | .refused 404 _ => .notFound ("image " ++ source)
  | error => .unexpected ("failed to tag " ++ source ++ ": " ++ error.message)

/-- Tags a local image as `image`. -/
def tagLocal (e : Engine) (image source : String) : Action Fault Unit := do
  let (repository, tag) := ImageReference.split image
  let _ ← expect (tagFault source) (e.request (.tag source repository tag))

def inspectFault (image : String) : DaemonError → Fault
  | .refused 404 text => .notFound ("image " ++ image ++ ": " ++ text)
  | error => .unexpected ("failed to inspect " ++ image ++ ": " ++ error.message)

/-- The members of an object, none of which may be missing a text as its name. -/
def namedMembers? : Json → Option (List (String × Json))
  | .object members => members.mapM fun member => member.1.map (·, member.2)
  | _ => none

/-- The labels in the description of an image. -/
def labels? (description : Json) : Option (List (String × String)) :=
  let below (name : String) (members : List (String × Json)) : Option (List (String × Json)) :=
    match members.lookup name with
    | none | some .null => some []
    | some j => namedMembers? j
  ((namedMembers? description).bind (below "Config")).bind (below "Labels") |>.bind fun labels =>
    labels.mapM fun label => label.2.text?.map (label.1, ·)

/-- The value of a label in the description of an image, empty where it is absent. -/
def labelIn (key : String) (body : List UInt8) : Except DaemonError String :=
  match (Json.readBytes? body).bind labels? with
  | some labels => .ok ((labels.reverse.lookup key).getD "")
  | none => .error .malformed

/-- A label of an image. -/
def label (e : Engine) (image key : String) : Dialogue machine (Except Fault String) :=
  (fun body => (body.bind (labelIn key)).mapError (inspectFault image)) <$>
    e.request (.inspect image)

/-- The failure that a message on an upload tells. -/
def uploadFailure? : Except DaemonError Daemon.Progress → Option String
  | .error e => some e.message
  | .ok progress => progress.error

/-- An upload has succeeded when none of its messages tells a failure. -/
def uploadOutcome (stream : Daemon.ProgressStream) : Except Fault Unit :=
  match stream.findSome? uploadFailure? with
  | some text => .error (.pushFailed text)
  | none => .ok ()

/-- Tags an image as `repository:tag` and uploads it, where `receive` makes messages of the answer
to the upload. -/
def pushReceiving (receive : Except DaemonError (List UInt8) → Daemon.ProgressStream) (e : Engine)
    (image : String) (auth : RegistryAuth) (repository tag : String) : Action Fault Unit := do
  let target := repository ++ ":" ++ tag
  let _ ← expect
    (fun error => .pushFailed
      ("failed to tag " ++ image ++ " as " ++ target ++ ": " ++ error.message))
    (e.request (.tag image repository tag))
  ExceptT.mk ((fun answer => uploadOutcome (receive answer)) <$>
    e.request (.push repository tag auth))

/-- Tags an image as `repository:tag` and uploads it. -/
def push (e : Engine) (image : String) (auth : RegistryAuth) (repository tag : String) :
    Action Fault Unit :=
  pushReceiving Daemon.progressStream e image auth repository tag

end AirflowDeploy.Engine
