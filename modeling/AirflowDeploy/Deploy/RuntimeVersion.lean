import AirflowDeploy.Deploy.Outside
import AirflowDeploy.Dockerfile.Stage
import AirflowDeploy.Image.Reference
import AirflowDeploy.Text.Utf8
import AirflowDeploy.Version.Upgrade

/-!
# The runtime version of a deploy

Where the version comes from, whether the catalog and the deployment allow it, and whether a
newer one is there.
-/
namespace AirflowDeploy.Deploy

open Deploy.Action

def catalogVersions (catalog : List RuntimeRelease) : List String := catalog.map (·.version)

/-- Whether a tag names a runtime: the catalog lists it, or it is a plain release version. -/
def isRuntimeTag (catalog : List RuntimeRelease) (tag : String) : Bool :=
  (catalogVersions catalog).contains tag ||
    (Version.read? tag).any fun version => !version.isPreRelease

/-- The runtime tag of a Dockerfile's base image. -/
def runtimeTag? (catalog : List RuntimeRelease) (dockerfile : Dockerfile) : Option String :=
  (dockerfile.baseImage.map ImageReference.tag).filter (isRuntimeTag catalog)

/-- The Dockerfile in the content of a file. -/
def readDockerfile (path : String) (content : Except IoFault (List UInt8)) :
    Except DockerfileError Dockerfile :=
  match content with
  | .error cause => .error (.unreadable path cause)
  | .ok bytes =>
    match Text.Utf8.decode? bytes with
    | none => .error (.unreadable path .notText)
    | some cs => Dockerfile.parse (String.ofList cs)

def dockerfileRuntimeTag (ctx : BuildContext) (catalog : List RuntimeRelease) :
    Action (Option String) :=
  let path := ctx.dockerfilePath
  (runtimeTag? catalog) <$>
    expect (.dockerfileParse path) (readDockerfile path <$> ask (.fileContent path))

/-- The first candidate that is not blank, without the blanks around it. -/
def resolveRuntimeVersion (candidates : List (Option String)) : String :=
  (((candidates.filterMap id).map trimmed).find? fun version => !version.isEmpty).getD ""

/-- The catalog lists the candidate, and it is not older than what runs. -/
def checkRuntimeVersion (catalog : List RuntimeRelease) (current candidate : String) :
    Except DeployError Unit :=
  if !Version.isKnownTag (catalogVersions catalog) candidate then
    .error (.invalidRuntimeTag candidate)
  else if !Version.isUpgrade current candidate then .error (.invalidUpgrade current candidate)
  else .ok ()

/-- The newest stable release, where it is newer than a version. -/
def newerRelease? (catalog : List RuntimeRelease) (version : String) : Option String :=
  (Version.latestStable? (catalogVersions catalog)).filter fun latest =>
    match Version.read? latest, Version.read? version with
    | some latest, some current => latest.compare current == .gt
    | _, _ => false

def newerReleaseNotice? (catalog : List RuntimeRelease) (version : String) : Option String :=
  (newerRelease? catalog version).map fun latest =>
    "WARNING! You are deploying runtime version " ++ version ++ " but " ++ latest ++
      " is available. Consider upgrading the base image in your Dockerfile."

end AirflowDeploy.Deploy
