import AirflowDeploy.Deploy.RuntimeVersion

/-!
# The image of a deploy

A local image is tagged, or a new one is built. The runtime version is checked before a build,
and again when the built image is labelled with another one.
-/
namespace AirflowDeploy.Deploy

open Deploy.Action

/-- The label that carries the runtime version of an image. -/
def runtimeLabel : String := "io.dagship.runtime.version"

structure ImageRequest where
  ctx : BuildContext
  /-- A local image to tag in place of a build. -/
  source : Option String
  /-- A version that wins over every detected one. -/
  override : Option String
  /-- The version that the deployment runs. -/
  currentVersion : String
  catalog : List RuntimeRelease

/-- The label in an answer where the image may not exist. -/
def labelIfAny : Except Fault String → Except Fault String
  | .error (.notFound _) => .ok ""
  | answer => answer

/-- The label of an image that may not exist. -/
def existingLabel (image : String) : Action String :=
  step "inspect image" (labelIfAny <$> ask (.label image runtimeLabel))

def readLabel (image : String) : Action String :=
  step "inspect image" (ask (.label image runtimeLabel))

/-- The version to deploy: the override, then what the image or the Dockerfile says, then the
label of the image built before, then the version that runs. -/
def candidateVersion (r : ImageRequest) : Action String := do
  match r.source with
  | some source =>
    step "tag local image" (ask (.tagLocal r.ctx.image source))
    let label ← readLabel r.ctx.image
    return resolveRuntimeVersion [r.override, some label, some r.currentVersion]
  | none =>
    let tag ← dockerfileRuntimeTag r.ctx r.catalog
    let previous ← match tag with
      | some _ => pure ""
      | none => existingLabel r.ctx.image
    return resolveRuntimeVersion [r.override, tag, some previous, some r.currentVersion]

/-- Builds the image and gives the version that it is labelled with. -/
def buildFor (r : ImageRequest) (version : String) : Action String := do
  sayLine ("Building image " ++ r.ctx.image ++ "...")
  step "build image" (ask (.build r.ctx.image { r.ctx with runtimeTag := version }))
  let label ← readLabel r.ctx.image
  if label.isEmpty || label == version then return version
  checkRuntimeVersion r.catalog r.currentVersion label
  return label

/-- Produces the image and gives the runtime version that it was checked against. -/
def produceImage (r : ImageRequest) : Action String := do
  let version ← candidateVersion r
  checkRuntimeVersion r.catalog r.currentVersion version
  match newerReleaseNotice? r.catalog version with
  | some notice => sayLine notice
  | none => pure ()
  if r.source.isSome then return version
  buildFor r version

end AirflowDeploy.Deploy
