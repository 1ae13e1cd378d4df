import AirflowDeploy.Files.Path

/-!
# Build contexts

The local inputs of one image: the project directory, the Dockerfile in it, the environment file
for checks and the runtime version to build for.
-/
namespace AirflowDeploy

structure BuildContext where
  projectDir : String
  dockerfile : String
  envFile : Option String
  runtimeTag : String
  image : String
  deriving DecidableEq, Repr, Inhabited

namespace BuildContext

def defaultDockerfile : String := "Dockerfile"

def dockerfilePath (ctx : BuildContext) : String := Path.join ctx.projectDir ctx.dockerfile

/-- The platforms that the remote runtime accepts. -/
def platforms : String := "linux/amd64"

/-- Arguments of the build command. The runtime version is passed on when it is known. -/
def arguments (ctx : BuildContext) (image : String) : List String :=
  ["build", "--platform", platforms, "-t", image, "-f", ctx.dockerfilePath] ++
    (if ctx.runtimeTag.isEmpty then [] else ["--build-arg", "RUNTIME_VERSION=" ++ ctx.runtimeTag]) ++
    [ctx.projectDir]

end BuildContext

end AirflowDeploy
