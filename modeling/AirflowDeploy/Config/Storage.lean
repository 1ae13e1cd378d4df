import AirflowDeploy.Config.Global
import AirflowDeploy.Config.Project
import AirflowDeploy.Machine

/-!
# Stored configurations

Loading and saving configuration files. The global configuration holds tokens, so that nobody but
its owner may read it.
-/
namespace AirflowDeploy

open Machine

namespace GlobalConfig

/-- The file of the global configuration. -/
def file (environment : Environment) : Except ConfigError String :=
  (directory (environment homeVariable) (environment "HOME")).map fileIn

def load (path : String) : Action ConfigError GlobalConfig :=
  ExceptT.mk (ofContent path <$> ask (.fileContent path))

/-- Saves the configuration, with the directory that it is in. -/
def save (c : GlobalConfig) (path : String) : Action ConfigError Unit := do
  match Path.parent? path with
  | some dir => expect (.inaccessible path) (ask (.makeDirectory dir))
  | none => pure ()
  expect (.inaccessible path) (ask (.writeFile path c.render))
  expect (.inaccessible path) (ask (.restrictFile path))

end GlobalConfig

/-- The configuration of the project in a directory. -/
def ProjectConfig.load (projectDir : String) : Action ConfigError ProjectConfig :=
  let path := fileIn projectDir
  ExceptT.mk (ofContent path <$> ask (.fileContent path))

end AirflowDeploy
