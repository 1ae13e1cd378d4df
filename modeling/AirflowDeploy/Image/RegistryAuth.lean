/-!
# Registry login

The credentials for the registry that images are pushed to.
-/
namespace AirflowDeploy

structure RegistryAuth where
  registry : String
  username : String
  token : String
  deriving DecidableEq, Repr, Inhabited

end AirflowDeploy
