/-!
# Contexts

The credentials and defaults for one platform domain.
-/
namespace AirflowDeploy

structure Context where
  domain : String
  /-- Empty when logged out. -/
  token : String := ""
  /-- The default workspace. -/
  workspace : String := ""
  /-- The organization of the default workspace. -/
  organization : String := ""
  /-- System administrators see internal runtime releases. -/
  systemAdmin : Bool := false
  deriving DecidableEq, Repr, Inhabited

def Context.isAuthenticated (c : Context) : Bool := !c.token.isEmpty

end AirflowDeploy
