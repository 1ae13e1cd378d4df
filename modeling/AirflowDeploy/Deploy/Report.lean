import AirflowDeploy.Json.Printer

/-!
# Deploy reports

What a successful deploy produced, as JSON and as lines for a reader.
-/
namespace AirflowDeploy.Deploy

structure Report where
  deploymentId : String
  releaseName : String
  runtimeVersion : String
  repository : String
  tag : String
  imageId : String
  dashboardUrl : String
  /-- Empty when the platform told none. -/
  airflowUrl : String
  deriving DecidableEq, Repr, Inhabited

namespace Report

open Json

def toJson (r : Report) : Json :=
  record [("deploymentId", text r.deploymentId), ("releaseName", text r.releaseName),
    ("runtimeVersion", text r.runtimeVersion), ("repository", text r.repository),
    ("tag", text r.tag), ("imageId", text r.imageId), ("dashboardUrl", text r.dashboardUrl),
    ("airflowUrl", text r.airflowUrl)]

def lines (r : Report) : List String :=
  ["Successfully pushed image " ++ r.repository ++ ":" ++ r.tag,
    "Deployed " ++ r.releaseName ++ " (" ++ r.deploymentId ++ ") on runtime " ++ r.runtimeVersion,
    "Deployment can be accessed at the following URLs:",
    " Deployment Dashboard: " ++ r.dashboardUrl] ++
    (if r.airflowUrl.isEmpty then [] else [" Airflow Dashboard: " ++ r.airflowUrl])

/-- The lines that are printed, in the one form or the other. -/
def printed (json : Bool) (r : Report) : List String :=
  if json then [r.toJson.pretty] else r.lines

end Report

end AirflowDeploy.Deploy
