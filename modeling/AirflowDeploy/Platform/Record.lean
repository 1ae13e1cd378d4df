import AirflowDeploy.Json.Fields
import AirflowDeploy.Time.Instant

/-!
# Platform records

What the platform tells about workspaces, deployments, runtime releases and images, and what it
is told about new images, each with its form in JSON.
-/
namespace AirflowDeploy

structure Workspace where
  id : String
  label : String
  organizationId : String
  deriving DecidableEq, Repr, Inhabited

/-- A published runtime and the Airflow version in it. -/
structure RuntimeRelease where
  version : String
  airflowVersion : String
  deriving DecidableEq, Repr, Inhabited

structure Deployment where
  id : String
  label : String
  releaseName : String
  workspaceId : String
  runtimeRelease : RuntimeRelease
  webserverUrl : String
  createdAt : Option Instant
  deriving DecidableEq, Repr, Inhabited

/-- An image that the platform knows. -/
structure Image where
  id : String
  deploymentId : String
  tag : String
  repository : String
  deriving DecidableEq, Repr, Inhabited

/-- A request to register an image for a deployment. -/
structure ImageCreation where
  deploymentId : String
  tag : String
  deriving DecidableEq, Repr, Inhabited

/-- A request to move a deployment onto a registered image. -/
structure ImageRollout where
  imageId : String
  tag : String
  repository : String
  deriving DecidableEq, Repr, Inhabited

open Json

namespace Workspace

def toJson (w : Workspace) : Json :=
  record [("id", text w.id), ("label", text w.label), ("organizationId", text w.organizationId)]

def ofJson? (j : Json) : Option Workspace := do
  match ← j.fields? ["id", "label", "organizationId"] with
  | [id, label, organizationId] =>
    return {
      id := ← required? text? id
      label := ← withDefault? "" text? label
      organizationId := ← withDefault? "" text? organizationId }
  | _ => none

end Workspace

namespace RuntimeRelease

def toJson (r : RuntimeRelease) : Json :=
  record [("version", text r.version), ("airflowVersion", text r.airflowVersion)]

def ofJson? (j : Json) : Option RuntimeRelease := do
  match ← j.fields? ["version", "airflowVersion"] with
  | [version, airflowVersion] =>
    return {
      version := ← required? text? version
      airflowVersion := ← withDefault? "" text? airflowVersion }
  | _ => none

end RuntimeRelease

def Instant.ofJson? (j : Json) : Option Instant := j.text?.bind fun s => Instant.parse? s.toList

namespace Deployment

/-- The runtime version that the deployment runs now. -/
def currentVersion (d : Deployment) : String := d.runtimeRelease.version

def toJson (d : Deployment) : Json :=
  record [("id", text d.id), ("label", text d.label), ("releaseName", text d.releaseName),
    ("workspaceId", text d.workspaceId), ("runtimeRelease", d.runtimeRelease.toJson),
    ("webserverUrl", text d.webserverUrl), ("createdAt", orNull (text ·.render) d.createdAt)]

def ofJson? (j : Json) : Option Deployment := do
  match ← j.fields? ["id", "label", "releaseName", "workspaceId", "runtimeRelease",
      "webserverUrl", "createdAt"] with
  | [id, label, releaseName, workspaceId, runtimeRelease, webserverUrl, createdAt] =>
    return {
      id := ← required? text? id
      label := ← withDefault? "" text? label
      releaseName := ← required? text? releaseName
      workspaceId := ← withDefault? "" text? workspaceId
      runtimeRelease := ← required? RuntimeRelease.ofJson? runtimeRelease
      webserverUrl := ← withDefault? "" text? webserverUrl
      createdAt := ← withDefault? none (nullable? Instant.ofJson?) createdAt }
  | _ => none

end Deployment

namespace Image

def toJson (i : Image) : Json :=
  record [("id", text i.id), ("deploymentId", text i.deploymentId), ("tag", text i.tag),
    ("repository", text i.repository)]

def ofJson? (j : Json) : Option Image := do
  match ← j.fields? ["id", "deploymentId", "tag", "repository"] with
  | [id, deploymentId, tag, repository] =>
    return {
      id := ← required? text? id
      deploymentId := ← withDefault? "" text? deploymentId
      tag := ← withDefault? "" text? tag
      repository := ← withDefault? "" text? repository }
  | _ => none

end Image

namespace ImageCreation

def toJson (i : ImageCreation) : Json :=
  record [("deploymentId", text i.deploymentId), ("tag", text i.tag)]

def ofJson? (j : Json) : Option ImageCreation := do
  match ← j.fields? ["deploymentId", "tag"] with
  | [deploymentId, tag] =>
    return { deploymentId := ← required? text? deploymentId, tag := ← required? text? tag }
  | _ => none

end ImageCreation

namespace ImageRollout

def toJson (i : ImageRollout) : Json :=
  record [("imageId", text i.imageId), ("tag", text i.tag), ("repository", text i.repository)]

def ofJson? (j : Json) : Option ImageRollout := do
  match ← j.fields? ["imageId", "tag", "repository"] with
  | [imageId, tag, repository] =>
    return {
      imageId := ← required? text? imageId
      tag := ← required? text? tag
      repository := ← required? text? repository }
  | _ => none

end ImageRollout

end AirflowDeploy
