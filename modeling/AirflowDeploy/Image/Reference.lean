import AirflowDeploy.Files.Path

/-!
# Image references

A reference is a repository, an optional tag after the last colon and an optional digest after
an at sign. A colon counts only in the last part of the path, because a registry may have a port.
-/
namespace AirflowDeploy.ImageReference

open Text

def isColon (c : Char) : Bool := c == ':'

/-- Repository and tag of a reference without regard to digests. -/
def cutTag (cs : List Char) : List Char × Option (List Char) :=
  let (dirs, name) := cutLast Path.isSlash cs
  match cutLast isColon name with
  | (none, _) => (cs, none)
  | (some base, tag) => (dirs.elim base (· ++ '/' :: base), some tag)

/-- The tag, empty where there is none. -/
def tag (reference : String) : String :=
  String.ofList ((cutTag (cutFirst (· == '@') reference.toList).1).2.getD [])

/-- Repository and tag, `latest` where there is none. -/
def split (reference : String) : String × String :=
  match cutTag reference.toList with
  | (repository, none) => (String.ofList repository, "latest")
  | (repository, some tag) => (String.ofList repository, String.ofList tag)

/-- The local image of a deployment's release. -/
def ofRelease (releaseName tag : String) : String := releaseName ++ "/airflow:" ++ tag

end AirflowDeploy.ImageReference
