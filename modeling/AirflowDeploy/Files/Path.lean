import AirflowDeploy.Text.Blank
import AirflowDeploy.Text.Cut

/-!
# Paths

Paths are texts with slashes. Joining keeps both sides as they are written.
-/
namespace AirflowDeploy.Path

open Text

def isSlash (c : Char) : Bool := c == '/'

def isAbsolute (path : String) : Bool := path.toList.head?.any isSlash

/-- A path below `dir`, unless `path` is absolute. -/
def join (dir path : String) : String :=
  if isAbsolute path then path
  else if dir.isEmpty || dir.toList.getLast?.any isSlash then dir ++ path
  else dir ++ "/" ++ path

/-- The names on the way, without empty ones and single dots. -/
def components (path : String) : List String :=
  ((pieces isSlash path.toList).map String.ofList).filter fun name => name != "" && name != "."

/-- The path of the directory that holds the last name. -/
def parent? (path : String) : Option String :=
  match components path with
  | [] => none
  | names =>
    let dir := String.intercalate "/" names.dropLast
    some (if isAbsolute path then "/" ++ dir else dir)

end AirflowDeploy.Path
