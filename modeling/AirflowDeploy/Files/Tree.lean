import AirflowDeploy.Files.Fault
import AirflowDeploy.Files.Path

/-!
# File trees

An in-memory file system below one working directory. It follows the rules of a real one for
directories, for dots in paths and for the failures of each operation; outside of the working
directory there is nothing.
-/
namespace AirflowDeploy

inductive FileNode where
  | directory
  | file (content : List UInt8) (ownerOnly : Bool)
  deriving DecidableEq, Repr

/-- The nodes below the working directory, whose absolute path is `root`. -/
structure FileTree where
  root : String
  nodes : List (List String × FileNode)
  deriving Repr

namespace FileTree

/-- A place on the way: names below the working directory, or outside of it. -/
inductive Place where
  | inside (names : List String)
  | outside
  deriving DecidableEq, Repr

def nodeAt? (t : FileTree) : Place → Option FileNode
  | .inside [] => some .directory
  | .inside names => t.nodes.lookup names
  | .outside => some .directory

/-- One name further. -/
def Place.enter (t : FileTree) (place : Place) (name : String) : Except IoFault Place :=
  match t.nodeAt? place with
  | none => .error .missing
  | some (.file _ _) => .error .notADirectory
  | some .directory =>
    match place, name with
    | .inside names, ".." => .ok (if names.isEmpty then .outside else .inside names.dropLast)
    | .inside names, name => .ok (.inside (names ++ [name]))
    | .outside, ".." => .ok .outside
    | .outside, _ => .error .missing

/-- The names of a path from the working directory on, none where it leads elsewhere. -/
def namesOf? (t : FileTree) (path : String) : Option (List String) :=
  if Path.isAbsolute path then
    let root := Path.components t.root
    let names := Path.components path
    if root.isPrefixOf names then some (names.drop root.length) else none
  else some (Path.components path)

def mustBeDirectory (path : String) : Bool :=
  path.toList.getLast?.any Path.isSlash || (Text.afterPrefix? ['.', '/'] path.toList.reverse).isSome

/-- The place of a path and what is there. -/
def resolve (t : FileTree) (path : String) : Except IoFault (Place × Option FileNode) := do
  if path.isEmpty then throw .missing
  match t.namesOf? path with
  | none => throw .missing
  | some names =>
    let place ← names.foldlM (Place.enter t) (.inside [])
    let node := t.nodeAt? place
    match node with
    | some (.file _ _) => if mustBeDirectory path then throw .notADirectory
    | _ => pure ()
    return (place, node)

def read (t : FileTree) (path : String) : Except IoFault (List UInt8) :=
  match t.resolve path with
  | .error e => .error e
  | .ok (_, none) => .error .missing
  | .ok (_, some .directory) => .error .isADirectory
  | .ok (_, some (.file content _)) => .ok content

def isFile (t : FileTree) (path : String) : Bool := (t.read path).isOk

def isDirectory (t : FileTree) (path : String) : Bool :=
  match t.resolve path with
  | .ok (_, some .directory) => true
  | _ => false

/-- The absolute path of what is there. -/
def canonical (t : FileTree) (path : String) : Except IoFault String :=
  match t.resolve path with
  | .error e => .error e
  | .ok (.inside names, some _) => .ok (String.intercalate "/" (t.root :: names))
  | .ok (_, _) => .error .missing

def put (t : FileTree) (names : List String) (node : FileNode) : FileTree :=
  { t with nodes := (names, node) :: t.nodes.filter fun entry => entry.1 != names }

/-- Makes the directories on the way through the remaining names. -/
def makeDirsFrom (t : FileTree) (place : Place) : List String → Except IoFault FileTree
  | [] => .ok t
  | name :: rest => do
    let next ← Place.enter t place name
    match t.nodeAt? next, next with
    | some .directory, _ => t.makeDirsFrom next rest
    | some (.file _ _), _ => if rest.isEmpty then throw .exists else throw .notADirectory
    | none, .inside names => (t.put names .directory).makeDirsFrom next rest
    | none, .outside => throw .missing

/-- Makes a directory and those above it; an empty path needs none. -/
def makeDirs (t : FileTree) (path : String) : Except IoFault FileTree :=
  match t.namesOf? path with
  | none => .error .missing
  | some names => t.makeDirsFrom (.inside []) names

/-- Replaces or creates a file in an existing directory. -/
def write (t : FileTree) (path : String) (content : List UInt8) (ownerOnly : Bool) :
    Except IoFault FileTree := do
  match ← t.resolve path with
  | (_, some .directory) => throw .isADirectory
  | (.inside names, _) =>
    if mustBeDirectory path then throw .isADirectory
    return t.put names (.file content ownerOnly)
  | (.outside, _) => throw .missing

/-- A file and the directories above it, whatever was there. -/
def add (t : FileTree) (path : String) (content : List UInt8) : FileTree :=
  let dir := (Path.parent? path).getD ""
  let t := ((t.makeDirs dir).toOption.getD t)
  (t.write path content false).toOption.getD t

def addDirectory (t : FileTree) (path : String) : FileTree :=
  (t.makeDirs path).toOption.getD t

end FileTree

end AirflowDeploy
