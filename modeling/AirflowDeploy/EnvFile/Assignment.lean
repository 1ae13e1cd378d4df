import AirflowDeploy.EnvFile.LogicalLine
import AirflowDeploy.Text.Alphanumeric
import AirflowDeploy.Text.Case

/-!
# Assignments in environment files

A line assigns a value to a key. Values have quotes, escapes and references to earlier keys.
-/
namespace AirflowDeploy.EnvFile

open Text

/-- Where a reader of a value is. -/
inductive Phase where
  | text
  /-- After a blank, where only a comment may follow. -/
  | ending
  | escaped
  | single
  /-- In the name of a reference, with what is read of it. -/
  | name (read : List Char)
  | braced (read : List Char)
  deriving DecidableEq, Repr

/-- Why a value cannot be read: at a character, or because something stays open. -/
inductive ValueError where
  | character (index : Nat)
  | unclosed
  deriving DecidableEq, Repr

/-- The character that an escape stands for. -/
def escaped? (c : Char) : Option Char :=
  if c == 'n' then some '\n'
  else if c == '\\' || c == '\'' || c == '"' || c == '$' || c == ' ' then some c
  else none

/-- Reads a value from one character on. `quoted` tells whether a double quote is open, and
`index` counts the characters before. -/
def readValue (valueOf : List Char → List Char) (quoted : Bool) (phase : Phase) (index : Nat)
    (cs : List Char) : Except ValueError (List Char) :=
  match cs with
  | [] =>
    match phase with
    | .single | .braced _ => .error .unclosed
    | .name name => if quoted then .error .unclosed else .ok (valueOf name)
    | _ => if quoted then .error .unclosed else .ok []
  | c :: rest =>
    let goOn (quoted : Bool) (phase : Phase) := readValue valueOf quoted phase (index + 1) rest
    match phase with
    | .ending =>
      if c == ' ' || c == '\t' then goOn quoted .ending
      else if c == '#' then .ok []
      else .error (.character index)
    | .escaped =>
      match escaped? c with
      | some e => (goOn quoted .text).map (e :: ·)
      | none => .error (.character index)
    | .single => if c == '\'' then goOn quoted .text else (goOn quoted .single).map (c :: ·)
    | .name name =>
      if isAlphanumeric c then goOn quoted (.name (name ++ [c]))
      else if c == '\x7b' && name.isEmpty then goOn quoted (.braced [])
      else if c == '$' then (goOn quoted (.name [])).map (valueOf name ++ ·)
      else (goOn quoted .text).map fun more => valueOf name ++ c :: more
    | .braced name =>
      if c == '\x7d' then (goOn quoted .text).map (valueOf name ++ ·)
      else goOn quoted (.braced (name ++ [c]))
    | .text =>
      if c == '$' then goOn quoted (.name [])
      else if c == '"' then goOn (!quoted) .text
      else if c == '\\' then goOn quoted .escaped
      else if !quoted && c == '\'' then goOn quoted .single
      else if !quoted && (c == ' ' || c == '\t') then goOn quoted .ending
      else (goOn quoted .text).map (c :: ·)

def ValueError.position (value : List Char) : ValueError → Nat
  | .character index => index
  | .unclosed => Utf8.size value - 1

structure Assignment where
  key : List Char
  value : List Char
  deriving DecidableEq, Repr

/-- The value that a name stands for: one of the environment, or the last one assigned. -/
def valueOf (environment : List Char → Option (List Char)) (known : List Assignment)
    (name : List Char) : List Char :=
  match environment name with
  | some value => value
  | none => ((known.find? fun a => a.key == name).map (·.value)).getD []

def isKeyStart (c : Char) : Bool := isAsciiLetter c || c == '_'

def isKeyChar (c : Char) : Bool := isAsciiAlphanumeric c || c == '_' || c == '.'

/-- A key at the front, and the rest. -/
def readKey? (cs : List Char) : Option (List Char × List Char) :=
  if cs.head?.any isKeyStart then some (cs.span isKeyChar) else none

def exportWord : List Char := ['e', 'x', 'p', 'o', 'r', 't']

/-- The key and the text after its equals sign; where there is none, what is left at the place
of the error. The word `export` may stand before the key. -/
def readLeftSide (cs : List Char) : Except (List Char) (List Char × List Char) :=
  match readKey? cs with
  | none => .error cs
  | some (key, rest) =>
    match trimStart rest with
    | '=' :: value => .ok (key, value)
    | rest =>
      if key != exportWord then .error rest
      else
        match readKey? rest with
        | none => .error rest
        | some (key, rest) =>
          match trimStart rest with
          | '=' :: value => .ok (key, value)
          | rest => .error rest

def isBareOrComment (cs : List Char) : Bool := cs.isEmpty || cs.head? = some '#'

/-- The assignment on a line; none on a blank line or a comment. -/
def readLine (environment : List Char → Option (List Char)) (known : List Assignment)
    (line : List Char) : Except Error (Option Assignment) :=
  let text := trimEnd line
  let start := trimStart text
  if isBareOrComment start then .ok none
  else
    match readLeftSide start with
    | .error rest => .error (.line line (Utf8.size text - Utf8.size rest))
    | .ok (key, rest) =>
      let value := trimStart rest
      if isBareOrComment value then .ok (some ⟨key, []⟩)
      else
        match readValue (valueOf environment known) false .text 0 value with
        | .ok result => .ok (some ⟨key, result⟩)
        | .error e => .error (.line value (e.position value))

/-- The assignments on the lines, up to the first failure. `known` holds those before, the
latest first. -/
def readLines (environment : List Char → Option (List Char)) (known : List Assignment) :
    List (Except Error (List Char)) → Except Error (List Assignment)
  | [] => .ok []
  | .error e :: _ => .error e
  | .ok line :: rest =>
    match readLine environment known line with
    | .error e => .error e
    | .ok none => readLines environment known rest
    | .ok (some assignment) =>
      (readLines environment (assignment :: known) rest).map (assignment :: ·)

def Assignment.render (a : Assignment) : String := String.ofList (a.key ++ '=' :: a.value)

/-- The assignments in a file, as `KEY=value`. -/
def read (environment : List Char → Option (List Char)) (content : List UInt8) :
    Except Error (List String) :=
  (readLines environment [] (logicalLines [] .nothing (physicalLines content.length content))).map
    (·.map Assignment.render)

end AirflowDeploy.EnvFile
