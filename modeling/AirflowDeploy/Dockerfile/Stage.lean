import AirflowDeploy.Dockerfile.Parser

/-!
# Build stages

The image that the last stage starts from: variables take the defaults given before the first
`FROM`, and the name of an earlier stage stands for that stage's image.
-/
namespace AirflowDeploy.Dockerfile

open Text

def isNameStart (c : Char) : Bool := isAsciiLetter c || c == '_'

def isNameChar (c : Char) : Bool := isAsciiAlphanumeric c || c == '_'

/-- A variable name at the front, and the rest. -/
def variableName? (cs : List Char) : Option (List Char × List Char) :=
  match cs with
  | [] => none
  | c :: rest =>
    if isNameStart c then some (c :: rest.takeWhile isNameChar, rest.dropWhile isNameChar) else none

/-- The variable named after a dollar sign, with or without braces, and the rest. -/
def reference? (cs : List Char) : Option (List Char × List Char) :=
  match cs with
  | '{' :: rest =>
    match variableName? rest with
    | some (name, '}' :: rest) => some (name, rest)
    | _ => none
  | _ => variableName? cs

/-- Associations of names, the latest first. -/
abbrev Bindings := List (List Char × List Char)

/-- Replaces variables in at most `fuel` steps; an unknown one by nothing. -/
def expandWithin (args : Bindings) : Nat → List Char → List Char
  | 0, cs => cs
  | _ + 1, [] => []
  | fuel + 1, '$' :: rest =>
    match reference? rest with
    | some (name, rest) => (args.lookup name).getD [] ++ expandWithin args fuel rest
    | none => '$' :: expandWithin args fuel rest
  | fuel + 1, c :: rest => c :: expandWithin args fuel rest

def expand (args : Bindings) (cs : List Char) : List Char := expandWithin args cs.length cs

def isQuote (c : Char) : Bool := c == '"'

/-- Drops all double quotes at both ends. -/
def unquote (cs : List Char) : List Char :=
  ((cs.dropWhile isQuote).reverse.dropWhile isQuote).reverse

/-- Name and default of an `ARG` that has a default. -/
def default? (args : List Char) : Option (List Char × List Char) :=
  match cutFirst (· == '=') args with
  | (name, some value) => some (trim name, unquote (trim value))
  | _ => none

def isOption (word : List Char) : Bool := (afterPrefix? ['-', '-'] word).isSome

def fromWords (args : List Char) : List (List Char) :=
  (words args).filter fun word => !isOption word

/-- The name given to a stage after its image. -/
def alias? : List (List Char) → Option (List Char)
  | as :: name :: _ => if eqAsciiCase as ['a', 's'] then some (lower name) else none
  | _ => none

/-- What is known after some instructions. -/
structure Stages where
  globals : Bindings := []
  names : Bindings := []
  seenFrom : Bool := false
  image : Option (List Char) := none

def Stages.define (s : Stages) (args : List Char) : Stages :=
  match default? args with
  | some binding => { s with globals := binding :: s.globals }
  | none => s

def Stages.start (s : Stages) (args : List Char) : Stages :=
  match fromWords args with
  | [] => { s with seenFrom := true }
  | word :: rest =>
    let named := expand s.globals word
    let image := (s.names.lookup (lower named)).getD named
    let names := match alias? rest with
      | some name => (name, image) :: s.names
      | none => s.names
    { s with seenFrom := true, names := names, image := some image }

def Stages.step (s : Stages) (i : Instruction) : Stages :=
  match i.keyword with
  | .arg => if s.seenFrom then s else s.define i.args.toList
  | .fromImage => s.start i.args.toList
  | _ => s

/-- The image of the last stage that names one. -/
def baseImage (d : Dockerfile) : Option String :=
  (d.instructions.foldl Stages.step {}).image.map String.ofList

end AirflowDeploy.Dockerfile
