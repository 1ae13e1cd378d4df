import AirflowDeploy.Dockerfile.Basic
import AirflowDeploy.Text.Case
import AirflowDeploy.Text.Cut
import AirflowDeploy.Text.Lines

/-!
# Reading Dockerfiles

Lines are joined to statements by a continuation character at the line's end; directives in the
first lines may change that character. A statement is one instruction.
-/
namespace AirflowDeploy.Dockerfile

open Text

/-- Name and value of a parser directive `# name = value`. -/
def directive? (line : List Char) : Option (List Char × List Char) :=
  match line with
  | '#' :: rest =>
    let rest := trimStart rest
    let name := rest.takeWhile isAsciiLetter
    match trimStart (rest.dropWhile isAsciiLetter) with
    | '=' :: value =>
      let value := trim value
      if name.isEmpty || value.isEmpty || value.any isBlank then none else some (name, value)
    | _ => none
  | _ => none

def escapeName : List Char := ['e', 's', 'c', 'a', 'p', 'e']

/-- The continuation character after a directive. -/
def escapeAfter (escape : Char) (directive : List Char × List Char) : Char :=
  if eqAsciiCase directive.1 escapeName then directive.2.head?.getD escape else escape

/-- Passes over the directives at the start. Gives the continuation character, the number of the
next line and the lines from there on. -/
def afterDirectives (escape : Char) (number : Nat) :
    List (List Char) → Char × Nat × List (List Char)
  | [] => (escape, number, [])
  | line :: rest =>
    match directive? (trim line) with
    | some directive => afterDirectives (escapeAfter escape directive) (number + 1) rest
    | none => (escape, number, line :: rest)

/-- The line without a continuation character at its end, and whether there was one. -/
def continued (escape : Char) (line : List Char) : Bool × List Char :=
  if line.getLast? = some escape then (true, trimEnd line.dropLast) else (false, line)

/-- A line added to the text before it, with a space between two that are not empty. -/
def extend (text body : List Char) : List Char :=
  if text.isEmpty || body.isEmpty then text ++ body else text ++ ' ' :: body

structure Statement where
  line : Nat
  text : List Char
  deriving DecidableEq, Repr

/-- Keeps a statement that is not empty. -/
def Statement.finish (s : Statement) (rest : List Statement) : List Statement :=
  if s.text.isEmpty then rest else s :: rest

/-- Joins lines to statements. A comment is passed over everywhere, a blank line only between
statements: within one it ends it. -/
def statements (escape : Char) : Option Statement → Nat → List (List Char) → List Statement
  | none, _, [] => []
  | some pending, _, [] => pending.finish []
  | pending, number, raw :: rest =>
    let line := trim raw
    if line.head? = some '#' || (line.isEmpty && pending.isNone) then
      statements escape pending (number + 1) rest
    else
      let (continues, body) := continued escape line
      let start := pending.getD ⟨number, []⟩
      let statement := ⟨start.line, extend start.text body⟩
      if continues then statements escape (some statement) (number + 1) rest
      else statement.finish (statements escape none (number + 1) rest)

/-- The first word is the keyword, in any case; the rest are the arguments. -/
def Statement.read (s : Statement) : Except DockerfileError Instruction :=
  let (word, rest) := cutFirst isBlank s.text
  let name := String.ofList (upper word)
  let args := trim (rest.getD [])
  match Keyword.ofName? name with
  | none => .error (.unknownInstruction name s.line)
  | some keyword =>
    if args.isEmpty then .error (.missingArguments keyword s.line)
    else .ok ⟨keyword, String.ofList args, s.line⟩

/-- Only `ARG` may stand before the first `FROM`. -/
def checkStart (instructions : List Instruction) : Except DockerfileError Dockerfile :=
  match instructions.find? fun i => i.keyword != .arg with
  | some first =>
    if first.keyword = .fromImage then .ok ⟨instructions⟩ else .error (.noFrom first.line)
  | none =>
    match instructions.getLast? with
    | none => .error .empty
    | some last => .error (.noFrom last.line)

def parse (content : String) : Except DockerfileError Dockerfile := do
  let (escape, number, rest) := afterDirectives '\\' 1 (lines content.toList)
  checkStart (← (statements escape none number rest).mapM Statement.read)

end AirflowDeploy.Dockerfile
