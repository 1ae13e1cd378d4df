import AirflowDeploy.Files.Fault
import AirflowDeploy.Text.Blank
import AirflowDeploy.Text.Lines
import AirflowDeploy.Text.Numeral

/-!
# Lines of environment files

A quote or a backslash that is open at the end of a line carries it on to the next one. A comment
after a blank ends a line.
-/
namespace AirflowDeploy.EnvFile

open Text

inductive Error where
  | line (text : List Char) (position : Nat)
  | unreadable (cause : IoFault)
  deriving DecidableEq, Repr

def Error.message : Error → String
  | .line text position =>
    "Error parsing line: '" ++ String.ofList text ++ "', error at line index: " ++
      String.ofList (decimal position)
  | .unreadable cause => cause.message

/-- What is open after some characters. -/
inductive Open where
  | nothing
  /-- A blank that a comment may follow. -/
  | blank
  | escape
  | double
  | doubleEscape
  | single
  | singleEscape
  deriving DecidableEq, Repr

/-- The state after a character outside of quotes. -/
def Open.after (c : Char) : Open :=
  if c == '\\' then .escape else if c == '"' then .double else if c == '\'' then .single
  else .nothing

def isLineBlank (c : Char) : Bool := isBlank c && c != '\n' && c != '\r'

/-- The state after one more character; none where a comment starts. -/
def Open.step? : Open → Char → Option Open
  | .nothing, c => some (if isLineBlank c then .blank else .after c)
  | .blank, c => if c == '#' then none else some (.after c)
  | .escape, _ => some .nothing
  | .double, c => some (if c == '\\' then .doubleEscape else if c == '"' then .nothing else .double)
  | .doubleEscape, _ => some .double
  | .single, c =>
    some (if c == '\\' then .singleEscape else if c == '\'' then .nothing else .single)
  | .singleEscape, _ => some .single

/-- The state at the end, or the number of bytes before a comment. -/
def scan : Open → Nat → List Char → Open ⊕ Nat
  | state, _, [] => .inl state
  | state, bytes, c :: rest =>
    match state.step? c with
    | some next => scan next (bytes + c.utf8Size) rest
    | none => .inr bytes

/-- The characters that fit into a number of bytes. -/
def takeBytes : Nat → List Char → List Char
  | _, [] => []
  | n, c :: rest => if c.utf8Size ≤ n then c :: takeBytes (n - c.utf8Size) rest else []

/-- Drops one line end. -/
def withoutLineEnd (cs : List Char) : List Char :=
  if cs.getLast? = some '\n' then dropReturn cs.dropLast else cs

/-- Every physical line with its line end, decoded on its own. -/
def physicalLines : Nat → List UInt8 → List (Option (List Char))
  | 0, _ => []
  | fuel + 1, bs =>
    if bs.isEmpty then []
    else
      let (line, rest) := firstLineBytes bs
      Utf8.decode? line :: physicalLines fuel rest

/-- Joins physical lines to logical ones, up to the first failure. `buffer` holds what is carried
on, and `state` what is open in it. A comment line is dropped with all that is carried on. The
cut before a comment counts from the start of the buffer with the bytes of the last line. -/
def logicalLines (buffer : List Char) (state : Open) :
    List (Option (List Char)) → List (Except Error (List Char))
  | [] => if state = .nothing then [] else [.error (.line buffer (Utf8.size buffer))]
  | none :: _ => [.error (.unreadable .notText)]
  | some line :: rest =>
    let text := buffer ++ line
    if (trimStart text).head? = some '#' then logicalLines [] .nothing rest
    else
      match scan state 0 line with
      | .inr bytes => .ok (takeBytes bytes text) :: logicalLines [] .nothing rest
      | .inl .nothing => .ok (withoutLineEnd text) :: logicalLines [] .nothing rest
      | .inl state => logicalLines text state rest

end AirflowDeploy.EnvFile
