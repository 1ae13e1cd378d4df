import AirflowDeploy.Files.Fault
import AirflowDeploy.Text.Blank
import AirflowDeploy.Text.Utf8

/-!
# Lines

A line ends at a newline, and one carriage return right before that newline belongs to the
line end. A last line without a newline counts when it is not empty, and keeps its carriage
return.
-/
namespace AirflowDeploy.Text

def isNewline (c : Char) : Bool := c == '\n'

def dropReturn (line : List Char) : List Char :=
  if line.getLast? = some '\r' then line.dropLast else line

def linesOfPieces : List (List Char) → List (List Char)
  | [] => []
  | [last] => if last.isEmpty then [] else [last]
  | piece :: rest => dropReturn piece :: linesOfPieces rest

def lines (cs : List Char) : List (List Char) := linesOfPieces (pieces isNewline cs)

/-- Splits after the first newline, which stays with the first part. -/
def firstLine (cs : List Char) : List Char × List Char :=
  let line := cs.takeWhile fun c => !isNewline c
  match cs.dropWhile fun c => !isNewline c with
  | [] => (line, [])
  | c :: rest => (line ++ [c], rest)

/-- The bytes up to and with the first newline byte, and the bytes after it. -/
def firstLineBytes : List UInt8 → List UInt8 × List UInt8
  | [] => ([], [])
  | b :: rest =>
    if b == 10 then ([b], rest) else (b :: (firstLineBytes rest).1, (firstLineBytes rest).2)

/-- Reads one line with its newline from a stream of bytes; it is used up even if it is no text. -/
def takeLine (bs : List UInt8) : Except IoFault String × List UInt8 :=
  let (line, rest) := firstLineBytes bs
  match Utf8.decode? line with
  | some cs => (.ok (String.ofList cs), rest)
  | none => (.error .notText, rest)

end AirflowDeploy.Text
