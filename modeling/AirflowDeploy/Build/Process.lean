import AirflowDeploy.Build.OutputTail
import AirflowDeploy.Fault
import AirflowDeploy.Files.Fault
import AirflowDeploy.Text.Lines

/-!
# Build processes

What a build process writes, line by line in the order of arrival, how it ends, and what is
said about a build that failed.
-/
namespace AirflowDeploy.Build

open Text

inductive Stream where
  | stdout
  | stderr
  deriving DecidableEq, Repr

/-- One line of a stream, with its line end if it has one. -/
structure Arrival where
  stream : Stream
  line : List UInt8
  deriving DecidableEq, Repr

inductive Exit where
  | code (n : Int)
  | killed
  deriving DecidableEq, Repr

structure Run where
  output : List Arrival
  exit : Exit
  deriving DecidableEq, Repr

/-- The lines of a stream, each with its line end. -/
def streamLines : Nat → List UInt8 → List (List UInt8)
  | 0, _ => []
  | fuel + 1, bs =>
    if bs.isEmpty then []
    else (firstLineBytes bs).1 :: streamLines fuel (firstLineBytes bs).2

def arrivals (stream : Stream) (bs : List UInt8) : List Arrival :=
  (streamLines bs.length bs).map (Arrival.mk stream)

/-- A line without its line end. -/
def lineText (cs : List Char) : List Char :=
  if cs.getLast? = some '\n' then dropReturn cs.dropLast else cs

/-- The lines that are read. A stream is read up to its first line that is no text. -/
def heard (stopped : List Stream) : List Arrival → List String
  | [] => []
  | arrival :: rest =>
    if stopped.contains arrival.stream then heard stopped rest
    else
      match Utf8.decode? arrival.line with
      | some cs => String.ofList (lineText cs) :: heard stopped rest
      | none => heard (arrival.stream :: stopped) rest

/-- Number of lines that a failed build is reported with. -/
def tailCapacity : Nat := 25

def Exit.text : Exit → String
  | .code n => String.ofList (integer n)
  | .killed => "signal"

/-- What is told about a build process that could not start, or has ended. -/
def outcome (program : String) : Except IoFault Run → Except Fault Unit
  | .error cause => .error (.buildFailed ("failed to run " ++ program ++ ": " ++ cause.message))
  | .ok run =>
    if run.exit = .code 0 then .ok ()
    else
      .error <| .buildFailed <| "docker build exited with " ++ run.exit.text ++ "\n" ++
        String.intercalate "\n" ((OutputTail.empty tailCapacity).pushAll (heard [] run.output)).lines

end AirflowDeploy.Build
