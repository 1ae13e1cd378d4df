import AirflowDeploy.Command.Run
import Std.Time.DateTime.Timestamp

/-!
# The program

Answers the questions of a command with the files, the streams and the clock of the machine. It
has no network and starts no processes, so no platform replies and no daemon is reached.
-/
namespace AirflowDeploy.Outer

open Machine (Query)

/-- The number of an error, which may have come with its sign changed. -/
def errorNumber (code : UInt32) : UInt32 := min code (0 - code)

def faultOf : IO.Error → IoFault
  | .noFileOrDirectory _ _ _ => .missing
  | .alreadyExists _ _ _ => .exists
  | .inappropriateType _ code details =>
    match errorNumber code with
    | 20 => .notADirectory
    | 21 => .isADirectory
    | number => .other (details ++ " (os error " ++ toString number ++ ")")
  | .permissionDenied _ code details =>
    .other (details ++ " (os error " ++ toString (errorNumber code) ++ ")")
  | error => .other (toString error)

def caught (action : IO α) : IO (Except IoFault α) := do
  return (← action.toBaseIO).mapError faultOf

def succeeds (action : IO Bool) : IO Bool := do
  return (← action.toBaseIO).toOption.getD false

/-- The bytes up to and with the next newline. -/
partial def lineBytes (stream : IO.FS.Stream) (read : Array UInt8) : IO (List UInt8) := do
  let next := (← stream.read 1).toList
  match next with
  | [] => return read.toList
  | b :: _ => if b == 10 then return (read.push b).toList else lineBytes stream (read.push b)

def readLine : IO (Except IoFault String) := do
  return (Text.takeLine (← lineBytes (← IO.getStdin) #[])).1

def put (stream : IO.FS.Stream) (text : String) : IO (Except IoFault Unit) :=
  caught (stream.putStr text)

def ownerOnly : IO.FileRight := { user := { read := true, write := true } }

def milliseconds : IO Nat := return (← Std.Time.Timestamp.now).toMillisecondsSinceUnixEpoch.val.toNat

/-- A number that is made of random bytes. -/
def randomNumber : IO Nat := return (← IO.getRandomBytes 16).toList.foldl (· * 256 + ·.toNat) 0

def answer : (q : Query) → IO q.Answer
  | .web _ => return none
  | .daemon _ _ => return .error "no connection to the daemon"
  | .process _ _ _ => return .error (.other "no processes can be started")
  | .fileContent path => caught (ByteArray.toList <$> IO.FS.readBinFile path)
  | .pathExists path => succeeds ((fun _ => true) <$> IO.FS.realPath path)
  | .isFile path => succeeds do return (← (← IO.FS.realPath path).metadata).type == .file
  | .absolutePath path => caught do return (← IO.FS.realPath path).toString
  | .makeDirectory path => caught (IO.FS.createDirAll path)
  | .writeFile path content => caught (IO.FS.writeFile path content)
  | .restrictFile path => caught (IO.setAccessRights path ownerOnly)
  | .write text => do put (← IO.getStdout) text
  | .writeError text => do put (← IO.getStderr) text
  | .flush => do caught (← IO.getStdout).flush
  | .readLine => readLine
  | .now => return .ofSeconds ((← milliseconds) / 1000 : Nat)
  | .freshRunId => return RunId.ofTime (← milliseconds) (← randomNumber)

/-- The assignments in the environment block of a process, which end in zero bytes. -/
def environmentOf (block : List UInt8) : Environment :=
  let isEnd (c : Char) : Bool := c.toNat == 0
  let assignments := (Text.pieces isEnd (Text.Utf8.decodeLossy block)).map (Text.cutFirst (· == '='))
  fun name => (assignments.lookup name.toList).join.map String.ofList

end AirflowDeploy.Outer

open AirflowDeploy in
/-- Carries out the command line. -/
def main (arguments : List String) : IO UInt32 := do
  let environment := Outer.environmentOf (← IO.FS.readBinFile "/proc/self/environ").toList
  return UInt32.ofNat (← (Command.run environment arguments).runM Outer.answer)
