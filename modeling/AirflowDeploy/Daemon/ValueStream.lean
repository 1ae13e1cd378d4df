import AirflowDeploy.Daemon.Error

/-!
# Streams of values

A stream of JSON values, one a line. A line that holds no value yet goes on with the next line.
-/
namespace AirflowDeploy.Daemon

/-- The bytes before the first newline, and the bytes after it. -/
def cutLine : List UInt8 → List UInt8 × List UInt8
  | [] => ([], [])
  | b :: rest => if b == 10 then ([], rest) else (b :: (cutLine rest).1, (cutLine rest).2)

/-- The value on a line; null is none. -/
def lineValue? (line : List UInt8) : Option Json :=
  match Json.readBytes? line with
  | none | some .null => none
  | value => value

/-- Takes the value on the first line. Where there is none, the line loses its end. -/
def takeValue (bs : List UInt8) : Option Json × List UInt8 :=
  let (line, rest) := cutLine bs
  match lineValue? line with
  | some value => (some value, rest)
  | none => (none, line ++ rest)

/-- The values of a stream, in at most `fuel` steps. `complete` tells that nothing more will
come; only then a rest without a value is an error. -/
def valuesWithin : Nat → Bool → List UInt8 → List (Except DaemonError Json)
  | 0, _, _ => []
  | fuel + 1, complete, bs =>
    match takeValue bs with
    | (some value, rest) => .ok value :: valuesWithin fuel complete rest
    | (none, rest) =>
      if !complete then valuesWithin fuel true rest
      else if rest.isEmpty then []
      else [.error .cutOff]

/-- Every value takes a byte, and one step more sees the end. -/
def values (bs : List UInt8) : List (Except DaemonError Json) :=
  valuesWithin (bs.length + 2) false bs

end AirflowDeploy.Daemon
