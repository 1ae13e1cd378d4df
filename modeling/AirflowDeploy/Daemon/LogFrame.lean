import AirflowDeploy.Daemon.Error
import AirflowDeploy.Text.Lines

/-!
# Log frames

The log of a container is a sequence of frames: a byte for the stream, three more bytes, the
length in four bytes and the data. A byte that stands for no stream starts a line without a
frame.
-/
namespace AirflowDeploy.Daemon

open Text

inductive LogStream where
  | stdin
  | stdout
  | stderr
  deriving DecidableEq, Repr

def LogStream.byte : LogStream → UInt8
  | .stdin => 0
  | .stdout => 1
  | .stderr => 2

structure LogFrame where
  stream : LogStream
  data : List UInt8
  deriving DecidableEq, Repr

/-- A number in four bytes, the most significant first. -/
def lengthBytes (n : Nat) : List UInt8 :=
  [UInt8.ofNat (n / 16777216), UInt8.ofNat (n / 65536), UInt8.ofNat (n / 256), UInt8.ofNat n]

def lengthOf (a b c d : UInt8) : Nat :=
  ((a.toNat * 256 + b.toNat) * 256 + c.toNat) * 256 + d.toNat

def LogFrame.encode (f : LogFrame) : List UInt8 :=
  f.stream.byte :: 0 :: 0 :: 0 :: (lengthBytes f.data.length ++ f.data)

/-- The pieces of a log, in at most `fuel` steps; none where it breaks off. A log may end after
the head of a frame. -/
def logPiecesWithin : Nat → List UInt8 → Option (List (List UInt8))
  | _, [] => some []
  | 0, _ => none
  | fuel + 1, b :: rest =>
    if b ≤ 2 then
      match rest with
      | _ :: _ :: _ :: l₁ :: l₂ :: l₃ :: l₄ :: data =>
        let n := lengthOf l₁ l₂ l₃ l₄
        if n ≤ data.length then
          (logPiecesWithin fuel (data.drop n)).map (data.take n :: ·)
        else if data.isEmpty then some []
        else none
      | _ => none
    else
      let (line, after) := firstLineBytes (b :: rest)
      if line.getLast? = some 10 then (logPiecesWithin fuel after).map (line :: ·) else none

/-- The pieces of a log. Every piece takes a byte. -/
def logPieces (bs : List UInt8) : Except DaemonError (List (List UInt8)) :=
  match logPiecesWithin bs.length bs with
  | some pieces => .ok pieces
  | none => .error .cutOff

/-- The text of a log, where each piece is decoded on its own. -/
def logText (bs : List UInt8) : Except DaemonError String :=
  (logPieces bs).map fun pieces => String.ofList (pieces.flatMap Utf8.decodeLossy)

end AirflowDeploy.Daemon
