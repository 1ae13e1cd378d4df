/-!
# Output tails

The last lines of some output. A line that is one too many pushes out the oldest.
-/
namespace AirflowDeploy.Build

structure OutputTail where
  capacity : Nat
  lines : List String
  deriving DecidableEq, Repr

namespace OutputTail

def empty (capacity : Nat) : OutputTail := ⟨capacity, []⟩

def push (t : OutputTail) (line : String) : OutputTail :=
  let kept := if t.lines.length = t.capacity then t.lines.tail else t.lines
  { t with lines := kept ++ [line] }

def pushAll (t : OutputTail) (lines : List String) : OutputTail := lines.foldl push t

end OutputTail

end AirflowDeploy.Build
