/-!
# Failures of files and streams

The causes that the program tells apart, with the texts of the operating system.
-/
namespace AirflowDeploy

inductive IoFault where
  | missing
  | exists
  | notADirectory
  | isADirectory
  | notText
  /-- Any other cause, with its text. -/
  | other (text : String)
  deriving DecidableEq, Repr

namespace IoFault

def message : IoFault → String
  | .missing => "No such file or directory (os error 2)"
  | .exists => "File exists (os error 17)"
  | .notADirectory => "Not a directory (os error 20)"
  | .isADirectory => "Is a directory (os error 21)"
  | .notText => "stream did not contain valid UTF-8"
  | .other text => text

end IoFault

end AirflowDeploy
