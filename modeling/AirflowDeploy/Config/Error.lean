import AirflowDeploy.Files.Fault

/-!
# Configuration errors

What can be wrong with a configuration file, with the message for each cause.
-/
namespace AirflowDeploy

inductive ConfigError where
  /-- The text is no document at all. -/
  | syntaxError
  | missingField (field : String)
  | invalidValue (field text : String)
  | duplicate (definition : String)
  | noHomeDirectory
  | inaccessible (path : String) (cause : IoFault)
  deriving DecidableEq, Repr

namespace ConfigError

/-- What the reader of documents says about any text that is none. -/
def syntaxText : String := "Failed to parse KDL document"

def message : ConfigError → String
  | .syntaxError => "KDL parse error: " ++ syntaxText
  | .missingField field => "missing required field: " ++ field
  | .invalidValue field text => "invalid value for " ++ field ++ ": " ++ text
  | .duplicate definition => "duplicate definition: " ++ definition
  | .noHomeDirectory => "could not determine the home directory; set DAGSHIP_HOME"
  | .inaccessible path cause => "failed to access " ++ path ++ ": " ++ cause.message

/-- The texts of the causes below the message. -/
def causes : ConfigError → List String
  | .syntaxError => [syntaxText]
  | .inaccessible _ cause => [cause.message]
  | _ => []

end ConfigError

end AirflowDeploy
