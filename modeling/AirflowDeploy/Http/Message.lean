import AirflowDeploy.Json.Basic
import AirflowDeploy.Url.Basic

/-!
# Web messages

A request to a web service and its reply, as far as the program uses them.
-/
namespace AirflowDeploy.Http

inductive Method where
  | get
  | post
  deriving DecidableEq, Repr

def Method.name : Method → String
  | .get => "GET"
  | .post => "POST"

structure Request where
  method : Method
  url : Url
  /-- Names in lower case. -/
  headers : List (String × String)
  body : Option Json
  deriving Repr

def Request.header? (r : Request) (name : String) : Option String := r.headers.lookup name

structure Reply where
  status : Nat
  contentType : Option String
  body : List UInt8
  deriving DecidableEq, Repr

namespace Reply

def isSuccess (r : Reply) : Bool := 200 ≤ r.status && r.status < 300

/-- Statuses that announce a later reply. -/
def isInterim (r : Reply) : Bool := 100 ≤ r.status && r.status < 200 && r.status != 101

/-- Statuses that come without a body. -/
def isBodiless (r : Reply) : Bool := r.status == 101 || r.status == 204 || r.status == 304

/-- The reply as it is understood: an interim one is none, and a bodiless one has no body. -/
def understood (r : Reply) : Option Reply :=
  if r.isInterim then none else if r.isBodiless then some { r with body := [] } else some r

end Reply

/-- Whether a text can stand in a header: without control characters other than tabs. -/
def isHeaderText (text : String) : Bool :=
  text.toList.all fun c => c == '\t' || (32 ≤ c.toNat && c.toNat != 127)

end AirflowDeploy.Http
