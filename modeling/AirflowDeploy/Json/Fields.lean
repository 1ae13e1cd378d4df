import AirflowDeploy.Json.Basic

/-!
# Records in JSON

A record is an object with known member names, or an array of their values in the declared
order. Other members are skipped; a known one may stand once only.
-/
namespace AirflowDeploy.Json

/-- The value of the only member with a name; none where it is missing, and no result where it
stands more than once. -/
def member? (name : String) (members : List (Option String × Json)) : Option (Option Json) :=
  match members.filter fun member => member.1 == some name with
  | [] => some none
  | [member] => some (some member.2)
  | _ => none

/-- The values of the named fields, in that order. -/
def fields? (names : List String) : Json → Option (List (Option Json))
  | .object members =>
    if members.all fun member => member.1.isSome then names.mapM (member? · members) else none
  | .array items =>
    if items.length ≤ names.length then
      some (items.map some ++ List.replicate (names.length - items.length) none)
    else none
  | _ => none

def required? (decode : Json → Option α) (field : Option Json) : Option α := field.bind decode

def withDefault? (default : α) (decode : Json → Option α) : Option Json → Option α
  | none => some default
  | some j => decode j

end AirflowDeploy.Json
