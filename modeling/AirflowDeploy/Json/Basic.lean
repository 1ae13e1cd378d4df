import AirflowDeploy.Text.Numeral

/-!
# JSON values

Members of an object keep their order and their repetitions. A string whose escapes name half
of a surrogate pair stands for no text, and is `string none`.
-/
namespace AirflowDeploy

inductive Json where
  | null
  | bool (value : Bool)
  /-- A number as it is written. -/
  | number (literal : List Char)
  | string (text : Option String)
  | array (items : List Json)
  | object (members : List (Option String × Json))
  deriving Repr, Inhabited

namespace Json

def text (s : String) : Json := .string (some s)

def int (n : Int) : Json := .number (Text.integer n)

def nat (n : Nat) : Json := .int n

def texts (xs : List String) : Json := .array (xs.map text)

def record (fields : List (String × Json)) : Json :=
  .object (fields.map fun field => (some field.1, field.2))

/-- An absent value is written as null. -/
def orNull (encode : α → Json) : Option α → Json
  | none => .null
  | some a => encode a

def text? : Json → Option String
  | .string text => text
  | _ => none

def bool? : Json → Option Bool
  | .bool value => some value
  | _ => none

/-- The value of a number without fraction and exponent; a negative zero is none. -/
def int? : Json → Option Int
  | .number ('-' :: digits) => ((Text.readDigits? digits).filter (· ≠ 0)).map fun n => -(n : Int)
  | .number digits => (Text.readDigits? digits).map fun n => (n : Int)
  | _ => none

/-- The value of such a number where it fits into 64 bits with a sign. -/
def int64? (j : Json) : Option Int :=
  j.int?.filter fun n => Int64.minValue.toInt ≤ n && n ≤ Int64.maxValue.toInt

def items? : Json → Option (List Json)
  | .array items => some items
  | _ => none

def list? (decode : Json → Option α) (j : Json) : Option (List α) :=
  j.items?.bind (·.mapM decode)

/-- A value or null. -/
def nullable? (decode : Json → Option α) : Json → Option (Option α)
  | .null => some none
  | j => (decode j).map some

end Json

end AirflowDeploy
