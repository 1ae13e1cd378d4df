import AirflowDeploy.Text.Ascii

/-!
# KDL documents

A document is a list of nodes. A node has a name, entries and children; an entry is a property
when it has a name and an argument otherwise.
-/
namespace AirflowDeploy.Kdl

inductive Value where
  | string (text : String)
  | bool (value : Bool)
  | null
  /-- A number as it is written. -/
  | number (literal : List Char)
  deriving DecidableEq, Repr, Inhabited

structure Entry where
  name : Option String
  value : Value
  deriving DecidableEq, Repr, Inhabited

structure Node where
  name : String
  entries : List Entry
  children : List Node
  deriving Repr, Inhabited

abbrev Document := List Node

namespace Value

def text? : Value → Option String
  | .string text => some text
  | _ => none

def bool? : Value → Option Bool
  | .bool value => some value
  | _ => none

end Value

namespace Node

/-- The first argument. Properties before it are passed over. -/
def argument? (n : Node) : Option Value :=
  (n.entries.find? fun entry => entry.name.isNone).map (·.value)

def text? (n : Node) : Option String := n.argument?.bind Value.text?

def bool? (n : Node) : Option Bool := n.argument?.bind Value.bool?

/-- A node with one argument. -/
def ofValue (name : String) (value : Value) (children : List Node) : Node :=
  ⟨name, [⟨none, value⟩], children⟩

def ofText (name text : String) : Node := ofValue name (.string text) []

def ofBool (name : String) (value : Bool) : Node := ofValue name (.bool value) []

end Node

/-- Blanks within a line. -/
def isSpace (c : Char) : Bool :=
  let n := c.toNat
  n == 0x9 || n == 0x20 || n == 0xA0 || n == 0x1680 || (0x2000 ≤ n && n ≤ 0x200A) ||
    n == 0x202F || n == 0x205F || n == 0x3000

/-- Characters that end a line. -/
def isNewline (c : Char) : Bool :=
  let n := c.toNat
  (0xA ≤ n && n ≤ 0xD) || n == 0x85 || n == 0x2028 || n == 0x2029

/-- Characters that may stand nowhere in a document. -/
def isForbidden (c : Char) : Bool :=
  let n := c.toNat
  n ≤ 0x8 || (0xE ≤ n && n ≤ 0x1F) || n == 0x200E || n == 0x200F ||
    (0x202A ≤ n && n ≤ 0x202E) || (0x2066 ≤ n && n ≤ 0x2069) || n == 0xFEFF

/-- Characters with a meaning of their own. -/
def punctuation : List Char :=
  ['\\', '/', '(', ')', '\x7b', '\x7d', '[', ']', ';', '"', '#', '=']

def isIdentifierChar (c : Char) : Bool :=
  !punctuation.contains c && !isNewline c && !isSpace c && !isForbidden c

/-- Words that are no strings when they stand without quotes. -/
def reserved : List (List Char) :=
  ["true".toList, "false".toList, "null".toList, "inf".toList, "-inf".toList, "nan".toList]

def isSign (c : Char) : Bool := c == '-' || c == '+'

def startsWithDigit (cs : List Char) : Bool := cs.head?.any Text.isDigit

/-- Whether a text starts like a number: with a digit, or with a sign or point before one. -/
def looksNumeric (cs : List Char) : Bool :=
  match cs with
  | c :: rest => Text.isDigit c || ((isSign c || c == '.') && startsWithDigit rest)
  | [] => false

end AirflowDeploy.Kdl
