import AirflowDeploy.Json.Basic

/-!
# Writing JSON

Strings escape quotes, backslashes and control characters only. The compact form has no blanks;
the indented form has two blanks a level.
-/
namespace AirflowDeploy.Json

open Text

def escapeChar (c : Char) : List Char :=
  match c with
  | '"' => ['\\', '"']
  | '\\' => ['\\', '\\']
  | '\x08' => ['\\', 'b']
  | '\x0c' => ['\\', 'f']
  | '\n' => ['\\', 'n']
  | '\r' => ['\\', 'r']
  | '\t' => ['\\', 't']
  | c => if c.toNat < 32 then '\\' :: 'u' :: hex 4 c.toNat else [c]

def quote (cs : List Char) : List Char := '"' :: cs.flatMap escapeChar ++ ['"']

/-- A string that is no text is written as one half of a surrogate pair. -/
def renderString : Option String → List Char
  | some s => quote s.toList
  | none => '"' :: "\\ud800".toList ++ ['"']

mutual

def renderOnto (tail : List Char) : Json → List Char
  | .null => "null".toList ++ tail
  | .bool true => "true".toList ++ tail
  | .bool false => "false".toList ++ tail
  | .number literal => literal ++ tail
  | .string text => renderString text ++ tail
  | .array items => '[' :: renderItems (']' :: tail) items
  | .object members => '{' :: renderMembers ('}' :: tail) members

def renderItems (tail : List Char) : List Json → List Char
  | [] => tail
  | [item] => renderOnto tail item
  | item :: rest => renderOnto (',' :: renderItems tail rest) item

def renderMembers (tail : List Char) : List (Option String × Json) → List Char
  | [] => tail
  | [(key, value)] => renderString key ++ ':' :: renderOnto tail value
  | (key, value) :: rest =>
    renderString key ++ ':' :: renderOnto (',' :: renderMembers tail rest) value

end

theorem renderOnto_emptyArray (tail : List Char) :
    renderOnto tail (.array []) = '[' :: ']' :: tail := by
  rw [renderOnto, renderItems]

theorem renderOnto_emptyObject (tail : List Char) :
    renderOnto tail (.object []) = '{' :: '}' :: tail := by
  rw [renderOnto, renderMembers]

/-- The compact form. -/
def render (j : Json) : String := String.ofList (renderOnto [] j)

def newline (level : Nat) : List Char := '\n' :: List.replicate (2 * level) ' '

mutual

def prettyAt (level : Nat) : Json → List Char
  | .array (item :: rest) => '[' :: prettyItems (level + 1) (item :: rest) ++ newline level ++ [']']
  | .object (member :: rest) =>
    '{' :: prettyMembers (level + 1) (member :: rest) ++ newline level ++ ['}']
  | .array [] => ['[', ']']
  | .object [] => ['{', '}']
  | .null => "null".toList
  | .bool true => "true".toList
  | .bool false => "false".toList
  | .number literal => literal
  | .string text => renderString text

def prettyItems (level : Nat) : List Json → List Char
  | [] => []
  | [item] => newline level ++ prettyAt level item
  | item :: rest => newline level ++ prettyAt level item ++ ',' :: prettyItems level rest

def prettyMembers (level : Nat) : List (Option String × Json) → List Char
  | [] => []
  | [(key, value)] => newline level ++ renderString key ++ ':' :: ' ' :: prettyAt level value
  | (key, value) :: rest =>
    newline level ++ renderString key ++ ':' :: ' ' :: prettyAt level value ++
      ',' :: prettyMembers level rest

end

/-- The indented form. -/
def pretty (j : Json) : String := String.ofList (prettyAt 0 j)

end AirflowDeploy.Json
