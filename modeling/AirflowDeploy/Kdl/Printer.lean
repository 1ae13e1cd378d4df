import AirflowDeploy.Kdl.Basic

/-!
# Writing KDL

One node a line, with four blanks of indentation a level. Strings stand without quotes where
that is possible.
-/
namespace AirflowDeploy.Kdl

/-- Whether a string is written without quotes. -/
def isBare (cs : List Char) : Bool :=
  !cs.isEmpty && cs.all isIdentifierChar && !looksNumeric cs && !reserved.contains cs

def escapeChar (c : Char) : List Char :=
  match c with
  | '\\' => ['\\', '\\']
  | '"' => ['\\', '"']
  | '\n' => ['\\', 'n']
  | '\r' => ['\\', 'r']
  | '\t' => ['\\', 't']
  | '\x08' => ['\\', 'b']
  | '\x0c' => ['\\', 'f']
  | c => [c]

def quote (cs : List Char) : List Char := '"' :: cs.flatMap escapeChar ++ ['"']

def renderString (cs : List Char) : List Char := if isBare cs then cs else quote cs

def Value.render : Value → List Char
  | .string text => renderString text.toList
  | .bool true => "#true".toList
  | .bool false => "#false".toList
  | .null => "#null".toList
  | .number literal => literal

def Entry.render (e : Entry) : List Char :=
  match e.name with
  | some name => renderString name.toList ++ '=' :: e.value.render
  | none => e.value.render

def indentation (level : Nat) : List Char := List.replicate (4 * level) ' '

mutual

def renderNode (level : Nat) : Node → List Char
  | ⟨name, entries, children⟩ =>
    indentation level ++ renderString name.toList ++
      (entries.flatMap fun entry => ' ' :: entry.render) ++
      (if children.isEmpty then []
        else ' ' :: '\x7b' :: '\n' :: renderNodes (level + 1) children ++
          indentation level ++ ['\x7d']) ++
      ['\n']

def renderNodes (level : Nat) : List Node → List Char
  | [] => []
  | node :: rest => renderNode level node ++ renderNodes level rest

end

def render (d : Document) : String := String.ofList (renderNodes 0 d)

end AirflowDeploy.Kdl
