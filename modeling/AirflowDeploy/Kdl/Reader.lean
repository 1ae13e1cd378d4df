import AirflowDeploy.Kdl.Text

/-!
# Reading KDL

Nodes with their entries and children, blanks, comments and line continuations. What is marked
with a slash and a dash is read and left out.
-/
namespace AirflowDeploy.Kdl

open AirflowDeploy.Text

/-- The rest after a comment, inside of which other comments are open. -/
def afterComment? : Nat → List Char → Option (List Char)
  | _, [] => none
  | depth, '/' :: '*' :: rest => afterComment? (depth + 1) rest
  | 0, '*' :: '/' :: rest => some rest
  | depth + 1, '*' :: '/' :: rest => afterComment? depth rest
  | depth, _ :: rest => afterComment? depth rest

def skipLine (cs : List Char) : List Char := cs.dropWhile fun c => !isNewline c

/-- Passes over spaces and comments within a line. -/
def skipSpace : Nat → List Char → Option (List Char)
  | 0, cs => some cs
  | fuel + 1, '/' :: '*' :: rest => (afterComment? 0 rest).bind (skipSpace fuel)
  | fuel + 1, c :: rest => if isSpace c then skipSpace fuel rest else some (c :: rest)
  | _ + 1, [] => some []

/-- The rest after the line that a backslash continues: blanks, a comment, the line's end. -/
def afterContinuation? (cs : List Char) : Option (List Char) := do
  match ← skipSpace cs.length cs with
  | [] => some []
  | '/' :: '/' :: rest =>
    let rest := skipLine rest
    some ((afterNewline? rest).getD rest)
  | cs => afterNewline? cs

/-- Passes over blanks and continued lines between the parts of a node. -/
def skipNodeSpace : Nat → List Char → Option (List Char)
  | 0, cs => some cs
  | fuel + 1, cs =>
    match skipSpace cs.length cs with
    | none => none
    | some ('\\' :: rest) => (afterContinuation? rest).bind (skipNodeSpace fuel)
    | some cs => some cs

def nodeSpace (cs : List Char) : Option (List Char) := skipNodeSpace (cs.length + 1) cs

/-- Passes over everything between nodes. -/
def skipLineSpace : Nat → List Char → Option (List Char)
  | 0, cs => some cs
  | fuel + 1, cs =>
    match nodeSpace cs with
    | none => none
    | some ('/' :: '/' :: rest) => skipLineSpace fuel (skipLine rest)
    | some cs =>
      match afterNewline? cs with
      | some rest => skipLineSpace fuel rest
      | none => some cs

def lineSpace (cs : List Char) : Option (List Char) := skipLineSpace (cs.length + 1) cs

/-- The rest after a type in parentheses, if there is one. -/
def afterType? (cs : List Char) : Option (List Char) :=
  match cs with
  | '(' :: rest => do
    let rest ← nodeSpace rest
    let (_, rest) ← readString rest
    match ← nodeSpace rest with
    | ')' :: rest => nodeSpace rest
    | _ => none
  | cs => some cs

def readTypedValue (cs : List Char) : Option (Value × List Char) := (afterType? cs).bind readValue

/-- A property or an argument. -/
def readEntry (cs : List Char) : Option (Entry × List Char) := do
  let (value, rest) ← readTypedValue cs
  match value, cs.head?, nodeSpace rest with
  | .string name, head, some ('=' :: after) =>
    if head = some '(' then none
    let (value, rest) ← readTypedValue (← nodeSpace after)
    return (⟨some name, value⟩, rest)
  | _, _, _ => return (⟨none, value⟩, rest)

/-- Whether an entry can start here. -/
def startsEntry (cs : List Char) : Bool :=
  cs.head?.any fun c => c == '"' || c == '#' || c == '(' || isIdentifierChar c

/-- The entries of a node, each with a blank before it. Stops where none follows. -/
def readEntries : Nat → List Char → Option (List Entry × List Char)
  | 0, _ => none
  | fuel + 1, cs =>
    match nodeSpace cs with
    | none => none
    | some rest =>
      if rest.length < cs.length then
        match rest with
        | '/' :: '-' :: after =>
          match lineSpace after with
          | some ('\x7b' :: _) => some ([], rest)
          | some after => (readEntry after).bind fun r => readEntries fuel r.2
          | none => none
        | rest =>
          if startsEntry rest then
            (readEntry rest).bind fun r =>
              (readEntries fuel r.2).map fun s => (r.1 :: s.1, s.2)
          else some ([], rest)
      else some ([], rest)

/-- The rest after the end of a node. A closing brace and the end of the text stay. -/
def afterTerminator? (cs : List Char) : Option (List Char) :=
  match cs with
  | [] => some []
  | '\x7d' :: _ => some cs
  | ';' :: rest => some rest
  | '/' :: '/' :: rest => some (skipLine rest)
  | cs => afterNewline? cs

mutual

/-- Nodes up to a closing brace or the end of the text. -/
def readNodes : Nat → List Char → Option (List Node × List Char)
  | 0, _ => none
  | fuel + 1, cs =>
    match lineSpace cs with
    | none => none
    | some [] => some ([], [])
    | some ('\x7d' :: rest) => some ([], '\x7d' :: rest)
    | some ('/' :: '-' :: rest) =>
      match lineSpace rest with
      | none => none
      | some rest =>
        (readNode fuel rest).bind fun r => (afterTerminator? r.2).bind (readNodes fuel)
    | some cs =>
      (readNode fuel cs).bind fun r =>
        (afterTerminator? r.2).bind fun rest =>
          (readNodes fuel rest).map fun s => (r.1 :: s.1, s.2)

/-- A node without its end, and the blanks after it. -/
def readNode : Nat → List Char → Option (Node × List Char)
  | 0, _ => none
  | fuel + 1, cs =>
    match (afterType? cs).bind readString with
    | none => none
    | some (name, rest) =>
      match readEntries (rest.length + 1) rest with
      | none => none
      | some (entries, rest) =>
        (readChildren fuel rest).map fun r => (⟨String.ofList name, entries, r.1⟩, r.2)

/-- The children in braces, if there are any, and the blanks after them. -/
def readChildren : Nat → List Char → Option (List Node × List Char)
  | 0, _ => none
  | fuel + 1, cs =>
    match cs with
    | '\x7b' :: rest =>
      match readNodes fuel rest with
      | some (children, '\x7d' :: rest) =>
        (skipHiddenChildren fuel rest).map fun rest => (children, rest)
      | _ => none
    | '/' :: '-' :: rest =>
      match lineSpace rest with
      | some ('\x7b' :: rest) =>
        match readNodes fuel rest with
        | some (_, '\x7d' :: rest) => (nodeSpace rest).bind (readChildren fuel)
        | _ => none
      | _ => none
    | cs => some ([], cs)

/-- The rest after children that are left out. -/
def skipHiddenChildren : Nat → List Char → Option (List Char)
  | 0, _ => none
  | fuel + 1, cs =>
    match nodeSpace cs with
    | some ('/' :: '-' :: rest) =>
      match lineSpace rest with
      | some ('\x7b' :: rest) =>
        match readNodes fuel rest with
        | some (_, '\x7d' :: rest) => skipHiddenChildren fuel rest
        | _ => none
      | _ => none
    | other => other

end

/-- Drops a byte-order mark at the start. -/
def withoutMark (cs : List Char) : List Char :=
  match cs with
  | '\uFEFF' :: rest => rest
  | cs => cs

def read? (text : String) : Option Document :=
  let cs := withoutMark text.toList
  if cs.any isForbidden then none
  else
    match readNodes (cs.length + 1) cs with
    | some (nodes, []) => some nodes
    | _ => none

end AirflowDeploy.Kdl
