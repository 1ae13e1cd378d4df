import AirflowDeploy.Check.Script
import Mathlib.Tactic.SplitIfs

/-!
# Words of a shell script

How a shell cuts a script into the words of its commands, by its rules of quoting. In the script of
a test run it finds the file as one argument of the runner, whatever the name of the file is.
-/
namespace AirflowDeploy

namespace Shell

/-- A piece of a word: a character that stands for itself, or the exit status of the command
before. -/
inductive Piece where
  | char (c : Char)
  | lastStatus
  deriving DecidableEq, Repr

abbrev Word := List Piece

/-- A word in which every character stands for itself. -/
def literal (text : List Char) : Word := text.map .char

/-- How the next character is read. -/
inductive Quoting where
  | outside
  /-- Behind a backslash outside of quotes. -/
  | escaped
  | single
  | double
  /-- Behind a dollar sign within double quotes. -/
  | dollar
  deriving DecidableEq, Repr

/-- What was read of a script. -/
structure Reading where
  quoting : Quoting := .outside
  /-- The word that has begun, if any. -/
  word : Option Word := none
  /-- The words before it in its command. -/
  words : List Word := []
  /-- The commands before that one. -/
  commands : List (List Word) := []
  deriving DecidableEq, Repr

namespace Reading

def within (r : Reading) (quoting : Quoting) : Reading := { r with quoting := quoting }

/-- Puts pieces at the end of the word, which begins with them if there was none. -/
def add (r : Reading) (pieces : Word) : Reading :=
  { r with word := some (r.word.getD [] ++ pieces) }

def endWord (r : Reading) : Reading := { r with word := none, words := r.words ++ r.word.toList }

/-- A command has at least one word. -/
def endCommand (r : Reading) : Option Reading :=
  if r.endWord.words.isEmpty then none
  else some { r.endWord with words := [], commands := r.commands ++ [r.endWord.words] }

end Reading

/-- Characters without a meaning of their own outside of quotes. -/
def isPlain (c : Char) : Bool := Text.isAsciiAlphanumeric c || ['-', '_', '.', '/'].contains c

/-- Reads one more character. What a script of plain commands has no use for is refused. -/
def step (r : Reading) (c : Char) : Option Reading :=
  match r.quoting with
  | .outside =>
    if c = '\'' then some ((r.add []).within .single)
    else if c = '"' then some ((r.add []).within .double)
    else if c = '\\' then some (r.within .escaped)
    else if c = ' ' || c = '\t' then some r.endWord
    else if c = ';' then r.endCommand
    else if isPlain c then some (r.add [.char c])
    else none
  | .escaped =>
    -- A line end behind a backslash joins two lines.
    some ((if c = '\n' then r else r.add [.char c]).within .outside)
  | .single => some (if c = '\'' then r.within .outside else r.add [.char c])
  | .double =>
    if c = '"' then some (r.within .outside)
    else if c = '$' then some (r.within .dollar)
    else if c = '\\' || c = '\x60' then none
    else some (r.add [.char c])
  | .dollar => if c = '?' then some ((r.add [.lastStatus]).within .double) else none

def follow (r : Reading) (text : List Char) : Option Reading := text.foldlM step r

/-- The words of each command of a script. Every quote has to be closed. -/
def commands? (script : String) : Option (List (List Word)) :=
  (follow {} script.toList).bind fun r =>
    if r.quoting = .outside then r.endCommand.map Reading.commands else none

variable {r : Reading} {text rest : List Char}

theorem follow_append : follow r (text ++ rest) = (follow r text).bind (follow · rest) :=
  List.foldlM_append

theorem follow_cons {c : Char} : follow r (c :: rest) = (step r c).bind (follow · rest) :=
  List.foldlM_cons

namespace Reading

/-- Puts commands before those that were read. -/
def after (r : Reading) (before : List (List Word)) : Reading :=
  { r with commands := before ++ r.commands }

theorem endCommand_after (r : Reading) (before : List (List Word)) :
    (r.after before).endCommand = r.endCommand.map (·.after before) := by
  have hword : (r.after before).endWord = r.endWord.after before := rfl
  have hwords : (r.endWord.after before).words = r.endWord.words := rfl
  rw [endCommand, endCommand, hword, hwords]
  split_ifs
  · rfl
  · simp [after]

end Reading

/-- The commands before have no part in how a character is read. -/
theorem step_after (r : Reading) (before : List (List Word)) (c : Char) :
    step (r.after before) c = (step r c).map (·.after before) := by
  have hquoting : (r.after before).quoting = r.quoting := rfl
  rw [step, step, hquoting]
  cases r.quoting with
  | outside =>
    dsimp only
    split_ifs
    · rfl
    · rfl
    · rfl
    · rfl
    · exact r.endCommand_after before
    · rfl
    · rfl
  | _ =>
    dsimp only
    split_ifs <;> rfl

theorem follow_after (r : Reading) (before : List (List Word)) (text : List Char) :
    follow (r.after before) text = (follow r text).map (·.after before) := by
  induction text generalizing r with
  | nil => rfl
  | cons c text ih =>
    rw [follow_cons, follow_cons, step_after, Option.bind_map, Option.map_bind]
    exact Option.bind_congr fun next _ => ih next

@[simp] theorem Reading.add_add (r : Reading) (v w : Word) : (r.add v).add w = r.add (v ++ w) := by
  simp [add]

@[simp] theorem Reading.within_within (r : Reading) (q q' : Quoting) :
    (r.within q).within q' = r.within q' := rfl

@[simp] theorem Reading.add_within (r : Reading) (q : Quoting) (w : Word) :
    (r.within q).add w = (r.add w).within q := rfl

theorem step_single (r : Reading) (c : Char) :
    step (r.within .single) c =
      some (if c = '\'' then r.within .outside else (r.add [.char c]).within .single) := rfl

/-- What a character of a text is written as within the quotes. -/
def quoted (c : Char) : List Char := if c = '\'' then ['\'', '\\', '\'', '\''] else [c]

theorem toList_quote (text : String) :
    (Check.quote text).toList = '\'' :: (text.toList.flatMap quoted ++ ['\'']) := by
  rw [Check.quote, String.toList_ofList]
  rfl

/-- Within the quotes every character is read back as itself, and the quotes stay open. -/
theorem follow_quoted (r : Reading) (text : List Char) (w : Word) :
    follow ((r.add w).within .single) (text.flatMap quoted) =
      some ((r.add (w ++ literal text)).within .single) := by
  induction text generalizing w with
  | nil => simp [follow, literal]
  | cons c text ih =>
    have hchar : follow ((r.add w).within .single) (quoted c) =
        some ((r.add (w ++ [.char c])).within .single) := by
      by_cases hc : c = '\''
      · -- The quotes are closed, the quote is read behind a backslash, and they open again.
        subst hc
        have hread : follow ((r.add w).within .single) (quoted '\'') =
            some ((((r.add w).add [.char '\'']).add []).within .single) := rfl
        rw [hread, Reading.add_add, Reading.add_add, List.append_nil]
      · have hread : follow ((r.add w).within .single) [c] =
            step ((r.add w).within .single) c := by simp [follow]
        rw [quoted, if_neg hc, hread, step_single, if_neg hc, Reading.add_add]
    rw [List.flatMap_cons, follow_append, hchar, Option.bind_some, ih, literal, literal,
      List.map_cons, List.append_assoc, List.singleton_append]

/-- Outside of quotes a quoted text is read as a part of a word, and the quotes are closed. -/
theorem follow_quote (houtside : r.quoting = .outside) (text : String) :
    follow r (Check.quote text).toList = some (r.add (literal text.toList)) := by
  have hsame (w : Word) : (r.add w).within .outside = r.add w := by
    rw [← houtside]
    rfl
  have hopen : step r '\'' = some ((r.add []).within .single) := by
    rw [step, houtside]
    rfl
  have hclose (w : Word) : follow ((r.add w).within .single) ['\''] = some (r.add w) := by
    rw [← hsame w]
    rfl
  rw [toList_quote, follow_cons, hopen, Option.bind_some, follow_append, follow_quoted,
    Option.bind_some, List.nil_append, hclose]

/-- The command that runs the tests of a file. -/
def runner (file : String) : List Word :=
  [literal "pytest".toList, literal "--disable-warnings".toList, literal file.toList]

/-- The command that tells how the one before has ended. -/
def teller : List Word := [literal "echo".toList, literal "exit code ".toList ++ [.lastStatus]]

theorem toList_testScript (file : Option String) :
    (Check.testScript file).toList = "pytest --disable-warnings ".toList ++
      ((Check.quote (file.getD Check.defaultTests)).toList ++
        ';' :: " echo \"exit code $?\"".toList) := by
  have hend : "; echo \"exit code $?\"".toList = ';' :: " echo \"exit code $?\"".toList := by
    decide +kernel
  unfold Check.testScript
  simp only [Check.marker, String.append_assoc, String.reduceAppend]
  rw [String.toList_append, String.toList_append, hend]

/-- The runner is started with the file as its last argument, and then the teller. -/
theorem commands?_testScript (file : Option String) :
    commands? (Check.testScript file) = some [runner (file.getD Check.defaultTests), teller] := by
  let target := file.getD Check.defaultTests
  let started : Reading :=
    { words := [literal "pytest".toList, literal "--disable-warnings".toList] }
  let told : Reading := { word := teller[1]?, words := [literal "echo".toList] }
  have hstarted : follow {} "pytest --disable-warnings ".toList = some started := by
    decide +kernel
  have htarget : follow started (Check.quote target).toList =
      some (started.add (literal target.toList)) := follow_quote rfl target
  have hended : step (started.add (literal target.toList)) ';' =
      some (({} : Reading).after [runner target]) := rfl
  have htold : follow {} " echo \"exit code $?\"".toList = some told := by decide +kernel
  rw [commands?, toList_testScript, follow_append, hstarted, Option.bind_some, follow_append,
    htarget, Option.bind_some, follow_cons, hended, Option.bind_some, follow_after, htold]
  rfl

/-- A quoted text is read as one word, which is the text, and the quotes are closed behind it. So
the runner of the tests gets the file as one argument, and its exit status is told by a command of
its own, whatever the file is. -/
theorem quote_reads_as_one_word (text : String) (file : Option String) :
    (∀ r : Reading, r.quoting = .outside → r.word = none →
      follow r (Check.quote text).toList = some { r with word := some (literal text.toList) }) ∧
    ∃ script, Check.testCommand file = ["sh", "-c", script] ∧
      commands? script = some [
        [literal "pytest".toList, literal "--disable-warnings".toList,
          literal (file.getD Check.defaultTests).toList],
        [literal "echo".toList, literal "exit code ".toList ++ [.lastStatus]]] := by
  refine ⟨fun r houtside hword => ?_, Check.testScript file, rfl, commands?_testScript file⟩
  rw [follow_quote houtside, Reading.add, hword]
  rfl

/-- Without quotes such a name makes several arguments and a further command. -/
example : (commands? "pytest tests/a b; rm c").map (·.map List.length) = some [3, 2] := by
  decide +kernel

end Shell

end AirflowDeploy
