import AirflowDeploy.Dockerfile.Parser
import AirflowDeploy.Proofs.Text.Cut
import AirflowDeploy.Proofs.Text.Lines

/-!
# Statements of a Dockerfile

What each kind of line does to the statement that is being read, and what is read from a statement
whose words are set apart by single spaces.
-/
namespace AirflowDeploy

open Text

namespace Keyword

theorem name_ascii (keyword : Keyword) : ∀ c ∈ keyword.name.toList, c.toNat < 128 := by
  have hall : keyword.name.toList.all (fun c => c.toNat < 128) = true := by
    cases keyword <;> decide
  simpa using hall

theorem upper_name (keyword : Keyword) :
    keyword.name.toList.map asciiUpper = keyword.name.toList := by
  cases keyword <;> decide

theorem ofName?_name (keyword : Keyword) : ofName? keyword.name = some keyword := by
  cases keyword <;> decide

end Keyword

namespace Dockerfile

variable {escape : Char} {pending : Option Statement} {number : Nat} {line body : List Char}
  {rest : List (List Char)}

/-- What is read from the lines of a file. -/
def parseLines (ls : List (List Char)) : Except DockerfileError Dockerfile := do
  let (escape, number, rest) := afterDirectives '\\' 1 ls
  checkStart (← (statements escape none number rest).mapM Statement.read)

theorem parse_eq (content : String) : parse content = parseLines (lines content.toList) := rfl

@[simp] theorem extend_nil (text : List Char) : extend text [] = text := by
  cases text <;> simp [extend]

@[simp] theorem nil_extend (body : List Char) : extend [] body = body := rfl

theorem extend_assoc (first second third : List Char) :
    extend (extend first second) third = extend first (extend second third) := by
  cases first <;> cases second <;> cases third <;> simp [extend]

theorem linesOfPieces_cons_cons (line next : List Char) (more : List (List Char)) :
    linesOfPieces (line :: next :: more) = dropReturn line :: linesOfPieces (next :: more) := by
  rw [linesOfPieces]
  simp

/-- Only what is left of a line when it is trimmed makes a difference. -/
theorem statements_cons_congr {line' : List Char} {rest' : List (List Char)}
    (hline : trim line' = trim line)
    (hrest : ∀ pending number, statements escape pending number rest' =
      statements escape pending number rest) :
    statements escape pending number (line' :: rest') =
      statements escape pending number (line :: rest) := by
  cases pending <;> simp only [statements, hline, hrest]

/-- An empty last line makes no difference. -/
theorem statements_empty :
    statements escape pending number [[]] = statements escape pending number [] := by
  have hempty : trim [] = [] := rfl
  cases pending with
  | none => simp [statements, hempty]
  | some s =>
    have hlast : continued escape [] = (false, []) := rfl
    simp [statements, hempty, hlast, Statement.finish]

/-- Nor do carriage returns at the ends of lines. -/
theorem statements_linesOfPieces (pending : Option Statement) (number : Nat)
    (ls : List (List Char)) :
    statements escape pending number (linesOfPieces ls) = statements escape pending number ls := by
  induction ls generalizing pending number with
  | nil => rfl
  | cons line ls ih =>
    cases ls with
    | nil =>
      rw [linesOfPieces]
      split
      · next hempty => rw [List.isEmpty_iff.mp hempty, statements_empty]
      · rfl
    | cons next more =>
      rw [linesOfPieces_cons_cons]
      exact statements_cons_congr (trim_dropReturn line) ih

theorem afterDirectives_linesOfPieces (escape : Char) (number : Nat) (ls : List (List Char)) :
    afterDirectives escape number (linesOfPieces ls) =
      ((afterDirectives escape number ls).1, (afterDirectives escape number ls).2.1,
        linesOfPieces (afterDirectives escape number ls).2.2) := by
  induction ls generalizing escape number with
  | nil => rfl
  | cons line ls ih =>
    cases ls with
    | nil =>
      by_cases hempty : line = []
      · subst hempty
        rfl
      · have hsingle : linesOfPieces [line] = [line] := by simp [linesOfPieces, hempty]
        rw [hsingle]
        cases hd : directive? (trim line) <;> simp [afterDirectives, hd, hsingle, linesOfPieces]
    | cons next more =>
      rw [linesOfPieces_cons_cons, afterDirectives, afterDirectives, trim_dropReturn]
      cases directive? (trim line) with
      | some directive => exact ih _ _
      | none => simp [linesOfPieces_cons_cons]

theorem parseLines_linesOfPieces (ls : List (List Char)) :
    parseLines (linesOfPieces ls) = parseLines ls := by
  simp only [parseLines, afterDirectives_linesOfPieces, statements_linesOfPieces]

/-- A text is read by its lines, whatever ends the last one. -/
theorem parse_joinWith {ls : List (List Char)} (h : ∀ l ∈ ls, '\n' ∉ l) :
    parse (String.ofList (joinWith ['\n'] ls)) = parseLines ls := by
  rw [parse_eq, String.toList_ofList, lines]
  cases ls with
  | nil => rfl
  | cons line rest =>
    have hlines : ∀ l ∈ line :: rest, ∀ c ∈ l, isNewline c = false := fun l hl c hc => by
      have hother : c ≠ '\n' := fun he => h l hl (he ▸ hc)
      simpa [isNewline] using hother
    rw [pieces_joinWith rfl (List.cons_ne_nil line rest) hlines, parseLines_linesOfPieces]

/-- A comment is passed over, also within a statement. -/
theorem statements_comment (h : (trim line).head? = some '#') :
    statements escape pending number (line :: rest) =
      statements escape pending (number + 1) rest := by
  cases pending <;> simp [statements, h]

/-- A blank line is passed over between statements. -/
theorem statements_blank (h : trim line = []) :
    statements escape none number (line :: rest) = statements escape none (number + 1) rest := by
  simp [statements, h]

/-- The statement with one more line. -/
def Statement.add (s : Statement) (body : List Char) : Statement := ⟨s.line, extend s.text body⟩

@[simp] theorem Statement.add_nil (s : Statement) : s.add [] = s := by
  simp [Statement.add]

theorem Statement.add_add (s : Statement) (first second : List Char) :
    (s.add first).add second = s.add (extend first second) := by
  simp [Statement.add, extend_assoc]

/-- The continuation character at the end of a line keeps the statement open. -/
theorem statements_continued (h : trim line = body ++ [escape])
    (hhash : (body ++ [escape]).head? ≠ some '#') :
    statements escape pending number (line :: rest) =
      statements escape (some ((pending.getD ⟨number, []⟩).add (trimEnd body))) (number + 1)
        rest := by
  have hcontinued : continued escape (body ++ [escape]) = (true, trimEnd body) := by
    simp [continued]
  have hsolid : (body ++ [escape]).isEmpty = false := by simp
  cases pending <;> simp only [statements, h, hcontinued, hhash, hsolid] <;> rfl

/-- Any other line that is not blank ends the statement. -/
theorem statements_ended (h : trim line = body) (hne : body ≠ []) (hhash : body.head? ≠ some '#')
    (hlast : body.getLast? ≠ some escape) :
    statements escape pending number (line :: rest) =
      ((pending.getD ⟨number, []⟩).add body).finish (statements escape none (number + 1) rest) := by
  have hcontinued : continued escape body = (false, body) := by
    simp [continued, hlast]
  have hsolid : body.isEmpty = false := by simpa using hne
  cases pending <;> simp only [statements, h, hcontinued, hhash, hsolid] <;> rfl

/-- Within a statement a blank line ends it. -/
theorem statements_blank_within (h : trim line = []) (s : Statement) :
    statements escape (some s) number (line :: rest) =
      s.finish (statements escape none (number + 1) rest) := by
  have hcontinued : continued escape [] = (false, []) := rfl
  simp [statements, h, hcontinued]

/-- What a line is to the reader. -/
inductive LineKind (escape : Char) (line : List Char) : Prop where
  | comment (h : (trim line).head? = some '#')
  | blank (h : trim line = [])
  | continued (body : List Char) (h : trim line = body ++ [escape])
      (hhash : (body ++ [escape]).head? ≠ some '#')
  | ended (hne : trim line ≠ []) (hhash : (trim line).head? ≠ some '#')
      (hlast : (trim line).getLast? ≠ some escape)

theorem lineKind (escape : Char) (line : List Char) : LineKind escape line := by
  by_cases hhash : (trim line).head? = some '#'
  · exact .comment hhash
  · by_cases hne : trim line = []
    · exact .blank hne
    · by_cases hlast : (trim line).getLast? = some escape
      · have hbody : (trim line).dropLast ++ [escape] = trim line :=
          List.dropLast_append_getLast? _ hlast
        exact .continued _ hbody.symm (by rwa [hbody])
      · exact .ended hne hhash hlast

/-- A keyword is known in any case of its letters. -/
theorem ofName?_upper {keyword : Keyword} {word : List Char}
    (h : eqAsciiCase word keyword.name.toList = true) :
    Keyword.ofName? (String.ofList (upper word)) = some keyword := by
  rw [upper_of_eqAsciiCase h keyword.name_ascii, keyword.upper_name, String.ofList_toList,
    keyword.ofName?_name]

theorem Statement.read_eq_ok {keyword : Keyword} {word args : List Char} {number : Nat}
    (hkeyword : eqAsciiCase word keyword.name.toList = true)
    (hword : ∀ c ∈ word, isBlank c = false) (hargs : trim args = args) (hne : args ≠ []) :
    Statement.read ⟨number, word ++ ' ' :: args⟩ =
      .ok ⟨keyword, String.ofList args, number⟩ := by
  have hcut : cutFirst isBlank (word ++ ' ' :: args) = (word, some args) :=
    cutFirst_append hword rfl args
  have hsolid : args.isEmpty = false := by simpa using hne
  simp [Statement.read, hcut, ofName?_upper hkeyword, hargs, hsolid]

theorem checkStart_eq_ok {instructions : List Instruction}
    (h : (instructions.map (·.keyword)).find? (· != .arg) = some .fromImage) :
    checkStart instructions = .ok ⟨instructions⟩ := by
  rw [List.find?_map] at h
  obtain ⟨first, hfirst, hkeyword⟩ := Option.map_eq_some_iff.mp h
  have hfound : instructions.find? (fun i => i.keyword != .arg) = some first := hfirst
  rw [checkStart, hfound]
  exact if_pos hkeyword

end Dockerfile

end AirflowDeploy
