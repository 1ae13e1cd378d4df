import AirflowDeploy.Proofs.Dockerfile.Layout
import AirflowDeploy.Proofs.Dockerfile.Shape

/-!
# Lines inserted into a Dockerfile

A comment that is inserted behind the directives moves the instructions below it down by one line
and changes nothing else. A blank line does the same, unless it stands within an instruction that
goes on below it: there it ends the instruction, and what follows is read as another one.
-/
namespace AirflowDeploy

open Text

/-- The instruction, one line further down if it starts below line `k`. -/
def Instruction.movedDown (k : Nat) (i : Instruction) : Instruction :=
  if k < i.line then { i with line := i.line + 1 } else i

namespace Dockerfile

def movedDown (k : Nat) (d : Dockerfile) : Dockerfile :=
  ⟨d.instructions.map (Instruction.movedDown k)⟩

/-- The lines of a text, with the empty one behind a newline at the end. -/
def textLines (content : String) : List (List Char) := pieces isNewline content.toList

def ofLines (ls : List (List Char)) : String := String.ofList (joinWith ['\n'] ls)

/-- The continuation character that the directives of a file choose. -/
def continuation (ls : List (List Char)) : Char := (afterDirectives '\\' 1 ls).1

def isComment (line : List Char) : Bool := (trim line).head? == some '#'

/-- Whether the instruction on a line goes on below it. -/
def goesOn (escape : Char) (line : List Char) : Bool := (trim line).getLast? == some escape

/-- Whether an instruction is open behind some lines: the last one that is no comment goes on. -/
def endsOpen (escape : Char) (ls : List (List Char)) : Bool :=
  (ls.filter fun line => !isComment line).getLast?.any (goesOn escape)

/-- Whether some lines add nothing to an instruction that is open in front of them: below comments
and lines with the continuation character alone there is a blank line, or none. -/
def addsNothing (escape : Char) (ls : List (List Char)) : Bool :=
  (ls.dropWhile fun line => isComment line || trim line == [escape]).head?.all
    fun line => (trim line).isEmpty

variable {escape : Char} {pending : Option Statement} {number k : Nat} {line : List Char}
  {ls first rest : List (List Char)}

/-- The statement, one line further down if it starts below line `k`. -/
def Statement.movedDown (k : Nat) (s : Statement) : Statement :=
  if k < s.line then { s with line := s.line + 1 } else s

theorem Statement.movedDown_of_lt {s : Statement} (h : k < s.line) :
    s.movedDown k = ⟨s.line + 1, s.text⟩ := if_pos h

theorem Statement.movedDown_of_le {s : Statement} (h : s.line ≤ k) : s.movedDown k = s :=
  if_neg (Nat.not_lt.mpr h)

theorem Statement.movedDown_add (s : Statement) (body : List Char) :
    (s.add body).movedDown k = (s.movedDown k).add body := by
  unfold Statement.movedDown Statement.add
  split <;> rfl

theorem Statement.map_movedDown_finish (s : Statement) (ss : List Statement) :
    (s.finish ss).map (Statement.movedDown k) =
      (s.movedDown k).finish (ss.map (Statement.movedDown k)) := by
  have htext : (s.movedDown k).text = s.text := by
    unfold Statement.movedDown
    split <;> rfl
  unfold Statement.finish
  rw [htext]
  split <;> rfl

/-- Statements are read in the same way one line further down. -/
theorem statements_succ (hk : k < number) :
    statements escape (pending.map (Statement.movedDown k)) (number + 1) ls =
      (statements escape pending number ls).map (Statement.movedDown k) := by
  induction ls generalizing pending number with
  | nil =>
    cases pending with
    | none => rfl
    | some s => exact (s.map_movedDown_finish []).symm
  | cons line ls ih =>
    have hnext : statements escape ((none : Option Statement).map (Statement.movedDown k))
        (number + 1 + 1) ls =
          (statements escape none (number + 1) ls).map (Statement.movedDown k) :=
      ih (Nat.lt_succ_of_lt hk)
    rw [Option.map_none] at hnext
    have hadd (body : List Char) :
        ((pending.map (Statement.movedDown k)).getD (Statement.mk (number + 1) [])).add body =
          ((pending.getD ⟨number, []⟩).add body).movedDown k := by
      rw [Statement.movedDown_add]
      cases pending with
      | none => rw [Option.map_none, Option.getD_none, Option.getD_none,
          Statement.movedDown_of_lt hk]
      | some s => rfl
    rcases lineKind escape line with hcomment | hblank | ⟨body, hline, hhash⟩ | ⟨hne, hhash, hlast⟩
    · rw [statements_comment hcomment, statements_comment hcomment, ih (Nat.lt_succ_of_lt hk)]
    · cases pending with
      | none => rw [Option.map_none, statements_blank hblank, statements_blank hblank, hnext]
      | some s => rw [Option.map_some, statements_blank_within hblank,
          statements_blank_within hblank, Statement.map_movedDown_finish, hnext]
    · rw [statements_continued hline hhash, statements_continued hline hhash, hadd,
        ← ih (Nat.lt_succ_of_lt hk), Option.map_some]
    · rw [statements_ended rfl hne hhash hlast, statements_ended rfl hne hhash hlast, hadd,
        Statement.map_movedDown_finish, hnext]

theorem goesOn_of_blank (h : trim line = []) : goesOn escape line = false := by
  simp [goesOn, h]

theorem goesOn_of_continued {body : List Char} (h : trim line = body ++ [escape]) :
    goesOn escape line = true := by
  simp [goesOn, h]

theorem goesOn_of_ended (h : (trim line).getLast? ≠ some escape) : goesOn escape line = false :=
  beq_false_of_ne h

/-- Whether an instruction is open behind some lines, where one may be open in front of them. -/
def staysOpen (escape : Char) (isOpen : Bool) (ls : List (List Char)) : Bool :=
  (ls.filter fun line => !isComment line).getLast?.elim isOpen (goesOn escape)

theorem staysOpen_false (ls : List (List Char)) :
    staysOpen escape false ls = endsOpen escape ls := by
  unfold staysOpen endsOpen
  cases (ls.filter fun line => !isComment line).getLast? <;> rfl

theorem staysOpen_of_comment {isOpen : Bool} (h : (trim line).head? = some '#')
    (ls : List (List Char)) :
    staysOpen escape isOpen (line :: ls) = staysOpen escape isOpen ls := by
  simp [staysOpen, isComment, h]

theorem staysOpen_cons {isOpen : Bool} (h : (trim line).head? ≠ some '#') (ls : List (List Char)) :
    staysOpen escape isOpen (line :: ls) = staysOpen escape (goesOn escape line) ls := by
  have hcomment : isComment line = false := beq_false_of_ne h
  unfold staysOpen
  rw [List.filter_cons_of_pos (by simp [hcomment]), List.getLast?_cons]
  cases (ls.filter fun line => !isComment line).getLast? <;> rfl

/-- What is known behind some lines: the statements that are finished, and the open one. -/
structure Progress (escape : Char) (pending : Option Statement) (number : Nat)
    (ls : List (List Char)) (done : List Statement) (current : Option Statement) : Prop where
  append : ∀ rest, statements escape pending number (ls ++ rest) =
    done ++ statements escape current (number + ls.length) rest
  done_lt : ∀ s ∈ done, s.line < number + ls.length
  current_lt : ∀ s ∈ current, s.line < number + ls.length
  isSome : current.isSome = staysOpen escape pending.isSome ls

/-- A line that finishes nothing. -/
theorem Progress.cons {done : List Statement} {current next : Option Statement}
    (h : Progress escape next (number + 1) ls done current)
    (hline : ∀ rest, statements escape pending number (line :: rest) =
      statements escape next (number + 1) rest)
    (hopen : staysOpen escape pending.isSome (line :: ls) = staysOpen escape next.isSome ls) :
    Progress escape pending number (line :: ls) done current := by
  constructor
  · intro rest
    rw [List.cons_append, hline, h.append, add_length_cons]
  · rw [add_length_cons]
    exact h.done_lt
  · rw [add_length_cons]
    exact h.current_lt
  · rw [hopen, h.isSome]

/-- A line that finishes a statement. -/
theorem Progress.cons_finish {done : List Statement} {current : Option Statement} {s : Statement}
    (h : Progress escape none (number + 1) ls done current)
    (hline : ∀ rest, statements escape pending number (line :: rest) =
      s.finish (statements escape none (number + 1) rest)) (hs : s.line ≤ number)
    (hopen : staysOpen escape pending.isSome (line :: ls) = staysOpen escape false ls) :
    Progress escape pending number (line :: ls) (s.finish done) current := by
  constructor
  · intro rest
    rw [List.cons_append, hline, h.append, add_length_cons]
    unfold Statement.finish
    split <;> rfl
  · rw [add_length_cons]
    unfold Statement.finish
    split
    · exact h.done_lt
    · exact List.forall_mem_cons.mpr ⟨by omega, h.done_lt⟩
  · rw [add_length_cons]
    exact h.current_lt
  · rw [hopen, h.isSome]
    rfl

theorem exists_progress (escape : Char) (h : ∀ s ∈ pending, s.line < number)
    (ls : List (List Char)) : ∃ done current, Progress escape pending number ls done current := by
  induction ls generalizing pending number with
  | nil => exact ⟨[], pending, fun _ => rfl, by simp, h, rfl⟩
  | cons line ls ih =>
    have hstart : (pending.getD ⟨number, []⟩).line ≤ number := by
      cases pending with
      | none => exact le_rfl
      | some s => exact (h s rfl).le
    have hnone : ∀ s ∈ (none : Option Statement), s.line < number + 1 := fun _ hs => by cases hs
    rcases lineKind escape line with hcomment | hblank | ⟨body, hline, hhash⟩ | ⟨hne, hhash, hlast⟩
    · obtain ⟨done, current, hls⟩ := ih fun s hs => Nat.lt_succ_of_lt (h s hs)
      exact ⟨done, current, hls.cons (fun _ => statements_comment hcomment)
        (staysOpen_of_comment hcomment ls)⟩
    · obtain ⟨done, current, hls⟩ := ih hnone
      have hopen : staysOpen escape pending.isSome (line :: ls) = staysOpen escape false ls := by
        rw [staysOpen_cons (by simp [hblank]), goesOn_of_blank hblank]
      cases pending with
      | none => exact ⟨done, current, hls.cons (fun _ => statements_blank hblank) hopen⟩
      | some s => exact ⟨_, current, hls.cons_finish
          (fun _ => statements_blank_within hblank s) hstart hopen⟩
    · have hadded : ∀ s ∈ some ((pending.getD ⟨number, []⟩).add (trimEnd body)),
          s.line < number + 1 := by
        rintro _ ⟨⟩
        exact Nat.lt_succ_of_le hstart
      obtain ⟨done, current, hls⟩ := ih hadded
      refine ⟨done, current, hls.cons (fun _ => statements_continued hline hhash) ?_⟩
      rw [staysOpen_cons (by rwa [hline]), goesOn_of_continued hline]
      rfl
    · obtain ⟨done, current, hls⟩ := ih hnone
      refine ⟨_, current, hls.cons_finish (s := (pending.getD ⟨number, []⟩).add (trim line))
        (fun _ => statements_ended rfl hne hhash hlast) hstart ?_⟩
      rw [staysOpen_cons hhash, goesOn_of_ended hlast]

theorem addsNothing_of_comment (h : (trim line).head? = some '#') (ls : List (List Char)) :
    addsNothing escape (line :: ls) = addsNothing escape ls := by
  simp [addsNothing, isComment, h]

theorem addsNothing_of_bare (h : trim line = [escape]) (ls : List (List Char)) :
    addsNothing escape (line :: ls) = addsNothing escape ls := by
  simp [addsNothing, h]

theorem addsNothing_of_blank (h : trim line = []) (ls : List (List Char)) :
    addsNothing escape (line :: ls) = true := by
  simp [addsNothing, isComment, h]

theorem addsNothing_of_words (hhash : (trim line).head? ≠ some '#') (hne : trim line ≠ [])
    (hbare : trim line ≠ [escape]) (ls : List (List Char)) :
    addsNothing escape (line :: ls) = false := by
  simp [addsNothing, isComment, hhash, hne, hbare]

/-- Lines that add nothing to a statement leave it as it is. -/
theorem statements_of_addsNothing (h : addsNothing escape ls = true) (s : Statement) :
    statements escape (some s) number ls = s.finish (statements escape none number ls) := by
  induction ls generalizing s number with
  | nil => rfl
  | cons line ls ih =>
    rcases lineKind escape line with hcomment | hblank | ⟨body, hline, hhash⟩ | ⟨hne, hhash, hlast⟩
    · rw [addsNothing_of_comment hcomment] at h
      rw [statements_comment hcomment, statements_comment hcomment, ih h]
    · rw [statements_blank_within hblank, statements_blank hblank]
    · by_cases hbody : body = []
      · subst hbody
        rw [addsNothing_of_bare hline] at h
        have hnone : trimEnd [] = [] := rfl
        rw [statements_continued hline hhash, statements_continued hline hhash, hnone,
          Statement.add_nil, Statement.add_nil, Option.getD_some, Option.getD_none, ih h, ih h]
        rfl
      · have hbare : trim line ≠ [escape] := by simp [hline, hbody]
        rw [addsNothing_of_words (by rwa [hline]) (by simp [hline]) hbare] at h
        cases h
    · have hbare : trim line ≠ [escape] := by
        intro hbare
        simp [hbare] at hlast
      rw [addsNothing_of_words hhash hne hbare] at h
      cases h

theorem extend_ne_nil {text : List Char} (h : text ≠ []) (body : List Char) :
    extend text body ≠ [] := by
  unfold extend
  split <;> simp [h]

theorem Statement.finish_add {body : List Char} (h : body ≠ []) (s : Statement)
    (ss : List Statement) : (s.add body).finish ss = s.add body :: ss := by
  have hsolid : (s.add body).text.isEmpty = false := by
    unfold Statement.add extend
    split <;> simp [h]
  simp [Statement.finish, hsolid]

/-- Words in front of the continuation character are words without the blanks behind them. -/
theorem trimEnd_ne_nil {body : List Char} (h : trim line = body ++ [escape]) (hbody : body ≠ []) :
    trimEnd body ≠ [] := by
  obtain ⟨c, cs, rfl⟩ := List.exists_cons_of_ne_nil hbody
  have hc : isBlank c = false := head?_trim line c (by simp [h])
  rw [trimEnd_cons hc]
  exact List.cons_ne_nil c _

/-- A text that was added stays in the statement, whatever stood in front of it. -/
theorem exists_add_of_ne_nil {body : List Char} (hbody : body ≠ []) (number : Nat)
    (ls : List (List Char)) : ∃ text more, ∀ s : Statement,
      statements escape (some (s.add body)) number ls = s.add text :: more := by
  induction ls generalizing body number with
  | nil => exact ⟨body, [], fun s => s.finish_add hbody []⟩
  | cons line ls ih =>
    rcases lineKind escape line with hcomment | hblank | ⟨next, hline, hhash⟩ | ⟨hne, hhash, hlast⟩
    · obtain ⟨text, more, hall⟩ := ih hbody (number + 1)
      exact ⟨text, more, fun s => (statements_comment hcomment).trans (hall s)⟩
    · exact ⟨body, _, fun s => (statements_blank_within hblank _).trans (s.finish_add hbody _)⟩
    · obtain ⟨text, more, hall⟩ := ih (extend_ne_nil hbody (trimEnd next)) (number + 1)
      refine ⟨text, more, fun s => ?_⟩
      rw [statements_continued hline hhash, Option.getD_some, Statement.add_add, hall]
    · refine ⟨extend body (trim line), statements escape none (number + 1) ls, fun s => ?_⟩
      rw [statements_ended rfl hne hhash hlast, Option.getD_some, Statement.add_add,
        Statement.finish_add (extend_ne_nil hbody _)]

/-- Lines that add something to a statement make one of their own where none is open. -/
theorem exists_add_of_addsNothing (h : addsNothing escape ls = false) (number : Nat) :
    ∃ first text more, statements escape none number ls = first :: more ∧
      ∀ s : Statement, statements escape (some s) number ls = s.add text :: more := by
  induction ls generalizing number with
  | nil => cases h
  | cons line ls ih =>
    rcases lineKind escape line with hcomment | hblank | ⟨body, hline, hhash⟩ | ⟨hne, hhash, hlast⟩
    · rw [addsNothing_of_comment hcomment] at h
      obtain ⟨first, text, more, hnone, hsome⟩ := ih h (number + 1)
      exact ⟨first, text, more, (statements_comment hcomment).trans hnone,
        fun s => (statements_comment hcomment).trans (hsome s)⟩
    · rw [addsNothing_of_blank hblank] at h
      cases h
    · by_cases hbody : body = []
      · subst hbody
        rw [addsNothing_of_bare hline] at h
        obtain ⟨first, text, more, -, hsome⟩ := ih h (number + 1)
        refine ⟨_, text, more, (statements_continued hline hhash).trans (hsome _), fun s => ?_⟩
        have hnone : trimEnd [] = [] := rfl
        rw [statements_continued hline hhash, hnone, Statement.add_nil, hsome, Option.getD_some]
      · -- The words of this line are enough: what follows them only adds to their statement.
        obtain ⟨text, more, hall⟩ :=
          exists_add_of_ne_nil (trimEnd_ne_nil hline hbody) (number + 1) ls
        exact ⟨_, text, more, (statements_continued hline hhash).trans (hall _),
          fun s => (statements_continued hline hhash).trans (hall s)⟩
    · have hended (pending : Option Statement) : statements escape pending number (line :: ls) =
          (pending.getD ⟨number, []⟩).add (trim line) :: statements escape none (number + 1) ls :=
        (statements_ended rfl hne hhash hlast).trans (Statement.finish_add hne _ _)
      exact ⟨_, trim line, _, hended none, fun s => hended (some s)⟩

theorem Statement.read_movedDown {s : Statement} {i : Instruction} (h : s.read = .ok i) :
    (s.movedDown k).read = .ok (i.movedDown k) := by
  have hread (number : Nat) : Statement.read ⟨number, s.text⟩ = .ok { i with line := number } := by
    unfold Statement.read at h ⊢
    simp only at h ⊢
    split at h
    · cases h
    · split at h
      · cases h
      · next hne =>
        rw [if_neg hne]
        exact congrArg Except.ok (by rw [← Except.ok.inj h])
  have hline : i.line = s.line := (Statement.read_ok h).1
  unfold Statement.movedDown Instruction.movedDown
  rw [hline]
  split
  · exact hread _
  · exact h

theorem ReadFrom.movedDown {ss : List Statement} {instructions : List Instruction}
    (h : ReadFrom ss instructions) :
    ReadFrom (ss.map (Statement.movedDown k)) (instructions.map (Instruction.movedDown k)) := by
  rw [ReadFrom, List.forall₂_map_left_iff, List.forall₂_map_right_iff]
  exact h.imp fun _ _ => Statement.read_movedDown

theorem StartsWithFrom.movedDown {instructions : List Instruction}
    (h : StartsWithFrom instructions) :
    StartsWithFrom (instructions.map (Instruction.movedDown k)) := by
  have hkeyword (i : Instruction) : (i.movedDown k).keyword = i.keyword := by
    unfold Instruction.movedDown
    split <;> rfl
  obtain ⟨first, hfirst, hfrom⟩ := h
  refine ⟨first.movedDown k, ?_, (hkeyword first).trans hfrom⟩
  rw [List.find?_map]
  simp only [Function.comp_def, hkeyword, hfirst, Option.map_some]

theorem afterDirectives_append (h : ∃ line ∈ first, directive? (trim line) = none) (escape : Char)
    (number : Nat) (rest : List (List Char)) :
    afterDirectives escape number (first ++ rest) =
      ((afterDirectives escape number first).1, (afterDirectives escape number first).2.1,
        (afterDirectives escape number first).2.2 ++ rest) := by
  induction first generalizing escape number with
  | nil =>
    obtain ⟨_, hline, -⟩ := h
    cases hline
  | cons line first ih =>
    rw [List.cons_append, afterDirectives, afterDirectives]
    cases hd : directive? (trim line) with
    | none => rfl
    | some directive =>
      obtain ⟨plain, hplain, hnone⟩ := h
      rcases List.mem_cons.mp hplain with rfl | hplain
      · rw [hd] at hnone
        cases hnone
      · exact ih ⟨plain, hplain, hnone⟩ _ _

theorem isComment_of_directive? (h : (directive? (trim line)).isSome = true) :
    isComment line = true := by
  by_contra hother
  have hhash : (trim line).head? ≠ some '#' := by simpa [isComment] using hother
  rw [directive?_eq_none hhash] at h
  cases h

/-- What is known at a position behind the directives. -/
structure Position (first : List (List Char)) (done : List Statement)
    (current : Option Statement) : Prop where
  append : ∀ rest, fileStatements (first ++ rest) =
    done ++ statements (continuation first) current (first.length + 1) rest
  done_le : ∀ s ∈ done, s.line ≤ first.length
  current_le : ∀ s ∈ current, s.line ≤ first.length
  isSome : current.isSome = endsOpen (continuation first) first

theorem exists_position (h : ∃ line ∈ first, directive? (trim line) = none) :
    ∃ done current, Position first done current := by
  obtain ⟨directives, hsplit, -, hall⟩ := exists_directives '\\' 1 first
  have hnone : ∀ s ∈ (none : Option Statement), s.line < (afterDirectives '\\' 1 first).2.1 :=
    fun _ hs => by cases hs
  obtain ⟨done, current, hprogress⟩ :=
    exists_progress (continuation first) hnone (afterDirectives '\\' 1 first).2.2
  have hhigh := length_afterDirectives first
  refine ⟨done, current, fun rest => ?_, fun s hs => ?_, fun s hs => ?_, ?_⟩
  · rw [fileStatements, afterDirectives_append h, ← hhigh]
    exact hprogress.append rest
  · have hlt := hprogress.done_lt s hs
    omega
  · have hlt := hprogress.current_lt s hs
    omega
  · have hcomments : directives.filter (fun line => !isComment line) = [] :=
      List.filter_eq_nil_iff.mpr fun line hline => by
        simp [isComment_of_directive? (hall line hline)]
    have hfilter : first.filter (fun line => !isComment line) =
        (afterDirectives '\\' 1 first).2.2.filter fun line => !isComment line :=
      (congrArg (List.filter _) hsplit).trans
        (by rw [List.filter_append, hcomments, List.nil_append])
    rw [hprogress.isSome, Option.isSome_none, staysOpen_false, endsOpen, endsOpen, hfilter]

variable {content : String} {d : Dockerfile}

theorem parse_ofLines (hls : ∀ line ∈ ls, '\n' ∉ line) : parse (ofLines ls) = parseLines ls :=
  parse_joinWith hls

theorem parse_eq_textLines (content : String) : parse content = parseLines (textLines content) := by
  rw [parse_eq, textLines, lines, parseLines_linesOfPieces]

theorem newline_not_mem_textLines (content : String) : ∀ line ∈ textLines content, '\n' ∉ line :=
  fun line hline hmem => by cases not_of_mem_pieces content.toList line hline _ hmem

theorem newline_not_mem_inserted (hlines : textLines content = first ++ rest)
    (hline : '\n' ∉ line) : ∀ l ∈ first ++ line :: rest, '\n' ∉ l := by
  have hall : ∀ l ∈ first ++ rest, '\n' ∉ l := hlines ▸ newline_not_mem_textLines content
  intro l hl
  rcases List.mem_append.mp hl with hl | hl
  · exact hall l (List.mem_append_left _ hl)
  · rcases List.mem_cons.mp hl with rfl | hl
    · exact hline
    · exact hall l (List.mem_append_right _ hl)

/-- The statements of the file, those below the position moved down by one line. -/
theorem Position.map_movedDown {done : List Statement} {current : Option Statement}
    (h : Position first done current) (rest : List (List Char)) :
    (fileStatements (first ++ rest)).map (Statement.movedDown first.length) =
      done ++ statements (continuation first) current (first.length + 1 + 1) rest := by
  have hdone : done.map (Statement.movedDown first.length) = done :=
    (List.map_congr_left fun s hs => Statement.movedDown_of_le (h.done_le s hs)).trans
      (List.map_id done)
  have hcurrent : current.map (Statement.movedDown first.length) = current := by
    cases hs : current with
    | none => rfl
    | some s => rw [Option.map_some, Statement.movedDown_of_le (h.current_le s hs)]
  have hmoved : statements (continuation first) (current.map (Statement.movedDown first.length))
      (first.length + 1 + 1) rest =
        (statements (continuation first) current (first.length + 1) rest).map
          (Statement.movedDown first.length) := statements_succ (Nat.lt_succ_self first.length)
  rw [hcurrent] at hmoved
  rw [h.append, List.map_append, hdone, ← hmoved]

/-- A line that leaves the open statement as it is moves the instructions below it down. -/
theorem parseLines_insert {done : List Statement} {current : Option Statement}
    (h : Position first done current) (hparse : parseLines (first ++ rest) = .ok d)
    (hline : statements (continuation first) current (first.length + 1) (line :: rest) =
      statements (continuation first) current (first.length + 1 + 1) rest) :
    parseLines (first ++ line :: rest) = .ok (d.movedDown first.length) := by
  obtain ⟨hread, hstart⟩ := parseLines_eq_ok_iff.mp hparse
  rw [parseLines_eq_ok_iff, h.append, hline, ← h.map_movedDown]
  exact ⟨hread.movedDown, hstart.movedDown⟩

/-- A blank line within a statement that goes on makes two statements of it, or one that starts
further down. -/
theorem parseLines_blank_ne {done : List Statement} {s : Statement}
    (h : Position first done (some s)) (hparse : parseLines (first ++ rest) = .ok d)
    (hblank : trim line = []) (hadds : addsNothing (continuation first) rest = false) :
    parseLines (first ++ line :: rest) ≠ .ok (d.movedDown first.length) := by
  intro hinserted
  have hmoved := (parseLines_eq_ok_iff.mp hparse).1.movedDown (k := first.length)
  have hlines := hmoved.map_line.symm.trans (parseLines_eq_ok_iff.mp hinserted).1.map_line
  obtain ⟨t, text, more, hnone, hsome⟩ :=
    exists_add_of_addsNothing hadds (first.length + 1 + 1)
  have hbelow : first.length + 1 + 1 ≤ t.line := by
    have hordered : Ordered (first.length + 1 + 1) (first.length + 1 + 1 + rest.length)
        (statements (continuation first) none (first.length + 1 + 1) rest) :=
      ordered_statements (fun _ hs => by cases hs) le_rfl
    exact (hordered.bounds t (by simp [hnone])).1
  have habove := h.current_le s rfl
  rw [h.map_movedDown, hsome, h.append, statements_blank_within hblank, hnone, List.map_append,
    List.map_append, List.append_cancel_left_eq] at hlines
  -- An open statement without text starts only below the blank line; one with text is finished
  -- there, so that the file has one statement more.
  unfold Statement.finish at hlines
  split at hlines
  · have hsame : s.line = t.line := (List.cons.inj hlines).1
    omega
  · have hlength := congrArg List.length hlines
    simp at hlength

/-- A comment moves the instructions below it down by one line. A blank line does so exactly where
no instruction is open in front of it, or the lines below it add nothing to the open one. -/
theorem parse_inserted (hlines : textLines content = first ++ rest)
    (hfirst : ∃ line ∈ first, directive? (trim line) = none) (hparse : parse content = .ok d)
    (comment : Comment) (blank : Blanks) :
    parse (ofLines (first ++ comment.line :: rest)) = .ok (d.movedDown first.length) ∧
    (parse (ofLines (first ++ blank.chars :: rest)) = .ok (d.movedDown first.length) ↔
      (endsOpen (continuation (textLines content)) first = true →
        addsNothing (continuation (textLines content)) rest = true)) := by
  have hcontinuation : continuation (first ++ rest) = continuation first := by
    rw [continuation, afterDirectives_append hfirst, ← continuation]
  -- Whether an instruction is open is known from `current`, the open statement behind `first`.
  obtain ⟨done, current, hposition⟩ := exists_position hfirst
  rw [parse_eq_textLines, hlines] at hparse
  have htrim : trim blank.chars = [] := trim_eq_nil blank.blank
  rw [hlines, hcontinuation, ← hposition.isSome,
    parse_ofLines (newline_not_mem_inserted hlines comment.newline_not_mem),
    parse_ofLines (newline_not_mem_inserted hlines blank.oneLine)]
  refine ⟨parseLines_insert hposition hparse (statements_comment (head?_trim_comment comment)), ?_⟩
  cases current with
  | none =>
    refine iff_of_true (parseLines_insert hposition hparse (statements_blank htrim)) fun h => ?_
    cases h
  | some s =>
    constructor
    · intro hinserted _
      by_contra hadds
      exact parseLines_blank_ne hposition hparse htrim (by simpa using hadds) hinserted
    · intro hadds
      refine parseLines_insert hposition hparse ?_
      rw [statements_blank_within htrim, statements_of_addsNothing (hadds rfl)]

/-- An instruction is open behind the second line, and the third one adds to it. -/
def continuedRun : String := "FROM a\nRUN b \\\nc\n"

theorem continuedRun_inserted :
    parse (ofLines ["FROM a".toList, "# x".toList, "RUN b \\".toList, "c".toList, []]) =
      .ok ⟨[⟨.fromImage, "a", 1⟩, ⟨.run, "b c", 3⟩]⟩ ∧
    parse (ofLines ["FROM a".toList, [' '], "RUN b \\".toList, "c".toList, []]) =
      .ok ⟨[⟨.fromImage, "a", 1⟩, ⟨.run, "b c", 3⟩]⟩ := by
  have hlines : textLines continuedRun =
      ["FROM a".toList] ++ ["RUN b \\".toList, "c".toList, []] := by decide +kernel
  have hfirst : ∃ line ∈ ["FROM a".toList], directive? (trim line) = none :=
    ⟨_, List.mem_cons_self, by decide +kernel⟩
  have hparse : parse continuedRun = .ok ⟨[⟨.fromImage, "a", 1⟩, ⟨.run, "b c", 2⟩]⟩ := by
    decide +kernel
  have hclosed : endsOpen (continuation (textLines continuedRun)) ["FROM a".toList] = false := by
    decide +kernel
  have hspace : ∀ c ∈ [' '], isBlank c = true := List.forall_mem_singleton.mpr rfl
  obtain ⟨hcomment, hblank⟩ := parse_inserted hlines hfirst hparse
    ⟨⟨[], by simp, by simp⟩, [' ', 'x'], by simp⟩ ⟨[' '], hspace, by simp⟩
  refine ⟨hcomment, hblank.mpr fun hopen => ?_⟩
  rw [hclosed] at hopen
  cases hopen

/-- A blank line behind the second line cuts the instruction in two, and the second part is refused:
its first word is no keyword. -/
theorem continuedRun_blank_refused :
    textLines continuedRun = ["FROM a".toList, "RUN b \\".toList] ++ ["c".toList, []] ∧
    directive? (trim "FROM a".toList) = none ∧
    parse continuedRun = .ok ⟨[⟨.fromImage, "a", 1⟩, ⟨.run, "b c", 2⟩]⟩ ∧
    ofLines (["FROM a".toList, "RUN b \\".toList] ++ [] :: ["c".toList, []]) =
      "FROM a\nRUN b \\\n\nc\n" ∧
    parse "FROM a\nRUN b \\\n\nc\n" = .error (.unknownInstruction "C" 4) := by
  refine ⟨?_, ?_, ?_, ?_, ?_⟩ <;> decide +kernel

end Dockerfile

end AirflowDeploy
