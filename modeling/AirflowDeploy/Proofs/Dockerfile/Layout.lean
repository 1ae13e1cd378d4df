import AirflowDeploy.Proofs.Dockerfile.Statements

/-!
# Layouts of a Dockerfile

The same instructions can be laid out in many ways: their words are cut into groups, one on each
line, with comments and blank lines between them. All layouts of the instructions are read alike,
apart from the numbers of the lines that they start on.
-/
namespace AirflowDeploy.Dockerfile

open Text

/-- Blanks within one line. -/
structure Blanks where
  chars : List Char
  blank : ∀ c ∈ chars, isBlank c = true
  oneLine : '\n' ∉ chars

structure Word where
  chars : List Char
  ne_nil : chars ≠ []
  solid : ∀ c ∈ chars, isBlank c = false

/-- Words set apart by single spaces. -/
def phrase (words : List Word) : List Char := joinWith [' '] (words.map (·.chars))

/-- A comment, which may be indented. -/
structure Comment where
  indent : Blanks
  text : List Char
  oneLine : '\n' ∉ text

def Comment.line (c : Comment) : List Char := c.indent.chars ++ '#' :: c.text

/-- A line between two instructions. -/
inductive Pause where
  | comment (c : Comment)
  | blank (b : Blanks)

def Pause.line : Pause → List Char
  | comment c => c.line
  | blank b => b.chars

/-- A line between two groups of words of one instruction. -/
inductive Gap where
  | comment (c : Comment)
  /-- Nothing but the continuation character. -/
  | bare (indent : Blanks)

def Gap.line (escape : Char) : Gap → List Char
  | comment c => c.line
  | bare indent => indent.chars ++ [escape]

/-- The words of an instruction that stand on one line. -/
structure Group where
  indent : Blanks
  first : Word
  rest : List Word

def Group.words (g : Group) : List Word := g.first :: g.rest

def Group.text (g : Group) : List Char := g.indent.chars ++ phrase g.words

/-- A later group of an instruction, with the space before the continuation character of the group
before it and the lines between the two. It does not look like a comment. -/
structure Later where
  space : Blanks
  gaps : List Gap
  group : Group
  plain : group.first.chars.head? ≠ some '#'

def laterWords (later : List Later) : List Word := later.flatMap (·.group.words)

/-- The lines of a group and of all later ones. -/
def groupLines (escape : Char) (g : Group) : List Later → List (List Char)
  | [] => [g.text]
  | next :: later => (g.text ++ (next.space.chars ++ [escape])) ::
      (next.gaps.map (Gap.line escape) ++ groupLines escape next.group later)

/-- An instruction as it is laid out, with the lines before it. -/
structure LaidOut (escape : Char) where
  pauses : List Pause
  indent : Blanks
  keyword : Keyword
  /-- The keyword in some case of its letters. -/
  spelled : Word
  spells : eqAsciiCase spelled.chars keyword.name.toList = true
  /-- The words on the line of the keyword. -/
  words : List Word
  later : List Later
  args_ne_nil : words ++ laterWords later ≠ []
  ended : ∀ word, (words ++ laterWords later).getLast? = some word →
    word.chars.getLast? ≠ some escape

namespace LaidOut

variable {escape : Char}

def args (i : LaidOut escape) : List Word := i.words ++ laterWords i.later

def group (i : LaidOut escape) : Group := ⟨i.indent, i.spelled, i.words⟩

def lines (i : LaidOut escape) : List (List Char) :=
  i.pauses.map Pause.line ++ groupLines escape i.group i.later

end LaidOut

/-- The instructions that are laid out from a line on. -/
def instructionsFrom {escape : Char} (number : Nat) : List (LaidOut escape) → List Instruction
  | [] => []
  | i :: rest =>
    ⟨i.keyword, String.ofList (phrase i.args), number + i.pauses.length⟩ ::
      instructionsFrom (number + i.lines.length) rest

/-- How the continuation character is chosen. -/
inductive Escape where
  | byDefault | backslash | backtick
  deriving DecidableEq, Repr

namespace Escape

def char : Escape → Char
  | byDefault | backslash => '\\'
  | backtick => '\x60'

/-- The first lines of a file that chooses it. -/
def lines (e : Escape) : List (List Char) :=
  if e = byDefault then [] else ["# escape=".toList ++ [e.char]]

end Escape

/-- A Dockerfile as it is laid out. -/
structure Layout where
  escape : Escape
  first : LaidOut escape.char
  rest : List (LaidOut escape.char)
  /-- The lines after the last instruction. -/
  pauses : List Pause
  /-- No comment before the first instruction looks like a directive. -/
  undirected : ∀ pause ∈ first.pauses, directive? (trim pause.line) = none
  /-- Only `ARG` stands before the first `FROM`. -/
  startsWithFrom :
    ((first :: rest).map (·.keyword)).find? (· != .arg) = some .fromImage

namespace Layout

def lines (l : Layout) : List (List Char) :=
  l.escape.lines ++ ((l.first :: l.rest).flatMap (·.lines) ++ l.pauses.map Pause.line)

def text (l : Layout) : String := String.ofList (joinWith ['\n'] l.lines)

/-- The instructions with the numbers of their first lines. -/
def instructions (l : Layout) : List Instruction :=
  instructionsFrom (1 + l.escape.lines.length) (l.first :: l.rest)

end Layout

theorem exists_phrase_cons (w : Word) (words : List Word) :
    ∃ more, phrase (w :: words) = w.chars ++ more := by
  cases words with
  | nil => exact ⟨[], by simp [phrase, joinWith]⟩
  | cons next words => exact ⟨' ' :: phrase (next :: words), by simp [phrase, joinWith]⟩

theorem phrase_append {first rest : List Word} (hf : first ≠ []) (hr : rest ≠ []) :
    phrase (first ++ rest) = phrase first ++ ' ' :: phrase rest := by
  unfold phrase
  rw [List.map_append, joinWith_append (by simpa using hf) (by simpa using hr)]
  simp

theorem phrase_ne_nil {words : List Word} (h : words ≠ []) : phrase words ≠ [] := by
  obtain ⟨w, words, rfl⟩ := List.exists_cons_of_ne_nil h
  obtain ⟨more, hphrase⟩ := exists_phrase_cons w words
  rw [hphrase]
  exact fun hnil => w.ne_nil (List.append_eq_nil_iff.mp hnil).1

theorem extend_phrase (first rest : List Word) :
    extend (phrase first) (phrase rest) = phrase (first ++ rest) := by
  by_cases hf : first = []
  · subst hf
    rfl
  · by_cases hr : rest = []
    · subst hr
      rw [List.append_nil]
      exact extend_nil _
    · rw [phrase_append hf hr]
      have hfirst : (phrase first).isEmpty = false := by simpa using phrase_ne_nil hf
      have hrest : (phrase rest).isEmpty = false := by simpa using phrase_ne_nil hr
      simp [extend, hfirst, hrest]

theorem head?_phrase (w : Word) (words : List Word) (more : List Char) :
    (phrase (w :: words) ++ more).head? = w.chars.head? := by
  obtain ⟨tail, hphrase⟩ := exists_phrase_cons w words
  rw [hphrase, List.append_assoc, List.head?_append_of_ne_nil _ w.ne_nil]

theorem trimStart_phrase {words : List Word} (h : words ≠ []) (more : List Char) :
    trimStart (phrase words ++ more) = phrase words ++ more := by
  obtain ⟨w, words, rfl⟩ := List.exists_cons_of_ne_nil h
  obtain ⟨tail, hphrase⟩ := exists_phrase_cons w words
  obtain ⟨c, cs, hc⟩ := List.exists_cons_of_ne_nil w.ne_nil
  rw [hphrase, hc]
  exact trimStart_eq_self (w.solid c (by simp [hc]))

theorem getLast?_phrase {words : List Word} {w : Word} (h : words.getLast? = some w) :
    (phrase words).getLast? = w.chars.getLast? := by
  obtain ⟨start, rfl⟩ := List.getLast?_eq_some_iff.mp h
  have hsingle : phrase [w] = w.chars := rfl
  by_cases hs : start = []
  · subst hs
    rfl
  · rw [phrase_append hs (List.cons_ne_nil w []), hsingle,
      List.getLast?_append_of_ne_nil _ (List.cons_ne_nil _ _),
      List.getLast?_cons_of_ne_nil w.ne_nil]

theorem solidEnd_phrase {words : List Word} (h : words ≠ []) : SolidEnd (phrase words) := by
  have hlast := getLast?_phrase (List.getLast?_eq_some_getLast h)
  obtain ⟨start, c, hc, hsolid⟩ :=
    SolidEnd.of_forall (words.getLast h).ne_nil (words.getLast h).solid
  rw [hc, List.getLast?_concat] at hlast
  obtain ⟨front, hfront⟩ := List.getLast?_eq_some_iff.mp hlast
  exact ⟨front, c, hfront, hsolid⟩

theorem trim_phrase {words : List Word} (h : words ≠ []) : trim (phrase words) = phrase words := by
  have hstart := trimStart_phrase h []
  rw [List.append_nil] at hstart
  rw [trim, hstart, (solidEnd_phrase h).trimEnd_eq]

theorem newline_not_mem_phrase (words : List Word) : '\n' ∉ phrase words := by
  induction words with
  | nil => simp [phrase, joinWith]
  | cons w words ih =>
    have hw : '\n' ∉ w.chars := fun hmem => absurd (w.solid _ hmem) (by decide)
    by_cases hwords : words = []
    · subst hwords
      exact hw
    · have hphrase : phrase (w :: words) = w.chars ++ ' ' :: phrase words :=
        phrase_append (List.cons_ne_nil w []) hwords
      simp [hphrase, hw, ih]

section Reading

variable {escape : Char} {number : Nat} {rest : List (List Char)}

theorem head?_trim_comment (c : Comment) : (trim c.line).head? = some '#' := by
  have hstart : trimStart c.line = '#' :: c.text := by
    rw [Comment.line, trimStart_blanks_append c.indent.blank]
    rfl
  rw [trim, hstart, trimEnd_cons rfl]
  rfl

theorem statements_pauses (pauses : List Pause) :
    statements escape none number (pauses.map Pause.line ++ rest) =
      statements escape none (number + pauses.length) rest := by
  induction pauses generalizing number with
  | nil => rfl
  | cons pause pauses ih =>
    rw [List.length_cons, Nat.add_comm pauses.length, ← Nat.add_assoc, ← ih]
    cases pause with
    | comment c => exact statements_comment (head?_trim_comment c)
    | blank b => exact statements_blank (trim_eq_nil b.blank)

/-- The lines between two groups leave the statement as it is. -/
theorem statements_gaps (hblank : isBlank escape = false) (hhash : escape ≠ '#') (s : Statement)
    (gaps : List Gap) :
    statements escape (some s) number (gaps.map (Gap.line escape) ++ rest) =
      statements escape (some s) (number + gaps.length) rest := by
  induction gaps generalizing number with
  | nil => rfl
  | cons gap gaps ih =>
    rw [List.length_cons, Nat.add_comm gaps.length, ← Nat.add_assoc, ← ih]
    cases gap with
    | comment c => exact statements_comment (head?_trim_comment c)
    | bare indent =>
      have htrim : trim (indent.chars ++ [escape]) = [] ++ [escape] :=
        SolidEnd.trim_blanks_append ⟨[], escape, rfl, hblank⟩ (trimStart_eq_self hblank)
          indent.blank
      have hadd : s.add (trimEnd []) = s := s.add_nil
      refine (statements_continued htrim (by simpa using hhash)).trans ?_
      rw [Option.getD_some, hadd]
      rfl

/-- A line that starts with a group, without its indentation. -/
theorem trim_groupText (g : Group) (more : List Char) (h : SolidEnd (phrase g.words ++ more)) :
    trim (g.text ++ more) = phrase g.words ++ more := by
  rw [Group.text, List.append_assoc]
  exact h.trim_blanks_append (trimStart_phrase (List.cons_ne_nil _ _) more) g.indent.blank

/-- A group of words that is continued is added to the statement. -/
theorem statements_continuedGroup (hblank : isBlank escape = false)
    {pending : Option Statement} (g : Group) (space : Blanks)
    (hplain : g.first.chars.head? ≠ some '#') :
    statements escape pending number ((g.text ++ (space.chars ++ [escape])) :: rest) =
      statements escape (some ((pending.getD ⟨number, []⟩).add (phrase g.words))) (number + 1)
        rest := by
  have hend : SolidEnd (phrase g.words ++ (space.chars ++ [escape])) :=
    ⟨phrase g.words ++ space.chars, escape, by simp, hblank⟩
  have htrim : trim (g.text ++ (space.chars ++ [escape])) =
      (phrase g.words ++ space.chars) ++ [escape] := by
    rw [trim_groupText g _ hend, List.append_assoc]
  have hhead : ((phrase g.words ++ space.chars) ++ [escape]).head? ≠ some '#' := by
    rwa [List.append_assoc, Group.words, head?_phrase]
  have hwords : g.words ≠ [] := List.cons_ne_nil g.first g.rest
  have hbody : trimEnd (phrase g.words ++ space.chars) = phrase g.words := by
    rw [trimEnd_append_blanks _ space.blank, (solidEnd_phrase hwords).trimEnd_eq]
  rw [statements_continued htrim hhead, hbody]

/-- The last group of words ends the statement. -/
theorem statements_lastGroup {pending : Option Statement} (g : Group)
    (hplain : g.first.chars.head? ≠ some '#')
    (hlast : ∀ word, g.words.getLast? = some word → word.chars.getLast? ≠ some escape) :
    statements escape pending number (g.text :: rest) =
      ((pending.getD ⟨number, []⟩).add (phrase g.words)).finish
        (statements escape none (number + 1) rest) := by
  have hwords : g.words ≠ [] := List.cons_ne_nil g.first g.rest
  have htrim := trim_groupText g [] (by simpa using solidEnd_phrase hwords)
  rw [List.append_nil, List.append_nil] at htrim
  have hhead := head?_phrase g.first g.rest []
  rw [List.append_nil] at hhead
  have hend := hlast _ (List.getLast?_eq_some_getLast hwords)
  rw [← getLast?_phrase (List.getLast?_eq_some_getLast hwords)] at hend
  exact statements_ended htrim (phrase_ne_nil hwords) (by rwa [Group.words, hhead]) hend

/-- All groups of an instruction are read as one statement. -/
theorem statements_groupLines (hblank : isBlank escape = false) (hhash : escape ≠ '#')
    {pending : Option Statement} (g : Group) (later : List Later)
    (hplain : g.first.chars.head? ≠ some '#')
    (hlast : ∀ word, (g.words ++ laterWords later).getLast? = some word →
      word.chars.getLast? ≠ some escape) :
    statements escape pending number (groupLines escape g later ++ rest) =
      ((pending.getD ⟨number, []⟩).add (phrase (g.words ++ laterWords later))).finish
        (statements escape none (number + (groupLines escape g later).length) rest) := by
  induction later generalizing g pending number with
  | nil =>
    have hnone : laterWords [] = [] := rfl
    rw [hnone, List.append_nil] at hlast ⊢
    exact statements_lastGroup g hplain hlast
  | cons next later ih =>
    have hwords : laterWords (next :: later) = next.group.words ++ laterWords later := by
      simp [laterWords]
    have hlater : next.group.words ++ laterWords later ≠ [] := by simp [Group.words]
    rw [hwords, List.getLast?_append_of_ne_nil _ hlater] at hlast
    have hlength : number + (groupLines escape g (next :: later)).length =
        number + 1 + next.gaps.length + (groupLines escape next.group later).length := by
      simp [groupLines]
      omega
    rw [hlength, hwords, groupLines, List.cons_append, List.append_assoc (next.gaps.map _),
      statements_continuedGroup hblank g next.space hplain, statements_gaps hblank hhash,
      ih next.group next.plain hlast, Option.getD_some, Statement.add_add, extend_phrase]

theorem head?_ne_of_spells {keyword : Keyword} {word : List Char}
    (h : eqAsciiCase word keyword.name.toList = true) : word.head? ≠ some '#' := by
  have hname : (keyword.name.toList.map asciiLower).head? ≠ some '#' := by
    cases keyword <;> decide
  have hlower : word.map asciiLower = keyword.name.toList.map asciiLower := by
    simpa [eqAsciiCase] using h
  intro hhash
  rw [← hlower, List.head?_map, hhash] at hname
  exact hname rfl

/-- The lines of an instruction are read as one statement, which starts on the line of the
keyword. -/
theorem LaidOut.statements_lines (hblank : isBlank escape = false) (hhash : escape ≠ '#')
    (i : LaidOut escape) :
    statements escape none number (i.lines ++ rest) =
      ⟨number + i.pauses.length, phrase (i.spelled :: i.args)⟩ ::
        statements escape none (number + i.lines.length) rest := by
  have hargs : i.args ≠ [] := i.args_ne_nil
  have hwords : i.group.words ++ laterWords i.later = i.spelled :: i.args := rfl
  have hlast : ∀ word, (i.group.words ++ laterWords i.later).getLast? = some word →
      word.chars.getLast? ≠ some escape := by
    rw [hwords, List.getLast?_cons_of_ne_nil hargs]
    exact i.ended
  have hsolid : (phrase (i.spelled :: i.args)).isEmpty = false := by
    simpa using phrase_ne_nil (List.cons_ne_nil i.spelled i.args)
  have hlines : i.lines ++ rest =
      i.pauses.map Pause.line ++ (groupLines escape i.group i.later ++ rest) := by
    simp [LaidOut.lines]
  have hlength : number + i.pauses.length + (groupLines escape i.group i.later).length =
      number + i.lines.length := by
    simp [LaidOut.lines]
    omega
  rw [hlines, statements_pauses, statements_groupLines hblank hhash i.group i.later
    (head?_ne_of_spells i.spells) hlast, hwords, hlength]
  simp [Statement.finish, Statement.add, hsolid]

theorem LaidOut.read_statement (i : LaidOut escape) (number : Nat) :
    Statement.read ⟨number, phrase (i.spelled :: i.args)⟩ =
      .ok ⟨i.keyword, String.ofList (phrase i.args), number⟩ := by
  have hargs : i.args ≠ [] := i.args_ne_nil
  have hphrase : phrase (i.spelled :: i.args) = i.spelled.chars ++ ' ' :: phrase i.args :=
    phrase_append (List.cons_ne_nil i.spelled []) hargs
  rw [hphrase]
  exact Statement.read_eq_ok i.spells i.spelled.solid (trim_phrase hargs) (phrase_ne_nil hargs)

/-- Each instruction is read from its statement, with the number of its line. -/
theorem mapM_read_statements (hblank : isBlank escape = false) (hhash : escape ≠ '#')
    (items : List (LaidOut escape)) (pauses : List Pause) (number : Nat) :
    (statements escape none number
      (items.flatMap (·.lines) ++ pauses.map Pause.line)).mapM Statement.read =
      .ok (instructionsFrom number items) := by
  induction items generalizing number with
  | nil =>
    have hnone : statements escape none number (pauses.map Pause.line ++ []) = [] := by
      rw [statements_pauses, statements]
    rw [List.append_nil] at hnone
    rw [List.flatMap_nil, List.nil_append, hnone]
    rfl
  | cons i items ih =>
    rw [List.flatMap_cons, List.append_assoc, i.statements_lines hblank hhash, List.mapM_cons,
      i.read_statement, ih]
    rfl

theorem map_keyword_instructionsFrom (items : List (LaidOut escape)) (number : Nat) :
    (instructionsFrom number items).map (·.keyword) = items.map (·.keyword) := by
  induction items generalizing number with
  | nil => rfl
  | cons i items ih => simp [instructionsFrom, ih]

end Reading

theorem directive?_eq_none {line : List Char} (h : line.head? ≠ some '#') :
    directive? line = none := by
  unfold directive?
  split
  · exact absurd rfl h
  · rfl

theorem Escape.isBlank_char (e : Escape) : isBlank e.char = false := by
  cases e <;> decide

theorem Escape.char_ne_hash (e : Escape) : e.char ≠ '#' := by
  cases e <;> decide

/-- The first line chooses the continuation character, and what is no directive leaves it. -/
theorem afterDirectives_escapeLines (e : Escape) {ls : List (List Char)}
    (h : ∀ line, ls.head? = some line → directive? (trim line) = none) :
    afterDirectives '\\' 1 (e.lines ++ ls) = (e.char, 1 + e.lines.length, ls) := by
  have hrest (escape : Char) (number : Nat) :
      afterDirectives escape number ls = (escape, number, ls) := by
    cases ls with
    | nil => rfl
    | cons line ls => rw [afterDirectives, h line rfl]
  cases e with
  | byDefault => exact hrest '\\' 1
  | backslash => exact hrest '\\' 2
  | backtick => exact hrest '\x60' 2

/-- The first line of an instruction is a pause or starts with the keyword. -/
theorem LaidOut.directive?_head {escape : Char} (hblank : isBlank escape = false)
    (i : LaidOut escape) (h : ∀ pause ∈ i.pauses, directive? (trim pause.line) = none)
    {line : List Char} {rest : List (List Char)} (hline : (i.lines ++ rest).head? = some line) :
    directive? (trim line) = none := by
  have hgroup (more : List Char) (hend : SolidEnd (phrase i.group.words ++ more)) :
      directive? (trim (i.group.text ++ more)) = none := by
    refine directive?_eq_none ?_
    rw [trim_groupText i.group more hend, Group.words, head?_phrase]
    exact head?_ne_of_spells i.spells
  rw [LaidOut.lines] at hline
  cases hp : i.pauses with
  | cons pause pauses =>
    rw [hp] at h hline
    obtain rfl : pause.line = line := by simpa using hline
    exact h pause List.mem_cons_self
  | nil =>
    cases hl : i.later with
    | nil =>
      obtain rfl : i.group.text = line := by simpa [hp, hl, groupLines] using hline
      have hphrase := solidEnd_phrase (List.cons_ne_nil i.group.first i.group.rest)
      rw [← List.append_nil i.group.text]
      exact hgroup [] (by rwa [List.append_nil])
    | cons next later =>
      obtain rfl : i.group.text ++ (next.space.chars ++ [escape]) = line := by
        simpa [hp, hl, groupLines] using hline
      exact hgroup _ ⟨phrase i.group.words ++ next.space.chars, escape, by simp, hblank⟩

theorem Comment.newline_not_mem (c : Comment) : '\n' ∉ c.line := by
  simp [Comment.line, c.indent.oneLine, c.oneLine]

theorem Pause.newline_not_mem (pause : Pause) : '\n' ∉ pause.line := by
  cases pause with
  | comment c => exact c.newline_not_mem
  | blank b => exact b.oneLine

theorem Group.newline_not_mem (g : Group) : '\n' ∉ g.text := by
  simp [Group.text, g.indent.oneLine, newline_not_mem_phrase]

section Newlines

variable {escape : Char} (hescape : '\n' ≠ escape)

include hescape

theorem Gap.newline_not_mem (gap : Gap) : '\n' ∉ gap.line escape := by
  cases gap with
  | comment c => exact c.newline_not_mem
  | bare indent => simp [Gap.line, indent.oneLine, hescape]

theorem newline_not_mem_groupLines (g : Group) (later : List Later) :
    ∀ line ∈ groupLines escape g later, '\n' ∉ line := by
  induction later generalizing g with
  | nil =>
    intro line hline
    rw [List.mem_singleton.mp hline]
    exact g.newline_not_mem
  | cons next later ih =>
    intro line hline
    rcases List.mem_cons.mp hline with rfl | hline
    · simp [g.newline_not_mem, next.space.oneLine, hescape]
    · rcases List.mem_append.mp hline with hgap | hlater
      · obtain ⟨gap, -, rfl⟩ := List.mem_map.mp hgap
        exact gap.newline_not_mem hescape
      · exact ih next.group line hlater

theorem LaidOut.newline_not_mem (i : LaidOut escape) : ∀ line ∈ i.lines, '\n' ∉ line := by
  intro line hline
  rcases List.mem_append.mp hline with hpause | hgroup
  · obtain ⟨pause, -, rfl⟩ := List.mem_map.mp hpause
    exact pause.newline_not_mem
  · exact newline_not_mem_groupLines hescape i.group i.later line hgroup

end Newlines

theorem Escape.newline_not_mem (e : Escape) : ∀ line ∈ e.lines, '\n' ∉ line := by
  cases e <;> decide

theorem Layout.newline_not_mem (l : Layout) : ∀ line ∈ l.lines, '\n' ∉ line := by
  have hescape : '\n' ≠ l.escape.char := by
    cases l.escape <;> decide
  intro line hline
  rcases List.mem_append.mp hline with hescaped | hline
  · exact l.escape.newline_not_mem line hescaped
  · rcases List.mem_append.mp hline with hitem | hpause
    · obtain ⟨i, -, hi⟩ := List.mem_flatMap.mp hitem
      exact i.newline_not_mem hescape line hi
    · obtain ⟨pause, -, rfl⟩ := List.mem_map.mp hpause
      exact pause.newline_not_mem

/-- However instructions are laid out, they are read in their order, each with its keyword, its
words set apart by single spaces and the number of its first line. -/
theorem Layout.parse_text (l : Layout) : parse l.text = .ok ⟨l.instructions⟩ := by
  have hblank := l.escape.isBlank_char
  have hhead : ∀ line, ((l.first :: l.rest).flatMap (·.lines) ++
      l.pauses.map Pause.line).head? = some line → directive? (trim line) = none := by
    rw [List.flatMap_cons, List.append_assoc]
    exact fun line hline => l.first.directive?_head hblank l.undirected hline
  rw [Layout.text, parse_joinWith l.newline_not_mem, parseLines, Layout.lines,
    afterDirectives_escapeLines l.escape hhead]
  simp only [mapM_read_statements hblank l.escape.char_ne_hash]
  exact checkStart_eq_ok (by rw [map_keyword_instructionsFrom]; exact l.startsWithFrom)

/-- Two instructions, the second of which is cut by a comment and a bare continuation. -/
def cutLayout : Layout where
  escape := .backtick
  first :=
    { pauses := [], indent := ⟨[], by simp, by simp⟩, keyword := .fromImage
      spelled := ⟨['f', 'r', 'o', 'm'], by simp, by simp [isBlank]⟩, spells := rfl
      words := [⟨['a', ':', '1'], by simp, by simp [isBlank]⟩], later := []
      args_ne_nil := by simp, ended := by simp [laterWords, Escape.char] }
  rest :=
    [{ pauses := [.blank ⟨[], by simp, by simp⟩], indent := ⟨[' '], by simp [isBlank], by simp⟩
       keyword := .run, spelled := ⟨['R', 'u', 'n'], by simp, by simp [isBlank]⟩, spells := rfl
       words := []
       later :=
        [{ space := ⟨[' '], by simp [isBlank], by simp⟩
           gaps := [.comment ⟨⟨[], by simp, by simp⟩, ['b'], by simp⟩,
             .bare ⟨[' '], by simp [isBlank], by simp⟩]
           group := ⟨⟨[], by simp, by simp⟩, ⟨['c'], by simp, by simp [isBlank]⟩,
             [⟨['d'], by simp, by simp [isBlank]⟩]⟩
           plain := by simp }]
       args_ne_nil := by simp [laterWords, Group.words]
       ended := by simp [laterWords, Group.words, Escape.char] }]
  pauses := []
  undirected := by simp
  startsWithFrom := rfl

example : cutLayout.text = "# escape=`\nfrom a:1\n\n Run `\n#b\n `\nc d" := by decide +kernel

example : parse cutLayout.text = .ok ⟨[⟨.fromImage, "a:1", 2⟩, ⟨.run, "c d", 4⟩]⟩ := by
  decide +kernel

end AirflowDeploy.Dockerfile
