import AirflowDeploy.Proofs.Text.Cut
import AirflowDeploy.Text.Lines
import AirflowDeploy.Text.Numeral
import Mathlib.Data.List.DropRight

/-!
# Lines of composed texts

How lines, trimming and numerals behave where one text is put behind another. What stands up to
the last newline is told apart from the line that is still unfinished.
-/
namespace AirflowDeploy.Text

variable {cs rest ds : List Char} {c : Char}

theorem pieces_append_cons {p : Char → Bool} (hc : p c = true) (cs rest : List Char) :
    pieces p (cs ++ c :: rest) = pieces p cs ++ pieces p rest := by
  induction cs with
  | nil => simp [pieces, hc]
  | cons d cs ih =>
    by_cases hd : p d = true
    · simp [pieces, hd, ih]
    · cases hp : pieces p cs with
      | nil => exact absurd hp (pieces_ne_nil p cs)
      | cons w ws => simp [pieces, hd, ih, hp]

theorem pieces_eq_singleton {p : Char → Bool} (h : ∀ c ∈ cs, p c = false) : pieces p cs = [cs] := by
  induction cs with
  | nil => rfl
  | cons c cs ih =>
    have htail := ih fun d hd => h d (List.mem_cons_of_mem c hd)
    simp [pieces, h c List.mem_cons_self, htail]

theorem linesOfPieces_append (first : List (List Char)) {rest : List (List Char)}
    (h : rest ≠ []) :
    linesOfPieces (first ++ rest) = first.map dropReturn ++ linesOfPieces rest := by
  induction first with
  | nil => rfl
  | cons piece first ih =>
    obtain ⟨next, more, hm⟩ := List.exists_cons_of_ne_nil
      (show first ++ rest ≠ [] from fun hnil => h (List.append_eq_nil_iff.mp hnil).2)
    rw [List.cons_append, hm, linesOfPieces, ← hm, ih]
    · rfl
    · simp

/-- Texts that are joined by a separator are parted by it again. -/
theorem pieces_joinWith {p : Char → Bool} {sep : Char} (hsep : p sep = true)
    {ls : List (List Char)} (hne : ls ≠ []) (h : ∀ l ∈ ls, ∀ c ∈ l, p c = false) :
    pieces p (joinWith [sep] ls) = ls := by
  induction ls with
  | nil => exact absurd rfl hne
  | cons l ls ih =>
    have hline : pieces p l = [l] := pieces_eq_singleton (h l List.mem_cons_self)
    cases ls with
    | nil => exact hline
    | cons next rest =>
      have hrest := ih (List.cons_ne_nil next rest) fun l hl => h l (List.mem_cons_of_mem _ hl)
      rw [joinWith, List.append_assoc, List.singleton_append, pieces_append_cons hsep, hrest, hline]
      · rfl
      · simp

/-- No piece holds a separator. -/
theorem not_of_mem_pieces {p : Char → Bool} (cs : List Char) :
    ∀ piece ∈ pieces p cs, ∀ c ∈ piece, p c = false := by
  induction cs with
  | nil => simp [pieces]
  | cons d cs ih =>
    rw [pieces]
    split
    · simpa using ih
    · next hd =>
      cases hp : pieces p cs with
      | nil => exact absurd hp (pieces_ne_nil p cs)
      | cons w ws =>
        rw [hp] at ih
        have hfirst : ∀ c ∈ d :: w, p c = false :=
          List.forall_mem_cons.mpr ⟨by simpa using hd, ih w List.mem_cons_self⟩
        exact List.forall_mem_cons.mpr ⟨hfirst, fun v hv => ih v (List.mem_cons_of_mem w hv)⟩

/-- The pieces of a text make it up when they are joined by the separator again. -/
theorem joinWith_pieces (sep : Char) (cs : List Char) :
    joinWith [sep] (pieces (· == sep) cs) = cs := by
  induction cs with
  | nil => rfl
  | cons d cs ih =>
    obtain ⟨w, ws, hp⟩ := List.exists_cons_of_ne_nil (pieces_ne_nil (· == sep) cs)
    rw [hp] at ih
    rw [pieces]
    split
    · next hd =>
      rw [hp, joinWith_cons_cons, ih, eq_of_beq hd]
      rfl
    · rw [hp]
      rw [← ih]
      cases ws <;> rfl

/-- The first piece is empty exactly where the text starts with a separator or is empty itself. -/
theorem head?_pieces_eq_nil_iff (sep : Char) (cs : List Char) :
    (pieces (· == sep) cs).head? = some [] ↔ [sep] <+: cs ++ [sep] := by
  cases cs with
  | nil => simp [pieces]
  | cons d cs =>
    obtain ⟨w, ws, hp⟩ := List.exists_cons_of_ne_nil (pieces_ne_nil (· == sep) cs)
    rw [pieces, hp]
    by_cases hd : d = sep
    · simp [hd]
    · simp [hd, Ne.symm hd]

/-- A piece behind the first one is empty exactly where two separators stand side by side, or one
at the end. -/
theorem nil_mem_tail_pieces_iff (sep : Char) (cs : List Char) :
    [] ∈ (pieces (· == sep) cs).tail ↔ [sep, sep] <:+: cs ++ [sep] := by
  induction cs with
  | nil => simp [pieces, List.infix_cons_iff]
  | cons d cs ih =>
    have hfirst := head?_pieces_eq_nil_iff sep cs
    obtain ⟨w, ws, hp⟩ := List.exists_cons_of_ne_nil (pieces_ne_nil (· == sep) cs)
    rw [hp, List.tail_cons] at ih
    rw [hp, List.head?_cons, Option.some_inj] at hfirst
    rw [List.cons_append, List.infix_cons_iff, ← ih, pieces, hp]
    by_cases hd : d = sep
    · simp [hd, ← hfirst, eq_comm]
    · simp [hd, Ne.symm hd]

theorem nil_mem_pieces_iff (sep : Char) (cs : List Char) :
    [] ∈ pieces (· == sep) cs ↔ [sep, sep] <:+: sep :: (cs ++ [sep]) := by
  have hfirst := head?_pieces_eq_nil_iff sep cs
  have hrest := nil_mem_tail_pieces_iff sep cs
  obtain ⟨w, ws, hp⟩ := List.exists_cons_of_ne_nil (pieces_ne_nil (· == sep) cs)
  rw [hp, List.head?_cons, Option.some_inj] at hfirst
  rw [hp, List.tail_cons] at hrest
  rw [List.infix_cons_iff, List.cons_prefix_cons, ← hfirst, ← hrest, hp, List.mem_cons]
  simp [eq_comm]

theorem newline_not_mem_dropReturn {line : List Char} (h : '\n' ∉ line) :
    '\n' ∉ dropReturn line := by
  unfold dropReturn
  split
  · exact fun hmem => h (List.dropLast_subset line hmem)
  · exact h

theorem newline_not_mem_linesOfPieces {ps : List (List Char)} (h : ∀ piece ∈ ps, '\n' ∉ piece) :
    ∀ line ∈ linesOfPieces ps, '\n' ∉ line := by
  induction ps with
  | nil => simp [linesOfPieces]
  | cons piece ps ih =>
    obtain ⟨hpiece, hrest⟩ := List.forall_mem_cons.mp h
    cases ps with
    | nil =>
      rw [linesOfPieces]
      split <;> simp [hpiece]
    | cons next ps =>
      rw [linesOfPieces]
      · exact List.forall_mem_cons.mpr ⟨newline_not_mem_dropReturn hpiece, ih hrest⟩
      · simp

/-- No line holds a newline. -/
theorem newline_not_mem_lines (cs : List Char) : ∀ line ∈ lines cs, '\n' ∉ line :=
  newline_not_mem_linesOfPieces fun piece hpiece hmem => by
    cases not_of_mem_pieces cs piece hpiece _ hmem

/-- A newline parts the lines before it from those after it. -/
theorem lines_append_newline (cs rest : List Char) :
    lines (cs ++ '\n' :: rest) = lines (cs ++ ['\n']) ++ lines rest := by
  have hsplit (rest : List Char) : lines (cs ++ '\n' :: rest) =
      (pieces isNewline cs).map dropReturn ++ lines rest := by
    rw [lines, pieces_append_cons rfl, linesOfPieces_append _ (pieces_ne_nil _ _)]
    rfl
  have hnone : lines [] = [] := rfl
  rw [hsplit rest, hsplit [], hnone, List.append_nil]

/-- The text up to its last newline. -/
def finished (cs : List Char) : List Char := cs.rdropWhile fun c => !isNewline c

/-- The text after its last newline. -/
def unfinished (cs : List Char) : List Char := cs.rtakeWhile fun c => !isNewline c

theorem finished_append_unfinished (cs : List Char) : finished cs ++ unfinished cs = cs :=
  List.rdropWhile_append_rtakeWhile

theorem not_isNewline_of_mem_unfinished (h : c ∈ unfinished cs) : isNewline c = false := by
  simpa using List.mem_rtakeWhile_imp h

theorem finished_eq_nil_or (cs : List Char) :
    finished cs = [] ∨ ∃ start, finished cs = start ++ ['\n'] := by
  by_cases h : finished cs = []
  · exact .inl h
  · have hlast := List.rdropWhile_last_not (fun c => !isNewline c) cs h
    have hnewline : (finished cs).getLast h = '\n' := by simpa [isNewline, finished] using hlast
    refine .inr ⟨(finished cs).dropLast, ?_⟩
    rw [← hnewline, List.dropLast_append_getLast]

theorem lines_finished_append (cs rest : List Char) :
    lines (finished cs ++ rest) = lines (finished cs) ++ lines rest := by
  rcases finished_eq_nil_or cs with h | ⟨start, h⟩
  · simp [h, lines, pieces, linesOfPieces]
  · rw [h, List.append_assoc]
    exact lines_append_newline start rest

def SolidEnd (ds : List Char) : Prop := ∃ start c, ds = start ++ [c] ∧ isBlank c = false

namespace SolidEnd

theorem append (h : SolidEnd ds) (cs : List Char) : SolidEnd (cs ++ ds) := by
  obtain ⟨start, c, rfl, hc⟩ := h
  exact ⟨cs ++ start, c, by simp, hc⟩

theorem of_forall (hne : ds ≠ []) (h : ∀ c ∈ ds, isBlank c = false) : SolidEnd ds :=
  ⟨ds.dropLast, ds.getLast hne, (List.dropLast_append_getLast hne).symm,
    h _ (List.getLast_mem hne)⟩

theorem trimEnd_eq (h : SolidEnd ds) : trimEnd ds = ds := by
  obtain ⟨start, c, rfl, hc⟩ := h
  exact trimEnd_append_of_not_blank start hc

/-- Only what stands behind the text is trimmed. -/
theorem trimEnd_append (h : SolidEnd ds) (cs : List Char) :
    trimEnd (ds ++ cs) = ds ++ trimEnd cs := by
  unfold trimEnd
  rw [List.reverse_append, List.dropWhile_append]
  split
  · next hblank =>
    rw [List.isEmpty_iff.mp hblank, List.reverse_nil, List.append_nil]
    exact h.trimEnd_eq
  · rw [List.reverse_append, List.reverse_reverse]

theorem dropReturn_eq (h : SolidEnd ds) : dropReturn ds = ds := by
  obtain ⟨start, c, rfl, hc⟩ := h
  have hreturn : c ≠ '\r' := by
    rintro rfl
    exact absurd hc (by decide)
  simp [dropReturn, hreturn]

/-- A line that is closed by a newline is the only one. -/
theorem lines_append_newline (h : SolidEnd ds) (hline : ∀ c ∈ ds, isNewline c = false) :
    lines (ds ++ ['\n']) = [ds] := by
  rw [lines, pieces_append_cons rfl, pieces_eq_singleton hline,
    linesOfPieces_append _ (pieces_ne_nil _ _), List.map_singleton, h.dropReturn_eq]
  rfl

end SolidEnd

theorem trimStart_append (cs rest : List Char) :
    trimStart (cs ++ rest) =
      if (trimStart cs).isEmpty then trimStart rest else trimStart cs ++ rest :=
  List.dropWhile_append

/-- Trimming takes nothing from a text without blanks at its ends. -/
theorem SolidEnd.trim_append (h : SolidEnd ds) (hs : trimStart ds = ds) (cs : List Char) :
    trim (cs ++ ds) = trimStart cs ++ ds := by
  have hstart : trimStart (cs ++ ds) = trimStart cs ++ ds := by
    rw [trimStart_append, hs]
    cases trimStart cs <;> rfl
  rw [trim, hstart, (h.append _).trimEnd_eq]

/-- Blanks in front of a text are trimmed away. -/
theorem trimStart_blanks_append (h : ∀ c ∈ cs, isBlank c = true) (ds : List Char) :
    trimStart (cs ++ ds) = trimStart ds := List.dropWhile_append_of_pos h

/-- Indentation is trimmed away from a text without blanks at its ends. -/
theorem SolidEnd.trim_blanks_append (h : SolidEnd ds) (hs : trimStart ds = ds)
    (hcs : ∀ c ∈ cs, isBlank c = true) : trim (cs ++ ds) = ds := by
  rw [h.trim_append hs, trimStart, List.dropWhile_eq_nil_iff.mpr hcs, List.nil_append]

theorem trimEnd_cons (h : isBlank c = false) (cs : List Char) :
    trimEnd (c :: cs) = c :: trimEnd cs :=
  SolidEnd.trimEnd_append ⟨[], c, rfl, h⟩ cs

/-- Blanks behind a text are trimmed away. -/
theorem trimEnd_append_blanks (ds : List Char) (h : ∀ c ∈ cs, isBlank c = true) :
    trimEnd (ds ++ cs) = trimEnd ds := by
  unfold trimEnd
  rw [List.reverse_append, List.dropWhile_append_of_pos]
  simpa using h

/-- Trimming leaves a beginning of what stands behind the first blanks. -/
theorem trim_eq_iff {core : List Char} : trim cs = core ↔ IsCore isBlank core cs :=
  dropEnds_eq_iff

theorem head?_trim (cs : List Char) : ∀ c ∈ (trim cs).head?, isBlank c = false := by
  obtain ⟨_, _, -, -, hhead, -⟩ := isCore_dropEnds isBlank cs
  exact hhead

theorem getLast?_trim (cs : List Char) : ∀ c ∈ (trim cs).getLast?, isBlank c = false := by
  obtain ⟨_, _, -, -, -, hlast⟩ := isCore_dropEnds isBlank cs
  exact hlast

theorem mem_of_mem_trimEnd (hc : c ∈ trimEnd cs) : c ∈ cs :=
  List.mem_reverse.mp ((List.dropWhile_suffix _).subset (List.mem_reverse.mp hc))

theorem mem_of_mem_trim (hc : c ∈ trim cs) : c ∈ cs :=
  (List.dropWhile_suffix _).subset (mem_of_mem_trimEnd hc)

/-- A text without blanks is left as it is. -/
theorem trim_eq_self (h : ∀ c ∈ cs, isBlank c = false) : trim cs = cs := by
  have hhead : ∀ c ∈ cs.head?, isBlank c = false := fun c hc => h c (List.mem_of_mem_head? hc)
  have hlast : ∀ c ∈ cs.getLast?, isBlank c = false := fun c hc => h c (List.mem_of_getLast? hc)
  exact trim_eq_iff.mpr ⟨[], [], by simp, by simp, hhead, hlast⟩

theorem trim_eq_nil (h : ∀ c ∈ cs, isBlank c = true) : trim cs = [] := by
  have hstart : trimStart cs = [] := List.dropWhile_eq_nil_iff.mpr h
  rw [trim, hstart]
  rfl

/-- Whether a carriage return belongs to the line end makes no difference to a trimmed line. -/
theorem trim_dropReturn (line : List Char) : trim (dropReturn line) = trim line := by
  unfold dropReturn
  split
  · next hreturn =>
    have hline : line.dropLast ++ ['\r'] = line := List.dropLast_append_getLast? _ hreturn
    have hblank : ∀ c ∈ ['\r'], isBlank c = true := by simp [isBlank]
    conv_rhs => rw [← hline]
    unfold trim
    rw [trimStart_append]
    split
    · next hnil =>
      rw [List.isEmpty_iff.mp hnil]
      rfl
    · rw [trimEnd_append_blanks _ hblank]
  · rfl

theorem mem_trim (hc : c ∈ cs) (hb : isBlank c = false) : c ∈ trim cs := by
  rw [trim, trimEnd, List.mem_reverse, mem_dropWhile_iff hb, List.mem_reverse, trimStart,
    mem_dropWhile_iff hb]
  exact hc

theorem afterPrefix?_append_right {ps : List Char} (h : ps.length ≤ cs.length) :
    afterPrefix? ps (cs ++ rest) = (afterPrefix? ps cs).map (· ++ rest) := by
  induction ps generalizing cs with
  | nil => rfl
  | cons p ps ih =>
    cases cs with
    | nil => simp at h
    | cons c cs =>
      rw [List.cons_append, afterPrefix?, afterPrefix?]
      split
      · exact ih (by simpa using h)
      · rfl

theorem isBlank_of_isDigit (h : isDigit c = true) : isBlank c = false := by
  simp [isDigit] at h
  simp [isBlank]
  omega

theorem isDigit_of_mem_decimal {n : Nat} (h : c ∈ decimal n) : isDigit c = true := by
  have hall : (decimal n).all isDigit = true := by simp [decimal, all_isDigit_decimalOnto]
  exact List.all_eq_true.mp hall c h

theorem solidEnd_decimal (n : Nat) : SolidEnd (decimal n) :=
  .of_forall (decimalOnto_ne_nil n []) fun _ h => isBlank_of_isDigit (isDigit_of_mem_decimal h)

theorem trim_append_decimal (cs : List Char) (n : Nat) :
    trim (cs ++ decimal n) = trimStart cs ++ decimal n := by
  refine (solidEnd_decimal n).trim_append ?_ cs
  have hdigits : ∀ c ∈ decimal n, isDigit c = true := fun _ => isDigit_of_mem_decimal
  cases hn : decimal n with
  | nil => rfl
  | cons c ds =>
    rw [hn] at hdigits
    exact trimStart_eq_self (isBlank_of_isDigit (hdigits c List.mem_cons_self))

/-- Reading a written number of 32 bits gives it back. -/
theorem readInteger?_decimal {n : Nat} (h : n < integerBound) :
    readInteger? (decimal n) = some (n : Int) := by
  have hsign {sign : Char} {rest : List Char} (hs : isDigit sign = false)
      (hd : decimal n = sign :: rest) : False := by
    have hdigit := isDigit_of_mem_decimal (n := n) (c := sign) (by simp [hd])
    simp [hs] at hdigit
  unfold readInteger?
  split
  · next hd => exact (hsign rfl hd).elim
  · next hd => exact (hsign rfl hd).elim
  · simp [readDigits?_decimal, Option.filter, h]

theorem readDigits?_eq_none (hc : c ∈ cs) (hd : isDigit c = false) : readDigits? cs = none := by
  have hall : cs.all isDigit = false := List.all_eq_false.mpr ⟨c, hc, by simp [hd]⟩
  simp [readDigits?, hall]

/-- A text with a character that is neither a sign nor a digit is no numeral. -/
theorem readInteger?_eq_none (hc : c ∈ cs) (hd : isDigit c = false) (hm : c ≠ '-') (hp : c ≠ '+') :
    readInteger? cs = none := by
  unfold readInteger?
  split
  · have hrest := readDigits?_eq_none ((List.mem_cons.mp hc).resolve_left hm) hd
    simp [hrest]
  · have hrest := readDigits?_eq_none ((List.mem_cons.mp hc).resolve_left hp) hd
    simp [hrest]
  · simp [readDigits?_eq_none hc hd]

end AirflowDeploy.Text
