import AirflowDeploy.Kdl.Printer
import AirflowDeploy.Kdl.Text
import Mathlib.Data.List.Basic

/-!
# Written strings

What the reader makes of a string that the printer has written. It gives the string back, whatever
follows, or it gives nothing: it never takes more or less than what was written.
-/
namespace AirflowDeploy.Kdl

open AirflowDeploy.Text

/-- Characters that may follow a string. -/
def isDelimiter (c : Char) : Bool := c == ' ' || c == '\n' || c == '='

/-- Characters that a written string can start with. -/
def startsString (c : Char) : Bool := c == '"' || isIdentifierChar c

theorem isDelimiter_spec {c : Char} (h : isDelimiter c) : c = ' ' ∨ c = '\n' ∨ c = '=' := by
  simpa [isDelimiter, or_assoc] using h

theorem isDelimiter_not_identifierChar {c : Char} (h : isDelimiter c) :
    isIdentifierChar c = false := by
  rcases isDelimiter_spec h with rfl | rfl | rfl <;> decide

theorem isDelimiter_not_digit {c : Char} (h : isDelimiter c) : isDigit c = false := by
  rcases isDelimiter_spec h with rfl | rfl | rfl <;> decide

theorem isDelimiter_ne_quote {c : Char} (h : isDelimiter c) : c ≠ '"' := by
  rcases isDelimiter_spec h with rfl | rfl | rfl <;> decide

/-- What has no place in a word cannot start a string either. -/
theorem startsString_ne {c d : Char} (h : startsString c) (hd : startsString d = false) :
    c ≠ d := by
  rintro rfl
  simp [hd] at h

theorem isIdentifierChar_ne {c d : Char} (h : isIdentifierChar c)
    (hd : isIdentifierChar d = false) : c ≠ d := by
  rintro rfl
  simp [hd] at h

/-- Whether a character between quotes is read back: it is escaped, or it does not end the line. -/
def isQuotable (c : Char) : Bool := escapeChar c != [c] || !isNewline c

/-- A character is escaped by a letter that stands for it, or it stands for itself. -/
theorem escapeChar_cases (c : Char) :
    (∃ e, escapeChar c = ['\\', e] ∧ (∀ rest, readEscape (e :: rest) = some ([c], rest))) ∨
      escapeChar c = [c] ∧ c ≠ '\\' ∧ c ≠ '"' := by
  unfold escapeChar
  split
  · exact .inl ⟨'\\', rfl, fun _ => rfl⟩
  · exact .inl ⟨'"', rfl, fun _ => rfl⟩
  · exact .inl ⟨'n', rfl, fun _ => rfl⟩
  · exact .inl ⟨'r', rfl, fun _ => rfl⟩
  · exact .inl ⟨'t', rfl, fun _ => rfl⟩
  · exact .inl ⟨'b', rfl, fun _ => rfl⟩
  · exact .inl ⟨'f', rfl, fun _ => rfl⟩
  · next hbackslash hquote _ _ _ _ _ => exact .inr ⟨rfl, hbackslash, hquote⟩

theorem escapeChar_ne_nil (c : Char) : escapeChar c ≠ [] := by
  rcases escapeChar_cases c with ⟨e, hc, -⟩ | ⟨hc, -⟩ <;> simp [hc]

/-- The content between quotes is read back where each of its characters is. -/
theorem readQuoted_escaped (cs rest : List Char) {fuel : Nat}
    (hfuel : (cs.flatMap escapeChar).length < fuel) :
    readQuoted fuel (cs.flatMap escapeChar ++ '"' :: rest) =
      if cs.all isQuotable then some (cs, rest) else none := by
  induction cs generalizing fuel with
  | nil =>
    obtain ⟨fuel, rfl⟩ := Nat.exists_eq_succ_of_ne_zero (Nat.ne_zero_of_lt hfuel)
    rfl
  | cons c cs ih =>
    obtain ⟨fuel, rfl⟩ := Nat.exists_eq_succ_of_ne_zero (Nat.ne_zero_of_lt hfuel)
    have hshort : (cs.flatMap escapeChar).length < fuel := by
      have := List.length_pos_of_ne_nil (escapeChar_ne_nil c)
      simp only [List.flatMap_cons, List.length_append] at hfuel
      omega
    rcases escapeChar_cases c with ⟨e, hc, he⟩ | ⟨hc, hbackslash, hquote⟩
    · have hquotable : isQuotable c = true := by simp [isQuotable, hc]
      simp only [List.flatMap_cons, hc, List.cons_append, List.nil_append, readQuoted, he,
        Option.bind_some, ih hshort, List.all_cons, hquotable, Bool.true_and]
      split <;> rfl
    · have hquotable : isQuotable c = !isNewline c := by simp [isQuotable, hc]
      rw [List.flatMap_cons, hc, List.cons_append, List.cons_append, List.nil_append, readQuoted,
        ih hshort, List.all_cons, hquotable]
      · by_cases hnewline : isNewline c
        · simp [hnewline]
        · by_cases hall : cs.all isQuotable <;> simp [hnewline, hall]
      · exact hquote
      · exact hbackslash

/-- Whether a written string is read back. -/
def isReadable (cs : List Char) : Bool :=
  if isBare cs then !startsSignedFraction cs else cs.all isQuotable

theorem isBare_iff {cs : List Char} :
    isBare cs = true ↔ cs ≠ [] ∧ (∀ c ∈ cs, isIdentifierChar c = true) ∧
      looksNumeric cs = false ∧ reserved.contains cs = false := by
  simp [isBare, and_assoc]

/-- A word is read up to the character that ends it. -/
theorem readString_word {cs : List Char} {c : Char} (rest : List Char) (hne : cs ≠ [])
    (hword : ∀ x ∈ cs, isIdentifierChar x = true) (hc : isIdentifierChar c = false) :
    readString (cs ++ c :: rest) = if isIdentifier cs then some (cs, c :: rest) else none := by
  obtain ⟨x, xs, rfl⟩ := List.exists_cons_of_ne_nil hne
  have hx := hword x List.mem_cons_self
  have htake : (x :: xs ++ c :: rest).takeWhile isIdentifierChar = x :: xs := by
    rw [List.takeWhile_append_of_pos hword, List.takeWhile_cons, hc]
    simp
  have hdrop : (x :: xs ++ c :: rest).dropWhile isIdentifierChar = c :: rest := by
    rw [List.dropWhile_append_of_pos hword, List.dropWhile_cons, hc]
    simp
  rw [readString, htake, hdrop]
  · intro _ h
    exact isIdentifierChar_ne hx (by decide) (List.cons.inj h).1
  · intro _ h
    exact isIdentifierChar_ne hx (by decide) (List.cons.inj h).1
  · intro _ h
    exact isIdentifierChar_ne hx (by decide) (List.cons.inj h).1

/-- The text between quotes starts with no quote, so that it opens no string of several lines. -/
theorem readString_quote (cs rest : List Char) {c : Char} (hc : c ≠ '"') :
    readString (quote cs ++ c :: rest) =
      if cs.all isQuotable then some (cs, c :: rest) else none := by
  have hopen : ∀ after, cs.flatMap escapeChar ++ '"' :: c :: rest ≠ '"' :: '"' :: after := by
    intro after h
    cases cs with
    | nil => exact hc (List.cons.inj (List.cons.inj h).2).1
    | cons d cs =>
      rcases escapeChar_cases d with ⟨e, hd, -⟩ | ⟨hd, -, hquote⟩
      · simp [hd] at h
      · rw [List.flatMap_cons, hd] at h
        exact hquote (List.cons.inj h).1
  have hwhole : quote cs ++ c :: rest = '"' :: (cs.flatMap escapeChar ++ '"' :: c :: rest) := by
    simp [quote]
  rw [hwhole, readString, readQuoted_escaped]
  · simp only [List.length_append, List.length_cons]
    omega
  · exact hopen

theorem readString_renderString (cs rest : List Char) {c : Char} (hc : isDelimiter c) :
    readString (renderString cs ++ c :: rest) =
      if isReadable cs then some (cs, c :: rest) else none := by
  by_cases hbare : isBare cs
  · obtain ⟨hne, hword, hnumeric, hreserved⟩ := isBare_iff.mp hbare
    have hidentifier : isIdentifier cs = !startsSignedFraction cs := by
      have hsome : cs.isEmpty = false := List.isEmpty_eq_false_iff.mpr hne
      simp only [isIdentifier, hsome, hnumeric, hreserved, Bool.not_false, Bool.true_and,
        Bool.and_true]
    rw [renderString, if_pos hbare,
      readString_word rest hne hword (isDelimiter_not_identifierChar hc), hidentifier,
      isReadable, if_pos hbare]
  · rw [renderString, if_neg hbare, readString_quote cs rest (isDelimiter_ne_quote hc),
      isReadable, if_neg hbare]

/-- Whether every character of a text may stand in a document. -/
def isClean (cs : List Char) : Bool := cs.all fun c => !isForbidden c

@[simp] theorem isClean_append (cs ds : List Char) :
    isClean (cs ++ ds) = (isClean cs && isClean ds) := List.all_append

/-- Characters that stand in no written string that is read back: those that are forbidden in
documents, and those that end a line without an escape of their own. -/
def isLost (c : Char) : Bool :=
  let n := c.toNat
  n ≤ 0x7 || n == 0xB || (0xE ≤ n && n ≤ 0x1F) || n == 0x85 || n == 0x200E || n == 0x200F ||
    n == 0x2028 || n == 0x2029 || (0x202A ≤ n && n ≤ 0x202E) || (0x2066 ≤ n && n ≤ 0x2069) ||
    n == 0xFEFF

/-- A text that is read back once it is written. -/
def Faithful (text : String) : Prop :=
  (∀ c ∈ text.toList, isLost c = false) ∧
    ¬ (isBare text.toList = true ∧ startsSignedFraction text.toList = true)

instance (text : String) : Decidable (Faithful text) :=
  have : Decidable (∀ c ∈ text.toList, isLost c = false) := List.decidableBAll _ _
  inferInstanceAs (Decidable (_ ∧ _))

/-- The characters that are lost are those that a quoted string does not carry. -/
theorem isLost_iff (c : Char) :
    isLost c = true ↔ isQuotable c = false ∨ isClean (escapeChar c) = false := by
  by_cases hself : escapeChar c = [c]
  · have hfree : ∀ d, escapeChar d ≠ [d] → c.toNat ≠ d.toNat := by
      rintro d hd heq
      exact hd (Char.toNat_inj.mp heq ▸ hself)
    have hbackspace : c.toNat ≠ 0x8 := hfree '\x08' (by decide)
    have hnewline : c.toNat ≠ 0xA := hfree '\n' (by decide)
    have hfeed : c.toNat ≠ 0xC := hfree '\x0c' (by decide)
    have hreturn : c.toNat ≠ 0xD := hfree '\r' (by decide)
    simp only [isLost, isQuotable, isClean, hself, isNewline, isForbidden, bne_self_eq_false,
      Bool.false_or, List.all_cons, List.all_nil, Bool.and_true, Bool.not_eq_false',
      Bool.or_eq_true, Bool.and_eq_true, decide_eq_true_eq, beq_iff_eq]
    omega
  · revert hself
    unfold escapeChar
    split
    all_goals first | decide | exact fun hself => absurd rfl hself

theorem isLost_of_isIdentifierChar {c : Char} (h : isIdentifierChar c = true) :
    isLost c = false := by
  have hplain : isNewline c = false ∧ isForbidden c = false := by simp_all [isIdentifierChar]
  simp only [isLost, isNewline, isForbidden, Bool.or_eq_false_iff, Bool.and_eq_false_iff,
    decide_eq_false_iff_not, beq_eq_false_iff_ne] at hplain ⊢
  omega

theorem isClean_of_isIdentifierChar {cs : List Char} (h : ∀ c ∈ cs, isIdentifierChar c = true) :
    isClean cs = true := by
  refine List.all_eq_true.mpr fun c hc => ?_
  have := h c hc
  simp_all [isIdentifierChar]

theorem isClean_quote (cs : List Char) :
    isClean (quote cs) = cs.all fun c => isClean (escapeChar c) := by
  have hquote : isClean ['"'] = true := rfl
  change isClean (['"'] ++ cs.flatMap escapeChar ++ ['"']) = _
  rw [isClean_append, isClean_append, hquote, Bool.true_and, Bool.and_true, isClean,
    List.all_flatMap]
  rfl

theorem faithful_iff (text : String) :
    Faithful text ↔ isReadable text.toList = true ∧ isClean (renderString text.toList) = true := by
  rw [Faithful, isReadable, renderString]
  by_cases hbare : isBare text.toList
  · obtain ⟨-, hword, -⟩ := isBare_iff.mp hbare
    have hkept : ∀ c ∈ text.toList, isLost c = false := fun c hc =>
      isLost_of_isIdentifierChar (hword c hc)
    rw [if_pos hbare, if_pos hbare, isClean_of_isIdentifierChar hword]
    simp only [hbare, true_and, and_true, Bool.not_eq_true, Bool.not_eq_true']
    exact and_iff_right hkept
  · have hkept (c : Char) :
        isLost c = false ↔ isQuotable c = true ∧ isClean (escapeChar c) = true := by
      rw [← Bool.not_eq_true, isLost_iff, not_or, Bool.not_eq_false, Bool.not_eq_false]
    simp only [hbare, isClean_quote, if_false, List.all_eq_true, hkept, false_and, not_false_iff,
      and_true, Bool.false_eq_true]
    exact forall₂_and

theorem renderString_eq_cons (cs : List Char) :
    ∃ c rest, renderString cs = c :: rest ∧ startsString c := by
  by_cases hbare : isBare cs
  · obtain ⟨hne, hword, -, -⟩ := isBare_iff.mp hbare
    obtain ⟨x, xs, rfl⟩ := List.exists_cons_of_ne_nil hne
    exact ⟨x, xs, if_pos hbare, by simp [startsString, hword x List.mem_cons_self]⟩
  · exact ⟨'"', _, if_neg hbare, rfl⟩

namespace Value

def isNumber : Value → Bool
  | .number _ => true
  | _ => false

/-- The text in a value. -/
def texts : Value → List String
  | .string text => [text]
  | _ => []

/-- Whether a written value that is no number is read back. -/
def isReadable (v : Value) : Bool := v.texts.all fun text => Kdl.isReadable text.toList

/-- Characters that a written value can start with, unless it is a number. -/
def starts (c : Char) : Bool := c == '#' || startsString c

theorem render_eq_cons {v : Value} (hv : v.isNumber = false) :
    ∃ c rest, v.render = c :: rest ∧ starts c := by
  cases v with
  | string text =>
    obtain ⟨c, rest, hrender, hc⟩ := renderString_eq_cons text.toList
    exact ⟨c, rest, hrender, by simp [starts, hc]⟩
  | bool value => cases value <;> exact ⟨'#', _, rfl, rfl⟩
  | null => exact ⟨'#', _, rfl, rfl⟩
  | number literal => cases hv

end Value

theorem readKeyword_eq_none {c : Char} (rest : List Char) (hc : c ≠ '#') :
    readKeyword (c :: rest) = none := by
  simp [readKeyword, keywords, afterPrefix?, Ne.symm hc]

/-- A written string is not taken for a number. -/
theorem startsNumber_renderString (cs rest : List Char) {c : Char} (hc : isDelimiter c) :
    startsNumber (renderString cs ++ c :: rest) = false := by
  by_cases hbare : isBare cs
  · obtain ⟨hne, -, hnumeric, -⟩ := isBare_iff.mp hbare
    rw [renderString, if_pos hbare]
    match cs with
    | [x] =>
      have hx : isDigit x = false := by simp_all [looksNumeric]
      simp [startsNumber, startsWithDigit, hx, isDelimiter_not_digit hc]
    | x :: y :: ys =>
      have hx : isDigit x = false ∧ (isSign x = true → isDigit y = false) := by
        simp_all [looksNumeric, startsWithDigit]
      simp [startsNumber, startsWithDigit]
      exact hx
  · rw [renderString, if_neg hbare]
    rfl

theorem readValue_render {v : Value} (hv : v.isNumber = false) (rest : List Char) {c : Char}
    (hc : isDelimiter c) :
    readValue (v.render ++ c :: rest) = if v.isReadable then some (v, c :: rest) else none := by
  cases v with
  | string text =>
    obtain ⟨d, ds, hrender, hd⟩ := renderString_eq_cons text.toList
    have hkeyword : readKeyword (renderString text.toList ++ c :: rest) = none := by
      rw [hrender]
      exact readKeyword_eq_none _ (startsString_ne hd (by decide))
    have hvalue : (Value.string text).isReadable = isReadable text.toList := Bool.and_true _
    rw [hvalue]
    change readValue (renderString text.toList ++ c :: rest) = _
    simp only [readValue, hkeyword, startsNumber_renderString _ _ hc,
      readString_renderString _ _ hc]
    by_cases hread : isReadable text.toList <;> simp [hread]
  | bool value => cases value <;> rfl
  | null => rfl
  | number literal => cases hv

end AirflowDeploy.Kdl
