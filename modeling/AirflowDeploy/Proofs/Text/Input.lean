import AirflowDeploy.Proofs.Text.Utf8
import AirflowDeploy.Text.Lines

/-!
# Lines of an input

A line is taken from encoded text as it is from the text itself: up to and with the first newline,
and all that stands behind it is left.
-/
namespace AirflowDeploy.Text

open Utf8

/-- Among the bytes of a text, the byte of the newline stands for newlines only. -/
theorem newline_not_mem_encodeChar {c : Char} (h : c ≠ '\n') :
    10 ∉ String.utf8EncodeChar c := by
  have hbyte {n : Nat} (hn : n < 256) (hne : n ≠ 10) : 10 ≠ UInt8.ofNat n := by
    intro heq
    have hnat := congrArg UInt8.toNat heq
    rw [toNat_ofNat hn] at hnat
    exact hne hnat.symm
  have hcode : c.val.toNat ≠ 10 := by
    intro hcode
    exact h (Char.toNat_inj.mp hcode)
  simp only [String.utf8EncodeChar]
  split_ifs
  all_goals
    simp only [List.mem_cons, List.not_mem_nil, or_false, not_or]
    and_intros
  all_goals exact hbyte (by omega) (by omega)

/-- Bytes without a newline belong to the first line. -/
theorem firstLineBytes_append {bs : List UInt8} (h : 10 ∉ bs) (rest : List UInt8) :
    firstLineBytes (bs ++ rest) = (bs ++ (firstLineBytes rest).1, (firstLineBytes rest).2) := by
  induction bs with
  | nil => rfl
  | cons b bs ih =>
    obtain ⟨hb, hbs⟩ := not_or.mp (mt List.mem_cons.mpr h)
    have hother : (b == 10) = false := beq_eq_false_iff_ne.mpr (Ne.symm hb)
    rw [List.cons_append, firstLineBytes, hother, ih hbs]
    rfl

theorem firstLineBytes_line {line : List UInt8} (h : 10 ∉ line) (rest : List UInt8) :
    firstLineBytes (line ++ 10 :: rest) = (line ++ [10], rest) := by
  rw [firstLineBytes_append h]
  rfl

/-- A first line ends in the first newline, or nothing comes after it. -/
theorem firstLineBytes_cases (bs : List UInt8) :
    (∃ line rest, bs = line ++ 10 :: rest ∧ 10 ∉ line ∧
        firstLineBytes bs = (line ++ [10], rest)) ∨
      10 ∉ bs ∧ firstLineBytes bs = (bs, []) := by
  by_cases hnewline : 10 ∈ bs
  · obtain ⟨line, rest, rfl, hline⟩ := List.eq_append_cons_of_mem hnewline
    exact .inl ⟨line, rest, rfl, hline, firstLineBytes_line hline rest⟩
  · have hwhole := firstLineBytes_append hnewline []
    simp only [List.append_nil, firstLineBytes] at hwhole
    exact .inr ⟨hnewline, hwhole⟩

theorem firstLine_cons {c : Char} (h : c ≠ '\n') (cs : List Char) :
    firstLine (c :: cs) = (c :: (firstLine cs).1, (firstLine cs).2) := by
  have hother : isNewline c = false := by simpa [isNewline] using h
  simp only [firstLine, List.takeWhile_cons, List.dropWhile_cons, hother, Bool.not_false, if_true]
  cases cs.dropWhile fun c => !isNewline c <;> rfl

theorem firstLineBytes_encode (cs : List Char) :
    firstLineBytes (encode cs) = (encode (firstLine cs).1, encode (firstLine cs).2) := by
  induction cs with
  | nil => rfl
  | cons c cs ih =>
    have hsplit : encode (c :: cs) = String.utf8EncodeChar c ++ encode cs := List.flatMap_cons
    by_cases hc : c = '\n'
    · subst hc
      rfl
    · rw [hsplit, firstLineBytes_append (newline_not_mem_encodeChar hc), ih, firstLine_cons hc]
      rfl

/-- A line is taken from encoded text as it stands there. -/
theorem takeLine_encode (cs : List Char) :
    takeLine (encode cs) = (.ok (String.ofList (firstLine cs).1), encode (firstLine cs).2) := by
  simp only [takeLine, firstLineBytes_encode, decode?_encode]

end AirflowDeploy.Text
