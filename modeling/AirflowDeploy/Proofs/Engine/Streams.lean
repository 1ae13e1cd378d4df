import AirflowDeploy.Engine.Check
import AirflowDeploy.Proofs.Text.Input
import AirflowDeploy.Proofs.Text.Numerals

/-!
# Streams of the daemon

What the daemon tells of a container comes in streams. The first value of a wait stream stands on
the first line, which may go on on the next one, and it tells an exit code if it is an object with
a whole number for its status. A log is read if it consists of frames and of lines to its end.
-/
namespace AirflowDeploy

open Text

namespace Json

/-- A number without fraction and exponent, which is no negative zero. -/
inductive IsInteger : Json → Int → Prop where
  | whole {n : Nat} {digits : List Char} (h : IsPadded n digits) : IsInteger (.number digits) n
  | negative {n : Nat} {digits : List Char} (h : IsPadded n digits) (hne : n ≠ 0) :
      IsInteger (.number ('-' :: digits)) (-n)

theorem int?_eq_some_iff {j : Json} {n : Int} : j.int? = some n ↔ IsInteger j n := by
  constructor
  · intro h
    unfold int? at h
    split at h
    · obtain ⟨_, hvalue, rfl⟩ := Option.map_eq_some_iff.mp h
      obtain ⟨m, hm, hcast⟩ := Option.bind_eq_some_iff.mp hvalue
      obtain rfl := Option.some.inj hcast
      obtain ⟨hread, hne⟩ := Option.filter_eq_some_iff.mp hm
      exact .negative (readDigits?_eq_some_iff_isPadded.mp hread) (by simpa using hne)
    · obtain ⟨_, hvalue, rfl⟩ := Option.map_eq_some_iff.mp h
      obtain ⟨m, hread, hcast⟩ := Option.bind_eq_some_iff.mp hvalue
      obtain rfl := Option.some.inj hcast
      exact .whole (readDigits?_eq_some_iff_isPadded.mp hread)
    · cases h
  · intro h
    cases h with
    | @whole m digits h =>
      unfold int?
      split
      · next heq =>
        cases heq
        exact absurd (h.isDigit List.mem_cons_self) (by decide)
      · next heq =>
        cases heq
        rw [readDigits?_eq_some_iff_isPadded.mpr h]
        rfl
      · next hother => exact absurd rfl (hother digits)
    | @negative m digits h hne =>
      have hkept : (some m).filter (· ≠ 0) = some m := by simp [Option.filter_some, hne]
      rw [int?, readDigits?_eq_some_iff_isPadded.mpr h, hkept]
      rfl

theorem int64?_eq_some_iff {j : Json} {n : Int} :
    j.int64? = some n ↔
      IsInteger j n ∧ Int64.minValue.toInt ≤ n ∧ n ≤ Int64.maxValue.toInt := by
  rw [int64?, Option.filter_eq_some_iff, int?_eq_some_iff, Bool.and_eq_true, decide_eq_true_eq,
    decide_eq_true_eq]

end Json

namespace Daemon

variable {line rest bs : List UInt8} {value : Json} {pieces : List (List UInt8)}

/-- A value other than null stands on the first line. -/
inductive OnLine : List UInt8 → Json → Prop where
  | last {line : List UInt8} {value : Json} (hline : 10 ∉ line)
      (hvalue : Json.readBytes? line = some value) (hnull : value ≠ .null) : OnLine line value
  | ended {line : List UInt8} {value : Json} (hline : 10 ∉ line)
      (hvalue : Json.readBytes? line = some value) (hnull : value ≠ .null) (rest : List UInt8) :
      OnLine (line ++ 10 :: rest) value

/-- The first value stands on the first line or, where this holds none, on the first line after it
was joined with the next one. -/
inductive FirstValue : List UInt8 → Json → Prop where
  | own {bs : List UInt8} {value : Json} (h : OnLine bs value) : FirstValue bs value
  | joined {line rest : List UInt8} {value : Json} (hline : 10 ∉ line)
      (hnone : ∀ own, ¬ OnLine line own) (h : OnLine (line ++ rest) value) :
      FirstValue (line ++ 10 :: rest) value

theorem cutLine_append (hline : 10 ∉ line) (rest : List UInt8) :
    cutLine (line ++ 10 :: rest) = (line, rest) := by
  induction line with
  | nil => rfl
  | cons b line ih =>
    obtain ⟨hb, hrest⟩ := List.ne_and_not_mem_of_not_mem_cons hline
    rw [List.cons_append, cutLine, if_neg (by simpa using hb.symm), ih hrest]

theorem cutLine_eq_self (hline : 10 ∉ line) : cutLine line = (line, []) := by
  induction line with
  | nil => rfl
  | cons b line ih =>
    obtain ⟨hb, hrest⟩ := List.ne_and_not_mem_of_not_mem_cons hline
    rw [cutLine, if_neg (by simpa using hb.symm), ih hrest]

theorem cutLine_cases (bs : List UInt8) :
    (∃ line rest, bs = line ++ 10 :: rest ∧ 10 ∉ line ∧ cutLine bs = (line, rest)) ∨
      10 ∉ bs ∧ cutLine bs = (bs, []) := by
  by_cases hnewline : 10 ∈ bs
  · obtain ⟨line, rest, rfl, hline⟩ := List.eq_append_cons_of_mem hnewline
    exact .inl ⟨line, rest, rfl, hline, cutLine_append hline rest⟩
  · exact .inr ⟨hnewline, cutLine_eq_self hnewline⟩

theorem lineValue?_eq_some_iff :
    lineValue? line = some value ↔ Json.readBytes? line = some value ∧ value ≠ .null := by
  unfold lineValue?
  cases Json.readBytes? line with
  | none => simp
  | some own => cases own <;> simp +contextual [eq_comm]

theorem takeValue_fst : (takeValue bs).1 = lineValue? (cutLine bs).1 := by
  rw [takeValue]
  cases h : lineValue? (cutLine bs).1 <;> simp [h]

/-- A line without a value loses its end. -/
theorem takeValue_snd (h : (takeValue bs).1 = none) :
    (takeValue bs).2 = (cutLine bs).1 ++ (cutLine bs).2 := by
  rw [takeValue_fst] at h
  simp [takeValue, h]

/-- What the first line holds is the value that is taken from it. -/
theorem takeValue_eq_some_iff : (takeValue bs).1 = some value ↔ OnLine bs value := by
  rw [takeValue_fst, lineValue?_eq_some_iff]
  constructor
  · rintro ⟨hvalue, hnull⟩
    rcases cutLine_cases bs with ⟨line, rest, rfl, hline, hcut⟩ | ⟨hline, hcut⟩
    · rw [hcut] at hvalue
      exact .ended hline hvalue hnull rest
    · rw [hcut] at hvalue
      exact .last hline hvalue hnull
  · intro h
    cases h with
    | last hline hvalue hnull =>
      rw [cutLine_eq_self hline]
      exact ⟨hvalue, hnull⟩
    | ended hline hvalue hnull rest =>
      rw [cutLine_append hline]
      exact ⟨hvalue, hnull⟩

/-- A line that holds no value is read once more when nothing more will come. -/
theorem head?_values : (values bs).head? = some (.ok value) ↔
    (takeValue bs).1 = some value ∨
      (takeValue bs).1 = none ∧ (takeValue (takeValue bs).2).1 = some value := by
  have hcomplete {fuel : Nat} {bs : List UInt8} :
      (valuesWithin (fuel + 1) true bs).head? = some (.ok value) ↔
        (takeValue bs).1 = some value := by
    rw [valuesWithin]
    rcases takeValue bs with ⟨_ | own, rest⟩
    · cases rest <;> simp
    · simp
  rw [values, valuesWithin]
  rcases htake : takeValue bs with ⟨_ | own, rest⟩
  · simpa using hcomplete
  · simp

/-- The first value of a stream. -/
theorem head?_values_eq_ok_iff : (values bs).head? = some (.ok value) ↔ FirstValue bs value := by
  rw [head?_values, takeValue_eq_some_iff, takeValue_eq_some_iff]
  constructor
  · rintro (hown | ⟨hnone, h⟩)
    · exact .own hown
    have hfirst := takeValue_fst.symm.trans hnone
    rw [takeValue_snd hnone] at h
    rcases cutLine_cases bs with ⟨line, rest, rfl, hline, hcut⟩ | ⟨hline, hcut⟩
    · rw [hcut] at h hfirst
      refine .joined hline (fun own hown => ?_) h
      rw [← takeValue_eq_some_iff, takeValue_fst, cutLine_eq_self hline, hfirst] at hown
      cases hown
    · rw [hcut, List.append_nil] at h
      exact .own h
  · intro h
    cases h with
    | own hown => exact .inl hown
    | @joined line rest _ hline hnone h =>
      have hnothing : lineValue? line = none := by
        refine Option.eq_none_iff_forall_ne_some.mpr fun own hown => hnone own ?_
        obtain ⟨hvalue, hnull⟩ := lineValue?_eq_some_iff.mp hown
        exact .last hline hvalue hnull
      have htaken : (takeValue (line ++ 10 :: rest)).1 = none := by
        rw [takeValue_fst, cutLine_append hline, hnothing]
      refine .inr ⟨htaken, ?_⟩
      rwa [takeValue_snd htaken, cutLine_append hline]

/-- The pieces of a log that is read to its end: the data of frames, and lines that start with no
stream. The last frame may have lost its data. -/
inductive IsLog : List UInt8 → List (List UInt8) → Prop where
  | nil : IsLog [] []
  | frame {b b₁ b₂ b₃ l₁ l₂ l₃ l₄ : UInt8} {data rest : List UInt8} {pieces : List (List UInt8)}
      (hstream : b ≤ 2) (hlength : data.length = lengthOf l₁ l₂ l₃ l₄) (hrest : IsLog rest pieces) :
      IsLog (b :: b₁ :: b₂ :: b₃ :: l₁ :: l₂ :: l₃ :: l₄ :: (data ++ rest)) (data :: pieces)
  | head {b b₁ b₂ b₃ l₁ l₂ l₃ l₄ : UInt8} (hstream : b ≤ 2) (hlength : 0 < lengthOf l₁ l₂ l₃ l₄) :
      IsLog [b, b₁, b₂, b₃, l₁, l₂, l₃, l₄] []
  | line {line rest : List UInt8} {pieces : List (List UInt8)} (hstream : ∀ b ∈ line.head?, 2 < b)
      (hline : 10 ∉ line) (hrest : IsLog rest pieces) :
      IsLog (line ++ 10 :: rest) ((line ++ [10]) :: pieces)

theorem logPiecesWithin_frame {b b₁ b₂ b₃ l₁ l₂ l₃ l₄ : UInt8} {data : List UInt8} (hstream : b ≤ 2)
    (hlength : data.length = lengthOf l₁ l₂ l₃ l₄) (rest : List UInt8) (fuel : Nat) :
    logPiecesWithin (fuel + 1) (b :: b₁ :: b₂ :: b₃ :: l₁ :: l₂ :: l₃ :: l₄ :: (data ++ rest)) =
      (logPiecesWithin fuel rest).map (data :: ·) := by
  have hfits : data.length ≤ (data ++ rest).length := by simp
  simp only [logPiecesWithin, hstream, if_true, ← hlength, hfits, List.take_left, List.drop_left]

theorem logPiecesWithin_line (hstream : ∀ b ∈ line.head?, 2 < b) (hline : 10 ∉ line)
    (rest : List UInt8) (fuel : Nat) :
    logPiecesWithin (fuel + 1) (line ++ 10 :: rest) =
      (logPiecesWithin fuel rest).map ((line ++ [10]) :: ·) := by
  cases line with
  | nil => simp [logPiecesWithin, firstLineBytes]
  | cons b line =>
    have hb : ¬ b ≤ 2 := UInt8.not_le.mpr (hstream b rfl)
    have hcut := firstLineBytes_line hline rest
    have hended : (b :: line ++ [10]).getLast? = some 10 := List.getLast?_concat
    rw [List.cons_append] at hcut ⊢
    conv_lhs => unfold logPiecesWithin
    rw [if_neg hb, hcut]
    exact if_pos hended

theorem logPiecesWithin_of_isLog {fuel : Nat} (h : IsLog bs pieces) (hfuel : bs.length ≤ fuel) :
    logPiecesWithin fuel bs = some pieces := by
  have hstep {n fuel : Nat} (hfuel : n + 1 ≤ fuel) : ∃ less, fuel = less + 1 :=
    Nat.exists_eq_add_of_le' (Nat.le_trans (Nat.le_add_left 1 n) hfuel)
  induction h generalizing fuel with
  | nil => cases fuel <;> rfl
  | frame hstream hlength hrest ih =>
    simp only [List.length_cons, List.length_append] at hfuel
    obtain ⟨fuel, rfl⟩ := hstep hfuel
    rw [logPiecesWithin_frame hstream hlength, ih (by omega)]
    rfl
  | head hstream hlength =>
    obtain ⟨fuel, rfl⟩ := hstep hfuel
    simp [logPiecesWithin, hstream, Nat.pos_iff_ne_zero.mp hlength]
  | line hstream hline hrest ih =>
    simp only [List.length_cons, List.length_append] at hfuel
    obtain ⟨fuel, rfl⟩ := hstep hfuel
    rw [logPiecesWithin_line hstream hline, ih (by omega)]
    rfl

theorem isLog_of_logPiecesWithin {fuel : Nat} (h : logPiecesWithin fuel bs = some pieces) :
    IsLog bs pieces := by
  fun_induction logPiecesWithin fuel bs generalizing pieces with
  | case1 =>
    cases h
    exact .nil
  | case2 => cases h
  | case3 fuel b hstream b₁ b₂ b₃ l₁ l₂ l₃ l₄ data n =>
    rename_i hfits ih
    obtain ⟨others, hothers, rfl⟩ := Option.map_eq_some_iff.mp h
    have hlength : (data.take n).length = lengthOf l₁ l₂ l₃ l₄ := List.length_take_of_le hfits
    have hlog := @IsLog.frame b b₁ b₂ b₃ l₁ l₂ l₃ l₄ _ _ _ hstream hlength (ih hothers)
    rwa [List.take_append_drop] at hlog
  | case4 fuel b hstream b₁ b₂ b₃ l₁ l₂ l₃ l₄ data n =>
    rename_i hfits hempty
    cases h
    obtain rfl : data = [] := List.isEmpty_iff.mp hempty
    exact .head hstream (Nat.pos_of_ne_zero fun hzero => hfits (Nat.le_of_eq hzero))
  | case5 => cases h
  | case6 => cases h
  | case7 fuel b rest hstream line after hcut hended ih =>
    obtain ⟨others, hothers, rfl⟩ := Option.map_eq_some_iff.mp h
    rcases firstLineBytes_cases (b :: rest) with ⟨own, later, hrest, hown, hfirst⟩ | ⟨hnone, hfirst⟩
    · cases hcut.symm.trans hfirst
      rw [hrest]
      refine .line (fun c hc => ?_) hown (ih hothers)
      cases own with
      | nil => cases hc
      | cons first own =>
        cases hc
        cases hrest
        exact UInt8.not_le.mp hstream
    · cases hcut.symm.trans hfirst
      exact absurd (List.mem_of_getLast? hended) hnone
  | case8 => cases h

/-- The text of a log is made of its pieces. -/
theorem logText_eq_ok_iff {text : String} : logText bs = .ok text ↔
    ∃ pieces, IsLog bs pieces ∧ text = String.ofList (pieces.flatMap Utf8.decodeLossy) := by
  have hpieces {pieces : List (List UInt8)} :
      logPiecesWithin bs.length bs = some pieces ↔ IsLog bs pieces :=
    ⟨isLog_of_logPiecesWithin, fun h => logPiecesWithin_of_isLog h (Nat.le_refl _)⟩
  simp only [← hpieces, logText, logPieces]
  cases logPiecesWithin bs.length bs <;> simp [Except.map, eq_comm]

end Daemon

namespace Engine

open Daemon

/-- The first value is an object with this whole number, in 64 bits, for its status. -/
def TellsExit (body : List UInt8) (code : Int) : Prop :=
  ∃ members status, FirstValue body (.object members) ∧
    members.lookup (some "StatusCode") = some status ∧ Json.IsInteger status code ∧
    Int64.minValue.toInt ≤ code ∧ code ≤ Int64.maxValue.toInt

theorem exitCodeIn_eq_ok_iff {body : List UInt8} {code : Int} :
    exitCodeIn body = .ok code ↔ TellsExit body code := by
  constructor
  · intro h
    unfold exitCodeIn at h
    split at h
    · cases h
    · cases h
    · next members hfirst =>
      split at h
      · next told hstatus =>
        obtain rfl := Except.ok.inj h
        obtain ⟨status, hmember, hnumber⟩ := Option.bind_eq_some_iff.mp hstatus
        exact ⟨members, status, head?_values_eq_ok_iff.mp hfirst, hmember,
          Json.int64?_eq_some_iff.mp hnumber⟩
      · cases h
    · cases h
  · rintro ⟨members, status, hfirst, hmember, hnumber⟩
    rw [exitCodeIn, head?_values_eq_ok_iff.mpr hfirst]
    simp [hmember, Json.int64?_eq_some_iff.mpr hnumber]

end Engine

end AirflowDeploy
