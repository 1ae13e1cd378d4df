import AirflowDeploy.Check.Outcome
import AirflowDeploy.Proofs.Text.Lines

/-!
# The status of a test run

What is read from the output of a test run, behind which its exit status was written. The status
has a line of its own only if the output before it does not break off within a line.
-/
namespace AirflowDeploy.Check

open Text

/-- What the test script writes when the tests are over. -/
def statusText (n : Nat) : List Char := marker.toList ++ ' ' :: decimal n

/-- The output of a test script whose tests wrote `output` and ended with the status `n`. -/
def withStatus (output : String) (n : Nat) : String :=
  String.ofList (output.toList ++ statusText n ++ ['\n'])

/-- Nothing but blanks stands behind the last newline. -/
def EndsBlank (output : String) : Prop := trimStart (unfinished output.toList) = []

instance (output : String) : Decidable (EndsBlank output) := inferInstanceAs (Decidable (_ = _))

/-- The unfinished line hides the status and has no marker of its own, and a finished line before
it tells of a failure. -/
def EarlierFailure (output : String) : Prop :=
  status? (unfinished output.toList ++ marker.toList) = none ∧
    (classify (String.ofList (finished output.toList))).isFailed = true

theorem solidEnd_marker : SolidEnd marker.toList := ⟨"exit cod".toList, 'e', rfl, by decide⟩

theorem trimStart_marker_append (rest : List Char) :
    trimStart (marker.toList ++ rest) = marker.toList ++ rest := trimStart_eq_self (by decide)

theorem solidEnd_statusText (n : Nat) : SolidEnd (statusText n) :=
  ((solidEnd_decimal n).append [' ']).append marker.toList

variable {line rest : List Char} {n : Nat}

theorem not_isNewline_of_mem_statusText {c : Char} (h : c ∈ statusText n) :
    isNewline c = false := by
  have hmarker : marker.toList.all (fun c => !isNewline c) = true := by decide
  rw [statusText, List.mem_append, List.mem_cons] at h
  rcases h with h | rfl | h
  · simpa using List.all_eq_true.mp hmarker c h
  · rfl
  · have hdigit := isDigit_of_mem_decimal h
    by_contra hnewline
    obtain rfl : c = '\n' := by simpa [isNewline] using hnewline
    exact absurd hdigit (by decide)

theorem status?_append_marker (line : List Char) :
    status? (line ++ marker.toList) =
      afterPrefix? marker.toList (trimStart line ++ marker.toList) := by
  have hstart : trimStart marker.toList = marker.toList := by
    simpa using trimStart_marker_append []
  rw [status?, solidEnd_marker.trim_append hstart line]

/-- Whether a line has the marker is decided before the status itself. -/
theorem status?_append_statusText (line : List Char) (n : Nat) :
    status? (line ++ statusText n) =
      (status? (line ++ marker.toList)).map (· ++ ' ' :: decimal n) := by
  have htext := (solidEnd_statusText n).trim_append (trimStart_marker_append _) line
  rw [status?, htext, status?_append_marker, statusText, ← List.append_assoc]
  exact afterPrefix?_append_right (by simp)

theorem status?_append_marker_of_blank (h : trimStart line = []) :
    status? (line ++ marker.toList) = some [] := by
  rw [status?_append_marker, h]
  exact afterPrefix?_append marker.toList []

/-- What follows the marker on a line that begins before it still has the end of the marker. -/
theorem mem_status_of_append_marker (h : trimStart line ≠ [])
    (hs : status? (line ++ marker.toList) = some rest) : 'e' ∈ rest := by
  rw [status?_append_marker] at hs
  have heq : trimStart line ++ marker.toList = marker.toList ++ rest := eq_append_of_afterPrefix? hs
  have hne : rest ≠ [] := by
    rintro rfl
    have hlength := congrArg List.length heq
    simp at hlength
    exact h hlength
  have hlast : (marker.toList ++ rest).getLast? = some 'e' := by
    rw [← heq, List.getLast?_append_of_ne_nil _ (by decide)]
    rfl
  rw [List.getLast?_append_of_ne_nil _ hne] at hlast
  exact List.mem_of_getLast? hlast

theorem ofStatus_decimal (hn : n < integerBound) :
    Outcome.ofStatus (' ' :: decimal n) = if n = 0 then .passed else .failed n := by
  have htrim : trim (' ' :: decimal n) = decimal n := trim_append_decimal [' '] n
  simp only [Outcome.ofStatus, htrim, readInteger?_decimal hn, Int.natCast_eq_zero]

theorem ofStatus_eq_unknown (h : 'e' ∈ rest) : Outcome.ofStatus rest = .unknown := by
  have hmem : 'e' ∈ trim rest := mem_trim h (by decide)
  rw [Outcome.ofStatus, readInteger?_eq_none hmem (by decide) (by decide) (by decide)]

/-- The status is read if only blanks stand before it on its line. Otherwise it is not, and what
stands before it decides. -/
theorem classify_withStatus (output : String) (hn : n < integerBound) :
    classify (withStatus output n) =
      if EndsBlank output then if n = 0 then .passed else .failed n
      else if (status? (unfinished output.toList ++ marker.toList)).isSome then .unknown
      else classify (String.ofList (finished output.toList)) := by
  have hline : ∀ c ∈ unfinished output.toList ++ statusText n, isNewline c = false := by
    intro c hc
    rcases List.mem_append.mp hc with hc | hc
    · exact not_isNewline_of_mem_unfinished hc
    · exact not_isNewline_of_mem_statusText hc
  have hlines : lines (withStatus output n).toList =
      lines (finished output.toList) ++ [unfinished output.toList ++ statusText n] := by
    rw [← ((solidEnd_statusText n).append _).lines_append_newline hline, ← lines_finished_append]
    conv_lhs => rw [withStatus, ← finished_append_unfinished output.toList]
    simp
  rw [classify, hlines, List.reverse_append, List.reverse_singleton, List.singleton_append,
    List.findSome?_cons, status?_append_statusText]
  by_cases hblank : EndsBlank output
  · rw [if_pos hblank, status?_append_marker_of_blank hblank]
    exact ofStatus_decimal hn
  · rw [if_neg hblank]
    cases hs : status? (unfinished output.toList ++ marker.toList) with
    | some rest =>
      have hmem := mem_status_of_append_marker hblank hs
      exact ofStatus_eq_unknown (List.mem_append_left _ hmem)
    | none => simp [classify]

end AirflowDeploy.Check
