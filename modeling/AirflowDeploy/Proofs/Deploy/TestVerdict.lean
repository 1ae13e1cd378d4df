import AirflowDeploy.Proofs.Check.Status
import AirflowDeploy.Proofs.Deploy.Calls

/-!
# The verdict of the tests

What the check of the tests makes of the output of a test script. The verdict follows the status
of the tests where the status has a line of its own.
-/
namespace AirflowDeploy.Deploy

open Dialogue Deploy.Action Check

variable {setup : Setup} {file : Option String} {image output : String}
  {trace before after : List (Exchange outside)} {result : Except DeployError Unit}

/-- The verdict on an output, unless it cannot be written. -/
def outputVerdict (output : String) : Except DeployError Unit :=
  if (classify output).isFailed then .error .pytestFailed else .ok ()

/-- The verdict that a status asks for. -/
def statusVerdict (n : Nat) : Except DeployError Unit :=
  if n = 0 then .ok () else .error .pytestFailed

/-- Some text could not be written, and the result tells so. -/
def WriteFailed (trace : List (Exchange outside)) (result : Except DeployError Unit) : Prop :=
  ∃ text fault, ⟨.write text, .error fault⟩ ∈ trace ∧ result = .error (.output fault)

theorem not_writeFailed_ok (trace : List (Exchange outside)) : ¬ WriteFailed trace (.ok ()) := by
  rintro ⟨_, _, _, herror⟩
  cases herror

theorem ends_tellOutput (h : Ends (tellOutput output) trace result) :
    WriteFailed trace result ∨ result = outputVerdict output := by
  rcases ends_bind_iff.mp h with ⟨_, ⟨⟩, _, rfl, _, hlast⟩ | ⟨error, hsay, rfl⟩
  · refine .inr ?_
    rw [outputVerdict]
    split at hlast
    · next hfailed =>
      rw [if_pos hfailed]
      exact (ends_throw_iff.mp hlast).2
    · next hpassed =>
      rw [if_neg hpassed]
      exact (ends_pure_iff.mp hlast).2
  · rw [ends_say_iff] at hsay
    split at hsay
    · cases hsay.2
    · obtain ⟨answer, rfl, hanswer⟩ := hsay
      cases answer with
      | ok _ => cases hanswer
      | error fault => exact .inl ⟨output, fault, List.mem_cons_self, hanswer⟩

/-- The verdict on the engine's answer, unless something cannot be written. -/
def answerVerdict (answer : Except Fault String) : Except DeployError Unit :=
  match testOutput answer with
  | .ok output => outputVerdict output
  | .error fault => .error (.step "run pytests" fault)

/-- The answer that the engine gives decides, whatever it is. -/
theorem ends_checkPytest_of_answer {answer : Except Fault String}
    (h : Ends (checkPytest setup file image) trace result)
    (hrun : ⟨.pytest setup file image, answer⟩ ∈ trace) :
    WriteFailed trace result ∨ result = answerVerdict answer := by
  obtain ⟨before, after, rfl⟩ := List.append_of_mem hrun
  rw [checkPytest_eq] at h
  obtain ⟨start, ⟨⟩, middle, rfl, _, hx⟩ := (Follows.sayLine _).ends_right h rfl (by simp)
  have hstep {middle last : List (Exchange outside)} {told : Except DeployError String}
      (h : Ends (step "run pytests" (testOutput <$> ask (.pytest setup file image)))
        (middle ++ ⟨.pytest setup file image, answer⟩ :: last) told) :
      told = (testOutput answer).mapError (.step "run pytests") := by
    obtain ⟨_, hm, rfl⟩ := ends_expect_iff.mp h
    obtain ⟨_, hd, rfl⟩ := runs_map_iff.mp hm
    obtain ⟨rfl, he, rfl⟩ := append_cons_eq_singleton.mp (runs_query_iff.mp hd)
    cases he
    rfl
  rcases ends_bind_at hx with
    ⟨_, told, rest, rfl, hrun, hlast⟩ | ⟨_, hrun, rfl⟩ | ⟨_, _, _, _, _, hlast⟩
  · have htold : testOutput answer = .ok told := mapError_eq_ok_iff.mp (hstep hrun).symm
    rw [answerVerdict, htold]
    rcases ends_tellOutput hlast with ⟨text, fault, hmem, hresult⟩ | hverdict
    · exact .inl ⟨text, fault, by simp [hmem], hresult⟩
    · exact .inr hverdict
  · have htold := hstep hrun
    cases hanswer : testOutput answer with
    | ok told =>
      rw [hanswer] at htold
      cases htold
    | error fault =>
      rw [hanswer] at htold
      cases htold
      exact .inr (by rw [answerVerdict, hanswer])
  · exact absurd (mem_calls_of_mem List.mem_append_cons_self rfl)
      ((follows_tellOutput _).not_mem_calls (by simp) hlast)

/-- The output that the engine gives decides, whatever the output is. -/
theorem ends_checkPytest_of_mem (h : Ends (checkPytest setup file image) trace result)
    (hrun : ⟨.pytest setup file image, .ok output⟩ ∈ trace) :
    WriteFailed trace result ∨ result = outputVerdict output :=
  ends_checkPytest_of_answer h hrun

instance (output : String) : Decidable (EarlierFailure output) :=
  inferInstanceAs (Decidable (_ ∧ _))

theorem outputVerdict_withStatus (output : String) {n : Nat} (hn : n < Text.integerBound) :
    outputVerdict (withStatus output n) =
      if EndsBlank output then statusVerdict n
      else if EarlierFailure output then .error .pytestFailed else .ok () := by
  rw [outputVerdict, classify_withStatus output hn]
  by_cases hblank : EndsBlank output
  · by_cases hzero : n = 0 <;> simp [hblank, hzero, statusVerdict, Outcome.isFailed]
  · cases hs : status? (Text.unfinished output.toList ++ marker.toList) with
    | some rest => simp [hblank, EarlierFailure, hs, Outcome.isFailed]
    | none => simp [hblank, EarlierFailure, hs]

theorem statusVerdict_eq_iff (p : Prop) [Decidable p] (n : Nat) :
    (if p then .error .pytestFailed else .ok () : Except DeployError Unit) = statusVerdict n ↔
      (p ↔ n ≠ 0) := by
  by_cases hp : p <;> by_cases hn : n = 0 <;> simp [statusVerdict, hp, hn]

/-- Unless a write fails, the verdict is the one that the status asks for exactly when the output
before it ends in a blank line, or when what this line hides leads to the same verdict. On any
other line the status has no influence on the verdict. -/
theorem checkPytest_withStatus {n : Nat} (hn : n < 256)
    (h : Ends (checkPytest setup file image) trace result)
    (hrun : ⟨.pytest setup file image, .ok (withStatus output n)⟩ ∈ trace) :
    WriteFailed trace result ∨
      (result = statusVerdict n ↔ EndsBlank output ∨ (EarlierFailure output ↔ n ≠ 0)) ∧
      (¬ EndsBlank output →
        result = if EarlierFailure output then .error .pytestFailed else .ok ()) := by
  have hbound : n < Text.integerBound := Nat.lt_trans hn (by decide)
  refine (ends_checkPytest_of_mem h hrun).imp id fun hresult => ?_
  rw [hresult, outputVerdict_withStatus output hbound]
  by_cases hblank : EndsBlank output
  · simp [hblank]
  · rw [if_neg hblank]
    exact ⟨by simpa [hblank] using statusVerdict_eq_iff (EarlierFailure output) n, fun _ => rfl⟩

/-- An outside whose tests fail and whose output breaks off within its last line. -/
def brokenOff : (q : Query) → q.Answer
  | .pytest _ _ _ => .ok (withStatus "1 failed" 1)
  | q => willing q

def brokenOffRun : List (Exchange outside) × Except DeployError Unit :=
  (checkPytest ⟨"/p", [], ⟨0⟩⟩ none "img").run.follow brokenOff

theorem ends_brokenOffRun :
    Ends (checkPytest ⟨"/p", [], ⟨0⟩⟩ none "img") brokenOffRun.1 brokenOffRun.2 := runs_follow _ _

theorem mem_brokenOffRun :
    ⟨.pytest ⟨"/p", [], ⟨0⟩⟩ none "img", .ok (withStatus "1 failed" 1)⟩ ∈ brokenOffRun.1 :=
  .tail _ (.head _)

theorem brokenOffRun_withStatus : ¬ EndsBlank "1 failed" ∧
    (WriteFailed brokenOffRun.1 brokenOffRun.2 ∨
      (brokenOffRun.2 = statusVerdict 1 ↔
        EndsBlank "1 failed" ∨ (EarlierFailure "1 failed" ↔ 1 ≠ 0)) ∧
      (¬ EndsBlank "1 failed" →
        brokenOffRun.2 = if EarlierFailure "1 failed" then .error .pytestFailed else .ok ())) :=
  ⟨by decide, checkPytest_withStatus (by decide) ends_brokenOffRun mem_brokenOffRun⟩

/-- The tests end with the status 1, every write succeeds, and the check passes. -/
theorem brokenOffRun_passes :
    Ends (checkPytest ⟨"/p", [], ⟨0⟩⟩ none "img") brokenOffRun.1 (.ok ()) ∧
    ⟨.pytest ⟨"/p", [], ⟨0⟩⟩ none "img", .ok (withStatus "1 failed" 1)⟩ ∈ brokenOffRun.1 ∧
    ¬ WriteFailed brokenOffRun.1 (.ok ()) ∧ statusVerdict 1 = .error .pytestFailed := by
  have hpasses : brokenOffRun.2 = .ok () := by decide +kernel
  exact ⟨hpasses ▸ ends_brokenOffRun, mem_brokenOffRun, not_writeFailed_ok _, rfl⟩

end AirflowDeploy.Deploy
