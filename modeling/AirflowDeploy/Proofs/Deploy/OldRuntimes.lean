import AirflowDeploy.Proofs.Deploy.CheckGate
import AirflowDeploy.Proofs.Version.Chains

/-!
# Runtimes that are too old to load DAGs

The DAGs are not loaded for an old runtime. A version is old if it precedes the oldest one whose
images can load them, and a text that is no version if it precedes that version as a text.
-/
namespace AirflowDeploy

namespace Deploy

open Dialogue Deploy.Action

variable {setup : Check.Setup} {image version : String} {trace : List (Exchange outside)}
  {result : Except DeployError Unit}

/-- The oldest version whose images can load DAGs. -/
def parseMinimumVersion : Version where
  major := 4
  minor := 1
  patch := 0
  pre := []
  build := []

/-- A version before that one, or a text that is no version and stands before it by code points. -/
def IsOld (version : String) : Prop :=
  (∃ v, Version.read? version = some v ∧ v.compare parseMinimumVersion = .lt) ∨
    Version.read? version = none ∧ version.toList < "4.1.0".toList

theorem isTooOldToParse_iff : isTooOldToParse version = true ↔ IsOld version := by
  have hminimum : Version.read? "4.1.0" = some parseMinimumVersion := by decide +kernel
  rw [isTooOldToParse, beq_iff_eq, parseMinimum, IsOld]
  cases hread : Version.read? version with
  | some v => simp [Version.compareTexts_of_read hread hminimum]
  | none =>
    -- One text that is no version is enough for both to be compared as texts.
    have hunreadable : (Version.isReadable version && Version.isReadable "4.1.0") = false := by
      simp [Version.isReadable, hread]
    rw [Version.compareTexts_of_not_readable hunreadable, Text.compare_eq_lt_iff]
    simp

instance : Decidable (IsOld version) := decidable_of_iff _ isTooOldToParse_iff

/-- A text with two numbers is no version. -/
example : IsOld "4.1.0-rc.1" ∧ ¬ IsOld "10.0.0" ∧ IsOld "10.0" ∧ ¬ IsOld "9.0" := by
  decide +kernel

/-- The notice before the DAGs are loaded could not be written. -/
def Untold (trace : List (Exchange outside)) (result : Except DeployError Unit) : Prop :=
  ∃ cause, trace = [⟨.write "Testing image for DAG import errors...\n", .error cause⟩] ∧
    result = .error (.output cause)

theorem checkParse_of_isOld (h : IsOld version) :
    checkParse setup image version =
      sayLine ("Skipping DAG parse: runtime " ++ version ++ " is older than 4.1.0") := by
  rw [checkParse_eq, if_pos (isTooOldToParse_iff.mpr h), parseMinimum, String.append_assoc]
  rfl

/-- The DAGs are loaded once, unless nothing can be told to the user. -/
theorem ends_checkParse_of_not_isOld (hold : ¬ IsOld version)
    (h : Ends (checkParse setup image version) trace result) :
    Untold trace result ∨ ∃ answer, SoleCall ⟨.parse setup image, answer⟩ trace := by
  rw [checkParse_eq, if_neg fun h => hold (isTooOldToParse_iff.mp h)] at h
  rcases ends_bind_iff.mp h with ⟨told, ⟨⟩, _, rfl, htold, hrest⟩ | ⟨error, htold, rfl⟩
  · rcases ends_bind_iff.mp hrest with ⟨asked, answer, last, rfl, hask, hlast⟩ | ⟨_, hask, _⟩
    · obtain ⟨_, hask, hanswer⟩ := ends_lift_iff.mp hask
      obtain rfl := Except.ok.inj hanswer
      rw [runs_query_iff.mp hask]
      exact .inr ⟨answer, told, last, rfl, (Follows.sayLine _).calls_eq_nil htold,
        (follows_tellParse answer).calls_eq_nil hlast⟩
    · obtain ⟨_, _, herror⟩ := ends_lift_iff.mp hask
      cases herror
  · obtain ⟨cause, rfl, rfl⟩ := ends_say_error htold
    exact .inl ⟨cause, rfl, rfl⟩

/-- The check passes without a look at the DAGs exactly for old runtimes. Their DAGs are never
loaded; for every other runtime they are, unless nothing can be told to the user. -/
theorem checkParse_skips_iff_isOld (setup : Check.Setup) (image version : String) :
    ((∃ trace, Ends (checkParse setup image version) trace (.ok ()) ∧ .parse ∉ calls trace) ↔
      IsOld version) ∧
    ∀ trace result, Ends (checkParse setup image version) trace result →
      (IsOld version → calls trace = []) ∧
      (¬ IsOld version →
        Untold trace result ∨ ∃ answer, SoleCall ⟨.parse setup image, answer⟩ trace) := by
  refine ⟨⟨?_, ?_⟩, fun _ _ h => ⟨fun hold => ?_, fun hold => ends_checkParse_of_not_isOld hold h⟩⟩
  · rintro ⟨trace, h, hskipped⟩
    by_contra hold
    rcases ends_checkParse_of_not_isOld hold h with ⟨_, _, ⟨⟩⟩ | ⟨answer, _, _, rfl, _⟩
    exact hskipped (mem_calls_of_mem List.mem_append_cons_self rfl)
  · intro hold
    let notice := "Skipping DAG parse: runtime " ++ version ++ " is older than 4.1.0" ++ "\n"
    have hsay : Ends (say notice) [⟨.write notice, .ok ()⟩] (.ok ()) := by
      rw [ends_say_iff, if_neg (by simp [notice])]
      exact ⟨.ok (), rfl, rfl⟩
    refine ⟨_, ?_, (by simp [Query.call?] : .parse ∉ calls [⟨.write notice, .ok ()⟩])⟩
    rw [checkParse_of_isOld hold]
    exact hsay
  · rw [checkParse_of_isOld hold] at h
    exact (Follows.sayLine _).calls_eq_nil h

/-- `10.0` is no version, and the check passes without a look at the DAGs. -/
theorem checkParse_skips_unreadable :
    Version.read? "10.0" = none ∧
    ∃ trace, Ends (checkParse ⟨"/p", [], ⟨0⟩⟩ "i" "10.0") trace (.ok ()) ∧
      .parse ∉ calls trace := by
  refine ⟨by decide +kernel, _, ?_,
    (by simp [Query.call?] : .parse ∉ calls
      [⟨.write "Skipping DAG parse: runtime 10.0 is older than 4.1.0\n", .ok ()⟩])⟩
  rw [checkParse_of_isOld (by decide +kernel)]
  exact ends_say_iff.mpr ⟨.ok (), rfl, rfl⟩

end Deploy

end AirflowDeploy
