import AirflowDeploy.Deploy.Outside
import AirflowDeploy.Proofs.Dialogue.Failing

/-!
# Runs of actions

A run of an action is a run of its dialogue that ends in a value or in an error. A sequence of
two actions stops where the first one fails.
-/
namespace AirflowDeploy.Deploy

/-- `Ends x trace result`: some behaviour of the outside world leads the action `x` through
`trace` to `result`. -/
abbrev Ends (x : Action α) (trace : List (Exchange outside)) (result : Except DeployError α) :
    Prop := Dialogue.Runs x.run trace result

namespace Action

open Dialogue

variable {α β ε : Type} {trace : List (Exchange outside)}

theorem ends_pure_iff {a : α} {result : Except DeployError α} :
    Ends (pure a) trace result ↔ trace = [] ∧ result = .ok a := runs_run_pure_iff

theorem ends_throw_iff {e : DeployError} {result : Except DeployError α} :
    Ends (throw e) trace result ↔ trace = [] ∧ result = .error e := runs_run_throw_iff

theorem ends_bind_iff {x : Action α} {f : α → Action β} {result : Except DeployError β} :
    Ends (x >>= f) trace result ↔
      (∃ first a rest, trace = first ++ rest ∧ Ends x first (.ok a) ∧ Ends (f a) rest result) ∨
      ∃ e, Ends x trace (.error e) ∧ result = .error e := runs_run_bind_iff

/-- A sequence succeeds where both of its parts do. -/
theorem ends_bind_ok_iff {x : Action α} {f : α → Action β} {b : β} :
    Ends (x >>= f) trace (.ok b) ↔
      ∃ first a rest, trace = first ++ rest ∧ Ends x first (.ok a) ∧ Ends (f a) rest (.ok b) :=
  runs_run_bind_ok_iff

/-- An action that may be refused before it starts has succeeded, so it was not refused. -/
theorem ends_guard_ok {c : Bool} {e : DeployError} {next : Unit → Action α} {a : α}
    (h : Ends (if c then throw e >>= next else next ()) trace (.ok a)) :
    Ends (next ()) trace (.ok a) := by
  split at h
  · obtain ⟨_, _, _, _, hthrow, _⟩ := ends_bind_ok_iff.mp h
    cases (ends_throw_iff.mp hthrow).2
  · exact h

/-- An exchange of a sequence is one of the first part or one of the second part. -/
theorem ends_bind_at {x : Action α} {f : α → Action β} {result : Except DeployError β}
    {before after : List (Exchange outside)} {e : Exchange outside}
    (h : Ends (x >>= f) (before ++ e :: after) result) :
    (∃ middle a rest, after = middle ++ rest ∧ Ends x (before ++ e :: middle) (.ok a) ∧
      Ends (f a) rest result) ∨
    (∃ error, Ends x (before ++ e :: after) (.error error) ∧ result = .error error) ∨
    ∃ first a middle, before = first ++ middle ∧ Ends x first (.ok a) ∧
      Ends (f a) (middle ++ e :: after) result := by
  rcases ends_bind_iff.mp h with ⟨first, a, rest, ht, hx, hf⟩ | hx
  · rcases append_eq_append_cons ht.symm with ⟨middle, rfl, rfl⟩ | ⟨middle, rfl, rfl⟩
    · exact .inl ⟨middle, a, rest, rfl, hx, hf⟩
    · exact .inr (.inr ⟨first, a, middle, rfl, hx, hf⟩)
  · exact .inr (.inl hx)

theorem ends_map_iff {x : Action α} {f : α → β} {result : Except DeployError β} :
    Ends (f <$> x) trace result ↔ ∃ r, Ends x trace r ∧ result = r.map f := runs_run_map_iff

theorem ends_lift_iff {d : Dialogue outside α} {result : Except DeployError α} :
    Ends (liftM d) trace result ↔ ∃ a, Runs d trace a ∧ result = .ok a := runs_run_lift_iff

theorem ends_ofExcept_iff {x result : Except DeployError α} :
    Ends (liftM x) trace result ↔ trace = [] ∧ result = x := runs_run_ofExcept_iff

theorem ends_expect_iff {f : ε → DeployError} {d : Dialogue outside (Except ε α)}
    {result : Except DeployError α} :
    Ends (expect f d) trace result ↔
      ∃ answer, Runs d trace answer ∧ result = answer.mapError f := runs_map_iff

/-- What is expected succeeds with the value that the answer carries. -/
theorem ends_expect_ok_iff {f : ε → DeployError} {d : Dialogue outside (Except ε α)} {a : α} :
    Ends (expect f d) trace (.ok a) ↔ Runs d trace (.ok a) := by
  rw [ends_expect_iff]
  constructor
  · rintro ⟨answer, hd, ha⟩
    rwa [mapError_eq_ok_iff.mp ha.symm] at hd
  · intro hd
    exact ⟨.ok a, hd, rfl⟩

/-- A sequence that starts with an operation goes on with its value, or fails with its fault. -/
theorem ends_step_bind {operation : String} {d : Dialogue outside (Except Fault α)}
    {f : α → Action β} {result : Except DeployError β}
    (h : Ends (step operation d >>= f) trace result) :
    ∃ first answer rest, trace = first ++ rest ∧ Runs d first answer ∧
      ((∃ a, answer = .ok a ∧ Ends (f a) rest result) ∨
        ∃ fault, answer = .error fault ∧ rest = [] ∧ result = .error (.step operation fault)) := by
  rcases ends_bind_iff.mp h with ⟨first, a, rest, rfl, hstep, hf⟩ | ⟨e, hstep, rfl⟩
  · exact ⟨first, .ok a, rest, rfl, ends_expect_ok_iff.mp hstep, .inl ⟨a, rfl, hf⟩⟩
  · obtain ⟨answer, hd, herror⟩ := ends_expect_iff.mp hstep
    cases answer with
    | ok a => cases herror
    | error fault =>
      cases herror
      exact ⟨trace, .error fault, [], by simp, hd, .inr ⟨fault, rfl, rfl, rfl⟩⟩

theorem ends_enter_iff {state : State} {id : String} {result : Except DeployError Unit} :
    Ends (enter state id) trace result ↔ trace = [⟨.enter state id, ()⟩] ∧ result = .ok () := by
  rw [enter]
  refine ends_lift_iff.trans ⟨?_, ?_⟩
  · rintro ⟨answer, h, rfl⟩
    exact ⟨runs_query_iff.mp h, rfl⟩
  · rintro ⟨h, rfl⟩
    exact ⟨(), runs_query_iff.mpr h, rfl⟩

theorem ends_say_iff {text : String} {result : Except DeployError Unit} :
    Ends (say text) trace result ↔
      if text.isEmpty then trace = [] ∧ result = .ok ()
      else ∃ answer : Except IoFault Unit,
        trace = [⟨.write text, answer⟩] ∧ result = answer.mapError .output := by
  rw [say]
  split
  · exact ends_pure_iff
  · exact ends_expect_iff.trans (exists_congr fun _ => and_congr_left' runs_query_iff)

/-- A text is written, and the deploy fails with what has kept it from being written. -/
theorem ends_say_error {text : String} {error : DeployError}
    (h : Ends (say text) trace (.error error)) :
    ∃ cause, trace = [⟨.write text, .error cause⟩] ∧ error = .output cause := by
  have hsay := ends_say_iff.mp h
  split at hsay
  · cases hsay.2
  · obtain ⟨answer, rfl, herror⟩ := hsay
    cases answer with
    | ok _ => cases herror
    | error cause => exact ⟨cause, rfl, Except.error.inj herror⟩

end Action

end AirflowDeploy.Deploy
