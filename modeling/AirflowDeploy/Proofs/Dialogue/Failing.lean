import AirflowDeploy.Proofs.Dialogue.Runs

/-!
# Runs of dialogues that may fail

A run of a dialogue that may fail ends in a value or in an error. A sequence of two of them stops
where the first one fails.
-/
namespace AirflowDeploy.Dialogue

variable {I : Interface} {α β δ ε : Type} {trace : List (Exchange I)}

theorem runs_run_pure_iff {a : α} {result : Except ε α} :
    Runs (pure a : ExceptT ε (Dialogue I) α).run trace result ↔ trace = [] ∧ result = .ok a :=
  runs_done_iff

theorem runs_run_throw_iff {e : ε} {result : Except ε α} :
    Runs (throw e : ExceptT ε (Dialogue I) α).run trace result ↔
      trace = [] ∧ result = .error e := runs_done_iff

theorem runs_run_bind_iff {x : ExceptT ε (Dialogue I) α} {f : α → ExceptT ε (Dialogue I) β}
    {result : Except ε β} :
    Runs (x >>= f).run trace result ↔
      (∃ first a rest, trace = first ++ rest ∧ Runs x.run first (.ok a) ∧
        Runs (f a).run rest result) ∨
      ∃ e, Runs x.run trace (.error e) ∧ result = .error e := by
  change Runs (x.run >>= ExceptT.bindCont f) trace result ↔ _
  rw [runs_bind_iff]
  constructor
  · rintro ⟨first, answer, rest, rfl, hx, hf⟩
    cases answer with
    | ok a => exact .inl ⟨first, a, rest, rfl, hx, hf⟩
    | error e =>
      obtain ⟨rfl, rfl⟩ := runs_done_iff.mp hf
      exact .inr ⟨e, by simpa using hx, rfl⟩
  · rintro (⟨first, a, rest, rfl, hx, hf⟩ | ⟨e, hx, rfl⟩)
    · exact ⟨first, .ok a, rest, rfl, hx, hf⟩
    · exact ⟨trace, .error e, [], by simp, hx, .done _⟩

/-- A sequence succeeds where both of its parts do. -/
theorem runs_run_bind_ok_iff {x : ExceptT ε (Dialogue I) α} {f : α → ExceptT ε (Dialogue I) β}
    {b : β} :
    Runs (x >>= f).run trace (.ok b) ↔
      ∃ first a rest, trace = first ++ rest ∧ Runs x.run first (.ok a) ∧
        Runs (f a).run rest (.ok b) := by
  rw [runs_run_bind_iff]
  refine or_iff_left ?_
  rintro ⟨e, -, herror⟩
  cases herror

theorem runs_run_map_iff {x : ExceptT ε (Dialogue I) α} {f : α → β} {result : Except ε β} :
    Runs (f <$> x).run trace result ↔ ∃ r, Runs x.run trace r ∧ result = r.map f := by
  rw [map_eq_pure_bind, runs_run_bind_iff]
  constructor
  · rintro (⟨first, a, rest, rfl, hx, hf⟩ | ⟨e, hx, rfl⟩)
    · obtain ⟨rfl, rfl⟩ := runs_run_pure_iff.mp hf
      exact ⟨.ok a, by simpa using hx, rfl⟩
    · exact ⟨.error e, hx, rfl⟩
  · rintro ⟨r, hx, rfl⟩
    cases r with
    | ok a => exact .inl ⟨trace, a, [], by simp, hx, runs_run_pure_iff.mpr ⟨rfl, rfl⟩⟩
    | error e => exact .inr ⟨e, hx, rfl⟩

theorem runs_run_lift_iff {d : Dialogue I α} {result : Except ε α} :
    Runs (liftM d : ExceptT ε (Dialogue I) α).run trace result ↔
      ∃ a, Runs d trace a ∧ result = .ok a := by
  change Runs (Except.ok <$> d) trace result ↔ _
  exact runs_map_iff

theorem runs_run_ofExcept_iff {x result : Except ε α} :
    Runs (liftM x : ExceptT ε (Dialogue I) α).run trace result ↔ trace = [] ∧ result = x :=
  runs_done_iff

theorem mapError_eq_ok_iff {f : δ → ε} {answer : Except δ α} {a : α} :
    answer.mapError f = .ok a ↔ answer = .ok a := by
  constructor
  · intro h
    cases answer with
    | ok told =>
      cases h
      rfl
    | error e => cases h
  · rintro rfl
    rfl

end AirflowDeploy.Dialogue
