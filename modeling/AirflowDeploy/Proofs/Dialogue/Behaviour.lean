import AirflowDeploy.Proofs.Dialogue.Runs

/-!
# Behaviours of the outside world

A behaviour answers every question in view of what was asked and answered before. Behaviours that
agree along the run of one of them lead through the same run.
-/
namespace AirflowDeploy.Dialogue

/-- An answer to every question, after some exchanges. -/
abbrev Behaviour (I : Interface) := List (Exchange I) → (q : I.Query) → I.Answer q

variable {I : Interface} {α : Type} {b b' : Behaviour I} {past before after : List (Exchange I)}

/-- The run that a behaviour leads through, after some exchanges. -/
def respond (b : Behaviour I) (past : List (Exchange I)) :
    Dialogue I α → List (Exchange I) × α
  | done a => ([], a)
  | ask q next =>
    let e : Exchange I := ⟨q, b past q⟩
    let rest := (next e.answer).respond b (past ++ [e])
    (e :: rest.1, rest.2)

theorem runs_respond (b : Behaviour I) (past : List (Exchange I)) (d : Dialogue I α) :
    Runs d (d.respond b past).1 (d.respond b past).2 := by
  induction d generalizing past with
  | done a => exact .done a
  | ask q next ih => exact .ask (b past q) (ih _ _)

theorem answer_of_respond {d : Dialogue I α} {e : Exchange I}
    (h : (d.respond b past).1 = before ++ e :: after) : e.answer = b (past ++ before) e.query := by
  induction d generalizing past before with
  | done a => simp [respond] at h
  | ask q next ih =>
    cases before with
    | nil =>
      obtain ⟨rfl, _⟩ := List.cons.inj h
      rw [List.append_nil]
    | cons first before =>
      obtain ⟨rfl, hrest⟩ := List.cons.inj h
      rw [ih _ hrest, List.append_assoc, List.singleton_append]

theorem respond_congr {d : Dialogue I α}
    (h : ∀ before e after, (d.respond b past).1 = before ++ e :: after →
      b' (past ++ before) e.query = b (past ++ before) e.query) :
    d.respond b' past = d.respond b past := by
  induction d generalizing past with
  | done a => rfl
  | ask q next ih =>
    have hfirst : b' past q = b past q := by simpa using h [] _ _ rfl
    have hrest : (next (b past q)).respond b' (past ++ [⟨q, b past q⟩]) =
        (next (b past q)).respond b (past ++ [⟨q, b past q⟩]) := by
      refine ih _ fun before e after hrun => ?_
      have hlater := h (⟨q, b past q⟩ :: before) e after (by simp [respond, hrun])
      rwa [List.append_assoc, List.singleton_append]
    simp only [respond, hfirst, hrest]

end AirflowDeploy.Dialogue
