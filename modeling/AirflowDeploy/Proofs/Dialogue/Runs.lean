import AirflowDeploy.Dialogue

/-!
# Runs of dialogues

What a run of a composed dialogue consists of: the trace of a sequence is the trace of its first
part followed by that of the rest.
-/
namespace AirflowDeploy.Dialogue

variable {I : Interface} {α β : Type} {trace : List (Exchange I)}

theorem runs_done_iff {a b : α} :
    Runs (done a : Dialogue I α) trace b ↔ trace = [] ∧ b = a := by
  constructor
  · intro h
    cases h
    exact ⟨rfl, rfl⟩
  · rintro ⟨rfl, rfl⟩
    exact .done b

theorem runs_ask_iff {q : I.Query} {next : I.Answer q → Dialogue I α} {b : α} :
    Runs (ask q next) trace b ↔
      ∃ answer rest, trace = ⟨q, answer⟩ :: rest ∧ Runs (next answer) rest b := by
  constructor
  · intro h
    cases h with
    | ask answer rest => exact ⟨answer, _, rfl, rest⟩
  · rintro ⟨answer, rest, rfl, h⟩
    exact .ask answer h

theorem runs_query_iff {q : I.Query} {answer : I.Answer q} :
    Runs (query q) trace answer ↔ trace = [⟨q, answer⟩] := by
  simp only [query, runs_ask_iff, runs_done_iff]
  constructor
  · rintro ⟨_, _, rfl, rfl, rfl⟩
    rfl
  · rintro rfl
    exact ⟨answer, [], rfl, rfl, rfl⟩

theorem runs_bind_iff {d : Dialogue I α} {f : α → Dialogue I β} {b : β} :
    Runs (d >>= f) trace b ↔
      ∃ first a rest, trace = first ++ rest ∧ Runs d first a ∧ Runs (f a) rest b := by
  change Runs (d.bind f) trace b ↔ _
  induction d generalizing trace with
  | done a =>
    simp only [Dialogue.bind, runs_done_iff]
    constructor
    · intro h
      exact ⟨[], a, trace, rfl, ⟨rfl, rfl⟩, h⟩
    · rintro ⟨_, _, rest, rfl, ⟨rfl, rfl⟩, h⟩
      exact h
  | ask q next ih =>
    simp only [Dialogue.bind, runs_ask_iff, ih]
    constructor
    · rintro ⟨answer, _, rfl, first, a, rest, rfl, hd, hf⟩
      exact ⟨⟨q, answer⟩ :: first, a, rest, rfl, ⟨answer, first, rfl, hd⟩, hf⟩
    · rintro ⟨_, a, rest, rfl, ⟨answer, first, rfl, hd⟩, hf⟩
      exact ⟨answer, first ++ rest, rfl, first, a, rest, rfl, hd, hf⟩

theorem runs_map_iff {d : Dialogue I α} {f : α → β} {b : β} :
    Runs (f <$> d) trace b ↔ ∃ a, Runs d trace a ∧ b = f a := by
  rw [← bind_pure_comp, runs_bind_iff]
  constructor
  · rintro ⟨first, a, rest, rfl, hd, hf⟩
    obtain ⟨rfl, rfl⟩ := runs_done_iff.mp hf
    exact ⟨a, by simpa using hd, rfl⟩
  · rintro ⟨a, hd, rfl⟩
    exact ⟨trace, a, [], by simp, hd, .done _⟩

/-- The run in which every question gets the same answer whenever it is asked. -/
def follow (answer : (q : I.Query) → I.Answer q) : Dialogue I α → List (Exchange I) × α
  | done a => ([], a)
  | ask q next =>
    let rest := (next (answer q)).follow answer
    (⟨q, answer q⟩ :: rest.1, rest.2)

theorem runs_follow (answer : (q : I.Query) → I.Answer q) (d : Dialogue I α) :
    Runs d (d.follow answer).1 (d.follow answer).2 := by
  induction d with
  | done a => exact .done a
  | ask q next ih => exact .ask (answer q) (ih (answer q))

/-- In such a run every exchange has the answer that its question always gets. -/
theorem answer_of_mem_follow {answer : (q : I.Query) → I.Answer q} {d : Dialogue I α}
    {e : Exchange I} (h : e ∈ (d.follow answer).1) : e = ⟨e.query, answer e.query⟩ := by
  induction d with
  | done a => cases h
  | ask q next ih =>
    rcases List.mem_cons.mp h with rfl | h
    · rfl
    · exact ih _ h

/-- The answers to a sequence are those to its first part and then those to the rest. -/
theorem runM_bind {m : Type → Type} [Monad m] [LawfulMonad m]
    (answer : (q : I.Query) → m (I.Answer q)) (d : Dialogue I α) (f : α → Dialogue I β) :
    (d >>= f).runM answer = d.runM answer >>= fun a => (f a).runM answer := by
  change (d.bind f).runM answer = _
  induction d with
  | done a => simp [Dialogue.bind, runM]
  | ask q next ih => simp [Dialogue.bind, runM, ih]

theorem append_cons_eq_singleton {before after : List α} {a b : α} :
    before ++ a :: after = [b] ↔ before = [] ∧ a = b ∧ after = [] := by
  cases before <;> simp

/-- What stands in a sequence of two traces stands in the first or in the second one. -/
theorem append_eq_append_cons {first rest before after : List α} {a : α}
    (h : first ++ rest = before ++ a :: after) :
    (∃ middle, first = before ++ a :: middle ∧ after = middle ++ rest) ∨
      ∃ middle, before = first ++ middle ∧ rest = middle ++ a :: after := by
  rcases List.append_eq_append_iff.mp h with ⟨middle, hb, hr⟩ | ⟨middle, hf, hr⟩
  · exact .inr ⟨middle, hb, hr⟩
  · cases middle with
    | nil => exact .inr ⟨[], by simpa using hf.symm, by simpa using hr.symm⟩
    | cons b middle =>
      obtain ⟨rfl, rfl⟩ := List.cons.inj hr
      exact .inl ⟨middle, hf, rfl⟩

end AirflowDeploy.Dialogue
