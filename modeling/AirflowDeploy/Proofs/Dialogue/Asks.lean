import AirflowDeploy.Proofs.Dialogue.Failing

/-!
# What a dialogue may ask

A dialogue keeps to a set of questions where it asks no other one, whatever the answers are.
-/
namespace AirflowDeploy.Dialogue

variable {I J : Interface} {α β δ ε : Type} {P : I.Query → Prop}

/-- Every question of a dialogue is one of `P`, whatever is answered. -/
def Asks (P : I.Query → Prop) : Dialogue I α → Prop
  | done _ => True
  | ask q next => P q ∧ ∀ answer, (next answer).Asks P

theorem Asks.of_mem {d : Dialogue I α} (h : d.Asks P) {trace : List (Exchange I)} {a : α}
    (hrun : Runs d trace a) {e : Exchange I} (he : e ∈ trace) : P e.query := by
  induction hrun with
  | done a => cases he
  | ask answer rest ih =>
    rcases List.mem_cons.mp he with rfl | he
    · exact h.1
    · exact ih (h.2 answer) he

theorem Asks.imp {Q : I.Query → Prop} {d : Dialogue I α} (h : d.Asks P) (hpq : ∀ q, P q → Q q) :
    d.Asks Q := by
  induction d with
  | done a => trivial
  | ask q next ih => exact ⟨hpq q h.1, fun answer => ih answer (h.2 answer)⟩

theorem Asks.query {q : I.Query} (h : P q) : (Dialogue.query q).Asks P := ⟨h, fun _ => trivial⟩

theorem Asks.bind {d : Dialogue I α} {f : α → Dialogue I β} (hd : d.Asks P)
    (hf : ∀ a, (f a).Asks P) : (d >>= f).Asks P := by
  change (d.bind f).Asks P
  induction d with
  | done a => exact hf a
  | ask q next ih => exact ⟨hd.1, fun answer => ih answer (hd.2 answer)⟩

theorem Asks.map {d : Dialogue I α} (f : α → β) (hd : d.Asks P) : (f <$> d).Asks P := by
  rw [← bind_pure_comp]
  exact hd.bind fun _ => trivial

theorem Asks.through {realize : (q : I.Query) → Dialogue J (I.Answer q)} {Q : J.Query → Prop}
    {d : Dialogue I α} (hd : d.Asks P) (hrealize : ∀ q, P q → (realize q).Asks Q) :
    (d.through realize).Asks Q := by
  induction d with
  | done a => trivial
  | ask q next ih => exact (hrealize q hd.1).bind fun answer => ih answer (hd.2 answer)

theorem Asks.run_bind {x : ExceptT ε (Dialogue I) α} {f : α → ExceptT ε (Dialogue I) β}
    (hx : x.run.Asks P) (hf : ∀ a, (f a).run.Asks P) : (x >>= f).run.Asks P := by
  change (x.run >>= ExceptT.bindCont f).Asks P
  refine hx.bind fun answer => ?_
  cases answer with
  | ok a => exact hf a
  | error e => trivial

end AirflowDeploy.Dialogue
