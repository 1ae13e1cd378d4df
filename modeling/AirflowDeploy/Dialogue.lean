/-!
# Dialogues

A dialogue is a computation that asks questions of the outside world and goes on with the
answers. It can be answered by any monad, be carried over to another set of questions, and be
followed through every behaviour of the outside world.
-/
namespace AirflowDeploy

/-- Questions, and the type of the answers to each. -/
structure Interface where
  Query : Type
  Answer : Query → Type

inductive Dialogue (I : Interface) (α : Type) where
  | done (a : α)
  | ask (q : I.Query) (next : I.Answer q → Dialogue I α)

/-- One question with its answer. -/
structure Exchange (I : Interface) where
  query : I.Query
  answer : I.Answer query

namespace Dialogue

variable {I J : Interface} {α β γ : Type}

protected def bind : Dialogue I α → (α → Dialogue I β) → Dialogue I β
  | done a, f => f a
  | ask q next, f => ask q fun answer => (next answer).bind f

instance : Monad (Dialogue I) where
  pure := done
  bind := Dialogue.bind

theorem bind_done (d : Dialogue I α) : d.bind done = d := by
  induction d with
  | done => rfl
  | ask q next ih => simp [Dialogue.bind, ih]

theorem bind_assoc (d : Dialogue I α) (f : α → Dialogue I β) (g : β → Dialogue I γ) :
    (d.bind f).bind g = d.bind fun a => (f a).bind g := by
  induction d with
  | done => rfl
  | ask q next ih => simp [Dialogue.bind, ih]

instance : LawfulMonad (Dialogue I) :=
  LawfulMonad.mk' (Dialogue I) bind_done (fun _ _ => rfl) bind_assoc

def query (q : I.Query) : Dialogue I (I.Answer q) := ask q done

/-- Answers every question in a monad. -/
def runM {m : Type → Type} [Monad m] (answer : (q : I.Query) → m (I.Answer q)) :
    Dialogue I α → m α
  | done a => pure a
  | ask q next => answer q >>= fun a => (next a).runM answer

/-- Answers every question in a monad, and keeps the exchanges. -/
def recorded {m : Type → Type} [Monad m] (answer : (q : I.Query) → m (I.Answer q)) :
    Dialogue I α → m (List (Exchange I) × α)
  | done a => pure ([], a)
  | ask q next => do
    let told ← answer q
    let (trace, a) ← (next told).recorded answer
    return (⟨q, told⟩ :: trace, a)

/-- Puts a dialogue with another interface in the place of each question. -/
def through (realize : (q : I.Query) → Dialogue J (I.Answer q)) : Dialogue I α → Dialogue J α
  | done a => done a
  | ask q next => (realize q).bind fun a => (next a).through realize

/-- `Runs d trace a`: some behaviour of the outside world leads `d` through `trace` to the
result `a`. -/
inductive Runs : Dialogue I α → List (Exchange I) → α → Prop where
  | done (a : α) : Runs (done a) [] a
  | ask {q : I.Query} {next : I.Answer q → Dialogue I α} {trace : List (Exchange I)} {a : α}
      (answer : I.Answer q) (rest : Runs (next answer) trace a) :
      Runs (ask q next) (⟨q, answer⟩ :: trace) a

end Dialogue

end AirflowDeploy
