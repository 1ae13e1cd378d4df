import AirflowDeploy.Proofs.Deploy.Selection
import AirflowDeploy.Proofs.Text.Input

/-!
# Consoles

The side of the user: what was shown, and the input that is left. Whatever is written is shown, and
a line that is read is taken from the input.
-/
namespace AirflowDeploy.Deploy

open Dialogue Deploy.Action

structure Console where
  shown : String
  unread : List UInt8
  deriving DecidableEq, Repr

namespace Console

/-- Answers what is asked of the user. Everything else is answered elsewhere. -/
def answer (elsewhere : (q : Query) → q.Answer) : (q : Query) → StateM Console q.Answer
  | .write text => modifyGet fun c => (.ok (), { c with shown := c.shown ++ text })
  | .flush => pure (.ok ())
  | .readLine => modifyGet fun c =>
      ((Text.takeLine c.unread).1, { c with unread := (Text.takeLine c.unread).2 })
  | q => pure (elsewhere q)

/-- What an action comes to at a console, and how it leaves the console. -/
def outcome (elsewhere : (q : Query) → q.Answer) (x : Action α) (c : Console) :
    Except DeployError α × Console := (x.run.runM (answer elsewhere)).run c

/-- Lines with their line ends. -/
def printed (lines : List String) : String :=
  lines.foldr (fun line rest => line ++ "\n" ++ rest) ""

variable {α β : Type} {elsewhere : (q : Query) → q.Answer} {c c' : Console}

theorem outcome_pure (a : α) : outcome elsewhere (pure a) c = (.ok a, c) := rfl

theorem outcome_throw (e : DeployError) :
    outcome elsewhere (throw e : Action α) c = (.error e, c) := rfl

/-- A sequence goes on where its first part has left the console. -/
theorem outcome_bind {x : Action α} {f : α → Action β} {a : α}
    (h : outcome elsewhere x c = (.ok a, c')) :
    outcome elsewhere (x >>= f) c = outcome elsewhere (f a) c' := by
  change ((x.run >>= ExceptT.bindCont f).runM (answer elsewhere)).run c = _
  rw [runM_bind, StateT.run_bind]
  change (outcome elsewhere x c >>= _ : Id _) = _
  rw [h]
  rfl

theorem outcome_say (text : String) :
    outcome elsewhere (say text) c = (.ok (), { c with shown := c.shown ++ text }) := by
  unfold say
  split
  · next hempty =>
    rw [outcome_pure, String.isEmpty_iff.mp hempty, String.append_empty]
  · rfl

theorem outcome_sayLine (line : String) :
    outcome elsewhere (sayLine line) c = (.ok (), { c with shown := c.shown ++ (line ++ "\n") }) :=
  outcome_say (line ++ "\n")

theorem outcome_sayLines (lines : List String) :
    outcome elsewhere (sayLines lines) c =
      (.ok (), { c with shown := c.shown ++ printed lines }) := by
  induction lines generalizing c with
  | nil => simp [sayLines, outcome_pure, printed]
  | cons line rest ih =>
    rw [sayLines, outcome_bind (outcome_sayLine line), ih]
    simp [printed, String.append_assoc]

theorem outcome_flush : outcome elsewhere flush c = (.ok (), c) := rfl

theorem outcome_readLine {input : List Char} (h : c.unread = Text.Utf8.encode input) :
    outcome elsewhere (expect .input (ask .readLine)) c =
      (.ok (String.ofList (Text.firstLine input).1),
        { c with unread := Text.Utf8.encode (Text.firstLine input).2 }) := by
  have htaken : outcome elsewhere (expect .input (ask .readLine)) c =
      ((Text.takeLine c.unread).1.mapError .input,
        { c with unread := (Text.takeLine c.unread).2 }) := rfl
  rw [htaken, h, Text.takeLine_encode]
  rfl

end Console

end AirflowDeploy.Deploy
