import AirflowDeploy.Machine
import AirflowDeploy.Proofs.Dialogue.Asks
import AirflowDeploy.Text.Utf8
import Mathlib.Control.Monad.Basic

/-!
# Runs on the machine

What a run makes of a file where the file system works: every change succeeds, and what is read is
what was written last.
-/
namespace AirflowDeploy.Machine

open Dialogue

theorem runs_expect_iff {δ ε α : Type} {f : δ → ε} {d : Dialogue machine (Except δ α)}
    {trace : List (Exchange machine)} {result : Except ε α} :
    Runs (expect f d).run trace result ↔
      ∃ answer, Runs d trace answer ∧ result = answer.mapError f := runs_map_iff

/-- What is read from a file with some content, or from one that is missing. -/
def reading : Option String → Except IoFault (List UInt8)
  | some text => .ok (Text.Utf8.encode text.toList)
  | none => .error .missing

def Query.writesFile : Query → Bool
  | .writeFile _ _ => true
  | _ => false

variable (path : String)

/-- The content of the file at `path` after a question. -/
def contentAfter (content : Option String) : Query → Option String
  | .writeFile p text => if p = path then some text else content
  | _ => content

def finalContent (content : Option String) (trace : List (Exchange machine)) : Option String :=
  trace.foldl (fun content e => contentAfter path content e.query) content

/-- A change of files has succeeded, and the file at `path` is read as it is. -/
def Succeeds (content : Option String) : Exchange machine → Prop
  | ⟨.fileContent p, answer⟩ => p = path → answer = reading content
  | ⟨.makeDirectory _, answer⟩ => answer = .ok ()
  | ⟨.writeFile _ _, answer⟩ => answer = .ok ()
  | ⟨.restrictFile _, answer⟩ => answer = .ok ()
  | _ => True

/-- The file system works throughout a trace. -/
def Works : Option String → List (Exchange machine) → Prop
  | _, [] => True
  | content, e :: rest => Succeeds path content e ∧ Works (contentAfter path content e.query) rest

instance (path : String) (content : Option String) :
    (e : Exchange machine) → Decidable (Succeeds path content e)
  | ⟨.fileContent p, answer⟩ =>
    have : Decidable (answer = reading content) :=
      (inferInstance : DecidableEq (Except IoFault (List UInt8))) answer _
    inferInstanceAs (Decidable (p = path → answer = reading content))
  | ⟨.makeDirectory _, answer⟩ | ⟨.writeFile _ _, answer⟩ | ⟨.restrictFile _, answer⟩ =>
    (inferInstance : DecidableEq (Except IoFault Unit)) answer (.ok ())
  | ⟨.web _, _⟩ | ⟨.daemon _ _, _⟩ | ⟨.process _ _ _, _⟩ | ⟨.pathExists _, _⟩ | ⟨.isFile _, _⟩
  | ⟨.absolutePath _, _⟩ | ⟨.write _, _⟩ | ⟨.writeError _, _⟩ | ⟨.flush, _⟩ | ⟨.readLine, _⟩
  | ⟨.now, _⟩ | ⟨.freshRunId, _⟩ => isTrue trivial

def decideWorks (path : String) : (content : Option String) → (trace : List (Exchange machine)) →
    Decidable (Works path content trace)
  | _, [] => isTrue trivial
  | content, e :: rest =>
    have := decideWorks path (contentAfter path content e.query) rest
    inferInstanceAs (Decidable (_ ∧ _))

instance (path : String) (content : Option String) (trace : List (Exchange machine)) :
    Decidable (Works path content trace) := decideWorks path content trace

variable {path} {content : Option String} {trace first rest : List (Exchange machine)}

theorem finalContent_append :
    finalContent path content (first ++ rest) =
      finalContent path (finalContent path content first) rest := List.foldl_append

theorem works_append :
    Works path content (first ++ rest) ↔
      Works path content first ∧ Works path (finalContent path content first) rest := by
  induction first generalizing content with
  | nil => exact (iff_of_eq (true_and _)).symm
  | cons e first ih =>
    rw [List.cons_append, Works, Works, ih, and_assoc]
    rfl

/-- A trace that writes no file changes none. -/
theorem finalContent_eq_self (h : ∀ e ∈ trace, e.query.writesFile = false) :
    finalContent path content trace = content := by
  induction trace with
  | nil => rfl
  | cons e trace ih =>
    obtain ⟨he, hrest⟩ := List.forall_mem_cons.mp h
    have hsame : contentAfter path content e.query = content := by
      cases hquery : e.query with
      | writeFile p text =>
        rw [hquery] at he
        cases he
      | _ => rfl
    exact (congrArg (finalContent path · trace) hsame).trans (ih hrest)

variable {ε δ α β : Type} {result : Except ε β}

/-- An action that writes no file, whatever is answered. -/
def Quiet (x : Action ε α) : Prop := x.run.Asks fun q : Query => q.writesFile = false

/-- A sequence that begins quietly ends there with the file as it was, or goes on with it. -/
theorem runs_bind_of_quiet {x : Action ε α} {f : α → Action ε β} (hx : Quiet x)
    (h : Runs (x >>= f).run trace result) (hworks : Works path content trace) :
    (∃ e, Runs x.run trace (.error e) ∧ result = .error e ∧
      finalContent path content trace = content) ∨
    ∃ first a rest, trace = first ++ rest ∧ Runs x.run first (.ok a) ∧ Runs (f a).run rest result ∧
      Works path content first ∧ Works path content rest ∧
      finalContent path content trace = finalContent path content rest := by
  rcases runs_run_bind_iff.mp h with ⟨first, a, rest, rfl, hfirst, hrest⟩ | ⟨e, hfirst, rfl⟩
  · have hsame : finalContent path content first = content :=
      finalContent_eq_self fun _ he => Asks.of_mem hx hfirst he
    obtain ⟨hworksFirst, hworksRest⟩ := works_append.mp hworks
    rw [hsame] at hworksRest
    refine .inr ⟨first, a, rest, rfl, hfirst, hrest, hworksFirst, hworksRest, ?_⟩
    rw [finalContent_append, hsame]
  · exact .inl ⟨e, hfirst, rfl, finalContent_eq_self fun _ he => Asks.of_mem hx hfirst he⟩

theorem Quiet.pure (a : α) : Quiet (pure a : Action ε α) := trivial

theorem Quiet.ofExcept (x : Except ε α) : Quiet (liftM x : Action ε α) := trivial

theorem Quiet.expect {f : δ → ε} {d : Dialogue machine (Except δ α)}
    (h : d.Asks fun q : Query => q.writesFile = false) : Quiet (expect f d) := .map _ h

theorem Quiet.bind {x : Action ε α} {f : α → Action ε β} (hx : Quiet x) (hf : ∀ a, Quiet (f a)) :
    Quiet (x >>= f) := .run_bind hx hf

/-- Where the file system works, an action succeeds and leaves the file with a given content. -/
def Makes (path : String) (x : Action ε α) (before after : Option String) : Prop :=
  ∀ trace result, Runs x.run trace result → Works path before trace →
    (∃ a, result = .ok a) ∧ finalContent path before trace = after

theorem Makes.bind {x : Action ε α} {f : α → Action ε β} {before middle after : Option String}
    (hx : Makes path x before middle) (hf : ∀ a, Makes path (f a) middle after) :
    Makes path (x >>= f) before after := by
  intro trace result h hworks
  rcases runs_run_bind_iff.mp h with ⟨first, a, rest, rfl, hfirst, hrest⟩ | ⟨e, hfirst, rfl⟩
  · obtain ⟨hworksFirst, hworksRest⟩ := works_append.mp hworks
    obtain ⟨-, hmiddle⟩ := hx _ _ hfirst hworksFirst
    rw [hmiddle] at hworksRest
    rw [finalContent_append, hmiddle]
    exact hf a _ _ hrest hworksRest
  · obtain ⟨⟨a, ha⟩, -⟩ := hx _ _ hfirst hworks
    cases ha

theorem Makes.pure (a : α) : Makes path (pure a : Action ε α) content content := by
  intro trace result h _
  obtain ⟨rfl, rfl⟩ := runs_run_pure_iff.mp h
  exact ⟨⟨a, rfl⟩, rfl⟩

/-- A change of files that is done. -/
theorem Makes.expect {d : Dialogue machine (Except IoFault Unit)} {before after : Option String}
    (f : IoFault → ε) (hd : ∀ {trace answer}, Runs d trace answer → Works path before trace →
      answer = .ok () ∧ finalContent path before trace = after) :
    Makes path (expect f d) before after := by
  intro trace result h hworks
  obtain ⟨answer, hrun, rfl⟩ := runs_expect_iff.mp h
  obtain ⟨rfl, hafter⟩ := hd hrun hworks
  exact ⟨⟨(), rfl⟩, hafter⟩

theorem Makes.makeDirectory (f : IoFault → ε) (dir : String) :
    Makes path (Machine.expect f (ask (.makeDirectory dir))) content content :=
  .expect f fun hask hworks => by
    obtain rfl := runs_query_iff.mp hask
    exact ⟨hworks.1, rfl⟩

theorem Makes.restrictFile (f : IoFault → ε) (p : String) :
    Makes path (Machine.expect f (ask (.restrictFile p))) content content :=
  .expect f fun hask hworks => by
    obtain rfl := runs_query_iff.mp hask
    exact ⟨hworks.1, rfl⟩

theorem Makes.writeFile (f : IoFault → ε) (text : String) :
    Makes path (Machine.expect f (ask (.writeFile path text))) content (some text) :=
  .expect f fun hask hworks => by
    obtain rfl := runs_query_iff.mp hask
    exact ⟨hworks.1, if_pos rfl⟩

end AirflowDeploy.Machine
