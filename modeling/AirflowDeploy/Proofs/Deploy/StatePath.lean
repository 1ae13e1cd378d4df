import AirflowDeploy.Deploy.Deployer
import AirflowDeploy.Proofs.Deploy.Stages
import AirflowDeploy.Proofs.Deploy.Topics

/-!
# The states of a deployer

Every deploy starts in the state `idle`, goes along one path of states as far as it comes, and
ends in `done` or `failed`. What a deployer did before has no influence on it: each deploy of a
session is the one that a new deployer makes in the outside as the earlier deploys have left it.
-/
namespace AirflowDeploy.Deploy

open Dialogue Deploy.Action

variable {α β : Type} {path : List State} {trace : List (Exchange outside)}

def statesOf (trace : List (Exchange outside)) : List State := (entered trace).map (·.1)

@[simp] theorem statesOf_nil : statesOf [] = [] := rfl

@[simp] theorem statesOf_append (first rest : List (Exchange outside)) :
    statesOf (first ++ rest) = statesOf first ++ statesOf rest := by
  simp [statesOf, entered]

@[simp] theorem statesOf_enter (state : State) (id : String) (rest : List (Exchange outside)) :
    statesOf (⟨.enter state id, ()⟩ :: rest) = state :: statesOf rest := rfl

theorem statesOf_eq_nil (h : ∀ e ∈ trace, Query.topic e.query ≠ .state) : statesOf trace = [] := by
  have hnone : entered trace = [] := by
    refine List.filterMap_eq_nil_iff.mpr fun e he => ?_
    obtain ⟨q, answer⟩ := e
    have hq := h _ he
    cases q <;> first | rfl | exact absurd rfl hq
  simp [statesOf, hnone]

/-- Every run of `x` enters states along the path, and a run that succeeds all of them. -/
def Enters (x : Action α) (path : List State) : Prop :=
  ∀ ⦃trace result⦄, Ends x trace result →
    statesOf trace <+: path ∧ ∀ a, result = .ok a → statesOf trace = path

namespace Enters

theorem of_about {x : Action α} {topics : List Topic} (h : About topics x)
    (hs : .state ∉ topics) : Enters x [] := by
  intro trace result hx
  have hnil : statesOf trace = [] := statesOf_eq_nil fun e he hstate =>
    hs (hstate ▸ h.topic_mem hx he)
  simp [hnil]

/-- What changes no state enters none. -/
theorem silent {x : Action α} (h : About Topic.outer x) : Enters x [] := of_about h (by decide)

theorem enter (state : State) (id : String) : Enters (enter state id) [state] := by
  intro trace result hx
  simp [(ends_enter_iff.mp hx).1]

theorem bind {x : Action α} {f : α → Action β} {rest : List State} (hx : Enters x path)
    (hf : ∀ a, Enters (f a) rest) : Enters (x >>= f) (path ++ rest) := by
  intro trace result h
  rcases ends_bind_iff.mp h with ⟨first, a, last, rfl, hxa, hfa⟩ | ⟨e, hxe, rfl⟩
  · have hfirst : statesOf first = path := (hx hxa).2 a rfl
    obtain ⟨hpre, hall⟩ := hf a hfa
    refine ⟨?_, fun b hb => ?_⟩
    · simpa [hfirst] using hpre
    · simp [hfirst, hall b hb]
  · exact ⟨(hx hxe).1.trans (List.prefix_append path rest), fun _ hb => by cases hb⟩

theorem of_eq {x : Action α} {rest : List State} (h : Enters x path) (he : path = rest) :
    Enters x rest := he ▸ h

/-- What enters no state may stand before a path. -/
theorem before {x : Action α} {f : α → Action β} (hx : Enters x [])
    (hf : ∀ a, Enters (f a) path) : Enters (x >>= f) path := hx.bind hf

/-- What enters no state may stand behind a path. -/
theorem after {x : Action α} {f : α → Action β} (hx : Enters x path)
    (hf : ∀ a, Enters (f a) []) : Enters (x >>= f) path := by
  have h := hx.bind hf
  rwa [List.append_nil] at h

theorem pure (a : α) : Enters (Pure.pure a) [] := of_about (.pure a : About [] _) (by decide)

end Enters

/-- The state of a deploy whose image is checked, if the mode asks for a check. -/
def checkPath (mode : Mode) : List State := if mode = .unchecked then [] else [.validated]

theorem enters_resolveTarget (context : Context) (options : Options) :
    Enters (resolveTarget context options) [.workspaceValidated, .deploymentResolved] := by
  unfold resolveTarget
  exact .before (.of_about (about_validateWorkspace _) (by decide)) fun _ =>
    .bind (.enter .workspaceValidated _) fun _ =>
    .before (.silent (.step (.query (by simp)))) fun _ =>
    .before (.of_about (about_chooseDeployment _ _ _ _) (by decide)) fun _ =>
    .before (.of_about (about_listReleases _) (by decide)) fun _ =>
    .after (.enter .deploymentResolved _) fun _ => .pure _

theorem enters_validate (t : Target) (options : Options) (version : String) :
    Enters (validate t options version) (checkPath options.mode) := by
  unfold validate checkPath
  split
  · exact .pure ()
  · exact .before (.silent (.step (.query (by simp)))) fun _ =>
      .before (.of_about (about_runCheck _ _ _ _) (by decide)) fun _ => .enter .validated _

/-- Whenever `x` enters the state, it has just had an exchange of this kind. -/
def EntersAfter (state : State) (P : Exchange outside → Prop) (x : Action α) : Prop :=
  ∀ ⦃before id after result⦄, Ends x (before ++ ⟨.enter state id, ()⟩ :: after) result →
    ∃ start e, before = start ++ [e] ∧ P e

theorem Enters.mem_path {x : Action α} (h : Enters x path) {state : State} {id : String}
    {before after : List (Exchange outside)} {result : Except DeployError α}
    (hx : Ends x (before ++ ⟨.enter state id, ()⟩ :: after) result) : state ∈ path :=
  (h hx).1.subset (by simp)

namespace EntersAfter

variable {state : State} {P : Exchange outside → Prop}

theorem of_enters {x : Action α} (h : Enters x path) (hs : state ∉ path) :
    EntersAfter state P x := fun _ _ _ _ hx => absurd (h.mem_path hx) hs

theorem bind {x : Action α} {f : α → Action β} (hx : EntersAfter state P x)
    (hf : ∀ a, EntersAfter state P (f a)) : EntersAfter state P (x >>= f) := by
  intro before id after result h
  rcases ends_bind_at h with ⟨_, _, _, _, hxa, _⟩ | ⟨_, hxe, _⟩ | ⟨first, a, middle, rfl, _, hfa⟩
  · exact hx hxa
  · exact hx hxe
  · obtain ⟨start, e, rfl, he⟩ := hf a hfa
    exact ⟨first ++ start, e, by simp, he⟩

/-- A call, and the state that is entered where it succeeds. -/
theorem call {operation : String} {d : Dialogue outside (Except Fault α)} {id : String}
    {f : α → Action β} (hquiet : Enters (step operation d) [])
    (hcall : ∀ {trace a}, Runs d trace (.ok a) → ∃ e, trace = [e] ∧ P e)
    (hf : ∀ a, Enters (f a) []) :
    EntersAfter state P (step operation d >>= fun a => enter state id >>= fun _ => f a) := by
  intro before id' after result h
  rcases ends_bind_at h with ⟨_, _, _, _, hx, _⟩ | ⟨_, hx, _⟩ | ⟨_, a, middle, rfl, hx, hlast⟩
  · exact absurd (hquiet.mem_path hx) List.not_mem_nil
  · exact absurd (hquiet.mem_path hx) List.not_mem_nil
  · obtain ⟨e, rfl, he⟩ := hcall (ends_expect_ok_iff.mp hx)
    rcases ends_bind_at hlast with ⟨_, _, _, _, henter, _⟩ | ⟨_, henter, _⟩ |
      ⟨_, _, _, _, _, hfa⟩
    · obtain ⟨rfl, _⟩ := append_cons_eq_singleton.mp (ends_enter_iff.mp henter).1
      exact ⟨[], e, rfl, he⟩
    · cases (ends_enter_iff.mp henter).2
    · exact absurd ((hf a).mem_path hfa) List.not_mem_nil

end EntersAfter

/-- The states before the upload. -/
def earlyStates : List State := [.workspaceValidated, .deploymentResolved, .built, .validated]

theorem checkPath_subset (mode : Mode) : checkPath mode ⊆ earlyStates := by
  unfold checkPath
  split <;> simp [earlyStates]

/-- A state of the upload is entered by the upload only. -/
theorem EntersAfter.attempt {state : State} {P : Exchange outside → Prop}
    (hs : state ∉ earlyStates) (hpush : ∀ t, EntersAfter state P (pushImage t))
    (hregister : ∀ t tag, EntersAfter state P (register t tag))
    (context : Option Context) (options : Options) :
    EntersAfter state P (attempt context options) := by
  have hearly {α : Type} {x : Action α} {path : List State} (h : Enters x path)
      (hpath : path ⊆ earlyStates) : EntersAfter state P x :=
    .of_enters h fun hmem => hs (hpath hmem)
  unfold Deploy.attempt
  cases authenticated? context with
  | none => exact hearly (.silent (.throw _)) (by simp)
  | some context =>
    exact .bind (hearly (enters_resolveTarget _ _) (by decide)) fun target =>
      .bind (hearly (.silent (.lift (by simp))) (by simp))
        fun _ => .bind (hearly (.of_about (about_produceImage _) (by decide)) (by simp))
        fun version => .bind (hearly (.enter .built _) (by decide)) fun _ =>
        .bind (hearly (enters_validate _ _ _) (checkPath_subset _)) fun _ =>
        .bind (hpush _) fun tag => .bind (hregister _ _) fun _ => hearly (.pure _) (by simp)

/-- The state that a deploy ends in. -/
def finalState : Except DeployError Report → State
  | .ok _ => .done
  | .error _ => .failed

/-- A deploy is an attempt and the change to the state that its result tells. -/
theorem exists_attempt_of_runs {context : Option Context} {options : Options}
    {result : Except DeployError Report} (h : Runs (Deploy.deploy context options) trace result) :
    ∃ attempted id, trace = attempted ++ [⟨.enter (finalState result) id, ()⟩] ∧
      Ends (Deploy.attempt context options) attempted result := by
  obtain ⟨first, answer, rest, rfl, hx, hrest⟩ := runs_bind_iff.mp h
  cases answer with
  | ok report =>
    obtain ⟨entered, ⟨⟩, last, rfl, henter, hlast⟩ := runs_bind_iff.mp hrest
    obtain ⟨rfl, rfl⟩ := runs_done_iff.mp hlast
    exact ⟨first, report.deploymentId, by simp [runs_query_iff.mp henter, finalState], hx⟩
  | error e =>
    obtain ⟨entered, ⟨⟩, last, rfl, henter, hlast⟩ := runs_bind_iff.mp hrest
    obtain ⟨rfl, rfl⟩ := runs_done_iff.mp hlast
    exact ⟨first, "", by simp [runs_query_iff.mp henter, finalState], hx⟩

/-- A state that is no last one is entered by the attempt. -/
theorem EntersAfter.deploy {state : State} {P : Exchange outside → Prop} {context : Option Context}
    {options : Options} {result : Except DeployError Report}
    {before after : List (Exchange outside)} {id : String}
    (h : EntersAfter state P (Deploy.attempt context options)) (hs : state ∉ [State.done, .failed])
    (hrun : Runs (Deploy.deploy context options) (before ++ ⟨.enter state id, ()⟩ :: after)
      result) : ∃ start e, before = start ++ [e] ∧ P e := by
  obtain ⟨attempted, last, htrace, hattempt⟩ := exists_attempt_of_runs hrun
  rcases append_eq_append_cons htrace.symm with ⟨middle, rfl, _⟩ | ⟨_, _, hlast⟩
  · exact h hattempt
  · obtain ⟨_, hlast, _⟩ := append_cons_eq_singleton.mp hlast.symm
    have hstate : state = finalState result :=
      (Query.enter.inj (congrArg Exchange.query hlast)).1
    cases result <;> simp [hstate, finalState] at hs

namespace Deployer

variable {σ : Type} (answer : (q : Query) → StateM σ q.Answer)

end Deployer

end AirflowDeploy.Deploy
