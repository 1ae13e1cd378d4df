import AirflowDeploy.Proofs.Deploy.Faults

/-!
# The order of calls

The calls of a deploy are a beginning of one of its plans. A call that fails is the last one,
unless it reads the label of an image that is about to be built and is not there yet.
-/
namespace AirflowDeploy.Deploy

open Dialogue Deploy.Action

/-- Nothing was built yet, the image that is about to be built is not there, and the build
follows. -/
def Excused (source : Option String) (before : List (Exchange outside)) (e : Exchange outside)
    (after : List (Exchange outside)) : Prop :=
  source = none ∧ (∃ image key text, e = ⟨.label image key, .error (.notFound text)⟩) ∧
    .build ∉ calls before ∧ (calls after).head? = some .build

/-- A call of `x` that fails is its last one, and `x` fails with it, unless the fault is excused. -/
def HaltsUnlessExcused (source : Option String) (x : Action α) : Prop :=
  ∀ ⦃before e after result fault⦄, Ends x (before ++ e :: after) result → fault? e = some fault →
    (calls after = [] ∧ ∃ error, result = .error error) ∨ Excused source before e after

/-- What is no part of the first calls of a plan comes after them. -/
theorem exists_of_prefix_append {before after first rest : List Call} {c : Call}
    (h : before ++ c :: after <+: first ++ rest) (hc : c ∉ first) :
    ∃ middle, before = first ++ middle ∧ middle ++ c :: after <+: rest := by
  induction first generalizing before with
  | nil => exact ⟨before, rfl, h⟩
  | cons f first ih =>
    obtain ⟨hne, hmem⟩ : c ≠ f ∧ c ∉ first := by simpa using hc
    cases before with
    | nil => exact absurd (List.cons_prefix_cons.mp h).1 hne
    | cons b before =>
      obtain ⟨rfl, hrest⟩ := List.cons_prefix_cons.mp h
      obtain ⟨middle, rfl, hmiddle⟩ := ih hrest hmem
      exact ⟨middle, rfl, hmiddle⟩

/-- Where an image is read before it is built, the build comes next. -/
theorem build_next_of_plan {before after plan : List Call} {rest : List (List Call)}
    (hplan : plan ∈ andThen [[.listWorkspaces, .listDeployments, .listReleases]]
      (andThen (imagePlans none) rest))
    (hpre : before ++ .readLabel :: after <+: plan) (hb : .build ∉ before) :
    ∃ more, plan = before ++ .readLabel :: .build :: more := by
  obtain ⟨_, hselection, _, hstages, rfl⟩ := mem_andThen.mp hplan
  obtain ⟨image, himage, more, -, rfl⟩ := mem_andThen.mp hstages
  obtain rfl := List.mem_singleton.mp hselection
  obtain ⟨middle, rfl, hmiddle⟩ := exists_of_prefix_append hpre (by decide)
  have hb : .build ∉ middle := fun hmem => hb (by simp [hmem])
  have himage : image = [.build, .readLabel] ∨ image = [.readLabel, .build, .readLabel] := by
    simpa [imagePlans] using himage
  rcases himage with rfl | rfl
  · -- The build is the first call of its plan, so nothing was read before.
    cases middle <;> simp_all
  · rcases middle with _ | ⟨c, _ | ⟨d, middle⟩⟩ <;> simp_all

/-- A fault of an attempt is its last call, unless it is excused. -/
theorem haltsUnlessExcused_attempt (context : Option Context) (options : Options) :
    HaltsUnlessExcused options.imageName (attempt context options) := by
  intro before e after result fault hx he
  have haccounted := accounts_attempt context options hx
  by_cases hmissing : PreviousMissing options.imageName before e
  · obtain ⟨hs, ⟨image, key, text, rfl⟩, hb⟩ := hmissing
    obtain ⟨plan, hplan, hpre, hok⟩ := follows_attempt context options hx
    have hcalls : calls (before ++ ⟨.label image key, .error (.notFound text)⟩ :: after) =
        calls before ++ .readLabel :: calls after := by
      simp [Query.call?]
    rw [hcalls] at hpre hok
    unfold deployPlans at hplan
    rw [hs] at hplan
    obtain ⟨more, rfl⟩ := build_next_of_plan hplan hpre hb
    cases hc : calls after with
    | nil =>
      cases result with
      | ok report => simp [hc] at hok
      | error error => exact .inl ⟨rfl, error, rfl⟩
    | cons c rest =>
      rw [hc, List.prefix_append_right_inj] at hpre
      obtain ⟨rfl, -⟩ : c = .build ∧ rest <+: more := by simpa using hpre
      exact .inr ⟨hs, ⟨image, key, text, rfl⟩, hb, by rw [hc]; rfl⟩
  · obtain ⟨hlast, error, hresult, -⟩ := haccounted.of_fault he hmissing
    exact .inl ⟨hlast, error, hresult⟩

/-- The calls of a deploy come in the order of one of its plans. All of them are made when it
succeeds, none when it has no token or no workspace, and none after a fault that is not excused. -/
theorem deploy_calls_in_order {context : Option Context} {options : Options}
    {trace : List (Exchange outside)} {result : Except DeployError Report}
    (h : Runs (deploy context options) trace result) :
    (∃ plan ∈ deployPlans options, calls trace <+: plan ∧
      ∀ report, result = .ok report → calls trace = plan) ∧
    (∀ before e after fault, trace = before ++ e :: after → fault? e = some fault →
      calls after ≠ [] → Excused options.imageName before e after) ∧
    ((context = none ∨ ∃ c, context = some c ∧
      (c.token = "" ∨ options.workspaceId = "" ∧ c.workspace = "")) → calls trace = []) := by
  obtain ⟨attempted, state, id, rfl, hx⟩ := ends_attempt_of_runs_deploy h
  have hcalls (part : List (Exchange outside)) :
      calls (part ++ [⟨.enter state id, ()⟩]) = calls part := by
    simp [Query.call?]
  refine ⟨?_, ?_, ?_⟩
  · rw [hcalls]
    exact follows_attempt context options hx
  · intro before e after fault ht he hafter
    rcases append_eq_append_cons ht with ⟨middle, rfl, rfl⟩ | ⟨middle, rfl, hlast⟩
    · rw [hcalls] at hafter
      rcases haltsUnlessExcused_attempt context options hx he with ⟨hc, _⟩ | ⟨hs, hl, hb, hh⟩
      · exact absurd hc hafter
      · exact ⟨hs, hl, hb, by rw [hcalls, hh]⟩
    · obtain ⟨rfl, rfl, rfl⟩ := append_cons_eq_singleton.mp hlast.symm
      cases he
  · intro hnone
    obtain ⟨e, he⟩ := attempt_eq_throw hnone
    rw [he] at hx
    simp [(ends_throw_iff.mp hx).1, Query.call?]

theorem willingRun_calls_in_order :
    calls (willingRun .parse).1 = [.listWorkspaces, .listDeployments, .listReleases, .readLabel,
      .build, .readLabel, .prepareChecks, .parse, .push, .createImage, .deployImage] ∧
    ∃ plan ∈ deployPlans (willingOptions .parse), calls (willingRun .parse).1 <+: plan ∧
      ∀ report, (willingRun .parse).2 = .ok report → calls (willingRun .parse).1 = plan :=
  ⟨rfl, (deploy_calls_in_order (runs_willingRun .parse)).1⟩

end AirflowDeploy.Deploy
