import AirflowDeploy.Proofs.Deploy.CheckedVersion
import AirflowDeploy.Proofs.Deploy.Selection
import AirflowDeploy.Proofs.Deploy.Topics

/-!
# The choice of the target

What a deploy goes to once it asks the engine for anything: the requested workspace and one of its
deployments, as the platform has listed them, where the deployment is the one that was named or
the one on the row of the table whose number the user has typed.
-/
namespace AirflowDeploy.Deploy

open Dialogue Deploy.Action

variable {trace : List (Exchange outside)} {d : Deployment} {deployments : List Deployment}
  {context : Option Context} {credentials : Context} {options : Options}

/-- The lines that were read. -/
def inputs (trace : List (Exchange outside)) : List (Exchange outside) :=
  trace.filter fun e => Query.topic e.query = .input

@[simp] theorem inputs_append (first rest : List (Exchange outside)) :
    inputs (first ++ rest) = inputs first ++ inputs rest := by
  simp [inputs]

@[simp] theorem inputs_map_written (lines : List String) : inputs (lines.map written) = [] := by
  simp [inputs, written]

theorem About.inputs_eq_nil {x : Action α} {topics : List Topic} (h : About topics x)
    (hi : .input ∉ topics) {result : Except DeployError α} (hx : Ends x trace result) :
    inputs trace = [] := by
  refine List.filter_eq_nil_iff.mpr fun e he htopic => hi ?_
  rw [← of_decide_eq_true htopic]
  exact h.topic_mem hx he

/-- The deployment was named and no line was read, or one line was read and the deployment is the
one on the row of the table with the number that stands in this line. -/
inductive Chosen (options : Options) (deployments : List Deployment) (d : Deployment)
    (trace : List (Exchange outside)) : Prop where
  | named (given : options.deploymentId = some d.id) (unprompted : options.prompt = false)
      (unread : inputs trace = [])
  | typed {line : String} {n : Nat}
      (asked : options.deploymentId = none ∨ options.prompt = true)
      (read : inputs trace = [⟨.readLine, .ok line⟩])
      (number : Text.readNatural? (Text.trim line.toList) = some (n + 1))
      (row : deployments[n]? = some d)
      (shown : written (tableLine deployments (n + 1) d) ∈ trace)

theorem Chosen.mono {part : List (Exchange outside)} (h : Chosen options deployments d part)
    (hinputs : inputs trace = inputs part) (hsub : part ⊆ trace) :
    Chosen options deployments d trace := by
  cases h with
  | named given unprompted unread => exact .named given unprompted (hinputs.trans unread)
  | typed asked read number row shown =>
    exact .typed asked (hinputs.trans read) number row (hsub shown)

theorem chosen_of_promptForDeployment {domain : String} {workspace : Workspace}
    (hasked : options.deploymentId = none ∨ options.prompt = true)
    (h : Ends (promptForDeployment domain workspace deployments) trace (.ok d)) :
    d ∈ deployments ∧ Chosen options deployments d trace := by
  obtain ⟨line, hpick, rfl⟩ := ends_promptForDeployment_ok h
  obtain ⟨n, hn, hd⟩ := pick?_eq_some_iff.mp hpick
  have hrow := List.mem_of_getElem? (getElem?_deploymentTable hd)
  refine ⟨List.mem_of_getElem? hd, .typed hasked ?_ hn hd ?_⟩
  · rw [inputs_append, inputs_map_written]
    rfl
  · simp [promptLines, List.mem_map_of_mem hrow]

theorem chosen_of_chooseDeployment {workspace : Workspace}
    (h : Ends (chooseDeployment credentials options workspace deployments) trace (.ok d)) :
    d ∈ deployments ∧ Chosen options deployments d trace := by
  unfold chooseDeployment at h
  cases hid : options.deploymentId with
  | none =>
    rw [hid] at h
    exact chosen_of_promptForDeployment (.inl hid) h
  | some id =>
    cases hprompt : options.prompt with
    | true =>
      rw [hid, hprompt] at h
      exact chosen_of_promptForDeployment (.inr hprompt) h
    | false =>
      rw [hid, hprompt] at h
      obtain ⟨rfl, hfound⟩ := ends_ofExcept_iff.mp h
      have hfind := findDeployment_eq_ok_iff.mp hfound.symm
      have hsame : d.id = id := by simpa using List.find?_some hfind
      exact ⟨List.mem_of_find?_eq_some hfind, .named (hsame ▸ hid) hprompt rfl⟩

/-- A target comes out of what the platform has listed and the user has typed. -/
structure LookedUp (credentials : Context) (options : Options) (t : Target)
    (selection : List (Exchange outside)) : Prop where
  context : t.context = credentials
  workspace : ∃ workspaces, ⟨.listWorkspaces, .ok workspaces⟩ ∈ selection ∧
    t.workspace ∈ workspaces ∧ t.workspace.id = requestedWorkspace credentials options
  deployment : ∃ deployments,
    ⟨.listDeployments (requestedWorkspace credentials options), .ok deployments⟩ ∈ selection ∧
      t.deployment ∈ deployments ∧ Chosen options deployments t.deployment selection
  catalog : Fetched t.catalog selection

theorem Resolved.lookedUp (r : Resolved context options) :
    LookedUp r.credentials options r.target r.selection := by
  obtain ⟨workspaces, deployments, choice, releases, hselection, hcontext, hworkspace, hchoice,
    hreleases⟩ := ends_resolveTarget_ok r.resolves
  have hid : r.target.workspace.id = requestedWorkspace r.credentials options := by
    simpa using List.find?_some hworkspace
  obtain ⟨hmem, hchosen⟩ := chosen_of_chooseDeployment hchoice
  have hinputs : inputs r.selection = inputs choice := by
    have hquiet := (about_listReleases _).inputs_eq_nil (by decide) hreleases
    rw [hselection, inputs_append, inputs_append, inputs_append, hquiet]
    simp [inputs]
  refine ⟨hcontext, ⟨workspaces, ?_, List.mem_of_find?_eq_some hworkspace, hid⟩,
    ⟨deployments, ?_, hmem, hchosen.mono hinputs ?_⟩, r.fetched⟩
  · simp [hselection]
  · rw [← hid]
    simp [hselection]
  · intro e he
    simp [hselection, he]

theorem about_produceAndUpload (t : Target) (options : Options) :
    About [.platform, .engine, .output, .file, .clock, .state] (produceAndUpload t options) := by
  unfold produceAndUpload upload
  exact .bind ((about_produceImage _).mono (by decide)) fun version =>
    .bind (.enter _ _ (by decide)) fun _ =>
    .bind ((about_validate _ _ _).mono (by decide)) fun _ =>
    .bind ((about_pushImage _).mono (by decide)) fun tag =>
    .bind ((about_register _ _).mono (by decide)) fun _ => .pure _

/-- An attempt that asks the engine for anything has looked up its target before, and goes on with
this target. -/
theorem ends_attempt_engine {result : Except DeployError Report} {e : Exchange outside}
    (h : Ends (attempt context options) trace result) (he : e ∈ trace)
    (hengine : Query.topic e.query = .engine) :
    ∃ (r : Resolved context options) (rest : List (Exchange outside)),
      trace = r.trace ++ rest ∧ Ends (produceAndUpload r.target options) rest result := by
  cases ha : authenticated? context with
  | none =>
    rw [attempt, ha] at h
    simp [(ends_throw_iff.mp h).1] at he
  | some credentials =>
    rw [attempt_eq ha] at h
    rcases ends_bind_iff.mp h with ⟨selection, target, _, rfl, hselection, h⟩ | ⟨_, hfailed, _⟩
    · rcases ends_bind_iff.mp h with ⟨select, ⟨⟩, rest, rfl, hselect, h⟩ | ⟨_, hselect, _⟩
      · obtain ⟨⟨⟩, hasked, _⟩ := ends_lift_iff.mp hselect
        refine ⟨⟨credentials, ha, target, selection, hselection⟩, rest, ?_, h⟩
        simp [Resolved.trace, runs_query_iff.mp hasked]
      · obtain ⟨_, _, herror⟩ := ends_lift_iff.mp hselect
        cases herror
    · have htopic := (about_resolveTarget credentials options).topic_mem hfailed he
      rw [hengine] at htopic
      exact absurd htopic (by decide)

/-- A deploy that asks the engine for anything is about a workspace and a deployment that were
looked up before: the requested workspace and one of its deployments, as they were listed. No
line is read after that. -/
theorem deploy_goes_to_looked_up {result : Except DeployError Report} {e : Exchange outside}
    (h : Runs (deploy context options) trace result) (he : e ∈ trace)
    (hengine : Query.topic e.query = .engine) :
    ∃ (r : Resolved context options) (rest : List (Exchange outside)) (last : Exchange outside),
      trace = r.trace ++ rest ++ [last] ∧
      LookedUp r.credentials options r.target r.selection ∧
      calls r.selection = selectionPlan ∧
      (∀ asked ∈ r.selection, Query.topic asked.query ≠ .engine) ∧
      inputs trace = inputs r.selection ∧
      Ends (produceAndUpload r.target options) rest result := by
  obtain ⟨attempted, state, id, rfl, hattempt⟩ := ends_attempt_of_runs_deploy h
  have hmem : e ∈ attempted := by
    rcases List.mem_append.mp he with hmem | hlast
    · exact hmem
    · rw [List.mem_singleton.mp hlast] at hengine
      cases hengine
  obtain ⟨r, rest, rfl, hrest⟩ := ends_attempt_engine hattempt hmem hengine
  have hquiet := (about_produceAndUpload r.target options).inputs_eq_nil (by decide) hrest
  refine ⟨r, rest, _, rfl, r.lookedUp, ?_, fun asked hasked => ?_, ?_, hrest⟩
  · simpa [Resolved.trace, Query.call?] using r.calls_trace
  · intro htopic
    have hselection := (about_resolveTarget r.credentials options).topic_mem r.resolves hasked
    rw [htopic] at hselection
    exact absurd hselection (by decide)
  · rw [inputs_append, inputs_append, hquiet, Resolved.trace, inputs_append]
    simp [inputs]

def promptedOptions : Options := { willingOptions .unchecked with prompt := true }

/-- The willing outside with a user who is asked for the deployment. -/
def promptedRun : List (Exchange outside) × Except DeployError Report :=
  (deploy (some willingContext) promptedOptions).follow willing

theorem engineQuery_promptedRun :
    (promptedRun.1.find? fun e => Query.topic e.query = .engine).map (·.query) =
      some (.selectImage "r/airflow:latest") := by
  decide +kernel

theorem promptedRun_goes_to_looked_up :
    ∃ e ∈ promptedRun.1, Query.topic e.query = .engine ∧
      ∃ (r : Resolved (some willingContext) promptedOptions) (rest : List (Exchange outside))
        (last : Exchange outside), promptedRun.1 = r.trace ++ rest ++ [last] ∧
        LookedUp r.credentials promptedOptions r.target r.selection ∧
        calls r.selection = selectionPlan ∧
        (∀ asked ∈ r.selection, Query.topic asked.query ≠ .engine) ∧
        inputs promptedRun.1 = inputs r.selection ∧
        Ends (produceAndUpload r.target promptedOptions) rest promptedRun.2 := by
  obtain ⟨e, hfound, -⟩ := Option.map_eq_some_iff.mp engineQuery_promptedRun
  have hmem : e ∈ promptedRun.1 := List.mem_of_find?_eq_some hfound
  have htopic := List.find?_some hfound
  have hengine : Query.topic e.query = .engine := of_decide_eq_true htopic
  exact ⟨e, hmem, hengine, deploy_goes_to_looked_up (runs_follow _ _) hmem hengine⟩

end AirflowDeploy.Deploy
