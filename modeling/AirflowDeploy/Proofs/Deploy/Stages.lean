import AirflowDeploy.Proofs.Deploy.Calls
import AirflowDeploy.Proofs.Deploy.Selection

/-!
# The stages of a deploy

What lies behind a deploy that has come to a certain call: the runs of the stages before it, each
of which succeeded, one after the other.
-/
namespace AirflowDeploy.Deploy

open Dialogue Deploy.Action

variable {context : Option Context} {options : Options} {before after : List (Exchange outside)}
  {e : Exchange outside} {c : Call}

/-- The calls that look everything up. -/
def selectionPlan : List Call := [.listWorkspaces, .listDeployments, .listReleases]

/-- The last calls of a deploy. -/
def uploadPlan : List Call := [.push, .createImage, .deployImage]

/-- The workspace that is asked for: the one of the options, otherwise the one of the context. -/
def requestedWorkspace (credentials : Context) (options : Options) : String :=
  if options.workspaceId.isEmpty then credentials.workspace else options.workspaceId

/-- A deploy that has looked everything up. -/
structure Resolved (context : Option Context) (options : Options) where
  credentials : Context
  authenticated : authenticated? context = some credentials
  target : Target
  selection : List (Exchange outside)
  resolves : Ends (resolveTarget credentials options) selection (.ok target)

/-- A deploy that has an image. -/
structure Built (context : Option Context) (options : Options) extends
    Resolved context options where
  version : String
  production : List (Exchange outside)
  produces : Ends (produceImage (target.imageRequest options)) production (.ok version)

/-- A deploy that is ready to push: its image was checked as the mode asks. -/
structure Prepared (context : Option Context) (options : Options) extends
    Built context options where
  validation : List (Exchange outside)
  validates : Ends (validate target options version) validation (.ok ())

/-- Everything up to the point where the image is named. -/
def Resolved.trace (r : Resolved context options) : List (Exchange outside) :=
  r.selection ++ [⟨.selectImage r.target.image, ()⟩]

/-- Everything up to the point where the image is there. -/
def Built.trace (b : Built context options) : List (Exchange outside) :=
  b.toResolved.trace ++ b.production ++ [⟨.enter .built b.target.deployment.id, ()⟩]

/-- Everything up to the point where the deploy is ready. -/
def Prepared.trace (p : Prepared context options) : List (Exchange outside) :=
  p.toBuilt.trace ++ p.validation

theorem Resolved.credentials_eq {credentials : Context} (r : Resolved (some credentials) options) :
    r.credentials = credentials :=
  (Option.some.inj (Option.eq_some_of_filter_eq_some r.authenticated)).symm

theorem Resolved.calls_trace (r : Resolved context options) :
    calls r.trace = selectionPlan := by
  obtain ⟨plan, hp, _, hok⟩ := follows_resolveTarget _ _ r.resolves
  obtain rfl := List.mem_singleton.mp hp
  simp [Resolved.trace, hok _ rfl, Query.call?, selectionPlan]

theorem Built.not_mem_calls (b : Built context options) (hs : c ∉ selectionPlan)
    (hi : ∀ plan ∈ imagePlans options.imageName, c ∉ plan) : c ∉ calls b.trace := by
  have hproduction := (follows_produceImage _).not_mem_calls hi b.produces
  simp [Built.trace, b.calls_trace, hs, hproduction, Query.call?]

/-- A target is looked up in four steps, each of which succeeded. -/
theorem ends_resolveTarget_ok {credentials : Context} {t : Target}
    {trace : List (Exchange outside)} (h : Ends (resolveTarget credentials options) trace (.ok t)) :
    ∃ workspaces deployments choice releases,
      trace = [⟨.listWorkspaces, .ok workspaces⟩, ⟨.enter .workspaceValidated "", ()⟩,
          ⟨.listDeployments t.workspace.id, .ok deployments⟩] ++ choice ++ releases ++
        [⟨.enter .deploymentResolved t.deployment.id, ()⟩] ∧
      t.context = credentials ∧
      workspaces.find? (·.id == requestedWorkspace credentials options) = some t.workspace ∧
      Ends (chooseDeployment credentials options t.workspace deployments) choice
        (.ok t.deployment) ∧
      Ends (listReleases credentials) releases (.ok t.catalog) := by
  unfold resolveTarget at h
  obtain ⟨validation, workspace, _, rfl, hvalidate, h⟩ := ends_bind_ok_iff.mp h
  obtain ⟨validated, ⟨⟩, _, rfl, hvalidated, h⟩ := ends_bind_ok_iff.mp h
  obtain ⟨listing, deployments, _, rfl, hlisting, h⟩ := ends_bind_ok_iff.mp h
  obtain ⟨choice, deployment, _, rfl, hchoice, h⟩ := ends_bind_ok_iff.mp h
  obtain ⟨releases, catalog, _, rfl, hreleases, h⟩ := ends_bind_ok_iff.mp h
  obtain ⟨resolved, ⟨⟩, last, rfl, hresolved, hlast⟩ := ends_bind_ok_iff.mp h
  obtain ⟨rfl, ht⟩ := ends_pure_iff.mp hlast
  obtain rfl := Except.ok.inj ht
  obtain ⟨workspaces, rfl, hworkspace⟩ := ends_validateWorkspace_ok hvalidate
  refine ⟨workspaces, deployments, choice, releases, ?_, rfl, hworkspace, hchoice, hreleases⟩
  rw [(ends_enter_iff.mp hvalidated).1, runs_query_iff.mp (ends_expect_ok_iff.mp hlisting),
    (ends_enter_iff.mp hresolved).1]
  simp

/-- What is left when the image is checked. -/
def upload (t : Target) (version : String) : Action Report := do
  let tag ← pushImage t
  let imageId ← register t tag
  return report t version tag imageId

/-- What is left when everything is looked up. -/
def produceAndUpload (t : Target) (options : Options) : Action Report := do
  let version ← produceImage (t.imageRequest options)
  enter .built t.deployment.id
  validate t options version
  upload t version

theorem attempt_eq {credentials : Context} (h : authenticated? context = some credentials) :
    attempt context options = (do
      let t ← resolveTarget credentials options
      ask (.selectImage t.image)
      produceAndUpload t options) := by
  rw [attempt, h]
  rfl

theorem follows_upload (t : Target) (version : String) :
    Follows (upload t version) [uploadPlan] :=
  .of_eq (.bind (follows_pushImage _) fun _ => .after (follows_register _ _) fun _ => .pure _) rfl

/-- A call of a deploy belongs to its attempt. -/
theorem ends_attempt_at {result : Except DeployError Report}
    (h : Runs (deploy context options) (before ++ e :: after) result)
    (he : Query.call? e.query = some c) :
    ∃ middle state id, after = middle ++ [⟨.enter state id, ()⟩] ∧
      Ends (attempt context options) (before ++ e :: middle) result := by
  obtain ⟨attempted, state, id, ht, hx⟩ := ends_attempt_of_runs_deploy h
  rcases append_eq_append_cons ht.symm with ⟨middle, rfl, rfl⟩ | ⟨_, _, hlast⟩
  · exact ⟨middle, state, id, rfl, hx⟩
  · obtain ⟨_, rfl, _⟩ := append_cons_eq_singleton.mp hlast.symm
    cases he

/-- Before any other call everything is looked up. -/
theorem ends_produce_at {result : Except DeployError Report}
    (h : Ends (attempt context options) (before ++ e :: after) result)
    (he : Query.call? e.query = some c) (hs : c ∉ selectionPlan) :
    ∃ (r : Resolved context options) (middle : List (Exchange outside)),
      before = r.trace ++ middle ∧
      Ends (produceAndUpload r.target options) (middle ++ e :: after) result := by
  cases ha : authenticated? context with
  | none =>
    rw [attempt, ha] at h
    simpa using (ends_throw_iff.mp h).1
  | some credentials =>
    rw [attempt_eq ha] at h
    obtain ⟨selection, target, _, rfl, hselection, h⟩ :=
      (follows_resolveTarget _ _).ends_right h he (by simpa [selectionPlan] using hs)
    obtain ⟨select, ⟨⟩, middle, rfl, hselect, h⟩ :=
      (Follows.lift calls_of_runs_ask).ends_right h he (by simp [Query.call?])
    refine ⟨⟨credentials, ha, target, selection, hselection⟩, middle, ?_, h⟩
    obtain ⟨⟨⟩, hasked, _⟩ := ends_lift_iff.mp hselect
    simp [Resolved.trace, runs_query_iff.mp hasked]

/-- Before a call that neither looks anything up nor is about the image, the image is there. -/
theorem ends_validate_at {result : Except DeployError Report}
    (h : Ends (attempt context options) (before ++ e :: after) result)
    (he : Query.call? e.query = some c) (hs : c ∉ selectionPlan)
    (hi : ∀ plan ∈ imagePlans options.imageName, c ∉ plan) :
    ∃ (b : Built context options) (middle : List (Exchange outside)),
      before = b.trace ++ middle ∧
      Ends (validate b.target options b.version >>= fun _ => upload b.target b.version)
        (middle ++ e :: after) result := by
  obtain ⟨r, _, rfl, hx⟩ := ends_produce_at h he hs
  obtain ⟨production, version, _, rfl, hproduction, hx⟩ :=
    (follows_produceImage (r.target.imageRequest options)).ends_right hx he hi
  obtain ⟨built, ⟨⟩, middle, rfl, hbuilt, hx⟩ := (Follows.enter _ _).ends_right hx he (by simp)
  refine ⟨⟨r, version, production, hproduction⟩, middle, ?_, hx⟩
  simp [Built.trace, (ends_enter_iff.mp hbuilt).1]

theorem uploadPlan_not_mem_selectionPlan : ∀ c ∈ uploadPlan, c ∉ selectionPlan := by decide

theorem uploadPlan_not_mem_imagePlans (source : Option String) :
    ∀ c ∈ uploadPlan, ∀ plan ∈ imagePlans source, c ∉ plan := by
  cases source <;> simp [uploadPlan, imagePlans]

theorem uploadPlan_not_mem_checkPlans (mode : Mode) :
    ∀ c ∈ uploadPlan, ∀ plan ∈ checkPlans mode, c ∉ plan := by
  cases mode <;> simp [uploadPlan, checkPlans]

/-- The question for the push of a target's image. -/
def pushQuery (t : Target) (now : Instant) : Query :=
  .push t.image t.auth t.repository (pushTag now)

/-- The push is the first call of its stage, and its tag is the one that the stage gives. -/
theorem ends_pushImage_at {t : Target} {result : Except DeployError String}
    (h : Ends (pushImage t) (before ++ e :: after) result)
    (he : Query.call? e.query = some .push) :
    ∃ now, calls before = [] ∧ e.query = pushQuery t now ∧
      ∀ tag, result = .ok tag → tag = pushTag now := by
  unfold pushImage at h
  obtain ⟨first, now, middle, rfl, hnow, h⟩ :=
    (Follows.lift calls_of_runs_ask).ends_right h he (by simp [Query.call?])
  obtain ⟨write, ⟨⟩, middle, rfl, hwrite, h⟩ := (Follows.sayLine _).ends_right h he (by simp)
  have hfirst : calls first = [] := (Follows.lift calls_of_runs_ask).calls_eq_nil hnow
  have hquiet : calls write = [] := (Follows.sayLine _).calls_eq_nil hwrite
  have hpush {middle last : List (Exchange outside)} {r : Except DeployError Unit}
      (h : Ends (step "push image" (ask (pushQuery t now))) (middle ++ e :: last) r) :
      middle = [] ∧ e.query = pushQuery t now := by
    obtain ⟨answer, hd, _⟩ := ends_expect_iff.mp h
    obtain ⟨rfl, rfl, _⟩ := append_cons_eq_singleton.mp (runs_query_iff.mp hd)
    exact ⟨rfl, rfl⟩
  refine ⟨now, ?_⟩
  rcases ends_bind_at h with ⟨_, ⟨⟩, _, rfl, hx, hf⟩ | ⟨error, hx, rfl⟩ | ⟨_, ⟨⟩, _, rfl, _, hf⟩
  · obtain ⟨rfl, hq⟩ := hpush hx
    refine ⟨by simp [hfirst, hquiet], hq, fun tag htag => ?_⟩
    obtain ⟨_, _, _, _, _, hlast⟩ := ends_bind_ok_iff.mp (htag ▸ hf)
    exact Except.ok.inj (ends_pure_iff.mp hlast).2
  · obtain ⟨rfl, hq⟩ := hpush hx
    exact ⟨by simp [hfirst, hquiet], hq, fun _ htag => by cases htag⟩
  · have hnone : Follows (enter .pushed t.deployment.id >>= fun _ => pure (pushTag now)) [[]] :=
      .after (.enter _ _) fun _ => .pure _
    have hnil := hnone.calls_eq_nil hf
    simp [he] at hnil

/-- Before a push everything is ready, and its image is the one that was made ready. A report
tells the version that was. -/
theorem prepared_of_push {result : Except DeployError Report}
    (h : Runs (deploy context options) (before ++ e :: after) result)
    (he : Query.call? e.query = some .push) :
    ∃ (p : Prepared context options) (quiet : List (Exchange outside)) (now : Instant),
      before = p.trace ++ quiet ∧ calls quiet = [] ∧ e.query = pushQuery p.target now ∧
      ∀ r, result = .ok r → ∃ id, r = report p.target p.version (pushTag now) id := by
  have hpush : .push ∈ uploadPlan := List.mem_cons_self
  obtain ⟨_, _, _, _, hx⟩ := ends_attempt_at h he
  obtain ⟨b, _, rfl, hchecking⟩ :=
    ends_validate_at hx he (uploadPlan_not_mem_selectionPlan _ hpush)
      (uploadPlan_not_mem_imagePlans _ _ hpush)
  obtain ⟨validation, ⟨⟩, quiet, rfl, hvalidation, hupload⟩ :=
    (follows_validate _ _ _).ends_right hchecking he (uploadPlan_not_mem_checkPlans _ _ hpush)
  let p : Prepared context options := ⟨b, validation, hvalidation⟩
  have hready : b.trace ++ (validation ++ quiet) = p.trace ++ quiet := by
    simp [p, Prepared.trace]
  rcases ends_bind_at hupload with
    ⟨_, tag, _, _, hpush, hlast⟩ | ⟨error, hpush, rfl⟩ | ⟨_, tag, _, rfl, _, hlast⟩
  · obtain ⟨now, hquiet, hq, htag⟩ := ends_pushImage_at hpush he
    refine ⟨p, quiet, now, hready, hquiet, hq, ?_⟩
    rintro told rfl
    obtain ⟨_, id, _, _, _, htold⟩ := ends_bind_ok_iff.mp hlast
    obtain rfl := htag tag rfl
    exact ⟨id, Except.ok.inj (ends_pure_iff.mp htold).2⟩
  · obtain ⟨now, hquiet, hq, _⟩ := ends_pushImage_at hpush he
    exact ⟨p, quiet, now, hready, hquiet, hq, fun _ htold => by cases htold⟩
  · have hrest : Follows (register b.target tag >>= fun id =>
        pure (report b.target b.version tag id)) [[.createImage, .deployImage]] :=
      .after (follows_register _ _) fun _ => .pure _
    exact absurd (mem_calls_of_mem List.mem_append_cons_self he)
      (hrest.not_mem_calls (by simp) hlast)

end AirflowDeploy.Deploy
