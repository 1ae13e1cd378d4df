import AirflowDeploy.Deploy.Pipeline
import AirflowDeploy.Proofs.Deploy.Action

/-!
# The calls of a deploy

Which operations of the platform and the engine each stage asks for, and in which order. A stage
that succeeds has made all the calls of one of its plans, a stage that fails a beginning of them.
-/
namespace AirflowDeploy.Deploy

open Dialogue Deploy.Action

/-- The operations of the platform and the engine. Both lists of releases count as one. -/
inductive Call where
  | listWorkspaces | listDeployments | listReleases
  | tagLocal | readLabel | build
  | prepareChecks | parse | pytest
  | push | createImage | deployImage
  deriving DecidableEq, Repr

/-- The call that a question makes. Naming an image, the user's input and output, files, the
clock and changes of state are no calls. -/
def Query.call? : Query → Option Call
  | .listWorkspaces => some .listWorkspaces
  | .listDeployments _ => some .listDeployments
  | .listPublicReleases | .listInternalReleases => some .listReleases
  | .createImage _ => some .createImage
  | .deployImage _ => some .deployImage
  | .build _ _ => some .build
  | .tagLocal _ _ => some .tagLocal
  | .label _ _ => some .readLabel
  | .push _ _ _ _ => some .push
  | .prepareChecks _ => some .prepareChecks
  | .parse _ _ => some .parse
  | .pytest _ _ _ => some .pytest
  | .selectImage _ | .write _ | .flush | .readLine | .fileContent _ | .now | .enter _ _ => none

def calls (trace : List (Exchange outside)) : List Call :=
  trace.filterMap fun e => Query.call? e.query

@[simp] theorem calls_nil : calls [] = [] := rfl

@[simp] theorem calls_cons (e : Exchange outside) (trace : List (Exchange outside)) :
    calls (e :: trace) = (Query.call? e.query).toList ++ calls trace := by
  cases h : Query.call? e.query <;> simp [calls, h]

@[simp] theorem calls_append (first rest : List (Exchange outside)) :
    calls (first ++ rest) = calls first ++ calls rest := List.filterMap_append

theorem mem_calls_of_mem {e : Exchange outside} {trace : List (Exchange outside)} {c : Call}
    (he : e ∈ trace) (hc : Query.call? e.query = some c) : c ∈ calls trace :=
  List.mem_filterMap.mpr ⟨e, he, hc⟩

/-- Every plan of the first list, followed by every plan of the second. -/
def andThen (first rest : List (List Call)) : List (List Call) :=
  first.flatMap fun plan => rest.map (plan ++ ·)

theorem mem_andThen {first rest : List (List Call)} {plan : List Call} :
    plan ∈ andThen first rest ↔ ∃ p ∈ first, ∃ q ∈ rest, p ++ q = plan := by
  simp [andThen]

@[simp] theorem andThen_nothing (plans : List (List Call)) : andThen [[]] plans = plans := by
  simp [andThen]

@[simp] theorem andThen_nothing_right (plans : List (List Call)) : andThen plans [[]] = plans := by
  simp [andThen]

/-- There is a plan to keep to. -/
class Possible (plans : List (List Call)) : Prop where
  exists_mem : ∃ plan, plan ∈ plans

instance (plan : List Call) (plans : List (List Call)) : Possible (plan :: plans) :=
  ⟨plan, List.mem_cons_self⟩

instance (first rest : List (List Call)) [hf : Possible first] [hr : Possible rest] :
    Possible (andThen first rest) := by
  obtain ⟨p, hp⟩ := hf.exists_mem
  obtain ⟨q, hq⟩ := hr.exists_mem
  exact ⟨p ++ q, mem_andThen.mpr ⟨p, hp, q, hq, rfl⟩⟩

/-- Every run of `x` keeps to one of the plans. -/
def Follows (x : Action α) (plans : List (List Call)) : Prop :=
  ∀ ⦃trace result⦄, Ends x trace result →
    ∃ plan ∈ plans, calls trace <+: plan ∧ ∀ a, result = .ok a → calls trace = plan

namespace Follows

variable {α β ε : Type} {plans rest : List (List Call)}

theorem of_calls_eq {x : Action α} {plan : List Call}
    (h : ∀ trace result, Ends x trace result → calls trace = plan) : Follows x [plan] := by
  intro trace result hx
  have he := h trace result hx
  exact ⟨plan, by simp, by simp [he], fun _ _ => he⟩

theorem mono {x : Action α} (h : Follows x plans) (hs : plans ⊆ rest) : Follows x rest := by
  intro trace result hx
  obtain ⟨plan, hp, hc⟩ := h hx
  exact ⟨plan, hs hp, hc⟩

theorem calls_eq_nil {x : Action α} (h : Follows x [[]]) {trace : List (Exchange outside)}
    {result : Except DeployError α} (hx : Ends x trace result) : calls trace = [] := by
  obtain ⟨plan, hp, hpre, _⟩ := h hx
  simpa [List.mem_singleton.mp hp] using hpre

/-- A call that no plan holds is never made. -/
theorem not_mem_calls {x : Action α} (h : Follows x plans) {c : Call}
    (hc : ∀ plan ∈ plans, c ∉ plan) {trace : List (Exchange outside)}
    {result : Except DeployError α} (hx : Ends x trace result) : c ∉ calls trace := by
  obtain ⟨plan, hp, hpre, _⟩ := h hx
  exact fun hmem => hc plan hp (hpre.subset hmem)

/-- An exchange that the first part of a sequence has no plan for belongs to the second part. -/
theorem ends_right {x : Action α} {f : α → Action β} {c : Call}
    {before after : List (Exchange outside)} {e : Exchange outside}
    {result : Except DeployError β} (hx : Follows x plans)
    (h : Ends (x >>= f) (before ++ e :: after) result) (he : Query.call? e.query = some c)
    (hc : ∀ plan ∈ plans, c ∉ plan) :
    ∃ first a middle, before = first ++ middle ∧ Ends x first (.ok a) ∧
      Ends (f a) (middle ++ e :: after) result := by
  have hne {last : List (Exchange outside)} {r : Except DeployError α} :
      ¬ Ends x (before ++ e :: last) r :=
    fun h => hx.not_mem_calls hc h (mem_calls_of_mem (by simp) he)
  rcases ends_bind_at h with ⟨_, _, _, _, hx, _⟩ | ⟨_, hx, _⟩ | h
  · exact absurd hx hne
  · exact absurd hx hne
  · exact h

theorem of_eq {x : Action α} (h : Follows x plans) (he : plans = rest) : Follows x rest := he ▸ h

/-- A failure of the first part leaves the plans of the second one unfinished. -/
theorem bind [hr : Possible rest] {x : Action α} {f : α → Action β} (hx : Follows x plans)
    (hf : ∀ a, Follows (f a) rest) : Follows (x >>= f) (andThen plans rest) := by
  intro trace result h
  rcases ends_bind_iff.mp h with ⟨first, a, last, rfl, hxa, hfa⟩ | ⟨e, hxe, rfl⟩
  · obtain ⟨p, hp, _, hpe⟩ := hx hxa
    obtain ⟨q, hq, hqp, hqe⟩ := hf a hfa
    have hfirst : calls first = p := hpe a rfl
    refine ⟨p ++ q, mem_andThen.mpr ⟨p, hp, q, hq, rfl⟩, ?_, ?_⟩
    · simpa [hfirst] using hqp
    · intro b hb
      simp [hfirst, hqe b hb]
  · obtain ⟨p, hp, hpp, _⟩ := hx hxe
    obtain ⟨q, hq⟩ := hr.exists_mem
    exact ⟨p ++ q, mem_andThen.mpr ⟨p, hp, q, hq, rfl⟩, hpp.trans (List.prefix_append p q),
      fun _ hb => by cases hb⟩

/-- What makes no call may stand before a plan. -/
theorem before [Possible plans] {x : Action α} {f : α → Action β} (hx : Follows x [[]])
    (hf : ∀ a, Follows (f a) plans) : Follows (x >>= f) plans :=
  andThen_nothing plans ▸ hx.bind hf

/-- What makes no call may stand behind a plan. -/
theorem after {x : Action α} {f : α → Action β} (hx : Follows x plans)
    (hf : ∀ a, Follows (f a) [[]]) : Follows (x >>= f) plans :=
  andThen_nothing_right plans ▸ hx.bind hf

theorem pure (a : α) : Follows (Pure.pure a) [[]] :=
  of_calls_eq fun _ _ h => by simp [(ends_pure_iff.mp h).1]

theorem throw [hp : Possible plans] (e : DeployError) :
    Follows (MonadExcept.throw e : Action α) plans := by
  intro trace result h
  obtain ⟨rfl, rfl⟩ := ends_throw_iff.mp h
  obtain ⟨plan, hplan⟩ := hp.exists_mem
  exact ⟨plan, hplan, List.nil_prefix, fun _ ha => by cases ha⟩

/-- An action that may be refused before it starts. -/
theorem guard [Possible plans] {c : Bool} {e : DeployError} {next : Unit → Action α}
    (h : Follows (next ()) plans) :
    Follows (if c then MonadExcept.throw e >>= next else next ()) plans := by
  split
  · exact .before (.throw e) fun _ => h
  · exact h

theorem ofExcept (x : Except DeployError α) : Follows (liftM x) [[]] :=
  of_calls_eq fun _ _ h => by simp [(ends_ofExcept_iff.mp h).1]

theorem expect {f : ε → DeployError} {d : Dialogue outside (Except ε α)} {plan : List Call}
    (h : ∀ {trace answer}, Runs d trace answer → calls trace = plan) :
    Follows (expect f d) [plan] :=
  of_calls_eq fun _ _ hx => by
    obtain ⟨answer, hd, _⟩ := ends_expect_iff.mp hx
    exact h hd

theorem step {operation : String} {d : Dialogue outside (Except Fault α)} {plan : List Call}
    (h : ∀ {trace answer}, Runs d trace answer → calls trace = plan) :
    Follows (step operation d) [plan] := expect h

theorem lift {d : Dialogue outside α} {plan : List Call}
    (h : ∀ {trace answer}, Runs d trace answer → calls trace = plan) : Follows (liftM d) [plan] :=
  of_calls_eq fun _ _ hx => by
    obtain ⟨answer, hd, _⟩ := ends_lift_iff.mp hx
    exact h hd

theorem map {x : Action α} (f : α → β) (h : Follows x plans) : Follows (f <$> x) plans := by
  intro trace result hx
  obtain ⟨r, hr, rfl⟩ := ends_map_iff.mp hx
  obtain ⟨plan, hp, hpre, hok⟩ := h hr
  refine ⟨plan, hp, hpre, fun b hb => ?_⟩
  cases r with
  | ok a => exact hok a rfl
  | error e => cases hb

theorem say (text : String) : Follows (say text) [[]] :=
  of_calls_eq fun _ _ h => by
    rw [ends_say_iff] at h
    split at h
    · simp [h.1]
    · obtain ⟨_, rfl, _⟩ := h
      rfl

theorem sayLine (text : String) : Follows (sayLine text) [[]] := say _

theorem sayLines : (texts : List String) → Follows (sayLines texts) [[]]
  | [] => pure ()
  | text :: rest => (sayLine text).bind fun _ => sayLines rest

theorem flush : Follows flush [[]] := .expect fun h => by rw [runs_query_iff.mp h]; rfl

theorem enter (state : State) (id : String) : Follows (enter state id) [[]] :=
  of_calls_eq fun _ _ h => by simp [(ends_enter_iff.mp h).1, Query.call?]

end Follows

theorem calls_of_runs_ask {q : Query} {trace : List (Exchange outside)} {answer : q.Answer}
    (h : Runs (ask q) trace answer) : calls trace = q.call?.toList := by
  rw [runs_query_iff.mp h]
  simp

theorem calls_of_runs_map_ask {q : Query} {g : q.Answer → α} {trace : List (Exchange outside)}
    {b : α} (h : Runs (g <$> ask q) trace b) : calls trace = q.call?.toList := by
  obtain ⟨answer, h, _⟩ := runs_map_iff.mp h
  exact calls_of_runs_ask h

theorem follows_validateWorkspace (id : String) :
    Follows (validateWorkspace id) [[.listWorkspaces]] := by
  unfold validateWorkspace
  exact .guard (.after (.step calls_of_runs_ask) fun _ => .ofExcept _)

theorem follows_promptForDeployment (domain : String) (workspace : Workspace)
    (deployments : List Deployment) :
    Follows (promptForDeployment domain workspace deployments) [[]] := by
  unfold promptForDeployment
  refine .guard (.after (.sayLine _) fun _ => .after (.sayLine _) fun _ =>
    .after (.sayLines _) fun _ => .after (.say _) fun _ => .after .flush fun _ =>
    .after (.expect calls_of_runs_ask) fun answer => ?_)
  split
  · exact .pure _
  · exact .throw _

theorem follows_chooseDeployment (context : Context) (options : Options) (workspace : Workspace)
    (deployments : List Deployment) :
    Follows (chooseDeployment context options workspace deployments) [[]] := by
  unfold chooseDeployment
  split
  · exact .ofExcept _
  · exact follows_promptForDeployment _ _ _

theorem follows_listReleases (context : Context) :
    Follows (listReleases context) [[.listReleases]] := by
  unfold listReleases
  cases context.systemAdmin <;> exact .step calls_of_runs_ask

theorem follows_resolveTarget (context : Context) (options : Options) :
    Follows (resolveTarget context options)
      [[.listWorkspaces, .listDeployments, .listReleases]] := by
  unfold resolveTarget
  refine .of_eq (.bind (follows_validateWorkspace _) fun _ => .before (.enter _ _) fun _ =>
    .bind (.step calls_of_runs_ask) fun _ => .before (follows_chooseDeployment _ _ _ _) fun _ =>
    .after (follows_listReleases _) fun _ => .after (.enter _ _) fun _ => .pure _) rfl

/-- A local image is tagged and read; otherwise the image of an earlier build may be read. -/
def candidatePlans : Option String → List (List Call)
  | some _ => [[.tagLocal, .readLabel]]
  | none => [[], [.readLabel]]

/-- An image is built and read, unless a local one is there. -/
def buildPlans : Option String → List (List Call)
  | some _ => [[]]
  | none => [[.build, .readLabel]]

/-- A local image is tagged and read, or an image is built and read, which may have been read
before. -/
def imagePlans : Option String → List (List Call)
  | some _ => [[.tagLocal, .readLabel]]
  | none => [[.build, .readLabel], [.readLabel, .build, .readLabel]]

instance (source : Option String) : Possible (candidatePlans source) := by
  cases source <;> exact inferInstanceAs (Possible (_ :: _))

instance (source : Option String) : Possible (buildPlans source) := by
  cases source <;> exact inferInstanceAs (Possible (_ :: _))

instance (source : Option String) : Possible (imagePlans source) := by
  cases source <;> exact inferInstanceAs (Possible (_ :: _))

theorem imagePlans_eq (source : Option String) :
    imagePlans source = andThen (candidatePlans source) (buildPlans source) := by
  cases source <;> rfl

/-- The version to deploy a local image with. -/
def localVersion (r : ImageRequest) (source : String) : Action String := do
  step "tag local image" (ask (.tagLocal r.ctx.image source))
  let label ← readLabel r.ctx.image
  return resolveRuntimeVersion [r.override, some label, some r.currentVersion]

/-- The version to build for, where the Dockerfile names a runtime or none. -/
def detectedVersion (r : ImageRequest) : Option String → Action String
  | some tag => return resolveRuntimeVersion [r.override, some tag, some "", some r.currentVersion]
  | none => do
    let previous ← existingLabel r.ctx.image
    return resolveRuntimeVersion [r.override, none, some previous, some r.currentVersion]

theorem candidateVersion_eq (r : ImageRequest) :
    candidateVersion r =
      match r.source with
      | some source => localVersion r source
      | none => dockerfileRuntimeTag r.ctx r.catalog >>= detectedVersion r := by
  unfold candidateVersion
  cases r.source with
  | some source => rfl
  | none =>
    refine bind_congr fun tag => ?_
    cases tag <;> rfl

theorem follows_localVersion (r : ImageRequest) (source : String) :
    Follows (localVersion r source) [[.tagLocal, .readLabel]] := by
  unfold localVersion
  exact .of_eq (.bind (.step calls_of_runs_ask) fun _ =>
    .after (.step calls_of_runs_ask) fun _ => .pure _) rfl

theorem follows_dockerfileRuntimeTag (ctx : BuildContext) (catalog : List RuntimeRelease) :
    Follows (dockerfileRuntimeTag ctx catalog) [[]] := .map _ (.expect calls_of_runs_map_ask)

theorem follows_existingLabel (image : String) : Follows (existingLabel image) [[.readLabel]] :=
  .step calls_of_runs_map_ask

theorem follows_detectedVersion (r : ImageRequest) (tag : Option String) :
    Follows (detectedVersion r tag) [[], [.readLabel]] := by
  cases tag with
  | some tag => exact .mono (.pure _) (by simp)
  | none => exact .mono (.after (follows_existingLabel _) fun _ => .pure _) (by simp)

theorem follows_candidateVersion (r : ImageRequest) :
    Follows (candidateVersion r) (candidatePlans r.source) := by
  rw [candidateVersion_eq]
  cases r.source with
  | some source => exact follows_localVersion r source
  | none => exact .before (follows_dockerfileRuntimeTag _ _) (follows_detectedVersion r)

/-- The version of an image that was built and is labelled. -/
def labelledVersion (r : ImageRequest) (version label : String) : Action String := do
  if label.isEmpty || label == version then return version
  checkRuntimeVersion r.catalog r.currentVersion label
  return label

theorem follows_labelledVersion (r : ImageRequest) (version label : String) :
    Follows (labelledVersion r version label) [[]] := by
  unfold labelledVersion
  split
  · exact .pure _
  · exact .before (.ofExcept _) fun _ => .pure _

/-- A build is told of, made and followed by a look at the label. -/
theorem buildFor_eq (r : ImageRequest) (version : String) :
    buildFor r version = (do
      sayLine ("Building image " ++ r.ctx.image ++ "...")
      step "build image" (ask (.build r.ctx.image { r.ctx with runtimeTag := version }))
      readLabel r.ctx.image >>= labelledVersion r version) := rfl

theorem follows_buildFor (r : ImageRequest) (version : String) :
    Follows (buildFor r version) [[.build, .readLabel]] := by
  rw [buildFor_eq]
  exact .of_eq (.before (.sayLine _) fun _ => .bind (.step calls_of_runs_ask) fun _ =>
    .after (.step calls_of_runs_ask) (follows_labelledVersion r version)) rfl

/-- Where the image for a version comes from. -/
def supply (r : ImageRequest) (version : String) : Action String :=
  if r.source.isSome then pure version else buildFor r version

/-- What the image stage does with the version that it has found. -/
def produceFor (r : ImageRequest) (version : String) : Action String := do
  checkRuntimeVersion r.catalog r.currentVersion version
  sayLines (newerReleaseNotice? r.catalog version).toList
  supply r version

theorem produceImage_eq (r : ImageRequest) :
    produceImage r = candidateVersion r >>= produceFor r := by
  refine bind_congr fun version => bind_congr fun _ => ?_
  cases newerReleaseNotice? r.catalog version with
  | some notice => simp [sayLines, supply]
  | none => rfl

theorem follows_supply (r : ImageRequest) (version : String) :
    Follows (supply r version) (buildPlans r.source) := by
  unfold supply
  cases r.source with
  | some source => exact .pure version
  | none => exact follows_buildFor r version

theorem follows_produceFor (r : ImageRequest) (version : String) :
    Follows (produceFor r version) (buildPlans r.source) := by
  unfold produceFor
  exact .before (.ofExcept _) fun _ => .before (.sayLines _) fun _ => follows_supply r version

theorem follows_produceImage (r : ImageRequest) :
    Follows (produceImage r) (imagePlans r.source) := by
  rw [produceImage_eq, imagePlans_eq]
  exact .bind (follows_candidateVersion r) (follows_produceFor r)

/-- The checks are prepared and one runs, where a parse may be left out. -/
def checkPlans : Mode → List (List Call)
  | .unchecked => [[]]
  | .parse => [[.prepareChecks], [.prepareChecks, .parse]]
  | .pytest _ => [[.prepareChecks, .pytest]]

instance (mode : Mode) : Possible (checkPlans mode) := by
  cases mode <;> exact inferInstanceAs (Possible (_ :: _))

/-- What is told of the answer to a parse. -/
def tellParse : Except Fault Unit → Action Unit
  | .ok () => sayLine "No DAG import errors found"
  | .error fault => do
    match fault with
    | .executionFailed output => sayLine (trimmedEnd output)
    | _ => pure ()
    throw (.dagsParseFailed fault)

theorem checkParse_eq (setup : Check.Setup) (image version : String) :
    checkParse setup image version =
      if isTooOldToParse version then
        sayLine ("Skipping DAG parse: runtime " ++ version ++ " is older than " ++ parseMinimum)
      else sayLine "Testing image for DAG import errors..." >>= fun _ =>
        liftM (ask (.parse setup image)) >>= tellParse := by
  unfold checkParse
  congr 2
  funext _
  congr 1
  funext answer
  cases answer with
  | ok _ => rfl
  | error fault => cases fault <;> rfl

theorem follows_tellParse (answer : Except Fault Unit) : Follows (tellParse answer) [[]] := by
  cases answer with
  | ok _ => exact .sayLine _
  | error fault =>
    cases fault with
    | executionFailed output => exact .after (.sayLine _) fun _ => .throw _
    | _ => exact .throw _

theorem follows_checkParse (setup : Check.Setup) (image version : String) :
    Follows (checkParse setup image version) [[], [.parse]] := by
  rw [checkParse_eq]
  split
  · exact .mono (.sayLine _) (by simp)
  · exact .mono (.before (.sayLine _) fun _ => .after (.lift calls_of_runs_ask) follows_tellParse)
      (List.subset_cons_self _ _)

/-- What is done with the output of the tests. -/
def tellOutput (output : String) : Action Unit := do
  say output
  if (Check.classify output).isFailed then throw .pytestFailed

theorem checkPytest_eq (setup : Check.Setup) (file : Option String) (image : String) :
    checkPytest setup file image = (do
      sayLine "Running pytests..."
      step "run pytests" (testOutput <$> ask (.pytest setup file image)) >>= tellOutput) := rfl

theorem follows_tellOutput (output : String) : Follows (tellOutput output) [[]] := by
  unfold tellOutput
  refine .after (.say _) fun _ => ?_
  split
  · exact .throw _
  · exact .pure _

theorem follows_checkPytest (setup : Check.Setup) (file : Option String) (image : String) :
    Follows (checkPytest setup file image) [[.pytest]] := by
  rw [checkPytest_eq]
  exact .before (.sayLine _) fun _ => .after (.step calls_of_runs_map_ask) follows_tellOutput

theorem follows_validate (t : Target) (options : Options) (version : String) :
    Follows (validate t options version) (checkPlans options.mode) := by
  unfold validate
  cases options.mode with
  | unchecked => exact .pure ()
  | parse =>
    exact .of_eq (.bind (.step calls_of_runs_ask) fun _ =>
      .after (follows_checkParse _ _ _) fun _ => .enter _ _) rfl
  | pytest file =>
    exact .of_eq (.bind (.step calls_of_runs_ask) fun _ =>
      .after (follows_checkPytest _ _ _) fun _ => .enter _ _) rfl

theorem follows_pushImage (t : Target) : Follows (pushImage t) [[.push]] := by
  unfold pushImage
  exact .before (.lift calls_of_runs_ask) fun _ => .before (.sayLine _) fun _ =>
    .after (.step calls_of_runs_ask) fun _ => .after (.enter _ _) fun _ => .pure _

theorem follows_register (t : Target) (tag : String) :
    Follows (register t tag) [[.createImage, .deployImage]] := by
  unfold register
  exact .of_eq (.bind (.step calls_of_runs_ask) fun _ => .after (.step calls_of_runs_ask) fun _ =>
    .after (.enter _ _) fun _ => .pure _) rfl

/-- Everything that a deploy calls when nothing fails. -/
def deployPlans (options : Options) : List (List Call) :=
  andThen [[.listWorkspaces, .listDeployments, .listReleases]] <|
    andThen (imagePlans options.imageName) <|
      andThen (checkPlans options.mode) [[.push, .createImage, .deployImage]]

theorem follows_attempt (context : Option Context) (options : Options) :
    Follows (attempt context options) (deployPlans options) := by
  unfold attempt deployPlans
  cases authenticated? context with
  | none => exact .throw _
  | some context =>
    refine .bind (follows_resolveTarget _ _) fun target =>
      .before (.lift calls_of_runs_ask) fun _ => .bind (follows_produceImage _) fun version =>
      .before (.enter _ _) fun _ => .bind (follows_validate _ _ _) fun _ => ?_
    exact .of_eq (.bind (follows_pushImage _) fun _ =>
      .after (follows_register _ _) fun _ => .pure _) rfl

/-- Without a token or without a workspace nothing is looked up. -/
theorem attempt_eq_throw {context : Option Context} {options : Options}
    (h : context = none ∨ ∃ c, context = some c ∧
      (c.token = "" ∨ options.workspaceId = "" ∧ c.workspace = "")) :
    ∃ e, attempt context options = throw e := by
  rcases h with rfl | ⟨c, rfl, ht | ⟨ho, hc⟩⟩
  · exact ⟨.noContextSet, rfl⟩
  · have ha : authenticated? (some c) = none := by
      simp [authenticated?, Option.filter, Context.isAuthenticated, ht]
    exact ⟨.noContextSet, by rw [attempt, ha]⟩
  · cases ha : authenticated? (some c) with
    | none => exact ⟨.noContextSet, by rw [attempt, ha]⟩
    | some context =>
      obtain rfl := Option.some.inj (Option.filter_eq_some_iff.mp ha).1
      refine ⟨.noWorkspaceId, ?_⟩
      rw [attempt, ha]
      simp only [resolveTarget, ho, hc]
      rfl

/-- A deploy is an attempt and the change to its last state. -/
theorem ends_attempt_of_runs_deploy {context : Option Context} {options : Options}
    {trace : List (Exchange outside)} {result : Except DeployError Report}
    (h : Runs (deploy context options) trace result) :
    ∃ attempted state id, trace = attempted ++ [⟨.enter state id, ()⟩] ∧
      Ends (attempt context options) attempted result := by
  obtain ⟨first, answer, rest, rfl, hx, hrest⟩ := runs_bind_iff.mp h
  cases answer with
  | ok report =>
    obtain ⟨entered, ⟨⟩, last, rfl, henter, hlast⟩ := runs_bind_iff.mp hrest
    obtain ⟨rfl, rfl⟩ := runs_done_iff.mp hlast
    exact ⟨first, .done, report.deploymentId, by simp [runs_query_iff.mp henter], hx⟩
  | error e =>
    obtain ⟨entered, ⟨⟩, last, rfl, henter, hlast⟩ := runs_bind_iff.mp hrest
    obtain ⟨rfl, rfl⟩ := runs_done_iff.mp hlast
    exact ⟨first, .failed, "", by simp [runs_query_iff.mp henter], hx⟩

/-- An outside with one workspace, one deployment and one release, where every operation
succeeds. The Dockerfile is `FROM a`. -/
def willing : (q : Query) → q.Answer
  | .listWorkspaces => .ok [⟨"w", "", ""⟩]
  | .listDeployments _ => .ok [⟨"d", "", "r", "w", ⟨"", ""⟩, "", none⟩]
  | .listPublicReleases | .listInternalReleases => .ok [⟨"5.0.0", ""⟩]
  | .createImage _ | .deployImage _ => .ok ⟨"i", "d", "", ""⟩
  | .selectImage _ => ()
  | .build _ _ | .tagLocal _ _ | .push _ _ _ _ | .parse _ _ => .ok ()
  | .label _ _ => .ok "5.0.0"
  | .pytest _ _ _ => .ok "exit code 0\n"
  | .prepareChecks _ => .ok ⟨"/p", [], ⟨0⟩⟩
  | .write _ | .flush => .ok ()
  | .readLine => .ok "1\n"
  | .fileContent _ => .ok [70, 82, 79, 77, 32, 97]
  | .now => .ofSeconds 0
  | .enter _ _ => ()

def willingContext : Context := { domain := "x", token := "t", workspace := "w" }

def willingOptions (mode : Mode) : Options := { path := "/p", deploymentId := some "d", mode }

def willingRun (mode : Mode) : List (Exchange outside) × Except DeployError Report :=
  (deploy (some willingContext) (willingOptions mode)).follow willing

theorem runs_willingRun (mode : Mode) :
    Runs (deploy (some willingContext) (willingOptions mode)) (willingRun mode).1
      (willingRun mode).2 := runs_follow _ _

end AirflowDeploy.Deploy
