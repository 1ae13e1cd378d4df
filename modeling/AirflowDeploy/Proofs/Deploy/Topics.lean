import AirflowDeploy.Proofs.Deploy.Calls
import AirflowDeploy.Proofs.Dialogue.Asks

/-!
# The topics of a deploy

Each question of a deploy is about one topic, and each of its stages keeps to a few of them: the
user is asked by the choice of the deployment only, and the engine by what comes after the choice.
-/
namespace AirflowDeploy.Deploy

open Dialogue Deploy.Action

/-- Who or what answers a question. A change of state is told to nobody in particular. -/
inductive Topic where
  | platform | engine | output | input | file | clock | state
  deriving DecidableEq, Repr

@[simp] def Query.topic : Query → Topic
  | .listWorkspaces | .listDeployments _ | .listPublicReleases | .listInternalReleases
  | .createImage _ | .deployImage _ => .platform
  | .selectImage _ | .build _ _ | .tagLocal _ _ | .label _ _ | .push _ _ _ _
  | .prepareChecks _ | .parse _ _ | .pytest _ _ _ => .engine
  | .write _ | .flush => .output
  | .readLine => .input
  | .fileContent _ => .file
  | .now => .clock
  | .enter _ _ => .state

/-- Every topic but the changes of state. -/
@[simp] def Topic.outer : List Topic := [.platform, .engine, .output, .input, .file, .clock]

/-- Whatever is answered, `x` asks about these topics only. -/
structure About (topics : List Topic) (x : Action α) : Prop where
  asks : x.run.Asks fun q : Query => q.topic ∈ topics

namespace About

variable {α β ε : Type} {topics more : List Topic}

/-- What a run asks is about one of the topics. -/
theorem topic_mem {x : Action α} (h : About topics x) {trace : List (Exchange outside)}
    {result : Except DeployError α} (hx : Ends x trace result) {e : Exchange outside}
    (he : e ∈ trace) : Query.topic e.query ∈ topics := Asks.of_mem h.asks hx he

theorem mono {x : Action α} (h : About topics x) (hs : topics ⊆ more) : About more x :=
  ⟨Asks.imp h.asks fun _ hq => hs hq⟩

theorem pure (a : α) : About topics (Pure.pure a : Action α) := ⟨trivial⟩

theorem throw (e : DeployError) : About topics (MonadExcept.throw e : Action α) := ⟨trivial⟩

theorem ofExcept (x : Except DeployError α) : About topics (liftM x : Action α) := ⟨trivial⟩

theorem bind {x : Action α} {f : α → Action β} (hx : About topics x)
    (hf : ∀ a, About topics (f a)) : About topics (x >>= f) :=
  ⟨Asks.run_bind hx.asks fun a => (hf a).asks⟩

theorem map {x : Action α} (f : α → β) (hx : About topics x) : About topics (f <$> x) := by
  rw [map_eq_pure_bind]
  exact hx.bind fun a => .pure (f a)

/-- An action that may be refused before it starts. -/
theorem guard {c : Bool} {e : DeployError} {next : Unit → Action α}
    (h : About topics (next ())) :
    About topics (if c then MonadExcept.throw e >>= next else next ()) := by
  split
  · exact .bind (.throw e) fun _ => h
  · exact h

theorem lift {q : Query} (hq : q.topic ∈ topics) : About topics (liftM (ask q)) :=
  ⟨Asks.map _ (.query hq)⟩

theorem expect {f : ε → DeployError} {d : Dialogue outside (Except ε α)}
    (h : d.Asks fun q : Query => q.topic ∈ topics) : About topics (expect f d) := ⟨Asks.map _ h⟩

theorem step {operation : String} {d : Dialogue outside (Except Fault α)}
    (h : d.Asks fun q : Query => q.topic ∈ topics) : About topics (step operation d) := .expect h

theorem say (text : String) (h : .output ∈ topics) : About topics (say text) := by
  unfold Action.say
  split
  · exact .pure ()
  · exact .expect (.query h)

theorem sayLine (text : String) (h : .output ∈ topics) : About topics (sayLine text) := .say _ h

theorem sayLines (h : .output ∈ topics) : (texts : List String) → About topics (sayLines texts)
  | [] => .pure ()
  | text :: rest => (sayLine text h).bind fun _ => sayLines h rest

theorem enter (state : State) (id : String) (h : .state ∈ topics) :
    About topics (enter state id) := lift h

end About

theorem about_validateWorkspace (id : String) : About [.platform] (validateWorkspace id) := by
  unfold validateWorkspace
  exact .guard (.bind (.step (.query (by simp))) fun _ => .ofExcept _)

/-- The user is shown the deployments and asked for one of them. -/
theorem about_promptForDeployment (domain : String) (workspace : Workspace)
    (deployments : List Deployment) :
    About [.output, .input] (promptForDeployment domain workspace deployments) := by
  unfold promptForDeployment
  refine .guard (.bind (.sayLine _ (by decide)) fun _ => .bind (.sayLine _ (by decide)) fun _ =>
    .bind (.sayLines (by decide) _) fun _ => .bind (.say _ (by decide)) fun _ =>
    .bind (.expect (.query (by simp))) fun _ =>
    .bind (.expect (.query (by simp))) fun answer => ?_)
  split
  · exact .pure _
  · exact .throw _

theorem about_chooseDeployment (context : Context) (options : Options) (workspace : Workspace)
    (deployments : List Deployment) :
    About [.output, .input] (chooseDeployment context options workspace deployments) := by
  unfold chooseDeployment
  split
  · exact .ofExcept _
  · exact about_promptForDeployment _ _ _

theorem about_listReleases (context : Context) : About [.platform] (listReleases context) := by
  unfold listReleases
  cases context.systemAdmin <;> exact .step (.query (by simp))

/-- Nothing is asked of the engine before everything is looked up. -/
theorem about_resolveTarget (context : Context) (options : Options) :
    About [.platform, .output, .input, .state] (resolveTarget context options) := by
  unfold resolveTarget
  exact .bind ((about_validateWorkspace _).mono (by decide)) fun _ =>
    .bind (.enter _ _ (by decide)) fun _ => .bind (.step (.query (by simp))) fun _ =>
    .bind ((about_chooseDeployment _ _ _ _).mono (by decide)) fun _ =>
    .bind ((about_listReleases _).mono (by decide)) fun _ =>
    .bind (.enter _ _ (by decide)) fun _ => .pure _

theorem about_localVersion (r : ImageRequest) (source : String) :
    About [.engine] (localVersion r source) := by
  unfold localVersion readLabel
  exact .bind (.step (.query (by simp))) fun _ => .bind (.step (.query (by simp))) fun _ => .pure _

theorem about_detectedVersion (r : ImageRequest) (tag : Option String) :
    About [.engine] (detectedVersion r tag) := by
  cases tag with
  | some tag => exact .pure _
  | none => exact .bind (.step (.map _ (.query (by simp)))) fun _ => .pure _

theorem about_candidateVersion (r : ImageRequest) :
    About [.engine, .file] (candidateVersion r) := by
  rw [candidateVersion_eq]
  cases r.source with
  | some source => exact (about_localVersion r source).mono (by decide)
  | none =>
    exact .bind (.map _ (.expect (.map _ (.query (by simp))))) fun tag =>
      (about_detectedVersion r tag).mono (by decide)

theorem about_labelledVersion (r : ImageRequest) (version label : String) :
    About [] (labelledVersion r version label) := by
  unfold labelledVersion
  split
  · exact .pure _
  · exact .bind (.ofExcept _) fun _ => .pure _

theorem about_supply (r : ImageRequest) (version : String) :
    About [.engine, .output] (supply r version) := by
  unfold supply
  split
  · exact .pure _
  · rw [buildFor_eq]
    unfold readLabel
    exact .bind (.sayLine _ (by decide)) fun _ => .bind (.step (.query (by simp))) fun _ =>
      .bind (.step (.query (by simp))) fun _ => (about_labelledVersion _ _ _).mono (by decide)

theorem about_produceImage (r : ImageRequest) :
    About [.engine, .file, .output] (produceImage r) := by
  rw [produceImage_eq]
  refine .bind ((about_candidateVersion r).mono (by decide)) fun version => ?_
  unfold produceFor
  exact .bind (.ofExcept _) fun _ => .bind (.sayLines (by decide) _) fun _ =>
    (about_supply r version).mono (by decide)

theorem about_checkParse (setup : Check.Setup) (image version : String) :
    About [.engine, .output] (checkParse setup image version) := by
  rw [checkParse_eq]
  split
  · exact .sayLine _ (by decide)
  · refine .bind (.sayLine _ (by decide)) fun _ => .bind (.lift (by simp)) fun answer => ?_
    cases answer with
    | ok _ => exact .sayLine _ (by decide)
    | error fault =>
      cases fault with
      | executionFailed output => exact .bind (.sayLine _ (by decide)) fun _ => .throw _
      | _ => exact .throw _

theorem about_checkPytest (setup : Check.Setup) (file : Option String) (image : String) :
    About [.engine, .output] (checkPytest setup file image) := by
  rw [checkPytest_eq]
  refine .bind (.sayLine _ (by decide)) fun _ =>
    .bind (.step (.map _ (.query (by simp)))) fun output => ?_
  refine .bind (.say _ (by decide)) fun _ => ?_
  split
  · exact .throw _
  · exact .pure _

theorem about_runCheck (mode : Mode) (setup : Check.Setup) (image version : String) :
    About [.engine, .output] (runCheck mode setup image version) := by
  cases mode with
  | unchecked => exact .pure _
  | parse => exact about_checkParse _ _ _
  | pytest file => exact about_checkPytest _ _ _

theorem about_validate (t : Target) (options : Options) (version : String) :
    About [.engine, .output, .state] (validate t options version) := by
  unfold validate
  split
  · exact .pure _
  · exact .bind (.step (.query (by simp))) fun _ =>
      .bind ((about_runCheck _ _ _ _).mono (by decide)) fun _ => .enter _ _ (by decide)

theorem about_pushImage (t : Target) :
    About [.engine, .output, .clock, .state] (pushImage t) := by
  unfold pushImage
  exact .bind (.lift (by simp)) fun _ => .bind (.sayLine _ (by decide)) fun _ =>
    .bind (.step (.query (by simp))) fun _ => .bind (.enter _ _ (by decide)) fun _ => .pure _

theorem about_register (t : Target) (tag : String) :
    About [.platform, .state] (register t tag) := by
  unfold register
  exact .bind (.step (.query (by simp))) fun _ => .bind (.step (.query (by simp))) fun _ =>
    .bind (.enter _ _ (by decide)) fun _ => .pure _

end AirflowDeploy.Deploy
