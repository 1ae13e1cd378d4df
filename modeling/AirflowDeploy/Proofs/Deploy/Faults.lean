import AirflowDeploy.Proofs.Deploy.Calls

/-!
# Faults

How the faults of the platform and the engine surface. A call that fails is the last one, and the
deploy fails with an error that names the operation and carries the fault. A fault of the checks is
told as their verdict, and the image of an earlier build may be missing.
-/
namespace AirflowDeploy.Deploy

open Dialogue Deploy.Action

variable {α β ε : Type} {trace : List (Exchange outside)} {source : Option String}

def errorOf? : Except ε α → Option ε
  | .error e => some e
  | .ok _ => none

/-- The fault that a call was answered with. -/
def fault? : Exchange outside → Option Fault
  | ⟨.listWorkspaces, answer⟩ => errorOf? answer
  | ⟨.listDeployments _, answer⟩ => errorOf? answer
  | ⟨.listPublicReleases, answer⟩ => errorOf? answer
  | ⟨.listInternalReleases, answer⟩ => errorOf? answer
  | ⟨.createImage _, answer⟩ => errorOf? answer
  | ⟨.deployImage _, answer⟩ => errorOf? answer
  | ⟨.build _ _, answer⟩ => errorOf? answer
  | ⟨.tagLocal _ _, answer⟩ => errorOf? answer
  | ⟨.label _ _, answer⟩ => errorOf? answer
  | ⟨.push _ _ _ _, answer⟩ => errorOf? answer
  | ⟨.prepareChecks _, answer⟩ => errorOf? answer
  | ⟨.parse _ _, answer⟩ => errorOf? answer
  | ⟨.pytest _ _ _, answer⟩ => errorOf? answer
  | ⟨.selectImage _, _⟩ | ⟨.write _, _⟩ | ⟨.flush, _⟩ | ⟨.readLine, _⟩ | ⟨.fileContent _, _⟩
  | ⟨.now, _⟩ | ⟨.enter _ _, _⟩ => none

theorem call?_ne_none_of_fault? {e : Exchange outside} {fault : Fault}
    (h : fault? e = some fault) : Query.call? e.query ≠ none := by
  obtain ⟨q, answer⟩ := e
  cases q <;> simp [fault?, Query.call?] at h ⊢

/-- A call that has failed is no part of a trace without calls. -/
theorem not_mem_of_calls_eq_nil {e : Exchange outside} {fault : Fault} (h : calls trace = [])
    (he : fault? e = some fault) : e ∉ trace := by
  obtain ⟨c, hc⟩ := Option.ne_none_iff_exists'.mp (call?_ne_none_of_fault? he)
  intro hmem
  have hcall := mem_calls_of_mem hmem hc
  simp [h] at hcall

/-- The name of the operation that a call asks for. A parse has none, since its faults are told as
its verdict. -/
def Query.operation? : Query → Option String
  | .listWorkspaces => some "list workspaces"
  | .listDeployments _ => some "list deployments"
  | .listPublicReleases | .listInternalReleases => some "list runtime releases"
  | .createImage _ => some "register image"
  | .deployImage _ => some "deploy image"
  | .build _ _ => some "build image"
  | .tagLocal _ _ => some "tag local image"
  | .label _ _ => some "inspect image"
  | .push _ _ _ _ => some "push image"
  | .prepareChecks _ => some "prepare checks"
  | .pytest _ _ _ => some "run pytests"
  | .parse _ _ | .selectImage _ | .write _ | .flush | .readLine | .fileContent _ | .now
  | .enter _ _ => none

/-- The fault tells of tests that have run and failed. -/
def Query.TestsFailed (q : Query) (fault : Fault) : Prop :=
  q.call? = some .pytest ∧
    ∃ output, fault = .executionFailed output ∧ (Check.classify output).isFailed = true

/-- What the user is shown of the fault of a check. -/
def Query.diagnostic? : Query → Fault → Option String
  | .parse _ _, .executionFailed output => some (trimmedEnd output ++ "\n")
  | .pytest _ _ _, .executionFailed output =>
    if (Check.classify output).isFailed then some output else none
  | _, _ => none

/-- The error of a deploy tells the fault of the question `q`, where `after` is what has followed
the fault. -/
inductive Surfaced (q : Query) (fault : Fault) (after : List (Exchange outside)) :
    DeployError → Prop where
  | step {operation : String} (named : q.operation? = some operation)
      (unjudged : ¬ q.TestsFailed fault) : Surfaced q fault after (.step operation fault)
  | parse (asked : q.call? = some .parse) : Surfaced q fault after (.dagsParseFailed fault)
  | pytest (failed : q.TestsFailed fault) : Surfaced q fault after .pytestFailed
  | unwritten {text : String} {cause : IoFault} (diagnosed : q.diagnostic? fault = some text)
      (refused : ⟨.write text, .error cause⟩ ∈ after) : Surfaced q fault after (.output cause)

/-- No call has failed. -/
def FaultFree (trace : List (Exchange outside)) : Prop := ∀ e ∈ trace, fault? e = none

/-- A label was read before any build, of an image that is not there. -/
def PreviousMissing (source : Option String) (before : List (Exchange outside))
    (e : Exchange outside) : Prop :=
  source = none ∧ (∃ image key text, e = ⟨.label image key, .error (.notFound text)⟩) ∧
    .build ∉ calls before

/-- Nothing else has failed than the look at an image that is not there. -/
def OnlyMissing (source : Option String) (trace : List (Exchange outside)) : Prop :=
  ∀ before e after fault, trace = before ++ e :: after → fault? e = some fault →
    PreviousMissing source before e

theorem FaultFree.of_calls_eq_nil (h : calls trace = []) : FaultFree trace := by
  intro e he
  exact Option.eq_none_iff_forall_ne_some.mpr fun fault hfault =>
    not_mem_of_calls_eq_nil h hfault he

theorem FaultFree.singleton {e : Exchange outside} (h : fault? e = none) : FaultFree [e] := by
  intro e' he
  rwa [List.mem_singleton.mp he]

theorem FaultFree.append {first rest : List (Exchange outside)} (hf : FaultFree first)
    (hr : FaultFree rest) : FaultFree (first ++ rest) := by
  intro e he
  exact (List.mem_append.mp he).elim (hf e) (hr e)

theorem OnlyMissing.append {first rest : List (Exchange outside)} (hf : OnlyMissing source first)
    (hr : FaultFree rest) : OnlyMissing source (first ++ rest) := by
  intro before e after fault ht he
  rcases append_eq_append_cons ht with ⟨middle, rfl, _⟩ | ⟨middle, _, rfl⟩
  · exact hf before e middle fault rfl he
  · simp [hr e (by simp)] at he

/-- What stands before the first build may have a missing image behind it. -/
theorem FaultFree.append_onlyMissing {first rest : List (Exchange outside)} (hf : FaultFree first)
    (hb : .build ∉ calls first) (hr : OnlyMissing source rest) :
    OnlyMissing source (first ++ rest) := by
  intro before e after fault ht he
  rcases append_eq_append_cons ht with ⟨middle, rfl, _⟩ | ⟨middle, rfl, rfl⟩
  · simp [hf e (by simp)] at he
  · obtain ⟨hs, hl, hm⟩ := hr middle e after fault rfl he
    exact ⟨hs, hl, by simp [hb, hm]⟩

theorem FaultFree.onlyMissing (h : FaultFree trace) : OnlyMissing source trace := by
  rintro before e after fault rfl he
  simp [h e (by simp)] at he

/-- The operation that an error names. -/
def namedOperation? : DeployError → Option String
  | .step operation _ => some operation
  | _ => none

/-- How a trace has led to a result: without a fault, apart from what `Clean` allows, or with one
that is the last call and is told. -/
inductive Accounted (Clean : List (Exchange outside) → Prop) (trace : List (Exchange outside)) :
    Except DeployError α → Prop where
  | succeeded (clean : Clean trace) (a : α) : Accounted Clean trace (.ok a)
  | refused {error : DeployError} (clean : Clean trace) (own : namedOperation? error = none) :
      Accounted Clean trace (.error error)
  | failed {before after : List (Exchange outside)} {e : Exchange outside} {fault : Fault}
      {error : DeployError} (cut : trace = before ++ e :: after) (clean : Clean before)
      (faulty : fault? e = some fault) (last : calls after = [])
      (surfaced : Surfaced e.query fault after error) : Accounted Clean trace (.error error)

/-- Every run of `x` accounts for its faults. -/
def Accounts (Clean : List (Exchange outside) → Prop) (x : Action α) : Prop :=
  ∀ ⦃trace result⦄, Ends x trace result → Accounted Clean trace result

variable {C D E : List (Exchange outside) → Prop}

/-- A trace in front of one that accounts for its faults. -/
theorem Accounted.prepend {first rest : List (Exchange outside)} {result : Except DeployError α}
    (happend : ∀ {rest}, D rest → E (first ++ rest)) (h : Accounted D rest result) :
    Accounted E (first ++ rest) result := by
  cases h with
  | succeeded clean a => exact .succeeded (happend clean) a
  | refused clean own => exact .refused (happend clean) own
  | failed cut clean faulty last surfaced =>
    exact .failed (by simp [cut]) (happend clean) faulty last surfaced

theorem Accounted.mono {result : Except DeployError α} (h : Accounted C trace result)
    (hCE : ∀ {part}, C part → E part) : Accounted E trace result := by
  rw [← List.nil_append trace]
  exact h.prepend hCE

/-- The first call has failed. -/
theorem Accounted.failed_first {after : List (Exchange outside)} {e : Exchange outside}
    {fault : Fault} {error : DeployError} (hC : C []) (faulty : fault? e = some fault)
    (last : calls after = []) (surfaced : Surfaced e.query fault after error) :
    Accounted C (e :: after) (.error error : Except DeployError α) :=
  .failed (List.nil_append _).symm hC faulty last surfaced

namespace Accounts

theorem bind {x : Action α} {f : α → Action β} (hstop : ∀ {first}, C first → E first)
    (happend : ∀ {first rest}, C first → D rest → E (first ++ rest)) (hx : Accounts C x)
    (hf : ∀ a, Accounts D (f a)) : Accounts E (x >>= f) := by
  intro trace result h
  rcases ends_bind_iff.mp h with ⟨first, a, rest, rfl, hxa, hfa⟩ | ⟨error, hxe, rfl⟩
  · cases hx hxa with
    | succeeded clean => exact (hf a hfa).prepend (happend clean)
  · cases hx hxe with
    | refused clean own => exact .refused (hstop clean) own
    | failed cut clean faulty last surfaced =>
      exact .failed cut (hstop clean) faulty last surfaced

theorem seq {x : Action α} {f : α → Action β} (hx : Accounts FaultFree x)
    (hf : ∀ a, Accounts FaultFree (f a)) : Accounts FaultFree (x >>= f) :=
  bind id FaultFree.append hx hf

/-- Nothing that comes after may have a missing image of its own. -/
theorem onlyMissing_seq {x : Action α} {f : α → Action β} (hx : Accounts (OnlyMissing source) x)
    (hf : ∀ a, Accounts FaultFree (f a)) : Accounts (OnlyMissing source) (x >>= f) :=
  bind id OnlyMissing.append hx hf

/-- What stands before the first build may have a missing image behind it. -/
theorem before_onlyMissing {plans : List (List Call)} {x : Action α} {f : α → Action β}
    (hx : Accounts FaultFree x) (hp : Follows x plans) (hb : ∀ plan ∈ plans, .build ∉ plan)
    (hf : ∀ a, Accounts (OnlyMissing source) (f a)) : Accounts (OnlyMissing source) (x >>= f) := by
  have hquiet : Accounts (fun trace => FaultFree trace ∧ .build ∉ calls trace) x := by
    intro trace result h
    have hbuild := hp.not_mem_calls hb h
    cases hx h with
    | succeeded clean a => exact .succeeded ⟨clean, hbuild⟩ a
    | refused clean own => exact .refused ⟨clean, hbuild⟩ own
    | failed cut clean faulty last surfaced =>
      refine .failed cut ⟨clean, fun hmem => hbuild ?_⟩ faulty last surfaced
      simp [cut, hmem]
  exact bind (fun h => h.1.onlyMissing) (fun h => h.1.append_onlyMissing h.2) hquiet hf

theorem pure (a : α) : Accounts FaultFree (Pure.pure a : Action α) := by
  intro trace result h
  obtain ⟨rfl, rfl⟩ := ends_pure_iff.mp h
  exact .succeeded (.of_calls_eq_nil rfl) a

theorem throw {error : DeployError} (own : namedOperation? error = none) :
    Accounts FaultFree (MonadExcept.throw error : Action α) := by
  intro trace result h
  obtain ⟨rfl, rfl⟩ := ends_throw_iff.mp h
  exact .refused (.of_calls_eq_nil rfl) own

theorem ofExcept {x : Except DeployError α}
    (own : ∀ error, x = .error error → namedOperation? error = none) :
    Accounts FaultFree (liftM x : Action α) := by
  intro trace result h
  obtain ⟨rfl, rfl⟩ := ends_ofExcept_iff.mp h
  cases result with
  | ok a => exact .succeeded (.of_calls_eq_nil rfl) a
  | error error => exact .refused (.of_calls_eq_nil rfl) (own error rfl)

/-- An action that may be refused before it starts. -/
theorem guard {c : Bool} {error : DeployError} {next : Unit → Action α}
    (own : namedOperation? error = none) (h : Accounts FaultFree (next ())) :
    Accounts FaultFree (if c then MonadExcept.throw error >>= next else next ()) := by
  split
  · exact seq (throw own) fun _ => h
  · exact h

theorem map {x : Action α} (f : α → β) (hx : Accounts FaultFree x) :
    Accounts FaultFree (f <$> x) := by
  rw [map_eq_pure_bind]
  exact hx.seq fun a => pure (f a)

theorem lift {d : Dialogue outside α} (h : ∀ {trace a}, Runs d trace a → calls trace = []) :
    Accounts FaultFree (liftM d) := by
  intro trace result hx
  obtain ⟨a, hd, rfl⟩ := ends_lift_iff.mp hx
  exact .succeeded (.of_calls_eq_nil (h hd)) a

/-- What fails without a call has a failure of its own. -/
theorem expect {f : ε → DeployError} {d : Dialogue outside (Except ε α)}
    (h : ∀ {trace answer}, Runs d trace answer → calls trace = [])
    (own : ∀ e, namedOperation? (f e) = none) :
    Accounts FaultFree (expect f d) := by
  intro trace result hx
  obtain ⟨answer, hd, rfl⟩ := ends_expect_iff.mp hx
  cases answer with
  | ok a => exact .succeeded (.of_calls_eq_nil (h hd)) a
  | error e => exact .refused (.of_calls_eq_nil (h hd)) (own e)

/-- A single call. -/
theorem step {operation : String} {d : Dialogue outside (Except Fault α)}
    (h : ∀ {trace answer}, Runs d trace answer → ∃ e, trace = [e] ∧ fault? e = errorOf? answer ∧
      Query.operation? e.query = some operation ∧ Query.call? e.query ≠ some .pytest) :
    Accounts FaultFree (step operation d) := by
  intro trace result hx
  obtain ⟨answer, hd, rfl⟩ := ends_expect_iff.mp hx
  obtain ⟨e, rfl, hfault, hname, hcall⟩ := h hd
  cases answer with
  | ok a => exact .succeeded (.singleton hfault) a
  | error fault =>
    exact .failed_first (.of_calls_eq_nil rfl) hfault rfl
      (.step hname fun failed => hcall failed.1)

theorem say (text : String) : Accounts FaultFree (say text) := by
  unfold Action.say
  split
  · exact pure ()
  · exact expect calls_of_runs_ask fun _ => rfl

theorem sayLine (text : String) : Accounts FaultFree (sayLine text) := say _

theorem sayLines : (texts : List String) → Accounts FaultFree (sayLines texts)
  | [] => pure ()
  | text :: rest => seq (sayLine text) fun _ => sayLines rest

theorem enter (state : State) (id : String) : Accounts FaultFree (enter state id) :=
  lift calls_of_runs_ask

end Accounts

theorem accounts_validateWorkspace (id : String) :
    Accounts FaultFree (validateWorkspace id) := by
  have hfind (workspaces : List Workspace) :
      Accounts FaultFree (liftM (findWorkspace workspaces id) : Action Workspace) := by
    refine .ofExcept fun error herror => ?_
    unfold findWorkspace at herror
    split at herror
    · cases herror
    · cases herror
      rfl
  unfold validateWorkspace
  exact .guard rfl <| .seq (.step fun h => ⟨_, runs_query_iff.mp h, rfl, rfl, nofun⟩) hfind

theorem accounts_promptForDeployment (domain : String) (workspace : Workspace)
    (deployments : List Deployment) :
    Accounts FaultFree (promptForDeployment domain workspace deployments) := by
  unfold promptForDeployment flush
  refine .guard rfl <| .seq (.sayLine _) fun _ =>
    .seq (.sayLine _) fun _ => .seq (.sayLines _) fun _ => .seq (.say _) fun _ =>
    .seq (.expect calls_of_runs_ask fun _ => rfl) fun _ =>
    .seq (.expect calls_of_runs_ask fun _ => rfl) fun answer => ?_
  split
  · exact .pure _
  · exact .throw rfl

theorem accounts_chooseDeployment (context : Context) (options : Options) (workspace : Workspace)
    (deployments : List Deployment) :
    Accounts FaultFree (chooseDeployment context options workspace deployments) := by
  unfold chooseDeployment
  split
  · refine .ofExcept fun error herror => ?_
    unfold findDeployment at herror
    split at herror
    · cases herror
    · cases herror
      rfl
  · exact accounts_promptForDeployment _ _ _

theorem accounts_listReleases (context : Context) :
    Accounts FaultFree (listReleases context) := by
  unfold listReleases
  cases context.systemAdmin <;>
    exact .step fun h => ⟨_, runs_query_iff.mp h, rfl, rfl, nofun⟩

theorem accounts_resolveTarget (context : Context) (options : Options) :
    Accounts FaultFree (resolveTarget context options) := by
  unfold resolveTarget
  exact .seq (accounts_validateWorkspace _) fun _ => .seq (.enter _ _) fun _ =>
    .seq (.step fun h => ⟨_, runs_query_iff.mp h, rfl, rfl, nofun⟩) fun _ =>
    .seq (accounts_chooseDeployment _ _ _ _) fun _ => .seq (accounts_listReleases _) fun _ =>
    .seq (.enter _ _) fun _ => .pure _

theorem namedOperation?_of_checkRuntimeVersion {catalog : List RuntimeRelease}
    {current candidate : String} {error : DeployError}
    (h : checkRuntimeVersion catalog current candidate = .error error) :
    namedOperation? error = none := by
  unfold checkRuntimeVersion at h
  split at h
  · cases h
    rfl
  · split at h
    · cases h
      rfl
    · cases h

theorem accounts_readLabel (image : String) : Accounts FaultFree (readLabel image) :=
  .step fun h => ⟨_, runs_query_iff.mp h, rfl, rfl, nofun⟩

theorem accounts_localVersion (r : ImageRequest) (source : String) :
    Accounts FaultFree (localVersion r source) := by
  unfold localVersion
  exact .seq (.step fun h => ⟨_, runs_query_iff.mp h, rfl, rfl, nofun⟩) fun _ =>
    .seq (accounts_readLabel _) fun _ => .pure _

theorem accounts_dockerfileRuntimeTag (ctx : BuildContext) (catalog : List RuntimeRelease) :
    Accounts FaultFree (dockerfileRuntimeTag ctx catalog) :=
  .map _ (.expect calls_of_runs_map_ask fun _ => rfl)

theorem accounts_labelledVersion (r : ImageRequest) (version label : String) :
    Accounts FaultFree (labelledVersion r version label) := by
  unfold labelledVersion
  split
  · exact .pure _
  · exact .seq (.ofExcept fun _ => namedOperation?_of_checkRuntimeVersion) fun _ => .pure _

theorem accounts_produceFor (r : ImageRequest) (version : String) :
    Accounts FaultFree (produceFor r version) := by
  unfold produceFor supply
  refine .seq (.ofExcept fun _ => namedOperation?_of_checkRuntimeVersion) fun _ =>
    .seq (.sayLines _) fun _ => ?_
  split
  · exact .pure _
  · rw [buildFor_eq]
    exact .seq (.sayLine _) fun _ =>
      .seq (.step fun h => ⟨_, runs_query_iff.mp h, rfl, rfl, nofun⟩) fun _ =>
      .seq (accounts_readLabel _) fun _ => accounts_labelledVersion _ _ _

theorem surfaced_of_tellParse (setup : Check.Setup) (image : String) {fault : Fault}
    {result : Except DeployError Unit} (h : Ends (tellParse (.error fault)) trace result) :
    ∃ error, result = .error error ∧ Surfaced (.parse setup image) fault trace error := by
  cases fault with
  | executionFailed output =>
    rcases ends_bind_iff.mp h with ⟨told, ⟨⟩, rest, rfl, _, hthrow⟩ | ⟨error, hsay, rfl⟩
    · exact ⟨_, (ends_throw_iff.mp hthrow).2, .parse rfl⟩
    · obtain ⟨cause, rfl, rfl⟩ := ends_say_error hsay
      exact ⟨_, rfl, .unwritten rfl List.mem_cons_self⟩
  | _ => exact ⟨_, (ends_throw_iff.mp h).2, .parse rfl⟩

/-- A parse that has failed is told as the verdict, after its output where there is one. -/
theorem accounts_parse (setup : Check.Setup) (image : String) :
    Accounts FaultFree (liftM (ask (.parse setup image)) >>= tellParse) := by
  intro trace result h
  rcases ends_bind_iff.mp h with ⟨first, answer, rest, rfl, hask, htell⟩ | ⟨_, hask, _⟩
  · obtain ⟨told, hd, hanswer⟩ := ends_lift_iff.mp hask
    obtain rfl := Except.ok.inj hanswer
    obtain rfl := runs_query_iff.mp hd
    cases answer with
    | ok _ => exact (Accounts.sayLine _ htell).prepend (FaultFree.singleton rfl).append
    | error fault =>
      obtain ⟨error, rfl, hsurfaced⟩ := surfaced_of_tellParse setup image htell
      exact .failed_first (.of_calls_eq_nil rfl) rfl
        ((follows_tellParse _).calls_eq_nil htell) hsurfaced
  · obtain ⟨_, _, herror⟩ := ends_lift_iff.mp hask
    cases herror

theorem accounts_checkParse (setup : Check.Setup) (image version : String) :
    Accounts FaultFree (checkParse setup image version) := by
  rw [checkParse_eq]
  split
  · exact .sayLine _
  · exact .seq (.sayLine _) fun _ => accounts_parse setup image

theorem accounts_tellOutput (output : String) : Accounts FaultFree (tellOutput output) := by
  unfold tellOutput
  refine .seq (.say _) fun _ => ?_
  split
  · exact .throw rfl
  · exact .pure _

theorem surfaced_of_tellOutput (setup : Check.Setup) (file : Option String) (image : String)
    {output : String} {result : Except DeployError Unit}
    (hfailed : (Check.classify output).isFailed = true)
    (h : Ends (tellOutput output) trace result) :
    ∃ error, result = .error error ∧
      Surfaced (.pytest setup file image) (.executionFailed output) trace error := by
  unfold tellOutput at h
  rcases ends_bind_iff.mp h with ⟨told, ⟨⟩, rest, rfl, _, hthrow⟩ | ⟨error, hsay, rfl⟩
  · rw [if_pos hfailed] at hthrow
    exact ⟨_, (ends_throw_iff.mp hthrow).2, .pytest ⟨rfl, output, rfl, hfailed⟩⟩
  · obtain ⟨cause, rfl, rfl⟩ := ends_say_error hsay
    exact ⟨_, rfl, .unwritten (if_pos hfailed) List.mem_cons_self⟩

/-- A fault that counts as a completed test run has an output that tells a failure. -/
theorem testOutput_error_eq_ok_iff {fault : Fault} {output : String} :
    testOutput (.error fault) = .ok output ↔
      fault = .executionFailed output ∧ (Check.classify output).isFailed = true := by
  constructor
  · intro h
    cases fault with
    | executionFailed text =>
      rw [testOutput] at h
      split at h
      · next hfailed =>
        obtain rfl := Except.ok.inj h
        exact ⟨rfl, hfailed⟩
      · cases h
    | _ => cases h
  · rintro ⟨rfl, hfailed⟩
    exact if_pos hfailed

/-- Every other fault stays one. -/
theorem testOutput_error_eq_error {fault told : Fault}
    (h : testOutput (.error fault) = .error told) : told = fault := by
  cases fault with
  | executionFailed text =>
    rw [testOutput] at h
    split at h
    · cases h
    · exact (Except.error.inj h).symm
  | _ => exact (Except.error.inj h).symm

/-- Tests that have failed are told as the verdict, after their output; another fault of the test
run is told with its operation. -/
theorem accounts_pytest (setup : Check.Setup) (file : Option String) (image : String) :
    Accounts FaultFree
      (step "run pytests" (testOutput <$> ask (.pytest setup file image)) >>= tellOutput) := by
  have hrun {first : List (Exchange outside)} {r : Except DeployError String}
      (h : Ends (step "run pytests" (testOutput <$> ask (.pytest setup file image))) first r) :
      ∃ answer, first = [⟨.pytest setup file image, answer⟩] ∧
        r = (testOutput answer).mapError (.step "run pytests") := by
    obtain ⟨_, hm, rfl⟩ := ends_expect_iff.mp h
    obtain ⟨answer, hd, rfl⟩ := runs_map_iff.mp hm
    exact ⟨answer, runs_query_iff.mp hd, rfl⟩
  intro trace result h
  rcases ends_bind_iff.mp h with ⟨first, output, rest, rfl, hx, htell⟩ | ⟨error, hx, rfl⟩
  · obtain ⟨answer, rfl, htold⟩ := hrun hx
    have htold : testOutput answer = .ok output := mapError_eq_ok_iff.mp htold.symm
    cases answer with
    | ok _ => exact (accounts_tellOutput _ htell).prepend (FaultFree.singleton rfl).append
    | error fault =>
      obtain ⟨rfl, hfailed⟩ := testOutput_error_eq_ok_iff.mp htold
      obtain ⟨error, rfl, hsurfaced⟩ := surfaced_of_tellOutput setup file image hfailed htell
      exact .failed_first (.of_calls_eq_nil rfl) rfl
        ((follows_tellOutput _).calls_eq_nil htell) hsurfaced
  · obtain ⟨answer, rfl, htold⟩ := hrun hx
    cases answer with
    | ok _ => cases htold
    | error fault =>
      cases hout : testOutput (.error fault) with
      | ok output =>
        rw [hout] at htold
        cases htold
      | error told =>
        rw [hout] at htold
        obtain rfl := Except.error.inj htold
        obtain rfl := testOutput_error_eq_error hout
        refine .failed_first (.of_calls_eq_nil rfl) rfl rfl (.step rfl ?_)
        rintro ⟨-, output, hcompleted⟩
        rw [testOutput_error_eq_ok_iff.mpr hcompleted] at hout
        cases hout

theorem accounts_checkPytest (setup : Check.Setup) (file : Option String) (image : String) :
    Accounts FaultFree (checkPytest setup file image) := by
  rw [checkPytest_eq]
  exact .seq (.sayLine _) fun _ => accounts_pytest setup file image

theorem accounts_validate (t : Target) (options : Options) (version : String) :
    Accounts FaultFree (validate t options version) := by
  unfold validate
  split
  · exact .pure _
  · refine .seq (.step fun h => ⟨_, runs_query_iff.mp h, rfl, rfl, nofun⟩) fun setup =>
      .seq ?_ fun _ => .enter _ _
    cases options.mode with
    | unchecked => exact .pure _
    | parse => exact accounts_checkParse _ _ _
    | pytest file => exact accounts_checkPytest _ _ _

theorem accounts_pushImage (t : Target) : Accounts FaultFree (pushImage t) := by
  unfold pushImage
  exact .seq (.lift calls_of_runs_ask) fun _ => .seq (.sayLine _) fun _ =>
    .seq (.step fun h => ⟨_, runs_query_iff.mp h, rfl, rfl, nofun⟩) fun _ =>
    .seq (.enter _ _) fun _ => .pure _

theorem accounts_register (t : Target) (tag : String) :
    Accounts FaultFree (register t tag) := by
  unfold register
  exact .seq (.step fun h => ⟨_, runs_query_iff.mp h, rfl, rfl, nofun⟩) fun _ =>
    .seq (.step fun h => ⟨_, runs_query_iff.mp h, rfl, rfl, nofun⟩) fun _ =>
    .seq (.enter _ _) fun _ => .pure _

theorem OnlyMissing.missing {image key text : String} :
    OnlyMissing none [⟨.label image key, .error (.notFound text)⟩] := by
  intro before e after fault ht _
  obtain ⟨rfl, rfl, rfl⟩ := append_cons_eq_singleton.mp ht.symm
  exact ⟨rfl, ⟨image, key, text, rfl⟩, by simp⟩

theorem accounts_existingLabel (image : String) :
    Accounts (OnlyMissing none) (existingLabel image) := by
  intro trace result h
  obtain ⟨_, hm, rfl⟩ := ends_expect_iff.mp h
  obtain ⟨answer, hd, rfl⟩ := runs_map_iff.mp hm
  obtain rfl := runs_query_iff.mp hd
  cases answer with
  | ok label => exact .succeeded (FaultFree.singleton rfl).onlyMissing label
  | error fault =>
    cases fault with
    | notFound text => exact .succeeded .missing ""
    | _ =>
      exact .failed_first (FaultFree.of_calls_eq_nil rfl).onlyMissing rfl rfl
        (.step rfl fun failed => nomatch failed.1)

theorem Accounts.onlyMissing {x : Action α} (h : Accounts FaultFree x) :
    Accounts (OnlyMissing source) x := fun _ _ hx => (h hx).mono FaultFree.onlyMissing

theorem accounts_detectedVersion (r : ImageRequest) (tag : Option String) :
    Accounts (OnlyMissing none) (detectedVersion r tag) := by
  cases tag with
  | some tag => exact Accounts.onlyMissing (.pure _)
  | none => exact .onlyMissing_seq (accounts_existingLabel _) fun _ => .pure _

theorem accounts_produceImage (r : ImageRequest) :
    Accounts (OnlyMissing r.source) (produceImage r) := by
  rw [produceImage_eq, candidateVersion_eq]
  refine .onlyMissing_seq ?_ (accounts_produceFor r)
  cases r.source with
  | some source => exact (accounts_localVersion r source).onlyMissing
  | none =>
    exact .before_onlyMissing (accounts_dockerfileRuntimeTag _ _)
      (follows_dockerfileRuntimeTag _ _) (by simp) (accounts_detectedVersion r)

theorem accounts_attempt (context : Option Context) (options : Options) :
    Accounts (OnlyMissing options.imageName) (attempt context options) := by
  unfold attempt
  cases authenticated? context with
  | none => exact Accounts.onlyMissing (.throw rfl)
  | some context =>
    refine .before_onlyMissing (accounts_resolveTarget _ _) (follows_resolveTarget _ _) (by simp)
      fun target => .before_onlyMissing (.lift calls_of_runs_ask) (.lift calls_of_runs_ask)
      (by simp [Query.call?]) fun _ =>
      .onlyMissing_seq (accounts_produceImage (target.imageRequest options)) fun version => ?_
    exact .seq (.enter _ _) fun _ => .seq (accounts_validate _ _ _) fun _ =>
      .seq (accounts_pushImage _) fun _ => .seq (accounts_register _ _) fun _ => .pure _

theorem Surfaced.mono {q : Query} {fault : Fault} {after more : List (Exchange outside)}
    {error : DeployError} (h : Surfaced q fault after error) (hsub : after ⊆ more) :
    Surfaced q fault more error := by
  cases h with
  | step named unjudged => exact .step named unjudged
  | parse asked => exact .parse asked
  | pytest failed => exact .pytest failed
  | unwritten diagnosed refused => exact .unwritten diagnosed (hsub refused)

/-- What makes no call may follow. -/
theorem Accounted.append {rest : List (Exchange outside)} {result : Except DeployError α}
    (h : Accounted (OnlyMissing source) trace result) (hr : calls rest = []) :
    Accounted (OnlyMissing source) (trace ++ rest) result := by
  cases h with
  | succeeded clean a => exact .succeeded (clean.append (.of_calls_eq_nil hr)) a
  | refused clean own => exact .refused (clean.append (.of_calls_eq_nil hr)) own
  | failed cut clean faulty last surfaced =>
    exact .failed (by simp [cut]) clean faulty (by simp [last, hr])
      (surfaced.mono (List.subset_append_left _ rest))

/-- Where only a missing image may fail, another fault is the last call, and the result tells it. -/
theorem Accounted.of_fault {before after : List (Exchange outside)} {e : Exchange outside}
    {fault : Fault} {result : Except DeployError α}
    (h : Accounted (OnlyMissing source) (before ++ e :: after) result)
    (he : fault? e = some fault) (hother : ¬ PreviousMissing source before e) :
    calls after = [] ∧ ∃ error, result = .error error ∧ Surfaced e.query fault after error := by
  cases h with
  | succeeded clean => exact absurd (clean _ _ _ _ rfl he) hother
  | refused clean => exact absurd (clean _ _ _ _ rfl he) hother
  | failed cut clean faulty last surfaced =>
    rcases append_eq_append_cons cut with ⟨middle, rfl, rfl⟩ | ⟨middle, rfl, hrest⟩
    · exact absurd (by simp) (not_mem_of_calls_eq_nil last he)
    · cases middle with
      | nil =>
        obtain ⟨rfl, rfl⟩ := List.cons.inj hrest
        obtain rfl := Option.some.inj (faulty.symm.trans he)
        exact ⟨last, _, rfl, surfaced⟩
      | cons e' middle =>
        obtain ⟨rfl, -⟩ := List.cons.inj hrest
        exact absurd (clean _ _ _ _ rfl he) hother

/-- An error that names an operation carries the fault of the last call. -/
theorem Accounted.exists_fault {operation : String} {fault : Fault}
    (h : Accounted C trace (.error (.step operation fault) : Except DeployError α)) :
    ∃ before e after, trace = before ++ e :: after ∧ fault? e = some fault ∧ calls after = [] ∧
      Query.operation? e.query = some operation := by
  cases h with
  | refused _ own => cases own
  | failed cut _ faulty last surfaced =>
    cases surfaced with
    | step named => exact ⟨_, _, _, cut, faulty, last, named⟩

/-- A fault is the last call of a deploy, and the deploy fails with an error that tells it, unless
it is the image of an earlier build that is missing. An error that names an operation carries the
fault of the last call, which asked for this operation. -/
theorem deploy_surfaces_faults {context : Option Context} {options : Options}
    {result : Except DeployError Report} (h : Runs (deploy context options) trace result) :
    (∀ before e after fault, trace = before ++ e :: after → fault? e = some fault →
      ¬ PreviousMissing options.imageName before e → calls after = [] ∧
        ∃ error, result = .error error ∧ Surfaced e.query fault after error) ∧
    ∀ operation fault, result = .error (.step operation fault) →
      ∃ before e after, trace = before ++ e :: after ∧ fault? e = some fault ∧ calls after = [] ∧
        Query.operation? e.query = some operation := by
  obtain ⟨attempted, state, id, rfl, hx⟩ := ends_attempt_of_runs_deploy h
  have hlast : calls [⟨.enter state id, ()⟩] = [] := rfl
  have haccounted := (accounts_attempt context options hx).append hlast
  refine ⟨fun before e after fault ht he hother => ?_, ?_⟩
  · rw [ht] at haccounted
    exact haccounted.of_fault he hother
  · rintro operation fault rfl
    exact haccounted.exists_fault

/-- The willing outside with a registry that refuses the image. -/
def refusing : (q : Query) → q.Answer
  | .push _ _ _ _ => .error (.pushFailed "denied")
  | q => willing q

def refusedRun : List (Exchange outside) × Except DeployError Report :=
  (deploy (some willingContext) (willingOptions .unchecked)).follow refusing

theorem refusedRun_surfaces_faults :
    refusedRun.2 = .error (.step "push image" (.pushFailed "denied")) ∧
    ∃ before e after, refusedRun.1 = before ++ e :: after ∧
      fault? e = some (.pushFailed "denied") ∧ calls after = [] ∧
      Query.operation? e.query = some "push image" :=
  have hresult : refusedRun.2 = .error (.step "push image" (.pushFailed "denied")) := rfl
  ⟨hresult, (deploy_surfaces_faults (runs_follow _ _)).2 _ _ hresult⟩

end AirflowDeploy.Deploy
