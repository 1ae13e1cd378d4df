import AirflowDeploy.Command.Run
import AirflowDeploy.Proofs.Command.TestRun
import AirflowDeploy.Proofs.Deploy.Stages

/-!
# The workspace of a command

Listing deployments and deploying settle on a workspace in the same way, with one difference. Where
an option is given that is empty, a deploy takes the workspace of the context, and a listing fails.
-/
namespace AirflowDeploy.Command

open Dialogue Deploy Deploy.Action

variable {α : Type} {trace rest : List (Exchange outside)} {id : String}
  {answer : Except Fault (List Workspace)} {result : Except DeployError α}
  {resolved : Except DeployError Workspace}

/-- The first question for deployments. -/
def deploymentsAsked (trace : List (Exchange outside)) : Option Query :=
  (trace.map (·.query)).find? fun q => Query.call? q = some .listDeployments

/-- Which workspace a run settles on: the listed one whose deployments it asks for first, or none,
where it fails with an error before it asks for any. -/
inductive SettlesOn (trace : List (Exchange outside)) (result : Except DeployError α) :
    Except DeployError Workspace → Prop where
  | found {workspaces : List Workspace} {workspace : Workspace}
      (listed : ⟨.listWorkspaces, .ok workspaces⟩ ∈ trace)
      (first : workspaces.find? (·.id == workspace.id) = some workspace)
      (asked : deploymentsAsked trace = some (.listDeployments workspace.id)) :
      SettlesOn trace result (.ok workspace)
  | failed {e : DeployError} (unasked : deploymentsAsked trace = none)
      (error : result = .error e) : SettlesOn trace result (.error e)

theorem deploymentsAsked_append (first rest : List (Exchange outside)) :
    deploymentsAsked (first ++ rest) = (deploymentsAsked first).or (deploymentsAsked rest) := by
  rw [deploymentsAsked, List.map_append, List.find?_append]
  rfl

section Run

variable {next : Workspace → Deploy.Action α}
  (hnext : ∀ w rest r, Ends (next w) rest r →
    deploymentsAsked rest = some (.listDeployments w.id))
  (h : Ends (validateWorkspace id >>= next) trace result)
  (hrest : deploymentsAsked rest = none)
  (hanswer : ∀ given, ⟨.listWorkspaces, given⟩ ∈ trace ++ rest → given = answer)

include hnext h hrest hanswer

/-- A run settles on what its id comes to, where it goes on with the deployments of the
workspace. -/
theorem settlesOn_resolution : SettlesOn (trace ++ rest) result (resolution id answer) := by
  rcases ends_bind_iff.mp h with ⟨first, w, last, rfl, hfound, hlast⟩ | ⟨e, hfailed, rfl⟩
  · rcases ends_validateWorkspace hfound with ⟨-, -, herror⟩ | ⟨-, given, rfl, hresolved⟩
    · cases herror
    · obtain rfl := hanswer given (by simp)
      obtain ⟨hid, workspaces, rfl, hfind⟩ := find?_of_resolution hresolved.symm
      have hasked := hnext w last result hlast
      rw [← hresolved]
      refine .found List.mem_cons_self (hid ▸ hfind) ?_
      rw [deploymentsAsked_append, deploymentsAsked_append, hasked]
      rfl
  · rcases ends_validateWorkspace hfailed with ⟨hempty, rfl, herror⟩ | ⟨-, given, rfl, hresolved⟩
    · rw [resolution, if_pos hempty, Except.error.inj herror]
      exact .failed hrest rfl
    · obtain rfl := hanswer given (by simp)
      rw [← hresolved]
      exact .failed hrest rfl

/-- A run settles on nothing else. -/
theorem settlesOn_iff :
    SettlesOn (trace ++ rest) result resolved ↔ resolved = resolution id answer := by
  have hsettles := settlesOn_resolution hnext h hrest hanswer
  refine ⟨fun hother => ?_, fun hsame => hsame ▸ hsettles⟩
  -- The first question for deployments tells the two ways to settle apart, and names the workspace.
  generalize resolution id answer = settled at hsettles
  cases hsettles with
  | found listed first asked =>
    cases hother with
    | found listed' first' asked' =>
      have hid := Query.listDeployments.inj (Option.some.inj (asked'.symm.trans asked))
      obtain rfl := Except.ok.inj ((hanswer _ listed).trans (hanswer _ listed').symm)
      rw [hid, first] at first'
      rw [Option.some.inj first']
    | failed unasked => simp [unasked] at asked
  | failed unasked error =>
    cases hother with
    | found _ _ asked' => simp [unasked] at asked'
    | failed _ error' => rw [Except.error.inj (error'.symm.trans error)]

end Run

theorem deploymentsAsked_of_ends_step {w : Workspace} {operation : String}
    {f : List Deployment → Deploy.Action α}
    (h : Ends (step operation (Action.ask (.listDeployments w.id)) >>= f) trace result) :
    deploymentsAsked trace = some (.listDeployments w.id) := by
  obtain ⟨first, given, rest, rfl, hasked, -⟩ := ends_step_bind h
  rw [runs_query_iff.mp hasked]
  rfl

theorem settlesOn_listing_iff {context : Context} {workspaceId : Option String}
    {listed : Except DeployError (Workspace × List Deployment)}
    (h : Ends (chosenDeployments context workspaceId) trace listed)
    (hanswer : ∀ given, ⟨.listWorkspaces, given⟩ ∈ trace → given = answer) :
    SettlesOn trace listed resolved ↔
      resolved = resolution (workspaceId.getD context.workspace) answer := by
  have hnext (w : Workspace) (rest : List (Exchange outside))
      (r : Except DeployError (Workspace × List Deployment))
      (hrest : Ends (step "list deployments" (Action.ask (.listDeployments w.id)) >>=
        fun deployments => pure (w, deployments)) rest r) :
      deploymentsAsked rest = some (.listDeployments w.id) := deploymentsAsked_of_ends_step hrest
  rw [← List.append_nil trace] at hanswer ⊢
  exact settlesOn_iff hnext h rfl hanswer

theorem settlesOn_deploy_iff {context : Context} {options : Options}
    {deployed : Except DeployError Report} (hcontext : context.isAuthenticated = true)
    (h : Runs (Deploy.deploy (some context) options) trace deployed)
    (hanswer : ∀ given, ⟨.listWorkspaces, given⟩ ∈ trace → given = answer) :
    SettlesOn trace deployed resolved ↔
      resolved = resolution (requestedWorkspace context options) answer := by
  obtain ⟨attempted, state, about, rfl, hattempt⟩ := ends_attempt_of_runs_deploy h
  have hcredentials : authenticated? (some context) = some context := by
    simp [authenticated?, hcontext]
  rw [attempt_eq hcredentials, resolveTarget] at hattempt
  simp only [LawfulMonad.bind_assoc] at hattempt
  refine settlesOn_iff (fun w rest r hrest => ?_) hattempt rfl hanswer
  obtain ⟨first, ⟨⟩, last, rfl, hentered, hlast⟩ | ⟨e, hentered, -⟩ := ends_bind_iff.mp hrest
  · rw [(ends_enter_iff.mp hentered).1, deploymentsAsked_append,
      deploymentsAsked_of_ends_step hlast]
    rfl
  · cases (ends_enter_iff.mp hentered).2

/-- An id that is there never comes to what a missing one comes to. -/
theorem resolution_empty_ne (hgiven : id ≠ "") (answer : Except Fault (List Workspace)) :
    resolution "" answer ≠ resolution id answer := by
  have hmissing : resolution "" answer = .error .noWorkspaceId := rfl
  rw [hmissing, resolution, if_neg (mt String.isEmpty_iff.mp hgiven)]
  cases answer with
  | error fault =>
    intro herror
    cases herror
  | ok workspaces =>
    intro herror
    change _ = findWorkspace workspaces id at herror
    rw [findWorkspace] at herror
    split at herror <;> cases herror

theorem resolution_eq_iff {credentials : Context} {a : DeployArguments} {project : ProjectConfig} :
    resolution (a.workspaceId.getD credentials.workspace) answer =
        resolution (requestedWorkspace credentials (a.options project)) answer ↔
      (a.workspaceId = some "" → credentials.workspace = "") := by
  rw [requestedWorkspace, DeployArguments.options]
  cases hoption : a.workspaceId with
  | none => simp
  | some given =>
    by_cases hempty : given = ""
    · subst hempty
      by_cases hdefault : credentials.workspace = ""
      · simp [hdefault]
      · simpa [hdefault] using resolution_empty_ne hdefault answer
    · simp [hempty]

/-- Listing deployments and deploying settle on the same workspace, or fail with the same error,
exactly if no empty option stands over a workspace of the context. -/
theorem same_workspace_iff {context : Context} {a : DeployArguments} {project : ProjectConfig}
    {first second : List (Exchange outside)}
    {listed : Except DeployError (Workspace × List Deployment)}
    {deployed : Except DeployError Report} (hcontext : context.isAuthenticated = true)
    (hlist : Ends (chosenDeployments context a.workspaceId) first listed)
    (hdeploy : Runs (Deploy.deploy (some context) (a.options project)) second deployed)
    (hanswer : ∀ given, ⟨.listWorkspaces, given⟩ ∈ first ++ second → given = answer) :
    (∃ resolved, SettlesOn first listed resolved ∧ SettlesOn second deployed resolved) ↔
      (a.workspaceId = some "" → context.workspace = "") := by
  have hlisting (resolved : Except DeployError Workspace) :
      SettlesOn first listed resolved ↔
        resolved = resolution (a.workspaceId.getD context.workspace) answer :=
    settlesOn_listing_iff hlist fun given hgiven => hanswer given (List.mem_append_left _ hgiven)
  have hdeploying (resolved : Except DeployError Workspace) :
      SettlesOn second deployed resolved ↔
        resolved = resolution (requestedWorkspace context (a.options project)) answer :=
    settlesOn_deploy_iff hcontext hdeploy fun given hgiven =>
      hanswer given (List.mem_append_right _ hgiven)
  simp only [hlisting, hdeploying, exists_eq_left]
  exact resolution_eq_iff

/-- A deploy of the deployment `d`, with an option for the workspace. -/
def argumentsFor (workspaceId : Option String) : DeployArguments where
  path := "/p"
  deploymentId := some "d"
  workspaceId := workspaceId

def listingRun (workspaceId : Option String) :
    List (Exchange outside) × Except DeployError (Workspace × List Deployment) :=
  (chosenDeployments willingContext workspaceId).run.follow willing

def deployingRun (workspaceId : Option String) :
    List (Exchange outside) × Except DeployError Report :=
  (Deploy.deploy (some willingContext) ((argumentsFor workspaceId).options {})).follow willing

theorem listWorkspaces_answer_willing {workspaceId : Option String}
    {given : Except Fault (List Workspace)}
    (h : ⟨.listWorkspaces, given⟩ ∈ (listingRun workspaceId).1 ++ (deployingRun workspaceId).1) :
    given = .ok [⟨"w", "", ""⟩] := by
  rcases List.mem_append.mp h with hlisting | hdeploying
  · exact eq_of_heq (Exchange.mk.inj (answer_of_mem_follow hlisting)).2
  · exact eq_of_heq (Exchange.mk.inj (answer_of_mem_follow hdeploying)).2

/-- Without an option both settle on the workspace of the context. -/
theorem sameWorkspace_without_option :
    willingContext.isAuthenticated = true ∧
    ∃ resolved, SettlesOn (listingRun none).1 (listingRun none).2 resolved ∧
      SettlesOn (deployingRun none).1 (deployingRun none).2 resolved := by
  have hcontext : willingContext.isAuthenticated = true := by decide
  refine ⟨hcontext, ?_⟩
  exact (same_workspace_iff (a := argumentsFor none) hcontext (runs_follow _ _) (runs_follow _ _)
    fun _ => listWorkspaces_answer_willing).mpr (by simp [argumentsFor])

/-- A variable for the workspace that is set and empty, and a home for the configuration. -/
def emptyVariable : Environment
  | "DAGSHIP_WORKSPACE_ID" => some ""
  | "DAGSHIP_HOME" => some "/h"
  | _ => none

/-- A machine with a context for the workspace `w`, where everything goes well. -/
def memberMachine : (q : Machine.Query) → q.Answer
  | .fileContent "/h/config.kdl" =>
    .ok (bytes "current-context x\ncontext x \x7b token t; workspace w \x7d\n")
  | .fileContent "/p/.dagship/config.kdl" => .error .missing
  | q => killing q

/-- The exit code of a command on this machine. -/
def exitCode (arguments : List String) : Nat :=
  ((run emptyVariable arguments).follow memberMachine).2

/-- With an empty option the listing fails without asking for anything, and the deploy settles on
the workspace of the context. -/
theorem emptyOption_parts :
    (exitCode ["deployment", "list"] = 2 ∧
      exitCode ["deploy", "--deployment-id", "w", "/p"] = 0) ∧
    (willingContext.isAuthenticated = true ∧
      Ends (chosenDeployments willingContext (argumentsFor (some "")).workspaceId)
        (listingRun (some "")).1 (listingRun (some "")).2 ∧
      Runs (Deploy.deploy (some willingContext) ((argumentsFor (some "")).options {}))
        (deployingRun (some "")).1 (deployingRun (some "")).2) ∧
    listingRun (some "") = ([], .error .noWorkspaceId) ∧
    SettlesOn (deployingRun (some "")).1 (deployingRun (some "")).2 (.ok ⟨"w", "", ""⟩) ∧
    ¬ ∃ resolved, SettlesOn (listingRun (some "")).1 (listingRun (some "")).2 resolved ∧
      SettlesOn (deployingRun (some "")).1 (deployingRun (some "")).2 resolved := by
  have hcontext : willingContext.isAuthenticated = true := by decide
  have hlisted : listingRun (some "") = ([], .error .noWorkspaceId) := rfl
  have hdeploying (resolved : Except DeployError Workspace) :
      SettlesOn (deployingRun (some "")).1 (deployingRun (some "")).2 resolved ↔
        resolved = .ok ⟨"w", "", ""⟩ :=
    settlesOn_deploy_iff hcontext (runs_follow _ _) fun _ hgiven =>
      listWorkspaces_answer_willing (List.mem_append_right _ hgiven)
  refine ⟨⟨by decide +kernel, by decide +kernel⟩,
    ⟨hcontext, runs_follow _ _, runs_follow _ _⟩, hlisted, (hdeploying _).mpr rfl, ?_⟩
  rintro ⟨resolved, hlisting, hdeployed⟩
  obtain rfl := (hdeploying resolved).mp hdeployed
  rw [hlisted] at hlisting
  cases hlisting with
  | found listed => cases listed

end AirflowDeploy.Command
