import AirflowDeploy.Proofs.Deploy.TargetChoice

/-!
# The organization of a repository

An image is pushed below the organization that the context names, whichever workspace is asked for,
and below that of the workspace where the context names none.
-/
namespace AirflowDeploy.Deploy

open Dialogue

variable {options : Options}

theorem length_repository (registry organization releaseName : String) :
    (repository registry organization releaseName).length =
      registry.length + 1 + releaseName.length +
        if organization.isEmpty then 0 else organization.length + 1 := by
  have hslash : "/".length = 1 := rfl
  unfold repository
  split <;> simp only [String.length_append, hslash] <;> omega

/-- An organization can be told from the repository below it. -/
theorem repository_inj {registry first second releaseName : String} :
    repository registry first releaseName = repository registry second releaseName ↔
      first = second := by
  refine ⟨fun h => ?_, congrArg (repository registry · releaseName)⟩
  -- The lengths differ where only one of the two is left out.
  have hlength := congrArg String.length h
  rw [length_repository, length_repository, Nat.add_left_cancel_iff] at hlength
  by_cases hfirst : first.isEmpty <;> by_cases hsecond : second.isEmpty
  · rw [String.isEmpty_iff.mp hfirst, String.isEmpty_iff.mp hsecond]
  · simp [hfirst, hsecond] at hlength
  · simp [hfirst, hsecond] at hlength
  · simpa [repository, hfirst, hsecond] using h

theorem Target.organization_eq_iff (t : Target) :
    t.organization = t.workspace.organizationId ↔
      t.context.organization = "" ∨ t.context.organization = t.workspace.organizationId := by
  rw [Target.organization]
  split
  · next hempty => simp [String.isEmpty_iff.mp hempty]
  · next hnamed => simp [mt String.isEmpty_iff.mpr hnamed]

/-- A push goes below the organization of the requested workspace, as the platform has listed it,
exactly if the context names this organization or none. -/
theorem push_repository_iff {credentials : Context} {result : Except DeployError Report}
    {before after : List (Exchange outside)} {image repo tag : String} {auth : RegistryAuth}
    {answer : Except Fault Unit}
    (h : Runs (deploy (some credentials) options)
      (before ++ ⟨.push image auth repo tag, answer⟩ :: after) result) :
    ∃ workspaces workspace deployments deployment,
      ⟨.listWorkspaces, .ok workspaces⟩ ∈ before ∧
      workspaces.find? (·.id == requestedWorkspace credentials options) = some workspace ∧
      ⟨.listDeployments workspace.id, .ok deployments⟩ ∈ before ∧
      deployment ∈ deployments ∧
      image = ImageReference.ofRelease deployment.releaseName "latest" ∧
      (repo = repository (registryHost credentials.domain) workspace.organizationId
          deployment.releaseName ↔
        credentials.organization = "" ∨
          credentials.organization = workspace.organizationId) := by
  obtain ⟨p, quiet, now, rfl, -, hquery, -⟩ := prepared_of_push h rfl
  obtain ⟨rfl, -, rfl, -⟩ := Query.push.inj hquery
  obtain ⟨workspaces, deployments, choice, releases, hselection, htarget, hworkspace, hchoice, -⟩ :=
    ends_resolveTarget_ok p.resolves
  obtain ⟨hlisted, -⟩ := chosen_of_chooseDeployment hchoice
  rw [p.credentials_eq] at htarget hworkspace
  refine ⟨workspaces, p.target.workspace, deployments, p.target.deployment, ?_, hworkspace, ?_,
    hlisted, rfl, ?_⟩
  · simp [Prepared.trace, Built.trace, Resolved.trace, hselection]
  · simp [Prepared.trace, Built.trace, Resolved.trace, hselection]
  · rw [Target.repository, Target.registry, htarget, repository_inj,
      p.target.organization_eq_iff, htarget]

/-- Two workspaces, of the organizations `o` and `p`. -/
def twoWorkspaces : List Workspace := [⟨"w", "", "o"⟩, ⟨"v", "", "p"⟩]

/-- The deployment of the second workspace. -/
def visitedDeployment : Deployment := ⟨"d", "", "r", "v", ⟨"", ""⟩, "", none⟩

/-- A willing outside with both workspaces. -/
def visited : (q : Query) → q.Answer
  | .listWorkspaces => .ok twoWorkspaces
  | .listDeployments _ => .ok [visitedDeployment]
  | q => willing q

/-- A context for the workspace `w` and its organization. -/
def memberContext : Context := { willingContext with organization := "o" }

/-- A deploy to the workspace `v`. -/
def visitingOptions : Options := { willingOptions .unchecked with workspaceId := "v" }

def visitingRun : List (Exchange outside) × Except DeployError Report :=
  (deploy (some memberContext) visitingOptions).follow visited

/-- The push of a visiting deploy. -/
def visitingPush : Exchange outside where
  query := .push (ImageReference.ofRelease "r" "latest") ⟨registryHost "x", registryUsername, "t"⟩
    (repository (registryHost "x") "o" "r") (pushTag (.ofSeconds 0))
  answer := .ok ()

theorem runs_visitingRun :
    Runs (deploy (some memberContext) visitingOptions)
      (visitingRun.1.take 14 ++ visitingPush :: visitingRun.1.drop 15) visitingRun.2 := by
  have hpush : visitingRun.1 = visitingRun.1.take 14 ++ visitingPush :: visitingRun.1.drop 15 := rfl
  rw [← hpush]
  exact runs_follow _ _

theorem visitingRun_repository_iff :
    ∃ workspaces workspace deployments deployment,
      ⟨.listWorkspaces, .ok workspaces⟩ ∈ visitingRun.1.take 14 ∧
      workspaces.find? (·.id == "v") = some workspace ∧
      ⟨.listDeployments workspace.id, .ok deployments⟩ ∈ visitingRun.1.take 14 ∧
      deployment ∈ deployments ∧
      ImageReference.ofRelease "r" "latest" =
        ImageReference.ofRelease deployment.releaseName "latest" ∧
      (repository (registryHost "x") "o" "r" =
          repository (registryHost "x") workspace.organizationId deployment.releaseName ↔
        "o" = "" ∨ "o" = workspace.organizationId) :=
  push_repository_iff runs_visitingRun

/-- The image of a deployment in a workspace of `p` is pushed below `o`, the organization of the
context's own workspace. -/
theorem visitingRun_keeps_organization :
    (Runs (deploy (some memberContext) visitingOptions)
        (visitingRun.1.take 14 ++ visitingPush :: visitingRun.1.drop 15) visitingRun.2 ∧
      visitingOptions.workspaceId ≠ "" ∧
      visitingOptions.workspaceId ≠ memberContext.workspace) ∧
    visitingRun.1[0]? = some ⟨.listWorkspaces, .ok twoWorkspaces⟩ ∧
    twoWorkspaces.find? (·.id == "v") = some ⟨"v", "", "p"⟩ ∧
    visitingRun.1[2]? = some ⟨.listDeployments "v", .ok [visitedDeployment]⟩ ∧
    repository (registryHost "x") "o" "r" = "images.x/o/r" ∧
    repository (registryHost "x") "p" "r" = "images.x/p/r" ∧
    visitingPush.query ≠ .push (ImageReference.ofRelease "r" "latest")
      ⟨registryHost "x", registryUsername, "t"⟩ (repository (registryHost "x") "p" "r")
      (pushTag (.ofSeconds 0)) := by
  refine ⟨⟨runs_visitingRun, by decide, by decide⟩, rfl, rfl, rfl, by decide +kernel,
    by decide +kernel, fun hsame => ?_⟩
  obtain ⟨-, -, hrepository, -⟩ := Query.push.inj hsame
  exact absurd (repository_inj.mp hrepository) (by decide)

end AirflowDeploy.Deploy
