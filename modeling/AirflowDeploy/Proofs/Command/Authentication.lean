import AirflowDeploy.Command.Login
import AirflowDeploy.Proofs.Deploy.Selection

/-!
# Settled defaults

What an authenticated context has for its default workspace and organization. Both come from one
listed workspace, or both stay as they were, unless an organization is asked for.
-/
namespace AirflowDeploy.Command

open Dialogue

variable {context : Context} {domain : String} {workspaceId organizationId : Option String}
  {workspaces : List Workspace} {workspace : Option Workspace}
  {trace : List (Exchange Deploy.outside)}

/-- Which workspace becomes the default: the first listed one with the id that is asked for, the
only listed one where none is asked for, or no other one. -/
inductive Chooses (workspaces : List Workspace) : Option String → Option Workspace → Prop where
  | asked {id : String} {w : Workspace} (found : workspaces.find? (·.id == id) = some w) :
      Chooses workspaces (some id) (some w)
  | only {w : Workspace} (single : workspaces = [w]) : Chooses workspaces none (some w)
  | kept (several : workspaces.length ≠ 1) : Chooses workspaces none none

theorem chooses_only? (workspaces : List Workspace) :
    Chooses workspaces none (only? workspaces) := by
  match workspaces with
  | [] => exact .kept (by simp)
  | [w] => exact .only rfl
  | _ :: _ :: _ => exact .kept (by simp)

theorem Chooses.eq_only? (h : Chooses workspaces none workspace) :
    workspace = only? workspaces := by
  cases h with
  | only single => rw [single, only?]
  | kept several =>
    match workspaces with
    | [] => rfl
    | [_] => exact absurd rfl several
    | _ :: _ :: _ => rfl

/-- A workspace that is asked for has to be listed. -/
def Available (workspaces : List Workspace) (workspaceId : Option String) : Prop :=
  ∀ id ∈ workspaceId, ∃ w ∈ workspaces, w.id = id

theorem Chooses.available (h : Chooses workspaces workspaceId workspace) :
    Available workspaces workspaceId := by
  cases h with
  | asked found =>
    rintro _ ⟨⟩
    exact ⟨_, List.mem_of_find?_eq_some found, by simpa using List.find?_some found⟩
  | only _ => rintro _ ⟨⟩
  | kept _ => rintro _ ⟨⟩

theorem resolution_of_available {id : String} (hgiven : id.isEmpty = false)
    (h : Available workspaces (some id)) :
    ∃ w, Deploy.resolution id (.ok workspaces) = .ok w := by
  obtain ⟨w, hmem, hid⟩ := h id rfl
  have hsome : (workspaces.find? (·.id == id)).isSome = true :=
    List.find?_isSome.mpr ⟨w, hmem, by simpa using hid⟩
  obtain ⟨first, hfirst⟩ := Option.isSome_iff_exists.mp hsome
  refine ⟨first, ?_⟩
  rw [Deploy.resolution, hgiven, if_neg Bool.false_ne_true]
  exact Deploy.findWorkspace_eq_ok_iff.mpr hfirst

/-- The platform is asked once, unless the id that is asked for is empty. A workspace is chosen
exactly where the answer has what is asked for. -/
theorem runs_defaultWorkspace {result : Except CommandFailure (Option Workspace)}
    (h : Runs (defaultWorkspace domain workspaceId).run trace result) :
    (∃ workspaces workspace, trace = [⟨.listWorkspaces, .ok workspaces⟩] ∧ result = .ok workspace ∧
      Chooses workspaces workspaceId workspace) ∨
    (∃ failure, result = .error failure) ∧
      ∀ workspaces, trace = [⟨.listWorkspaces, .ok workspaces⟩] →
        ¬ Available workspaces workspaceId := by
  unfold defaultWorkspace at h
  cases workspaceId with
  | none =>
    obtain ⟨answer, hasked, rfl⟩ := runs_map_iff.mp h
    obtain rfl := runs_query_iff.mp hasked
    cases answer with
    | ok workspaces => exact .inl ⟨workspaces, _, rfl, rfl, chooses_only? workspaces⟩
    | error e => exact .inr ⟨⟨_, rfl⟩, fun _ htrace => by cases htrace⟩
  | some id =>
    obtain ⟨answer, hvalidate, rfl⟩ := runs_map_iff.mp h
    rcases Deploy.ends_validateWorkspace hvalidate with ⟨-, rfl, rfl⟩ | ⟨hgiven, reply, rfl, rfl⟩
    · exact .inr ⟨⟨_, rfl⟩, fun _ htrace => by cases htrace⟩
    · cases hresolved : Deploy.resolution id reply with
      | ok w =>
        obtain ⟨-, workspaces, rfl, hfind⟩ := Deploy.find?_of_resolution hresolved
        exact .inl ⟨workspaces, some w, rfl, rfl, .asked hfind⟩
      | error e =>
        refine .inr ⟨⟨_, rfl⟩, ?_⟩
        rintro workspaces ⟨⟩ havailable
        obtain ⟨w, hw⟩ := resolution_of_available hgiven havailable
        cases hresolved.symm.trans hw

/-- What becomes of a context: its defaults are settled from the listed workspaces and from what is
asked for, and nothing else changes. -/
structure Settled (context : Context) (workspaces : List Workspace)
    (workspaceId organizationId : Option String) (settled : Context) : Prop where
  domain : settled.domain = context.domain
  token : settled.token = context.token
  systemAdmin : settled.systemAdmin = context.systemAdmin
  asked : ∀ id ∈ workspaceId, settled.workspace = id ∧ ∃ w ∈ workspaces, w.id = id
  only : workspaceId = none → ∀ w, workspaces = [w] → settled.workspace = w.id
  kept : workspaceId = none → workspaces.length ≠ 1 → settled.workspace = context.workspace
  organization : ∀ id ∈ organizationId, settled.organization = id
  pair : organizationId = none →
    (∃ w ∈ workspaces, settled.workspace = w.id ∧ settled.organization = w.organizationId) ∨
      settled.workspace = context.workspace ∧ settled.organization = context.organization

theorem Chooses.mem {w : Workspace} (h : Chooses workspaces workspaceId (some w)) :
    w ∈ workspaces := by
  cases h with
  | asked found => exact List.mem_of_find?_eq_some found
  | only single => simp [single]

theorem Chooses.settled (h : Chooses workspaces workspaceId workspace) (context : Context)
    (organizationId : Option String) :
    Settled context workspaces workspaceId organizationId
      (settle context workspace organizationId) where
  domain := rfl
  token := rfl
  systemAdmin := rfl
  asked := by
    intro id hid
    obtain ⟨w, hmem, rfl⟩ := h.available id hid
    cases h with
    | asked found =>
      obtain rfl := Option.some.inj hid
      exact ⟨by simpa [settle] using List.find?_some found, w, hmem, rfl⟩
    | only _ => cases hid
    | kept _ => cases hid
  only := by
    rintro rfl w rfl
    cases h with
    | only single =>
      obtain rfl := List.singleton_inj.mp single
      rfl
    | kept several => simp at several
  kept := by
    rintro rfl hseveral
    cases h with
    | only single => simp [single] at hseveral
    | kept _ => rfl
  organization := by
    rintro id ⟨⟩
    rfl
  pair := by
    rintro rfl
    cases workspace with
    | none => exact .inr ⟨rfl, rfl⟩
    | some w => exact .inl ⟨w, h.mem, rfl, rfl⟩

/-- A context is authenticated exactly where the platform lists the workspace that is asked for. Its
defaults are settled then, and nothing else in it changes. -/
theorem authenticate_settles {result : Except CommandFailure Context}
    (h : Runs (authenticate context workspaceId organizationId).run trace result) :
    ((∃ settled, result = .ok settled) ↔
      ∃ workspaces, trace = [⟨.listWorkspaces, .ok workspaces⟩] ∧
        Available workspaces workspaceId) ∧
    ∀ settled, result = .ok settled →
      ∃ workspaces, trace = [⟨.listWorkspaces, .ok workspaces⟩] ∧
        Settled context workspaces workspaceId organizationId settled := by
  rcases runs_run_bind_iff.mp h with
    ⟨first, workspace, rest, rfl, hdefault, hsettle⟩ | ⟨failure, hdefault, rfl⟩
  · obtain ⟨rfl, rfl⟩ := runs_run_pure_iff.mp hsettle
    rw [List.append_nil]
    rcases runs_defaultWorkspace hdefault with
      ⟨workspaces, chosen, rfl, hchosen, hchooses⟩ | ⟨⟨_, herror⟩, -⟩
    · obtain rfl := Except.ok.inj hchosen
      refine ⟨iff_of_true ⟨_, rfl⟩ ⟨workspaces, rfl, hchooses.available⟩, ?_⟩
      rintro settled ⟨⟩
      exact ⟨workspaces, rfl, hchooses.settled context organizationId⟩
    · cases herror
  · rcases runs_defaultWorkspace hdefault with ⟨_, _, _, hok, _⟩ | ⟨-, hunavailable⟩
    · cases hok
    · refine ⟨iff_of_false ?_ ?_, ?_⟩
      · rintro ⟨_, ⟨⟩⟩
      · rintro ⟨workspaces, htrace, havailable⟩
        exact hunavailable workspaces htrace havailable
      · rintro _ ⟨⟩

/-- Workspaces of which two have the same id. -/
def doubledWorkspaces : List Workspace := [⟨"w", "", "o"⟩, ⟨"v", "", "p"⟩, ⟨"v", "", "q"⟩]

def memberOf (workspace organization : String) : Context where
  domain := "x"
  token := "t"
  workspace := workspace
  organization := organization

/-- The first one of two workspaces with the id that is asked for is settled on. -/
theorem doubledWorkspaces_settles :
    Runs (authenticate (memberOf "w" "o") (some "v") none).run
      [⟨.listWorkspaces, .ok doubledWorkspaces⟩] (.ok (memberOf "v" "p")) ∧
    Available doubledWorkspaces (some "v") ∧
    Settled (memberOf "w" "o") doubledWorkspaces (some "v") none (memberOf "v" "p") := by
  have hrun : Runs (authenticate (memberOf "w" "o") (some "v") none).run
      [⟨.listWorkspaces, .ok doubledWorkspaces⟩] (.ok (memberOf "v" "p")) :=
    Runs.ask (I := Deploy.outside) (q := .listWorkspaces) (Except.ok doubledWorkspaces) (.done _)
  obtain ⟨hok, hsettles⟩ := authenticate_settles hrun
  obtain ⟨workspaces, ⟨⟩, havailable⟩ := hok.mp ⟨_, rfl⟩
  obtain ⟨_, ⟨⟩, hsettled⟩ := hsettles _ rfl
  exact ⟨hrun, havailable, hsettled⟩

end AirflowDeploy.Command
