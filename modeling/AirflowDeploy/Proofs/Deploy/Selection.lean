import AirflowDeploy.Deploy.Selection
import AirflowDeploy.Proofs.Deploy.Action

/-!
# What is selected

A workspace and a deployment that were selected are among the listed ones. The user who is asked
for a deployment sees the table of all of them, and the number in the answer is that of its row.
-/
namespace AirflowDeploy.Deploy

open Dialogue Deploy.Action

variable {trace : List (Exchange outside)} {d : Deployment} {deployments : List Deployment}

theorem findWorkspace_eq_ok_iff {workspaces : List Workspace} {id : String}
    {workspace : Workspace} :
    findWorkspace workspaces id = .ok workspace ↔
      workspaces.find? (·.id == id) = some workspace := by
  unfold findWorkspace
  split
  · next hfound => simp [hfound]
  · next hnone => simp [hnone]

theorem findDeployment_eq_ok_iff {id : String} :
    findDeployment deployments id = .ok d ↔ deployments.find? (·.id == id) = some d := by
  unfold findDeployment
  split
  · next hfound => simp [hfound]
  · next hnone => simp [hnone]

/-- What an id comes to, where the platform gives this answer when it is asked for workspaces. -/
def resolution (id : String) (answer : Except Fault (List Workspace)) :
    Except DeployError Workspace :=
  if id.isEmpty then .error .noWorkspaceId
  else (answer.mapError (.step "list workspaces")).bind (findWorkspace · id)

/-- The platform is asked once, unless there is no id. -/
theorem ends_validateWorkspace {id : String} {result : Except DeployError Workspace}
    (h : Ends (validateWorkspace id) trace result) :
    (id.isEmpty = true ∧ trace = [] ∧ result = .error .noWorkspaceId) ∨
      id.isEmpty = false ∧
        ∃ answer, trace = [⟨.listWorkspaces, answer⟩] ∧ result = resolution id answer := by
  unfold validateWorkspace at h
  split at h
  · next hempty =>
    rcases ends_bind_iff.mp h with ⟨_, _, _, _, hthrow, _⟩ | ⟨e, hthrow, rfl⟩
    · cases (ends_throw_iff.mp hthrow).2
    · obtain ⟨rfl, herror⟩ := ends_throw_iff.mp hthrow
      cases herror
      exact .inl ⟨hempty, rfl, rfl⟩
  · next hgiven =>
    refine .inr ⟨by simpa using hgiven, ?_⟩
    simp only [resolution, if_neg hgiven]
    obtain ⟨first, answer, rest, rfl, hasked, hrest⟩ := ends_step_bind h
    obtain rfl := runs_query_iff.mp hasked
    rcases hrest with ⟨workspaces, rfl, hfind⟩ | ⟨fault, rfl, rfl, rfl⟩
    · obtain ⟨rfl, rfl⟩ := ends_ofExcept_iff.mp hfind
      exact ⟨.ok workspaces, rfl, rfl⟩
    · exact ⟨.error fault, rfl, rfl⟩

theorem find?_of_resolution {id : String} {answer : Except Fault (List Workspace)}
    {workspace : Workspace} (h : resolution id answer = .ok workspace) :
    workspace.id = id ∧
      ∃ workspaces, answer = .ok workspaces ∧ workspaces.find? (·.id == id) = some workspace := by
  rw [resolution] at h
  split at h
  · cases h
  · cases answer with
    | error fault => cases h
    | ok workspaces =>
      have hfind := findWorkspace_eq_ok_iff.mp h
      exact ⟨by simpa using List.find?_some hfind, workspaces, rfl, hfind⟩

/-- A workspace is found where the platform lists one with its id. -/
theorem ends_validateWorkspace_ok {id : String} {workspace : Workspace}
    (h : Ends (validateWorkspace id) trace (.ok workspace)) :
    ∃ workspaces, trace = [⟨.listWorkspaces, .ok workspaces⟩] ∧
      workspaces.find? (·.id == id) = some workspace := by
  rcases ends_validateWorkspace h with ⟨-, -, herror⟩ | ⟨-, answer, rfl, hresolved⟩
  · cases herror
  · obtain ⟨-, workspaces, rfl, hfind⟩ := find?_of_resolution hresolved.symm
    exact ⟨workspaces, rfl, hfind⟩

/-- The cells of a deployment with its number. -/
def deploymentRow (number : Nat) (d : Deployment) : List String :=
  [String.ofList (Text.decimal number), d.label, d.releaseName, d.id, d.runtimeRelease.version]

theorem getElem?_deploymentRows (first n : Nat) (deployments : List Deployment) :
    (deploymentRows first deployments)[n]? = deployments[n]?.map (deploymentRow (first + n)) := by
  induction deployments generalizing first n with
  | nil => rfl
  | cons d rest ih =>
    cases n with
    | zero => rfl
    | succ n =>
      have hrest := ih (first + 1) n
      rw [show first + 1 + n = first + (n + 1) by omega] at hrest
      simpa [deploymentRows] using hrest

/-- The line of the table that shows a deployment with its number. -/
def tableLine (deployments : List Deployment) (number : Nat) (d : Deployment) : String :=
  let rows := (deploymentRows 1 deployments).map (·.map String.toList)
  String.ofList (Table.line (Table.widths (deploymentHeaders.map String.toList) rows)
    ((deploymentRow number d).map String.toList))

/-- Below the headers, the first deployment stands on the first line, and so on. -/
theorem getElem?_deploymentTable {n : Nat} (h : deployments[n]? = some d) :
    (deploymentTable deployments)[n + 1]? = some (tableLine deployments (n + 1) d) := by
  have hrow : (deploymentRows 1 deployments)[n]? = some (deploymentRow (n + 1) d) := by
    rw [getElem?_deploymentRows, h, Nat.add_comm]
    rfl
  simp [deploymentTable, Table.render, Table.lines, hrow, tableLine]

theorem pick?_eq_some_iff {answer : String} :
    pick? deployments answer = some d ↔
      ∃ n, Text.readNatural? (Text.trim answer.toList) = some (n + 1) ∧
        deployments[n]? = some d := by
  unfold pick?
  split
  · next n hn => simp [hn]
  · next hnone =>
    constructor
    · intro h
      cases h
    · rintro ⟨n, hn, _⟩
      exact absurd hn (hnone n)

/-- A line that could be written. -/
def written (line : String) : Exchange outside := ⟨.write (line ++ "\n"), .ok ()⟩

theorem ends_say_ok {text : String} (h : Ends (say text) trace (.ok ())) (hne : text ≠ "") :
    trace = [⟨.write text, .ok ()⟩] := by
  have hsay := ends_say_iff.mp h
  rw [if_neg (by simpa using hne)] at hsay
  obtain ⟨answer, rfl, hok⟩ := hsay
  rw [mapError_eq_ok_iff.mp hok.symm]

theorem ends_sayLine_ok {line : String} (h : Ends (sayLine line) trace (.ok ())) :
    trace = [written line] :=
  ends_say_ok h (by simp)

theorem ends_sayLines_ok {lines : List String} (h : Ends (sayLines lines) trace (.ok ())) :
    trace = lines.map written := by
  induction lines generalizing trace with
  | nil => exact (ends_pure_iff.mp h).1
  | cons line rest ih =>
    obtain ⟨first, ⟨⟩, last, rfl, hfirst, hrest⟩ := ends_bind_ok_iff.mp h
    rw [ends_sayLine_ok hfirst, ih hrest]
    rfl

/-- The lines that the user sees before the answer. -/
def promptLines (domain : String) (workspace : Workspace) (deployments : List Deployment) :
    List String :=
  let label := if workspace.label.isEmpty then workspace.id else workspace.label
  ("Workspace: " ++ label ++ " (" ++ domain ++ ")") ::
    "Select which Deployment you want to deploy to:" :: deploymentTable deployments

/-- The lines are written, then one line is read, and it picks the deployment. -/
theorem ends_promptForDeployment_ok {domain : String} {workspace : Workspace}
    (h : Ends (promptForDeployment domain workspace deployments) trace (.ok d)) :
    ∃ line, pick? deployments line = some d ∧
      trace = (promptLines domain workspace deployments).map written ++
        [⟨.write "\n> ", .ok ()⟩, ⟨.flush, .ok ()⟩, ⟨.readLine, .ok line⟩] := by
  unfold promptForDeployment at h
  obtain ⟨heading, ⟨⟩, _, rfl, hheading, h⟩ := ends_bind_ok_iff.mp (ends_guard_ok h)
  obtain ⟨question, ⟨⟩, _, rfl, hquestion, h⟩ := ends_bind_ok_iff.mp h
  obtain ⟨table, ⟨⟩, _, rfl, htable, h⟩ := ends_bind_ok_iff.mp h
  obtain ⟨prompt, ⟨⟩, _, rfl, hprompt, h⟩ := ends_bind_ok_iff.mp h
  obtain ⟨flushed, ⟨⟩, _, rfl, hflushed, h⟩ := ends_bind_ok_iff.mp h
  obtain ⟨read, line, _, rfl, hread, hpick⟩ := ends_bind_ok_iff.mp h
  obtain rfl := runs_query_iff.mp (ends_expect_ok_iff.mp hread)
  split at hpick
  · next picked hpicked =>
    obtain ⟨rfl, hd⟩ := ends_pure_iff.mp hpick
    refine ⟨line, by rw [hpicked, Except.ok.inj hd], ?_⟩
    rw [ends_sayLine_ok hheading, ends_sayLine_ok hquestion, ends_sayLines_ok htable,
      ends_say_ok hprompt (by decide), runs_query_iff.mp (ends_expect_ok_iff.mp hflushed)]
    simp [promptLines]
  · cases (ends_throw_iff.mp hpick).2

end AirflowDeploy.Deploy
