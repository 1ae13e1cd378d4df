import AirflowDeploy.Command.Login
import AirflowDeploy.Proofs.Command.Authentication
import AirflowDeploy.Proofs.Config.Contexts
import AirflowDeploy.Proofs.Dialogue.Asks
import AirflowDeploy.Proofs.Dialogue.Through
import AirflowDeploy.Proofs.Machine.Runs
import AirflowDeploy.Proofs.Text.Utf8

/-!
# Runs of login and logout

What one login and one logout make of the configuration file where the file system works.
-/
namespace AirflowDeploy

open Dialogue Machine

namespace GlobalConfig

variable {path : String} {content : Option String} {trace : List (Exchange machine)}

/-- A file with some content holds a configuration. -/
def Holds (content : Option String) (c : GlobalConfig) : Prop :=
  c.Consistent ∧ c.IsFaithful ∧ (content = none ∧ c = {} ∨ content = some c.render)

/-- A configuration file with this content is loaded as `c`. -/
def Loads (path : String) (content : Option String) (c : GlobalConfig) : Prop :=
  ofContent path (reading content) = .ok c

theorem Loads.unique {c c' : GlobalConfig} (h : Loads path content c) (h' : Loads path content c') :
    c' = c := Except.ok.inj (h'.symm.trans h)

theorem Holds.loads {c : GlobalConfig} (h : Holds content c) (path : String) :
    Loads path content c := by
  obtain ⟨hconsistent, hfaithful, ⟨rfl, rfl⟩ | rfl⟩ := h
  · rfl
  · have htext : Config.contentText path (reading (some c.render)) = .ok (some c.render) := by
      rw [reading, Config.contentText, Text.Utf8.decode?_encode]
      exact congrArg (fun text => Except.ok (some text)) String.ofList_toList
    rw [Loads, ofContent, htext]
    exact parse_render_of_isFaithful hconsistent hfaithful

theorem Holds.unique {c c' : GlobalConfig} (h : Holds content c) (h' : Holds content c') :
    c' = c := (h.loads "").unique (h'.loads "")

theorem runs_load {loaded : Except ConfigError GlobalConfig}
    (h : Runs (load path).run trace loaded) (hworks : Works path content trace) :
    loaded = ofContent path (reading content) := by
  obtain ⟨answer, hask, rfl⟩ := runs_map_iff.mp h
  obtain rfl := runs_query_iff.mp hask
  exact congrArg (ofContent path) (hworks.1 rfl)

/-- Makes the directory that a file is in. -/
def makeParent (path : String) : Machine.Action ConfigError Unit :=
  match Path.parent? path with
  | some dir => expect (.inaccessible path) (ask (.makeDirectory dir))
  | none => pure ()

theorem makes_makeParent (path : String) : Makes path (makeParent path) content content := by
  unfold makeParent
  split
  · exact .makeDirectory _ _
  · exact .pure ()

theorem save_eq (c : GlobalConfig) (path : String) :
    c.save path = (do
      makeParent path
      expect (.inaccessible path) (ask (.writeFile path c.render))
      expect (.inaccessible path) (ask (.restrictFile path))) := by
  unfold save makeParent
  cases Path.parent? path <;> rfl

theorem makes_save (c : GlobalConfig) (path : String) :
    Makes path (c.save path) content (some c.render) := by
  rw [save_eq]
  exact .bind (makes_makeParent path) fun _ => .bind (.writeFile _ _) fun _ => .restrictFile _ _

end GlobalConfig

namespace Command

open GlobalConfig

variable {environment : Environment} {path : String} {content : Option String}
  {trace : List (Exchange machine)} {result : Except CommandFailure Unit}

theorem quiet_because {ε α : Type} {cause : ε → CommandCause}
    {d : Dialogue machine (Except ε α)} (h : d.Asks fun q : Machine.Query => q.writesFile = false) :
    Quiet (because cause d) := .expect h

theorem quiet_sayLine (text : String) : Quiet (sayLine text) := quiet_because (.query rfl)

theorem quiet_load (path : String) : Quiet (because .config (GlobalConfig.load path).run) :=
  quiet_because (.map _ (.query rfl))

theorem makes_saved (c : GlobalConfig) (path : String) :
    Makes path (because .config (c.save path).run) content (some c.render) := by
  intro trace result h hworks
  obtain ⟨saved, hsave, rfl⟩ := runs_expect_iff.mp h
  obtain ⟨⟨_, rfl⟩, hfinal⟩ := makes_save c path _ _ hsave hworks
  exact ⟨⟨(), rfl⟩, hfinal⟩

/-- What the user is told about a login before it is saved. -/
def tellLogin (context : Context) : Action Unit := do
  sayLine ("Successfully authenticated to " ++ context.domain)
  if !context.workspace.isEmpty then sayLine ("Default workspace: " ++ context.workspace)

theorem quiet_tellLogin (context : Context) : Quiet (tellLogin context) := by
  refine .bind (quiet_sayLine _) fun _ => ?_
  split
  · exact quiet_sayLine _
  · exact .pure ()

theorem asks_authenticate (context : Context) (workspaceId organizationId : Option String) :
    (authenticate context workspaceId organizationId).run.Asks
      (· = Deploy.Query.listWorkspaces) := by
  refine .run_bind ?_ fun _ => trivial
  unfold defaultWorkspace
  cases workspaceId with
  | some id =>
    refine .map _ ?_
    unfold Deploy.validateWorkspace
    split
    · trivial
    · exact .run_bind (.map _ (.query rfl)) fun _ => trivial
  | none => exact .map _ (.query rfl)

/-- The platform is asked, and nothing else. -/
theorem quiet_authenticate (s : Services) (context : Context)
    (workspaceId organizationId : Option String) :
    Quiet (ExceptT.mk (s.perform (authenticate context workspaceId organizationId).run)) := by
  refine Asks.through (asks_authenticate context workspaceId organizationId) ?_
  rintro q rfl
  change (s.client.call _ _ _).Asks _
  unfold Client.call
  split
  · exact .map _ (.query rfl)
  · trivial

/-- Everything is told before anything is saved. -/
theorem login_eq (environment : Environment) (a : LoginArguments) :
    login environment a = (do
      let path ← configFile environment
      let config ← because .config (GlobalConfig.load path).run
      let context := contextFor config a.domain a.token
      let client ← clientFor context
      let services : Services := { client, environment }
      let context ← ExceptT.mk
        (services.perform (authenticate context a.workspaceId a.organizationId).run)
      tellLogin context
      because .config ((config.setCurrent context).save path).run) := by
  unfold login tellLogin
  refine bind_congr fun path => bind_congr fun config => bind_congr fun client =>
    bind_congr fun context => ?_
  rw [LawfulMonad.bind_assoc]
  refine bind_congr fun _ => ?_
  by_cases hdefault : context.workspace.isEmpty <;> simp [hdefault]

/-- The platform has listed these workspaces. -/
def Listed (trace : List (Exchange machine)) (workspaces : List Workspace) : Prop :=
  ∃ request reply, ⟨.web request, reply⟩ ∈ trace ∧
    Client.readReply (Json.list? Workspace.ofJson?) request.url reply = .ok workspaces

/-- The workspace that becomes the default, taken from what the platform has listed: the one that
is asked for, or the only one. -/
def Settles (a : LoginArguments) (trace : List (Exchange machine)) (workspace : Option Workspace) :
    Prop :=
  ∃ workspaces, Listed trace workspaces ∧
    match a.workspaceId with
    | some id => workspace = workspaces.find? (·.id == id) ∧ workspace.isSome
    | none => workspace = only? workspaces

theorem listed_of_runs {c : Client} {workspaces : List Workspace}
    (h : Runs c.listWorkspaces trace (.ok workspaces)) : Listed trace workspaces := by
  unfold Client.listWorkspaces Client.call at h
  split at h
  · obtain ⟨reply, hask, hread⟩ := runs_map_iff.mp h
    obtain rfl := runs_query_iff.mp hask
    exact ⟨_, reply, List.mem_cons_self, mapError_eq_ok_iff.mp hread.symm⟩
  · obtain ⟨-, herror⟩ := runs_done_iff.mp h
    cases herror

theorem listed_of_defaultWorkspace {outer : List (Exchange Deploy.outside)} {domain : String}
    {workspaceId : Option String} {workspace : Option Workspace}
    (h : Runs (defaultWorkspace domain workspaceId).run outer (.ok workspace)) :
    ∃ workspaces, ⟨.listWorkspaces, .ok workspaces⟩ ∈ outer ∧
      match workspaceId with
      | some id => workspace = workspaces.find? (·.id == id) ∧ workspace.isSome
      | none => workspace = only? workspaces := by
  rcases runs_defaultWorkspace h with
    ⟨workspaces, chosen, rfl, hchosen, hchooses⟩ | ⟨⟨_, herror⟩, -⟩
  · obtain rfl := Except.ok.inj hchosen
    refine ⟨workspaces, List.mem_cons_self, ?_⟩
    cases workspaceId with
    | some id =>
      cases hchooses with
      | asked found => exact ⟨found.symm, rfl⟩
    | none => exact hchooses.eq_only?
  · cases herror

theorem settles_of_runs {s : Services} {a : LoginArguments} {context settled : Context}
    (h : Runs (s.perform (authenticate context a.workspaceId a.organizationId).run) trace
      (.ok settled)) :
    ∃ workspace, Settles a trace workspace ∧
      settled = settle context workspace a.organizationId := by
  obtain ⟨outer, hauth, hrealizes⟩ := runs_through_iff.mp h
  obtain ⟨first, workspace, rest, rfl, hdefault, hsettle⟩ := runs_run_bind_ok_iff.mp hauth
  obtain ⟨rfl, hsettled⟩ := runs_run_pure_iff.mp hsettle
  obtain ⟨workspaces, hmem, hchoice⟩ := listed_of_defaultWorkspace hdefault
  obtain ⟨part, hpart, hsub⟩ := hrealizes.exists_run (List.mem_append_left _ hmem)
  obtain ⟨request, reply, hweb, hread⟩ := listed_of_runs hpart
  exact ⟨workspace, ⟨workspaces, ⟨request, reply, hsub hweb, hread⟩, hchoice⟩,
    Except.ok.inj hsettled⟩

theorem Settles.mono {a : LoginArguments} {workspace : Option Workspace}
    {more : List (Exchange machine)} (h : Settles a trace workspace) (hsub : trace ⊆ more) :
    Settles a more workspace := by
  obtain ⟨workspaces, ⟨request, reply, hweb, hread⟩, hchoice⟩ := h
  exact ⟨workspaces, ⟨request, reply, hsub hweb, hread⟩, hchoice⟩

/-- Both commands begin with the configuration that the file holds. -/
theorem runs_begin {c : GlobalConfig} {next : String → GlobalConfig → Action Unit}
    (hfile : GlobalConfig.file environment = .ok path)
    (h : Runs (do
      let path ← configFile environment
      let config ← because .config (GlobalConfig.load path).run
      next path config : Action Unit).run trace result)
    (hworks : Works path content trace) (hholds : Holds content c) :
    ∃ first rest, trace = first ++ rest ∧ Runs (next path c).run rest result ∧
      Works path content rest ∧
        finalContent path content trace = finalContent path content rest := by
  have hconfigFile : configFile environment = .ok path := by
    rw [configFile, hfile]
    rfl
  rcases runs_bind_of_quiet (.ofExcept _) h hworks with
    ⟨e, hpath, -, -⟩ | ⟨first, p, rest, rfl, hpath, hrest, -, hworks, hfinal⟩
  · cases (runs_run_ofExcept_iff.mp hpath).2.trans hconfigFile
  · obtain ⟨rfl, hp⟩ := runs_run_ofExcept_iff.mp hpath
    obtain rfl := Except.ok.inj (hp.trans hconfigFile)
    have hload {loading : List (Exchange machine)} {loaded : Except CommandFailure GlobalConfig}
        (h : Runs (because .config (GlobalConfig.load p).run).run loading loaded)
        (hworks : Works p content loading) : loaded = .ok c := by
      obtain ⟨answer, hrun, rfl⟩ := runs_expect_iff.mp h
      rw [runs_load hrun hworks, hholds.loads p]
      rfl
    rcases runs_bind_of_quiet (quiet_load p) hrest hworks with
      ⟨e, hloading, -, -⟩ | ⟨loading, config, rest, rfl, hloading, hrest, hquiet, hworks, hloaded⟩
    · cases hload hloading hworks
    · obtain rfl := Except.ok.inj (hload hloading hquiet)
      exact ⟨loading, rest, rfl, hrest, hworks, hfinal.trans hloaded⟩

/-- A login fails and leaves the file, or it saves the settled context as the current one. -/
theorem login_of_works {a : LoginArguments} {c : GlobalConfig}
    (hfile : GlobalConfig.file environment = .ok path)
    (h : Runs (login environment a).run trace result) (hworks : Works path content trace)
    (hholds : Holds content c) :
    (∃ failure, result = .error failure ∧ finalContent path content trace = content) ∨
    result = .ok () ∧ ∃ workspace, Settles a trace workspace ∧
      finalContent path content trace = some (c.setCurrent
        (settle (contextFor c a.domain a.token) workspace a.organizationId)).render := by
  rw [login_eq] at h
  obtain ⟨start, rest, rfl, h, hworks, hstart⟩ := runs_begin hfile h hworks hholds
  rw [hstart]
  rcases runs_bind_of_quiet (.ofExcept _) h hworks with
    ⟨e, -, hfails, hsame⟩ | ⟨_, client, rest, rfl, -, h, -, hworks, hclient⟩
  · exact .inl ⟨e, hfails, hsame⟩
  rw [hclient]
  rcases runs_bind_of_quiet (quiet_authenticate _ _ _ _) h hworks with
    ⟨e, -, hfails, hsame⟩ | ⟨asking, settled, rest, rfl, hauth, h, -, hworks, hasking⟩
  · exact .inl ⟨e, hfails, hsame⟩
  rw [hasking]
  rcases runs_bind_of_quiet (quiet_tellLogin settled) h hworks with
    ⟨e, -, hfails, hsame⟩ | ⟨_, _, rest, rfl, -, h, -, hworks, htelling⟩
  · exact .inl ⟨e, hfails, hsame⟩
  rw [htelling]
  obtain ⟨workspace, hsettles, rfl⟩ := settles_of_runs hauth
  obtain ⟨⟨_, rfl⟩, hfinal⟩ := makes_saved _ path _ _ h hworks
  refine .inr ⟨rfl, workspace, hsettles.mono fun e he => ?_, hfinal⟩
  simp [he]

/-- A context without its token. -/
def forget (context : Context) : Context := { context with token := "" }

/-- A logout saves the configuration without the token of the current context. Without a current
context it leaves the file. -/
theorem logout_of_works {c : GlobalConfig} (hfile : GlobalConfig.file environment = .ok path)
    (h : Runs (logout environment).run trace result) (hworks : Works path content trace)
    (hholds : Holds content c) :
    c.currentContext = none ∧ finalContent path content trace = content ∨
    c.currentContext ≠ none ∧
      finalContent path content trace = some (c.editCurrent forget).render := by
  obtain ⟨start, rest, rfl, h, hworks, hstart⟩ := runs_begin hfile h hworks hholds
  rw [hstart]
  cases hcurrent : c.current? with
  | none =>
    rw [hcurrent] at h
    refine .inl ⟨hholds.1.current?_eq_none_iff.mp hcurrent, ?_⟩
    exact finalContent_eq_self fun _ he => Asks.of_mem (quiet_sayLine _) h he
  | some context =>
    rw [hcurrent] at h
    refine .inr ⟨fun hnone => ?_, ?_⟩
    · rw [hholds.1.current?_eq_none_iff.mpr hnone] at hcurrent
      cases hcurrent
    · rcases runs_run_bind_iff.mp h with ⟨saving, _, telling, rfl, hsave, htell⟩ | ⟨_, hsave, -⟩
      · obtain ⟨hsaving, htelling⟩ := works_append.mp hworks
        obtain ⟨-, hfinal⟩ := makes_saved _ path _ _ hsave hsaving
        rw [finalContent_append, hfinal]
        exact finalContent_eq_self fun _ he => Asks.of_mem (quiet_sayLine _) htell he
      · obtain ⟨⟨_, hok⟩, -⟩ := makes_saved _ path _ _ hsave hworks
        cases hok

end Command

end AirflowDeploy
