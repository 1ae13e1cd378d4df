import AirflowDeploy.Command.Run
import AirflowDeploy.Proofs.Command.LoginRun
import AirflowDeploy.Proofs.Command.TestRun

/-!
# Histories of logins and logouts

What the configuration file holds after any number of logins and logouts, whatever the platform
answers. Each domain keeps the token of its latest login, until a logout forgets it.
-/
namespace AirflowDeploy.Command

open Dialogue Machine GlobalConfig Kdl

inductive SessionCommand where
  | login (a : LoginArguments)
  | logout
  deriving DecidableEq, Repr

def SessionCommand.subcommand : SessionCommand → Subcommand
  | .login a => .login a
  | .logout => .logout

/-- A command that was run, and the content of the configuration file before it. -/
structure SessionRun where
  environment : Environment
  command : SessionCommand
  before : Option String
  trace : List (Exchange machine)
  result : Except CommandFailure Unit

namespace SessionRun

/-- The content of the configuration file at `path` after the run. -/
def after (r : SessionRun) (path : String) : Option String := finalContent path r.before r.trace

/-- The strings that a login may store can be read back from the file: its arguments and the
default workspace. -/
def Reparsable (r : SessionRun) : Prop :=
  match r.command with
  | .login a =>
    Faithful a.domain ∧ Faithful a.token ∧ (∀ id ∈ a.organizationId, Faithful id) ∧
      ∀ workspace, Settles a r.trace (some workspace) →
        Faithful workspace.id ∧ Faithful workspace.organizationId
  | .logout => True

/-- The command was run on the configuration file at `path`, and the file system worked. -/
structure Sound (r : SessionRun) (path : String) : Prop where
  file : GlobalConfig.file r.environment = .ok path
  runs : Runs (perform r.environment r.command.subcommand).run r.trace r.result
  works : Works path r.before r.trace
  reparsable : r.Reparsable

/-- A login to a domain has succeeded. -/
def LoggedInto (r : SessionRun) (domain : String) : Prop :=
  ∃ a, r.command = .login a ∧ a.domain = domain ∧ r.result = .ok ()

end SessionRun

/-- Commands that were run one after the other, the latest first. In the beginning there is no
configuration file. -/
inductive History (path : String) : List SessionRun → Option String → Prop where
  | start : History path [] none
  | next {runs : List SessionRun} {content : Option String} (earlier : History path runs content)
      (r : SessionRun) (hbefore : r.before = content) (hsound : r.Sound path) :
      History path (r :: runs) (r.after path)

/-- The context that a login stores. -/
def stored (c : GlobalConfig) (a : LoginArguments) (workspace : Option Workspace) : Context :=
  settle (contextFor c a.domain a.token) workspace a.organizationId

/-- How a command changes the configuration. -/
inductive Effect (r : SessionRun) (path : String) (c : GlobalConfig) : GlobalConfig → Prop where
  | failed {a : LoginArguments} (hcommand : r.command = .login a) {failure : CommandFailure}
      (hresult : r.result = .error failure) (hsame : r.after path = r.before) : Effect r path c c
  | loggedIn {a : LoginArguments} (hcommand : r.command = .login a) (hresult : r.result = .ok ())
      {workspace : Option Workspace} (hsettles : Settles a r.trace workspace) :
      Effect r path c (c.setCurrent (stored c a workspace))
  | noCurrent (hcommand : r.command = .logout) (hcurrent : c.currentContext = none)
      (hsame : r.after path = r.before) : Effect r path c c
  | loggedOut (hcommand : r.command = .logout) {domain : String}
      (hcurrent : c.currentContext = some domain) : Effect r path c (c.editCurrent forget)

variable {path : String} {r : SessionRun} {c : GlobalConfig} {a : LoginArguments}

@[simp] theorem stored_domain (c : GlobalConfig) (a : LoginArguments)
    (workspace : Option Workspace) :
    (stored c a workspace).domain = a.domain := by
  change ((c.find? a.domain).getD { domain := a.domain }).domain = a.domain
  cases hfind : c.find? a.domain with
  | none => rfl
  | some context => exact domain_of_find? hfind

@[simp] theorem stored_token (c : GlobalConfig) (a : LoginArguments)
    (workspace : Option Workspace) :
    (stored c a workspace).token = a.token := rfl

/-- Whatever a login stores was an argument, came from the platform or was stored before. -/
theorem faithful_stored {workspace : Option Workspace} (hfaithful : c.IsFaithful)
    (hcommand : r.command = .login a) (hreparsable : r.Reparsable)
    (hsettles : Settles a r.trace workspace) :
    ∀ text ∈ (stored c a workspace).texts, Faithful text := by
  have hempty : Faithful "" := by decide
  rw [SessionRun.Reparsable, hcommand] at hreparsable
  obtain ⟨hdomain, htoken, horganization, hworkspace⟩ := hreparsable
  have hold : Faithful (contextFor c a.domain a.token).workspace ∧
      Faithful (contextFor c a.domain a.token).organization := by
    rw [contextFor]
    cases hfind : c.find? a.domain with
    | none => exact ⟨hempty, hempty⟩
    | some context =>
      have hcontext := (isFaithful_iff.mp hfaithful).2 context (List.mem_of_find?_eq_some hfind)
      exact ⟨hcontext _ (by simp [Context.texts]), hcontext _ (by simp [Context.texts])⟩
  have hsettled : Faithful (stored c a workspace).workspace ∧
      Faithful (stored c a workspace).organization := by
    rw [stored, settle]
    cases workspace with
    | none =>
      cases hid : a.organizationId with
      | none => exact hold
      | some id => exact ⟨hold.1, horganization id hid⟩
    | some found =>
      cases hid : a.organizationId with
      | none => exact hworkspace found hsettles
      | some id => exact ⟨(hworkspace found hsettles).1, horganization id hid⟩
  intro text htext
  rw [Context.texts, stored_domain, stored_token] at htext
  simp only [List.mem_cons, List.not_mem_nil, or_false] at htext
  rcases htext with rfl | rfl | rfl | rfl
  · exact hdomain
  · exact htoken
  · exact hsettled.1
  · exact hsettled.2

theorem forget_texts_faithful {context : Context} (h : ∀ text ∈ context.texts, Faithful text) :
    ∀ text ∈ (forget context).texts, Faithful text := by
  have hempty : Faithful "" := by decide
  simp_all [Context.texts, forget]

/-- Every command has one of the effects, and the file holds what comes of it. -/
theorem SessionRun.Sound.effect (hsound : r.Sound path) (hholds : Holds r.before c) :
    ∃ c', Effect r path c c' ∧ Holds (r.after path) c' := by
  obtain ⟨hconsistent, hfaithful, -⟩ := id hholds
  have hruns := hsound.runs
  cases hcommand : r.command with
  | login a =>
    rw [hcommand] at hruns
    rcases login_of_works hsound.file hruns hsound.works hholds with
      ⟨failure, hresult, hsame⟩ | ⟨hresult, workspace, hsettles, hafter⟩
    · refine ⟨c, .failed hcommand hresult hsame, ?_⟩
      rw [SessionRun.after, hsame]
      exact hholds
    · refine ⟨_, .loggedIn hcommand hresult hsettles, hconsistent.setCurrent _, ?_, .inr hafter⟩
      exact hfaithful.setCurrent hconsistent
        (faithful_stored hfaithful hcommand hsound.reparsable hsettles)
  | logout =>
    rw [hcommand] at hruns
    rcases logout_of_works hsound.file hruns hsound.works hholds with
      ⟨hcurrent, hsame⟩ | ⟨hcurrent, hafter⟩
    · refine ⟨c, .noCurrent hcommand hcurrent hsame, ?_⟩
      rw [SessionRun.after, hsame]
      exact hholds
    · obtain ⟨domain, hdomain⟩ := Option.ne_none_iff_exists'.mp hcurrent
      refine ⟨_, .loggedOut hcommand hdomain, hconsistent.editCurrent fun _ => rfl, ?_, .inr hafter⟩
      exact hfaithful.editCurrent hconsistent fun other hother =>
        forget_texts_faithful ((isFaithful_iff.mp hfaithful).2 other hother)

theorem History.holds {runs : List SessionRun} {content : Option String}
    (h : History path runs content) : ∃ c, Holds content c := by
  induction h with
  | start =>
    refine ⟨{}, ⟨List.nodup_nil, ?_⟩, ?_, .inl ⟨rfl, rfl⟩⟩
    · rintro _ ⟨⟩
    · rintro _ ⟨⟩
  | next earlier r hbefore hsound ih =>
    obtain ⟨c, hholds⟩ := ih
    obtain ⟨c', -, hafter⟩ := hsound.effect (hbefore ▸ hholds)
    exact ⟨c', hafter⟩

/-- A login makes its domain's context the current one and changes no other one. The token is the
new one, and what the platform and the arguments leave open stays as it was. -/
structure LoginChange (a : LoginArguments) (trace : List (Exchange machine))
    (c c' : GlobalConfig) : Prop where
  current : c'.currentContext = some a.domain
  others : c'.contexts.filter (·.domain != a.domain) = c.contexts.filter (·.domain != a.domain)
  own : ∃ workspace context, Settles a trace workspace ∧ context = stored c a workspace ∧
    c'.contexts.filter (·.domain == a.domain) = [context] ∧ context.token = a.token ∧
    ∀ old, c.find? a.domain = some old →
      context.systemAdmin = old.systemAdmin ∧
      (workspace = none → context.workspace = old.workspace) ∧
      (workspace = none → a.organizationId = none → context.organization = old.organization)

/-- A logout forgets the token of the current context and changes nothing else. -/
structure LogoutChange (c c' : GlobalConfig) : Prop where
  current : c'.currentContext = c.currentContext
  contexts : c'.contexts = c.contexts.map fun context =>
    if c.currentContext = some context.domain then forget context else context

/-- What a command changes, from the content of the file before it to the content after it. -/
def Lawful (path : String) (r : SessionRun) (c c' : GlobalConfig) : Prop :=
  match r.command with
  | .login a =>
    (r.result ≠ .ok () → r.after path = r.before) ∧
      (r.result = .ok () → LoginChange a r.trace c c')
  | .logout =>
    LogoutChange c c' ∧ (c.currentContext = none → r.after path = r.before)

theorem loginChange_setCurrent (h : c.Consistent) {trace : List (Exchange machine)}
    {workspace : Option Workspace} (hsettles : Settles a trace workspace) :
    LoginChange a trace c (c.setCurrent (stored c a workspace)) where
  current := congrArg some (stored_domain c a workspace)
  others := by
    have hothers := filter_others_setCurrent h (stored c a workspace)
    rwa [stored_domain] at hothers
  own := by
    have hown := filter_own_setCurrent h (stored c a workspace)
    rw [stored_domain] at hown
    refine ⟨workspace, _, hsettles, rfl, hown, rfl, fun old hold => ?_⟩
    rw [stored, contextFor, hold]
    refine ⟨rfl, ?_, ?_⟩
    · rintro rfl
      rfl
    · rintro rfl hnone
      rw [hnone]
      rfl

theorem Effect.lawful {c' : GlobalConfig} (h : Effect r path c c') (hconsistent : c.Consistent) :
    Lawful path r c c' := by
  cases h with
  | failed hcommand hresult hsame =>
    rw [Lawful, hcommand]
    refine ⟨fun _ => hsame, fun hok => ?_⟩
    cases hresult.symm.trans hok
  | loggedIn hcommand hresult hsettles =>
    rw [Lawful, hcommand]
    refine ⟨fun hfails => absurd hresult hfails, fun _ => ?_⟩
    exact loginChange_setCurrent hconsistent hsettles
  | noCurrent hcommand hcurrent hsame =>
    rw [Lawful, hcommand]
    refine ⟨⟨rfl, ?_⟩, fun _ => hsame⟩
    simp [hcurrent]
  | @loggedOut hcommand domain hcurrent =>
    rw [Lawful, hcommand, contexts_editCurrent hconsistent hcurrent]
    refine ⟨⟨rfl, List.map_congr_left fun context _ => ?_⟩, fun hnone => ?_⟩
    · simp only [hcurrent, Option.some.injEq, eq_comm]
    · cases hnone.symm.trans hcurrent

/-- A logout was run while a domain was the current one. -/
def Forgotten (path : String) (runs : List SessionRun) (domain : String) : Prop :=
  ∃ r ∈ runs, r.command = .logout ∧ ∃ c, Loads path r.before c ∧ c.currentContext = some domain

theorem forgotten_cons_iff {runs : List SessionRun} {domain : String}
    (hloads : Loads path r.before c) :
    Forgotten path (r :: runs) domain ↔
      r.command = .logout ∧ c.currentContext = some domain ∨ Forgotten path runs domain := by
  rw [Forgotten, List.exists_mem_cons_iff]
  refine or_congr_left (and_congr_right fun _ => ⟨?_, fun hcurrent => ⟨c, hloads, hcurrent⟩⟩)
  rintro ⟨c', hloads', hcurrent⟩
  rwa [← hloads.unique hloads']

/-- The token of a login is stored, unless a logout has forgotten it since. -/
def KeepsToken (path : String) (later : List SessionRun) (a : LoginArguments) (c : GlobalConfig) :
    Prop :=
  ∃ context, c.find? a.domain = some context ∧
    (Forgotten path later a.domain → context.token = "") ∧
    (¬ Forgotten path later a.domain → context.token = a.token)

theorem KeepsToken.of_login (h : c.Consistent) (workspace : Option Workspace) :
    KeepsToken path [] a (c.setCurrent (stored c a workspace)) := by
  refine ⟨stored c a workspace, ?_, ?_, fun _ => rfl⟩
  · rw [find?_setCurrent h, stored_domain, if_pos rfl]
  · rintro ⟨_, hmem, -⟩
    cases hmem

/-- One more command keeps the token, or it is a logout that forgets it. -/
theorem KeepsToken.step {later : List SessionRun} {c' : GlobalConfig} (hconsistent : c.Consistent)
    (hloads : Loads path r.before c) (heffect : Effect r path c c')
    (hother : ¬ r.LoggedInto a.domain) (h : KeepsToken path later a c) :
    KeepsToken path (r :: later) a c' := by
  obtain ⟨context, hfind, hforgotten, hkept⟩ := h
  rw [KeepsToken, forgotten_cons_iff hloads]
  cases heffect with
  | failed hcommand hresult hsame =>
    refine ⟨context, hfind, ?_⟩
    simpa [hcommand] using ⟨hforgotten, hkept⟩
  | @loggedIn b hcommand hresult workspace hsettles =>
    have hdomain : a.domain ≠ b.domain := fun heq => hother ⟨b, hcommand, heq.symm, hresult⟩
    refine ⟨context, ?_, ?_⟩
    · rw [find?_setCurrent hconsistent, stored_domain, if_neg hdomain, hfind]
    · simpa [hcommand] using ⟨hforgotten, hkept⟩
  | noCurrent hcommand hcurrent hsame =>
    refine ⟨context, hfind, ?_⟩
    simpa [hcurrent] using ⟨hforgotten, hkept⟩
  | @loggedOut hcommand domain hcurrent =>
    have hedited := find?_editCurrent (f := forget) (fun _ => rfl) hconsistent hcurrent a.domain
    rw [hfind, Option.map_some, domain_of_find? hfind] at hedited
    rw [hedited, hcommand, hcurrent]
    by_cases hdomain : a.domain = domain
    · refine ⟨forget context, by rw [if_pos hdomain], fun _ => rfl, fun hnot => ?_⟩
      exact absurd (.inl ⟨rfl, congrArg some hdomain.symm⟩) hnot
    · refine ⟨context, by rw [if_neg hdomain], ?_⟩
      simpa [Ne.symm hdomain] using ⟨hforgotten, hkept⟩

/-- The run of a command goes from what the file holds before it to what the file holds after it. -/
theorem SessionRun.Sound.effect_of_holds {c' : GlobalConfig} (hsound : r.Sound path)
    (hbefore : Holds r.before c) (hafter : Holds (r.after path) c') : Effect r path c c' := by
  obtain ⟨c'', heffect, hholds⟩ := hsound.effect hbefore
  rwa [hholds.unique hafter]

theorem not_loggedInto_of_logout {domain : String} (hcommand : r.command = .logout) :
    ¬ r.LoggedInto domain := by
  rintro ⟨_, hlogin, -⟩
  cases hcommand.symm.trans hlogin

/-- By induction on the history, where the commands after a login come one by one. -/
theorem History.keepsToken {runs : List SessionRun} {content : Option String}
    (h : History path runs content) (hholds : Holds content c) {later earlier : List SessionRun}
    (hsplit : runs = later ++ r :: earlier) (hcommand : r.command = .login a)
    (hresult : r.result = .ok ()) (hlatest : ∀ r' ∈ later, ¬ r'.LoggedInto a.domain) :
    KeepsToken path later a c := by
  induction h generalizing c later with
  | start => simp at hsplit
  | next past last hbefore hsound ih =>
    obtain ⟨before, hpast⟩ := past.holds
    have heffect := hsound.effect_of_holds (hbefore ▸ hpast) hholds
    cases later with
    | nil =>
      obtain ⟨rfl, rfl⟩ := List.cons.inj hsplit
      cases heffect with
      | failed _ hfails _ => cases hresult.symm.trans hfails
      | loggedIn hlogin _ _ =>
        obtain rfl := SessionCommand.login.inj (hlogin.symm.trans hcommand)
        exact .of_login hpast.1 _
      | noCurrent hlogout _ _ => cases hlogout.symm.trans hcommand
      | loggedOut hlogout _ => cases hlogout.symm.trans hcommand
    | cons first later =>
      obtain ⟨rfl, hrest⟩ := List.cons.inj hsplit
      obtain ⟨hother, hlater⟩ := List.forall_mem_cons.mp hlatest
      have hloads : Loads path last.before before := (hbefore ▸ hpast : Holds _ _).loads path
      exact (ih hpast hrest hlater).step hpast.1 hloads heffect hother

theorem Effect.hasContext_iff {c' : GlobalConfig} {domain : String} (h : Effect r path c c')
    (hconsistent : c.Consistent) :
    c'.hasContext domain = true ↔ r.LoggedInto domain ∨ c.hasContext domain = true := by
  cases h with
  | failed hcommand hresult _ =>
    have hnot : ¬ r.LoggedInto domain := by
      rintro ⟨_, -, -, hok⟩
      cases hresult.symm.trans hok
    simp [hnot]
  | @loggedIn b hcommand hresult workspace _ =>
    have hinto : r.LoggedInto domain ↔ domain = b.domain := by
      constructor
      · rintro ⟨a, hlogin, rfl, -⟩
        rw [SessionCommand.login.inj (hlogin.symm.trans hcommand)]
      · rintro rfl
        exact ⟨b, hcommand, rfl, hresult⟩
    rw [hinto, ← not_iff_not, Bool.not_eq_true, ← find?_eq_none_iff, find?_setCurrent hconsistent,
      stored_domain]
    by_cases hdomain : domain = b.domain
    · simp [hdomain]
    · simp [hdomain, find?_eq_none_iff]
  | noCurrent hcommand _ _ => simp [not_loggedInto_of_logout hcommand]
  | loggedOut hcommand hcurrent =>
    have hkeep (other : Context) : (forget other).domain = other.domain := rfl
    rw [contexts_editCurrent hconsistent hcurrent, hasContext_eq_true_iff, map_domain_edit hkeep,
      ← hasContext_eq_true_iff]
    simp [not_loggedInto_of_logout hcommand]

/-- Only domains that a login was made to have a context. -/
theorem History.hasContext_iff {runs : List SessionRun} {content : Option String}
    (h : History path runs content) (hholds : Holds content c) (domain : String) :
    c.hasContext domain = true ↔ ∃ r ∈ runs, r.LoggedInto domain := by
  induction h generalizing c with
  | start =>
    obtain ⟨-, -, ⟨-, rfl⟩ | hsome⟩ := hholds
    · simp [hasContext]
    · cases hsome
  | next past last hbefore hsound ih =>
    obtain ⟨before, hpast⟩ := past.holds
    have heffect := hsound.effect_of_holds (hbefore ▸ hpast) hholds
    rw [List.exists_mem_cons_iff, ← ih hpast, heffect.hasContext_iff hpast.1]

/-- Each command of a history changes what it should. -/
theorem History.lawful {runs : List SessionRun} {content : Option String}
    (h : History path runs content) :
    ∀ r ∈ runs, ∃ c c', Loads path r.before c ∧ Loads path (r.after path) c' ∧
      Lawful path r c c' := by
  induction h with
  | start =>
    rintro _ ⟨⟩
  | next past last hbefore hsound ih =>
    refine List.forall_mem_cons.mpr ⟨?_, ih⟩
    obtain ⟨c, hpast⟩ := past.holds
    subst hbefore
    obtain ⟨c', heffect, hafter⟩ := hsound.effect hpast
    exact ⟨c, c', hpast.loads path, hafter.loads path, heffect.lawful hpast.1⟩

/-- Each command changes what it should and nothing else, and after any history the file can be
loaded. Its contexts are those of the domains that a login was made to, each with the token of the
latest one or, where a logout was run since while the domain was the current one, without any. -/
theorem session_history {runs : List SessionRun} {content : Option String}
    (h : History path runs content) :
    (∀ r ∈ runs, ∃ c c', Loads path r.before c ∧ Loads path (r.after path) c' ∧
      Lawful path r c c') ∧
    ∃ c, Loads path content c ∧ c.Consistent ∧
      (∀ domain, c.hasContext domain = true ↔ ∃ r ∈ runs, r.LoggedInto domain) ∧
      ∀ later r earlier a, runs = later ++ r :: earlier → r.command = .login a →
        r.result = .ok () → (∀ r' ∈ later, ¬ r'.LoggedInto a.domain) →
          KeepsToken path later a c := by
  obtain ⟨c, hholds⟩ := h.holds
  refine ⟨h.lawful, c, hholds.loads path, hholds.1, h.hasContext_iff hholds, ?_⟩
  intro later r earlier a hsplit hcommand hresult hlatest
  exact h.keepsToken hholds hsplit hcommand hresult hlatest

/-- A list of one workspace. -/
def listing : Http.Reply :=
  ⟨200, none, bytes "[\x7b\"id\": \"w\", \"organizationId\": \"o\"\x7d]"⟩

/-- A machine with a configuration file of some content, whose platform has one workspace. -/
def keeping (content : Option String) : (q : Machine.Query) → q.Answer
  | .fileContent _ => reading content
  | .web _ => some listing
  | q => killing q

def homed : Environment := fun name => if name = "HOME" then some "/h" else none

def homedFile : String := "/h/.dagship/config.kdl"

def runOn (content : Option String) (command : SessionCommand) : SessionRun :=
  let run := (perform homed command.subcommand).run.follow (keeping content)
  ⟨homed, command, content, run.1, run.2⟩

def usualLogin : LoginArguments := { domain := "x", token := "t" }

def firstLogin : SessionRun := runOn none (.login usualLogin)

def lastLogout : SessionRun := runOn (firstLogin.after homedFile) .logout

theorem readReply_listing (url : Url) :
    Client.readReply (Json.list? Workspace.ofJson?) url (some listing) = .ok [⟨"w", "", "o"⟩] := by
  have hlisted : (Json.readBytes? listing.body).bind (Json.list? Workspace.ofJson?) =
      some [⟨"w", "", "o"⟩] := by decide +kernel
  have hunderstood : (some listing).bind Http.Reply.understood = some listing := rfl
  have hsuccess : listing.isSuccess = true := rfl
  rw [Client.readReply, hunderstood]
  simp only [hsuccess, hlisted, if_true]

theorem file_homed : GlobalConfig.file homed = .ok homedFile := by decide +kernel

theorem sound_runOn {content : Option String} {command : SessionCommand}
    (hreparsable : (runOn content command).Reparsable)
    (hworks : Works homedFile content (runOn content command).trace) :
    (runOn content command).Sound homedFile where
  file := file_homed
  runs := runs_follow _ _
  works := hworks
  reparsable := hreparsable

theorem sound_firstLogin : firstLogin.Sound homedFile := by
  refine sound_runOn ⟨by decide, by decide, ?_, ?_⟩ (by decide +kernel)
  · rintro _ ⟨⟩
  · rintro workspace ⟨workspaces, ⟨request, reply, hmem, hread⟩, hchoice⟩
    have hreply : reply = some listing := by
      injection answer_of_mem_follow hmem
    rw [hreply, readReply_listing] at hread
    cases hread
    obtain rfl : workspace = _ := Option.some.inj hchoice
    decide

theorem sound_lastLogout : lastLogout.Sound homedFile :=
  sound_runOn trivial (by decide +kernel)

theorem history_lastLogout :
    History homedFile [lastLogout, firstLogin] (lastLogout.after homedFile) :=
  .next (.next .start firstLogin rfl sound_firstLogin) lastLogout rfl sound_lastLogout

/-- The context is still there after the logout, and its token is gone. -/
theorem session_history_lastLogout :
    History homedFile [lastLogout, firstLogin] (lastLogout.after homedFile) ∧
      ∃ c context, Loads homedFile (lastLogout.after homedFile) c ∧
        c.find? usualLogin.domain = some context ∧ context.token = "" := by
  have hloggedIn : firstLogin.result = .ok () := by decide +kernel
  have hlatest : ∀ r ∈ [lastLogout], ¬ r.LoggedInto usualLogin.domain :=
    List.forall_mem_singleton.mpr (not_loggedInto_of_logout rfl)
  obtain ⟨hlawful, c, hloads, -, -, hkeeps⟩ := session_history history_lastLogout
  obtain ⟨context, hfind, hforgotten, -⟩ :=
    hkeeps [lastLogout] firstLogin [] usualLogin rfl rfl hloggedIn hlatest
  obtain ⟨_, between, -, hbetween, hlogin⟩ :=
    hlawful firstLogin (List.mem_of_mem_tail List.mem_cons_self)
  refine ⟨history_lastLogout, c, context, hloads, hfind, hforgotten ?_⟩
  exact ⟨lastLogout, List.mem_cons_self, rfl, between, hbetween, (hlogin.2 hloggedIn).current⟩

end AirflowDeploy.Command
