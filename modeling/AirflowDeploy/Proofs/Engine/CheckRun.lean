import AirflowDeploy.Proofs.Engine.Streams
import AirflowDeploy.Proofs.Machine.Runs

/-!
# Runs of check containers

Which requests a check makes of the daemon, in which order, and what its result is told from. A
container that was created is removed at the end, whatever happened to it.
-/
namespace AirflowDeploy

open Dialogue Machine

namespace Engine

variable {e : Engine} {name : String} {spec : Daemon.ContainerSpec}
  {trace : List (Exchange machine)} {result : Except Fault CheckResult} {code : Int}

/-- A request with the daemon's reply. -/
def asked (e : Engine) (r : Daemon.Request) (reply : Except String Daemon.Reply) :
    Exchange machine := ⟨.daemon e.socket r, reply⟩

@[simp] theorem asked_inj {r r' : Daemon.Request} {reply reply' : Except String Daemon.Reply} :
    asked e r reply = asked e r' reply' ↔ r = r' ∧ reply = reply' := by
  constructor
  · intro h
    cases h
    exact ⟨rfl, rfl⟩
  · rintro ⟨rfl, rfl⟩
    rfl

/-- The requests of the daemon in a trace. -/
def requests (e : Engine) (trace : List (Exchange machine)) : List Daemon.Request :=
  trace.filterMap fun exchange =>
    match exchange.query with
    | .daemon socket r => if socket = e.socket then some r else none
    | _ => none

theorem asked_mem_follow {α : Type} {answer : (q : Query) → q.Answer} {d : Dialogue machine α}
    {r : Daemon.Request} (h : r ∈ e.requests (d.follow answer).1) :
    asked e r (answer (.daemon e.socket r)) ∈ (d.follow answer).1 := by
  obtain ⟨exchange, hmem, hr⟩ := List.mem_filterMap.mp h
  rw [answer_of_mem_follow hmem] at hmem
  split at hr
  · next socket r' hquery =>
    split at hr
    · next hsocket =>
      obtain rfl := Option.some.inj hr
      rwa [hquery, hsocket] at hmem
    · cases hr
  · cases hr

/-- The body of a reply that came and is no refusal. -/
def replyBody (reply : Except String Daemon.Reply) : Except DaemonError (List UInt8) :=
  (reply.mapError .unreachable).bind DaemonError.bodyOf

/-- A request was made, and its reply is no refusal. -/
def Granted (e : Engine) (r : Daemon.Request) (trace : List (Exchange machine)) : Prop :=
  ∃ reply body, asked e r reply ∈ trace ∧ replyBody reply = .ok body

/-- The text of the log in a reply. -/
def loggedText (reply : Except String Daemon.Reply) : Except DaemonError String :=
  (replyBody reply).bind Daemon.logText

theorem runs_request_iff {r : Daemon.Request} {body : Except DaemonError (List UInt8)} :
    Runs (e.request r) trace body ↔
      ∃ reply, trace = [asked e r reply] ∧ body = replyBody reply := by
  rw [request, runs_map_iff]
  constructor
  · rintro ⟨reply, hask, rfl⟩
    exact ⟨reply, runs_query_iff.mp hask, rfl⟩
  · rintro ⟨reply, rfl, rfl⟩
    exact ⟨reply, runs_query_iff.mpr rfl, rfl⟩

/-- A fault in the work with a container. -/
def containerFault (what : String) (error : DaemonError) : Fault :=
  .executionFailed (what ++ ": " ++ error.message)

/-- A container is started, waited for and its log is read, up to the first failure. -/
inductive Execution (e : Engine) (name : String) :
    List (Exchange machine) → Except Fault CheckResult → Prop where
  | notStarted {started : Except String Daemon.Reply} {error : DaemonError}
      (hstart : replyBody started = .error error) :
      Execution e name [asked e (.start name) started]
        (.error (containerFault "Failed to start container" error))
  | notAwaited {started waited : Except String Daemon.Reply} {body : List UInt8}
      {error : DaemonError} (hstart : replyBody started = .ok body)
      (hwait : replyBody waited = .error error) :
      Execution e name [asked e (.start name) started, asked e (.wait name) waited]
        (.error (containerFault "Failed waiting for container" error))
  | untold {started waited : Except String Daemon.Reply} {body status : List UInt8} {fault : Fault}
      (hstart : replyBody started = .ok body) (hwait : replyBody waited = .ok status)
      (hcode : exitCodeIn status = .error fault) :
      Execution e name [asked e (.start name) started, asked e (.wait name) waited] (.error fault)
  | ended {started waited : Except String Daemon.Reply} {body status : List UInt8} {code : Int}
      (hstart : replyBody started = .ok body) (hwait : replyBody waited = .ok status)
      (hcode : exitCodeIn status = .ok code) (logged : Except String Daemon.Reply) :
      Execution e name
        [asked e (.start name) started, asked e (.wait name) waited, asked e (.logs name) logged]
        (((loggedText logged).mapError (containerFault "Failed to read logs")).map
          fun output => ⟨code, output⟩)

/-- One request of an action: it ends the action, or its body goes on. -/
theorem runs_request_bind {α : Type} {r : Daemon.Request} {f : DaemonError → Fault}
    {next : List UInt8 → Action Fault α} {result : Except Fault α}
    (h : Runs (expect f (e.request r) >>= next).run trace result) :
    ∃ reply, (∃ error, replyBody reply = .error error ∧ trace = [asked e r reply] ∧
        result = .error (f error)) ∨
      ∃ body rest, replyBody reply = .ok body ∧ trace = asked e r reply :: rest ∧
        Runs (next body).run rest result := by
  rcases runs_run_bind_iff.mp h with ⟨_, body, rest, rfl, hask, hnext⟩ | ⟨fault, hask, rfl⟩
  · obtain ⟨answer, hrun, hanswer⟩ := runs_expect_iff.mp hask
    obtain ⟨reply, rfl, rfl⟩ := runs_request_iff.mp hrun
    exact ⟨reply, .inr ⟨body, rest, mapError_eq_ok_iff.mp hanswer.symm, rfl, hnext⟩⟩
  · obtain ⟨answer, hrun, hanswer⟩ := runs_expect_iff.mp hask
    obtain ⟨reply, rfl, rfl⟩ := runs_request_iff.mp hrun
    refine ⟨reply, .inl ?_⟩
    cases hbody : replyBody reply with
    | ok body =>
      rw [hbody] at hanswer
      cases hanswer
    | error error =>
      rw [hbody] at hanswer
      cases hanswer
      exact ⟨error, rfl, rfl, rfl⟩

theorem execution_of_runs (h : Runs (startAndWait e name).run trace result) :
    Execution e name trace result := by
  unfold startAndWait at h
  obtain ⟨started, ⟨error, hstart, rfl, rfl⟩ | ⟨body, _, hstart, rfl, hafter⟩⟩ :=
    runs_request_bind h
  · exact .notStarted hstart
  obtain ⟨waited, ⟨error, hwait, rfl, rfl⟩ | ⟨status, _, hwait, rfl, hended⟩⟩ :=
    runs_request_bind hafter
  · exact .notAwaited hstart hwait
  rcases runs_run_bind_iff.mp hended with ⟨_, code, _, rfl, htold, hlast⟩ | ⟨fault, htold, rfl⟩
  · obtain ⟨rfl, hcode⟩ := runs_run_ofExcept_iff.mp htold
    rw [bind_pure_comp] at hlast
    obtain ⟨_, hread, rfl⟩ := runs_run_map_iff.mp hlast
    obtain ⟨_, hlogs, rfl⟩ := runs_expect_iff.mp hread
    obtain ⟨_, hask, rfl⟩ := runs_map_iff.mp hlogs
    obtain ⟨logged, rfl, rfl⟩ := runs_request_iff.mp hask
    exact .ended hstart hwait hcode.symm logged
  · obtain ⟨rfl, hcode⟩ := runs_run_ofExcept_iff.mp htold
    exact .untold hstart hwait hcode.symm

/-- A container is made, worked with and removed, whatever the work has come to. Where none was
made, there is nothing to remove. -/
inductive CheckRun (e : Engine) (name : String) (spec : Daemon.ContainerSpec) :
    List (Exchange machine) → Except Fault CheckResult → Prop where
  | notCreated {created : Except String Daemon.Reply} {error : DaemonError}
      (hcreate : replyBody created = .error error) :
      CheckRun e name spec [asked e (.create name spec) created]
        (.error (containerFault "Failed to create container" error))
  | executed {created : Except String Daemon.Reply} {body : List UInt8}
      {work : List (Exchange machine)} {result : Except Fault CheckResult}
      (hcreate : replyBody created = .ok body) (hwork : Execution e name work result)
      (removed : Except String Daemon.Reply) :
      CheckRun e name spec
        (asked e (.create name spec) created :: work ++ [asked e (.remove name) removed]) result

theorem checkRun_of_runs {setup : Check.Setup} {check image : String} {command : List String}
    (h : Runs (e.runCheck setup check image command).run trace result) :
    CheckRun e (Check.containerName check setup.runId) (containerSpec setup image command) trace
      result := by
  unfold runCheck at h
  obtain ⟨created, ⟨error, hcreate, rfl, rfl⟩ | ⟨body, _, hcreate, rfl, hrest⟩⟩ :=
    runs_request_bind h
  · exact .notCreated hcreate
  obtain ⟨work, worked, _, rfl, hwork, hremove⟩ := runs_bind_iff.mp hrest
  obtain ⟨removal, _, last, rfl, hask, hdone⟩ := runs_bind_iff.mp hremove
  obtain ⟨rfl, rfl⟩ := runs_done_iff.mp hdone
  obtain ⟨removed, rfl, -⟩ := runs_request_iff.mp hask
  exact .executed hcreate (execution_of_runs hwork) removed

/-- The daemon has told the exit code of a container that was waited for. -/
def Exited (e : Engine) (name : String) (code : Int) (trace : List (Exchange machine)) : Prop :=
  ∃ reply status, asked e (.wait name) reply ∈ trace ∧ replyBody reply = .ok status ∧
    exitCodeIn status = .ok code

/-- What is told is the status in the first value that the daemon sends. -/
theorem exited_iff : Exited e name code trace ↔
    ∃ reply body, asked e (.wait name) reply ∈ trace ∧ replyBody reply = .ok body ∧
      TellsExit body code := by
  simp only [Exited, exitCodeIn_eq_ok_iff]

/-- A container whose exit code is told has been started, and its log was asked for. -/
theorem CheckRun.of_exited (h : CheckRun e name spec trace result)
    (hexit : Exited e name code trace) :
    ∃ logged, asked e (.logs name) logged ∈ trace ∧
      result = ((loggedText logged).mapError (containerFault "Failed to read logs")).map
        fun output => ⟨code, output⟩ := by
  obtain ⟨reply, status, hmem, hreply, hcode⟩ := hexit
  cases h with
  | notCreated hcreate => simp at hmem
  | executed hcreate hwork removed =>
    cases hwork with
    | notStarted hstart => simp at hmem
    | notAwaited hstart hwait =>
      obtain rfl : reply = _ := by simpa using hmem
      cases hreply.symm.trans hwait
    | untold hstart hwait huntold =>
      obtain rfl : reply = _ := by simpa using hmem
      cases hreply.symm.trans hwait
      cases hcode.symm.trans huntold
    | ended hstart hwait htold logged =>
      obtain rfl : reply = _ := by simpa using hmem
      cases hreply.symm.trans hwait
      cases hcode.symm.trans htold
      exact ⟨logged, by simp, rfl⟩

end Engine

end AirflowDeploy
