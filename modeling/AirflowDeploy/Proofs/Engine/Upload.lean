import AirflowDeploy.Engine.Image
import AirflowDeploy.Proofs.Dialogue.Behaviour
import AirflowDeploy.Proofs.Engine.CheckRun

/-!
# Uploads

A push tags the image and then uploads it. It succeeds exactly where the tag was granted and every
message on the upload is good, whatever the messages are that come in, and else it fails with what
went wrong first.
-/
namespace AirflowDeploy.Engine

open Dialogue Machine

/-- A message came in and holds no error. -/
def IsGood (message : Except DaemonError Daemon.Progress) : Prop :=
  ∃ progress : Daemon.Progress, message = .ok progress ∧ progress.error = none

/-- A message is an error, or holds one, with a text. -/
inductive Fails : Except DaemonError Daemon.Progress → String → Prop where
  | lost (error : DaemonError) : Fails (.error error) error.message
  | told (text : String) : Fails (.ok ⟨some text⟩) text

theorem uploadFailure?_eq_none_iff {message : Except DaemonError Daemon.Progress} :
    uploadFailure? message = none ↔ IsGood message := by
  cases message <;> simp [uploadFailure?, IsGood]

theorem uploadFailure?_eq_some_iff {message : Except DaemonError Daemon.Progress} {text : String} :
    uploadFailure? message = some text ↔ Fails message text := by
  constructor
  · intro h
    cases message with
    | error error => exact Option.some.inj h ▸ .lost error
    | ok progress =>
      obtain ⟨told⟩ := progress
      obtain rfl : told = some text := h
      exact .told text
  · rintro (⟨error⟩ | ⟨text⟩) <;> rfl

/-- The first message that fails fails with a text. -/
def FailsFirst (stream : Daemon.ProgressStream) (text : String) : Prop :=
  ∃ before message after, stream = before ++ message :: after ∧
    (∀ earlier ∈ before, IsGood earlier) ∧ Fails message text

theorem uploadOutcome_ok_iff {stream : Daemon.ProgressStream} :
    uploadOutcome stream = .ok () ↔ ∀ message ∈ stream, IsGood message := by
  simp only [← uploadFailure?_eq_none_iff, ← List.findSome?_eq_none_iff, uploadOutcome]
  cases stream.findSome? uploadFailure? <;> simp

theorem uploadOutcome_error_iff {stream : Daemon.ProgressStream} {fault : Fault} :
    uploadOutcome stream = .error fault ↔
      ∃ text, fault = .pushFailed text ∧ FailsFirst stream text := by
  have hfirst {text : String} :
      stream.findSome? uploadFailure? = some text ↔ FailsFirst stream text := by
    simp only [List.findSome?_eq_some_iff, uploadFailure?_eq_some_iff, uploadFailure?_eq_none_iff,
      FailsFirst]
    grind
  simp only [← hfirst, uploadOutcome]
  cases stream.findSome? uploadFailure? <;> simp [eq_comm]

variable {receive : Except DaemonError (List UInt8) → Daemon.ProgressStream} {e : Engine}
  {image repository tag : String} {auth : RegistryAuth} {trace : List (Exchange machine)}
  {result : Except Fault Unit}

/-- What a push fails with whose tag is refused. -/
def tagRefusal (image repository tag : String) (error : DaemonError) : String :=
  "failed to tag " ++ image ++ " as " ++ (repository ++ ":" ++ tag) ++ ": " ++ error.message

/-- The image is tagged, and uploaded if the tag is granted. -/
inductive PushRun (receive : Except DaemonError (List UInt8) → Daemon.ProgressStream) (e : Engine)
    (image : String) (auth : RegistryAuth) (repository tag : String) :
    List (Exchange machine) → Except Fault Unit → Prop where
  | notTagged {tagged : Except String Daemon.Reply} {error : DaemonError}
      (htag : replyBody tagged = .error error) :
      PushRun receive e image auth repository tag [asked e (.tag image repository tag) tagged]
        (.error (.pushFailed (tagRefusal image repository tag error)))
  | uploaded {tagged : Except String Daemon.Reply} {body : List UInt8}
      (htag : replyBody tagged = .ok body) (pushed : Except String Daemon.Reply) :
      PushRun receive e image auth repository tag
        [asked e (.tag image repository tag) tagged, asked e (.push repository tag auth) pushed]
        (uploadOutcome (receive (replyBody pushed)))

theorem pushRun_of_runs
    (h : Runs (pushReceiving receive e image auth repository tag).run trace result) :
    PushRun receive e image auth repository tag trace result := by
  obtain ⟨tagged, ⟨error, htag, rfl, rfl⟩ | ⟨body, _, htag, rfl, hupload⟩⟩ := runs_request_bind h
  · exact .notTagged htag
  · obtain ⟨_, hask, rfl⟩ := runs_map_iff.mp hupload
    obtain ⟨pushed, rfl, rfl⟩ := runs_request_iff.mp hask
    exact .uploaded htag pushed

/-- The upload was asked for, and these are the messages that came in on it. -/
def Receives (receive : Except DaemonError (List UInt8) → Daemon.ProgressStream) (e : Engine)
    (auth : RegistryAuth) (repository tag : String) (trace : List (Exchange machine))
    (stream : Daemon.ProgressStream) : Prop :=
  ∃ pushed, asked e (.push repository tag auth) pushed ∈ trace ∧
    stream = receive (replyBody pushed)

/-- What went wrong first in a push: its tag was refused, or else a message on the upload fails and
those before it are good. -/
inductive FailedFirst (receive : Except DaemonError (List UInt8) → Daemon.ProgressStream)
    (e : Engine) (image : String) (auth : RegistryAuth) (repository tag : String)
    (trace : List (Exchange machine)) : String → Prop where
  | tag {tagged : Except String Daemon.Reply} {error : DaemonError}
      (hasked : asked e (.tag image repository tag) tagged ∈ trace)
      (hrefused : replyBody tagged = .error error) :
      FailedFirst receive e image auth repository tag trace (tagRefusal image repository tag error)
  | upload {stream : Daemon.ProgressStream} {text : String}
      (hgranted : Granted e (.tag image repository tag) trace)
      (hstream : Receives receive e auth repository tag trace stream)
      (hfirst : FailsFirst stream text) :
      FailedFirst receive e image auth repository tag trace text

theorem PushRun.ok_iff (h : PushRun receive e image auth repository tag trace result) :
    result = .ok () ↔ Granted e (.tag image repository tag) trace ∧
      ∃ stream, Receives receive e auth repository tag trace stream ∧
        ∀ message ∈ stream, IsGood message := by
  cases h with
  | notTagged htag =>
    refine iff_of_false (by simp) ?_
    rintro ⟨⟨reply, body, hmem, hreply⟩, -⟩
    obtain rfl : reply = _ := by simpa using hmem
    cases hreply.symm.trans htag
  | uploaded htag pushed =>
    rw [uploadOutcome_ok_iff]
    constructor
    · intro hgood
      exact ⟨⟨_, _, by simp, htag⟩, _, ⟨pushed, by simp, rfl⟩, hgood⟩
    · rintro ⟨-, _, ⟨reply, hmem, rfl⟩, hgood⟩
      obtain rfl : reply = pushed := by simpa using hmem
      exact hgood

theorem PushRun.failedFirst (h : PushRun receive e image auth repository tag trace result)
    (hfailed : result ≠ .ok ()) :
    ∃ text, result = .error (.pushFailed text) ∧
      FailedFirst receive e image auth repository tag trace text := by
  cases h with
  | notTagged htag => exact ⟨_, rfl, .tag (by simp) htag⟩
  | uploaded htag pushed =>
    cases houtcome : uploadOutcome (receive (replyBody pushed)) with
    | ok _ => exact absurd houtcome hfailed
    | error fault =>
      obtain ⟨text, rfl, hfirst⟩ := uploadOutcome_error_iff.mp houtcome
      exact ⟨text, rfl, .upload ⟨_, _, by simp, htag⟩ ⟨pushed, by simp, rfl⟩ hfirst⟩

/-- Before an upload is asked for, the tag has been granted. -/
theorem PushRun.granted_before (h : PushRun receive e image auth repository tag trace result)
    {before after : List (Exchange machine)} {reply : Except String Daemon.Reply}
    (hsplit : trace = before ++ asked e (.push repository tag auth) reply :: after) :
    Granted e (.tag image repository tag) before := by
  cases h with
  | notTagged htag =>
    obtain ⟨-, hpush, -⟩ := append_cons_eq_singleton.mp hsplit.symm
    simp at hpush
  | uploaded htag pushed =>
    cases before with
    | nil => simp at hsplit
    | cons first before =>
      obtain ⟨rfl, -⟩ := List.cons.inj hsplit
      exact ⟨_, _, List.mem_cons_self, htag⟩

/-- Whatever the daemon answers, and whichever messages are received for its answer to the upload,
a push succeeds exactly if its tag was granted and every message is good. Else it fails with what
went wrong first. The upload is asked for only after the tag has been granted. -/
theorem push_ok_iff_uploaded
    (receive : Except DaemonError (List UInt8) → Daemon.ProgressStream) (e : Engine)
    (image : String) (auth : RegistryAuth) (repository tag : String) (b : Behaviour machine) :
    let run := (pushReceiving receive e image auth repository tag).run.respond b []
    (run.2 = .ok () ↔ Granted e (.tag image repository tag) run.1 ∧
      ∃ stream, Receives receive e auth repository tag run.1 stream ∧
        ∀ message ∈ stream, IsGood message) ∧
    (run.2 ≠ .ok () → ∃ text, run.2 = .error (.pushFailed text) ∧
      FailedFirst receive e image auth repository tag run.1 text) ∧
    (∀ before reply after, run.1 = before ++ asked e (.push repository tag auth) reply :: after →
      Granted e (.tag image repository tag) before) := by
  intro run
  have hpush := pushRun_of_runs
    (runs_respond b [] (pushReceiving receive e image auth repository tag).run)
  exact ⟨hpush.ok_iff, hpush.failedFirst, fun _ _ _ => hpush.granted_before⟩

end AirflowDeploy.Engine
