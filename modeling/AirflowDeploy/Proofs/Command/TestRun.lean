import AirflowDeploy.Command.Session
import AirflowDeploy.Proofs.Deploy.TestVerdict
import AirflowDeploy.Proofs.Dialogue.Asks
import AirflowDeploy.Proofs.Dialogue.Through
import AirflowDeploy.Proofs.Engine.CheckRun

/-!
# Tests in a container

What the check of the tests makes of a container of the engine. The log decides: the exit code
that the daemon tells has no part in the verdict, also where the container was killed.
-/
namespace AirflowDeploy

open Dialogue Machine

namespace Command

open Engine Check Deploy Deploy.Action

variable {s : Services} {setup : Setup} {file : Option String} {image : String}
  {trace : List (Exchange machine)} {result : Except DeployError Unit}

/-- The questions of the check of the tests: it writes, and it runs the tests. -/
def TestQuery (setup : Setup) (file : Option String) (image : String) (q : Deploy.Query) : Prop :=
  (∃ text, q = .write text) ∨ q = .pytest setup file image

theorem asks_checkPytest (setup : Setup) (file : Option String) (image : String) :
    (checkPytest setup file image).run.Asks (TestQuery setup file image) := by
  have hsay (text : String) : (say text).run.Asks (TestQuery setup file image) := by
    unfold say
    split
    · trivial
    · exact .map _ (.query (.inl ⟨text, rfl⟩))
  rw [checkPytest_eq]
  refine .run_bind (hsay _) fun _ => .run_bind (.map _ (.map _ (.query (.inr rfl)))) fun output =>
    .run_bind (hsay output) fun _ => ?_
  split <;> trivial

/-- A run of the tests in a container whose exit code is told answers with its log. -/
theorem pytest_of_exited {e : Engine} {code : Int} {answer : Except Fault String}
    (h : Runs (e.pytest setup file image).run trace answer)
    (hexit : Exited e (containerName "pytest" setup.runId) code trace) :
    ∃ logged, asked e (.logs (containerName "pytest" setup.runId)) logged ∈ trace ∧
      answer = (loggedText logged).mapError (containerFault "Failed to read logs") := by
  unfold Engine.pytest at h
  rw [bind_pure_comp] at h
  obtain ⟨checked, hcheck, rfl⟩ := runs_run_map_iff.mp h
  obtain ⟨logged, hmem, rfl⟩ := (checkRun_of_runs hcheck).of_exited hexit
  refine ⟨logged, hmem, ?_⟩
  cases loggedText logged <;> rfl

/-- Some text could not be written, and the result tells so. -/
def OutputFailed (trace : List (Exchange machine)) (result : Except DeployError Unit) : Prop :=
  ∃ text fault, ⟨.write text, .error fault⟩ ∈ trace ∧ result = .error (.output fault)

theorem OutputFailed.ne_ok (h : OutputFailed trace result) : result ≠ .ok () := by
  obtain ⟨_, _, _, rfl⟩ := h
  simp

/-- Where the exit code of the tests' container is told, the verdict is still the one on its log,
unless something cannot be written. -/
theorem checkPytest_on_log {code : Int}
    (h : Runs (s.perform (checkPytest setup file image).run) trace result)
    (hexit : Exited s.engine (containerName "pytest" setup.runId) code trace) :
    ∃ logged, asked s.engine (.logs (containerName "pytest" setup.runId)) logged ∈ trace ∧
      (OutputFailed trace result ∨
        result = answerVerdict
          ((loggedText logged).mapError (containerFault "Failed to read logs"))) := by
  obtain ⟨outer, hcheck, hrealizes⟩ := runs_through_iff.mp h
  obtain ⟨reply, status, hmem, hreply, hcode⟩ := hexit
  obtain ⟨⟨q, answer⟩, houter, first, hrun, hwait, hsub⟩ := hrealizes.exists_run_of_mem hmem
  rcases (asks_checkPytest setup file image).of_mem hcheck houter with ⟨text, rfl⟩ | rfl
  · obtain rfl := runs_query_iff.mp hrun
    cases List.mem_singleton.mp hwait
  · obtain ⟨logged, hlog, rfl⟩ := pytest_of_exited hrun ⟨reply, status, hwait, hreply, hcode⟩
    refine ⟨logged, hsub hlog, ?_⟩
    rcases ends_checkPytest_of_answer hcheck houter with ⟨text, fault, hwrite, hresult⟩ | hresult
    · obtain ⟨part, hpart, hpartsub⟩ := hrealizes.exists_run hwrite
      obtain rfl := runs_query_iff.mp hpart
      exact .inl ⟨text, fault, hpartsub List.mem_cons_self, hresult⟩
    · exact .inr hresult

theorem answerVerdict_ok_iff {output : String} :
    answerVerdict (.ok output) = .ok () ↔ (classify output).isFailed = false := by
  change outputVerdict output = .ok () ↔ _
  rw [outputVerdict]
  cases (classify output).isFailed <;> simp

/-- A log that cannot be read never passes, even where the reason looks like an output. -/
theorem answerVerdict_containerFault_ne (what : String) (error : DaemonError) :
    answerVerdict (.error (containerFault what error)) ≠ .ok () := by
  rw [answerVerdict, containerFault, testOutput]
  by_cases hfailed : (classify (what ++ ": " ++ error.message)).isFailed
  · simp [hfailed, outputVerdict]
  · simp [hfailed]

/-- Where the daemon tells how the tests' container has exited, the check fails exactly if
something cannot be written, the log cannot be read or the log tells a failure. The exit code has
no part in it. -/
theorem checkPytest_of_exited {code : Int}
    (h : Runs (s.perform (checkPytest setup file image).run) trace result)
    (hexit : Exited s.engine (containerName "pytest" setup.runId) code trace) :
    ∃ logged, asked s.engine (.logs (containerName "pytest" setup.runId)) logged ∈ trace ∧
      (result ≠ .ok () ↔ OutputFailed trace result ∨
        ∀ output, loggedText logged = .ok output → (classify output).isFailed = true) := by
  obtain ⟨logged, hlog, hresult⟩ := checkPytest_on_log h hexit
  refine ⟨logged, hlog, ?_⟩
  rcases hresult with hfailed | hverdict
  · simp [hfailed, hfailed.ne_ok]
  · cases hread : loggedText logged with
    | ok output =>
      rw [hread] at hverdict
      have hok : result = .ok () ↔ (classify output).isFailed = false :=
        hverdict ▸ answerVerdict_ok_iff
      rw [Ne, hok, Bool.not_eq_false]
      constructor
      · intro hmarked
        exact .inr fun _ houtput => Except.ok.inj houtput ▸ hmarked
      · rintro (hfailed | hmarked)
        · simpa [hok] using hfailed.ne_ok
        · exact hmarked output rfl
    | error error =>
      rw [hread] at hverdict
      have hne : result ≠ .ok () := hverdict ▸ answerVerdict_containerFault_ne _ error
      simp [hne]

def bytes (text : String) : List UInt8 := Text.Utf8.encode text.toList

/-- A record that is a workspace, a deployment, a release and an image. -/
def manyRecord : String :=
  "\x7b\"id\": \"w\", \"releaseName\": \"r\", \"version\": \"5.0.0\", " ++
    "\"runtimeRelease\": \x7b\"version\": \"5.0.0\"\x7d\x7d"

/-- A machine whose daemon kills each container once it has written a line. Everything else goes
well. -/
def killing : (q : Machine.Query) → q.Answer
  | .web request =>
    some ⟨200, none, bytes (if request.body.isSome then manyRecord else "[" ++ manyRecord ++ "]")⟩
  | .daemon _ (.wait _) => .ok ⟨200, bytes "\x7b\"StatusCode\": 137\x7d"⟩
  | .daemon _ (.logs _) => .ok ⟨200, Daemon.LogFrame.encode ⟨.stdout, bytes "collected 2 items\n"⟩⟩
  | .daemon _ (.inspect _) => .ok ⟨200, bytes "\x7b\x7d"⟩
  | .daemon _ _ => .ok ⟨200, []⟩
  | .process _ _ _ => .ok ⟨[], .code 0⟩
  | .fileContent _ => .ok (bytes "FROM r:5.0.0")
  | .pathExists _ | .isFile _ => true
  | .absolutePath path => .ok path
  | .makeDirectory _ | .writeFile _ _ | .restrictFile _ => .ok ()
  | .write _ | .writeError _ | .flush => .ok ()
  | .readLine => .ok "\n"
  | .now => .ofSeconds 0
  | .freshRunId => ⟨0⟩

def killingServices : Services where
  client := ⟨⟨true, [], "api.x".toList, none, ["v1".toList, []], none, none⟩, "t"⟩
  environment := fun _ => none

def testedOptions : Options := { path := "/p", deploymentId := some "w", mode := .pytest none }

def killingSetup : Setup := ⟨"/p", [], ⟨0⟩⟩

def killedCheck : List (Exchange machine) × Except DeployError Unit :=
  (killingServices.perform (checkPytest killingSetup none "img").run).follow killing

def killedDeploy : List (Exchange machine) × Except DeployError Report :=
  (killingServices.perform (Deploy.deploy (some willingContext) testedOptions)).follow killing

theorem runs_killedCheck :
    Runs (killingServices.perform (checkPytest killingSetup none "img").run) killedCheck.1
      killedCheck.2 := runs_follow _ _

theorem exited_killing {α : Type} {d : Dialogue machine α} {e : Engine} {name : String}
    (h : .wait name ∈ e.requests (d.follow killing).1) :
    Exited e name 137 (d.follow killing).1 :=
  ⟨_, bytes "\x7b\"StatusCode\": 137\x7d", asked_mem_follow h, rfl, by decide +kernel⟩

theorem exited_killedCheck :
    Exited killingServices.engine (containerName "pytest" killingSetup.runId) 137 killedCheck.1 :=
  exited_killing (by decide +kernel)

theorem killedCheck_of_exited :
    ∃ logged,
      asked killingServices.engine (.logs (containerName "pytest" killingSetup.runId)) logged ∈
        killedCheck.1 ∧
      (killedCheck.2 ≠ .ok () ↔ OutputFailed killedCheck.1 killedCheck.2 ∨
        ∀ output, loggedText logged = .ok output → (classify output).isFailed = true) :=
  checkPytest_of_exited runs_killedCheck exited_killedCheck

/-- The tests' container is killed, the check passes and the image is pushed. -/
theorem killedDeploy_pushes :
    (Runs (killingServices.perform (checkPytest killingSetup none "img").run) killedCheck.1
        (.ok ()) ∧
      Exited killingServices.engine (containerName "pytest" killingSetup.runId) 137 killedCheck.1) ∧
    Runs (killingServices.perform (Deploy.deploy (some willingContext) testedOptions))
        killedDeploy.1 killedDeploy.2 ∧
      Exited killingServices.engine (containerName "pytest" killingSetup.runId) 137 killedDeploy.1 ∧
      ∃ repository tag auth, .push repository tag auth ∈
        killingServices.engine.requests killedDeploy.1 := by
  have hpasses : killedCheck.2 = .ok () := by decide +kernel
  have hrequests : .wait (containerName "pytest" killingSetup.runId) ∈
        killingServices.engine.requests killedDeploy.1 ∧
      .push "images.x/r" "deploy-1970-01-01T00-00" ⟨"images.x", "cli", "t"⟩ ∈
        killingServices.engine.requests killedDeploy.1 := by
    decide +kernel
  exact ⟨⟨hpasses ▸ runs_killedCheck, exited_killedCheck⟩, runs_follow _ _,
    exited_killing hrequests.1, _, _, _, hrequests.2⟩

end Command

end AirflowDeploy
