import AirflowDeploy.Proofs.Deploy.CallOrder
import AirflowDeploy.Proofs.Deploy.Stages

/-!
# The check gate

Nothing is pushed unless the check that the mode asks for has passed on the very image that is
pushed, as the last call before the push. After a failed check nothing is pushed or registered.
-/
namespace AirflowDeploy.Deploy

open Dialogue Deploy.Action

variable {trace : List (Exchange outside)} {setup : Check.Setup} {image version : String}

/-- The exchange `e` is the last call of a trace. -/
def LastCall (e : Exchange outside) (trace : List (Exchange outside)) : Prop :=
  ∃ start quiet, trace = start ++ e :: quiet ∧ calls quiet = []

/-- The exchange `e` is the only call of a trace. -/
def SoleCall (e : Exchange outside) (trace : List (Exchange outside)) : Prop :=
  ∃ start quiet, trace = start ++ e :: quiet ∧ calls start = [] ∧ calls quiet = []

theorem eq_nil_of_mem_calls {e : Exchange outside} (h : calls trace = []) (he : e ∈ trace) :
    Query.call? e.query = none := by
  cases hc : Query.call? e.query with
  | none => rfl
  | some c =>
    have hmem := mem_calls_of_mem he hc
    simp [h] at hmem

theorem SoleCall.eq_of_mem {e e' : Exchange outside} (h : SoleCall e trace) (he : e' ∈ trace)
    (hc : Query.call? e'.query ≠ none) : e' = e := by
  obtain ⟨start, quiet, rfl, hstart, hquiet⟩ := h
  rcases List.mem_append.mp he with he | he
  · exact absurd (eq_nil_of_mem_calls hstart he) hc
  · rcases List.mem_cons.mp he with rfl | he
    · rfl
    · exact absurd (eq_nil_of_mem_calls hquiet he) hc

theorem SoleCall.lastCall {e : Exchange outside} {first quiet : List (Exchange outside)}
    (h : SoleCall e trace) (hq : calls quiet = []) : LastCall e (first ++ trace ++ quiet) := by
  obtain ⟨start, rest, rfl, _, hrest⟩ := h
  exact ⟨first ++ start, rest ++ quiet, by simp, by simp [hrest, hq]⟩

/-- A check that has let the image pass, with the calls that it has made. -/
def PassedIn (mode : Mode) (setup : Check.Setup) (image version : String)
    (trace : List (Exchange outside)) : Prop :=
  match mode with
  | .unchecked => calls trace = []
  | .parse => Version.compareTexts version "4.1.0" = .lt ∧ calls trace = [] ∨
      SoleCall ⟨.parse setup image, .ok ()⟩ trace
  | .pytest file => ∃ output : String, SoleCall ⟨.pytest setup file image, .ok output⟩ trace ∧
      (Check.classify output).isFailed = false

theorem ends_checkParse_ok (h : Ends (checkParse setup image version) trace (.ok ())) :
    PassedIn .parse setup image version trace := by
  rw [checkParse_eq] at h
  split at h
  · next hold =>
    have hlt : Version.compareTexts version "4.1.0" = .lt := by
      simpa [isTooOldToParse, parseMinimum] using hold
    exact .inl ⟨hlt, (Follows.sayLine _).calls_eq_nil h⟩
  · obtain ⟨start, ⟨⟩, _, rfl, hstart, h⟩ := ends_bind_ok_iff.mp h
    obtain ⟨parse, answer, quiet, rfl, hparse, h⟩ := ends_bind_ok_iff.mp h
    obtain ⟨_, hd, ha⟩ := ends_lift_iff.mp hparse
    obtain rfl := Except.ok.inj ha
    have hquiet := (follows_tellParse answer).calls_eq_nil h
    cases answer with
    | error fault =>
      obtain ⟨_, herror, _⟩ := surfaced_of_tellParse setup image h
      cases herror
    | ok _ =>
      rw [runs_query_iff.mp hd]
      exact .inr ⟨start, quiet, rfl, (Follows.sayLine _).calls_eq_nil hstart, hquiet⟩

theorem isFailed_eq_false_of_tellOutput {output : String}
    (h : Ends (tellOutput output) trace (.ok ())) : (Check.classify output).isFailed = false := by
  obtain ⟨_, ⟨⟩, _, _, _, hlast⟩ := ends_bind_ok_iff.mp h
  split at hlast
  · cases (ends_throw_iff.mp hlast).2
  · next hpassed => simpa using hpassed

theorem ends_checkPytest_ok {file : Option String}
    (h : Ends (checkPytest setup file image) trace (.ok ())) :
    PassedIn (.pytest file) setup image version trace := by
  rw [checkPytest_eq] at h
  obtain ⟨start, ⟨⟩, _, rfl, hstart, h⟩ := ends_bind_ok_iff.mp h
  obtain ⟨pytest, output, quiet, rfl, hpytest, htell⟩ := ends_bind_ok_iff.mp h
  obtain ⟨answer, hd, ho⟩ := runs_map_iff.mp (ends_expect_ok_iff.mp hpytest)
  have hpassed := isFailed_eq_false_of_tellOutput htell
  have hquiet := (follows_tellOutput output).calls_eq_nil htell
  cases answer with
  | ok told =>
    obtain rfl : output = told := Except.ok.inj ho
    rw [runs_query_iff.mp hd]
    exact ⟨output, ⟨start, quiet, rfl, (Follows.sayLine _).calls_eq_nil hstart, hquiet⟩, hpassed⟩
  | error fault =>
    -- A fault is told as an output only if that output tells a failure.
    have hfailed := (testOutput_error_eq_ok_iff.mp ho.symm).2
    simp [hpassed] at hfailed

theorem ends_runCheck_ok {mode : Mode}
    (h : Ends (runCheck mode setup image version) trace (.ok ())) :
    PassedIn mode setup image version trace := by
  cases mode with
  | unchecked => exact (Follows.pure ()).calls_eq_nil h
  | parse => exact ends_checkParse_ok h
  | pytest file => exact ends_checkPytest_ok h

/-- The stage has prepared the check that has let the image pass, if there is one to make. -/
theorem ends_validate_ok {t : Target} {options : Options}
    (h : Ends (validate t options version) trace (.ok ())) :
    options.mode = .unchecked ∧ trace = [] ∨
      ∃ setup checking, PassedIn options.mode setup t.image version checking ∧
        trace = ⟨.prepareChecks (t.buildContext options), .ok setup⟩ :: checking ++
          [⟨.enter .validated t.deployment.id, ()⟩] := by
  unfold validate at h
  split at h
  · next hmode => exact .inl ⟨hmode, (ends_pure_iff.mp h).1⟩
  · obtain ⟨prepare, setup, _, rfl, hprepare, h⟩ := ends_bind_ok_iff.mp h
    obtain ⟨checking, ⟨⟩, last, rfl, hchecking, hlast⟩ := ends_bind_ok_iff.mp h
    refine .inr ⟨setup, checking, ends_runCheck_ok hchecking, ?_⟩
    rw [runs_query_iff.mp (ends_expect_ok_iff.mp hprepare), (ends_enter_iff.mp hlast).1]
    simp

/-- A check that did not let the image pass: a fault, or an output that tells a failure. -/
def CheckFailed : Exchange outside → Prop
  | ⟨.prepareChecks _, answer⟩ => ∃ fault, answer = .error fault
  | ⟨.parse _ _, answer⟩ => ∃ fault, answer = .error fault
  | ⟨.pytest _ _ _, answer⟩ => match answer with
    | .error _ => True
    | .ok output => (Check.classify output).isFailed = true
  | _ => False

/-- The calls of the stage of the checks. -/
def checkCalls : List Call := [.prepareChecks, .parse, .pytest]

theorem CheckFailed.call {e : Exchange outside} (h : CheckFailed e) :
    ∃ c ∈ checkCalls, Query.call? e.query = some c := by
  obtain ⟨q, answer⟩ := e
  cases q with
  | prepareChecks | parse | pytest => simp [Query.call?, checkCalls]
  | _ => exact absurd h id

theorem PassedIn.not_checkFailed {mode : Mode} (h : PassedIn mode setup image version trace)
    {e : Exchange outside} (he : e ∈ trace) : ¬ CheckFailed e := by
  intro hfailed
  obtain ⟨c, _, hc⟩ := hfailed.call
  have hcall : Query.call? e.query ≠ none := by simp [hc]
  cases mode with
  | unchecked => exact hcall (eq_nil_of_mem_calls h he)
  | parse =>
    rcases h with ⟨_, h⟩ | h
    · exact hcall (eq_nil_of_mem_calls h he)
    · obtain rfl := h.eq_of_mem he hcall
      obtain ⟨fault, hfault⟩ := hfailed
      cases hfault
  | pytest file =>
    obtain ⟨output, h, hpassed⟩ := h
    obtain rfl := h.eq_of_mem he hcall
    exact absurd (hpassed.symm.trans hfailed) (by decide)

/-- The stage of the checks succeeds only without a failed check. -/
theorem not_checkFailed_of_validate {t : Target} {options : Options}
    (h : Ends (validate t options version) trace (.ok ())) {e : Exchange outside}
    (he : e ∈ trace) : ¬ CheckFailed e := by
  rcases ends_validate_ok h with ⟨_, rfl⟩ | ⟨setup, checking, hpassed, rfl⟩
  · simp at he
  · simp only [List.cons_append, List.mem_cons, List.mem_append, List.not_mem_nil, or_false] at he
    rcases he with rfl | he | rfl
    · rintro ⟨fault, hfault⟩
      cases hfault
    · exact hpassed.not_checkFailed he
    · exact id

theorem checkCalls_not_mem_selectionPlan : ∀ c ∈ checkCalls, c ∉ selectionPlan := by decide

theorem checkCalls_not_mem_uploadPlan : ∀ c ∈ checkCalls, c ∉ uploadPlan := by decide

theorem checkCalls_not_mem_imagePlans (source : Option String) :
    ∀ c ∈ checkCalls, ∀ plan ∈ imagePlans source, c ∉ plan := by
  cases source <;> simp [checkCalls, imagePlans]

/-- A failed check ends the deploy in its stage. -/
theorem ends_validate_of_checkFailed {t : Target} {options : Options}
    {before after : List (Exchange outside)} {e : Exchange outside}
    {result : Except DeployError Report}
    (h : Ends (validate t options version >>= fun _ => upload t version)
      (before ++ e :: after) result) (he : CheckFailed e) :
    ∃ error, Ends (validate t options version) (before ++ e :: after) (.error error) := by
  rcases ends_bind_at h with ⟨_, ⟨⟩, _, rfl, hx, _⟩ | ⟨error, hx, _⟩ | ⟨_, ⟨⟩, _, rfl, _, hupload⟩
  · exact absurd he (not_checkFailed_of_validate hx List.mem_append_cons_self)
  · exact ⟨error, hx⟩
  · obtain ⟨c, hmem, hc⟩ := he.call
    have hupload := (follows_upload t version).not_mem_calls
      (by simpa using checkCalls_not_mem_uploadPlan c hmem) hupload
    exact absurd (mem_calls_of_mem List.mem_append_cons_self hc) hupload

/-- The check of an image has let it pass, as the last call so far if it made one. -/
def Passed (mode : Mode) (image version : String) (before : List (Exchange outside)) : Prop :=
  match mode with
  | .unchecked => True
  | .parse => Version.compareTexts version "4.1.0" = .lt ∨
      ∃ setup, LastCall ⟨.parse setup image, .ok ()⟩ before
  | .pytest file => ∃ (setup : Check.Setup) (output : String),
      LastCall ⟨.pytest setup file image, .ok output⟩ before ∧
      (Check.classify output).isFailed = false

theorem PassedIn.passed {mode : Mode} (h : PassedIn mode setup image version trace)
    {first quiet : List (Exchange outside)} (hq : calls quiet = []) :
    Passed mode image version (first ++ trace ++ quiet) := by
  cases mode with
  | unchecked => trivial
  | parse => exact h.imp And.left fun h => ⟨setup, h.lastCall hq⟩
  | pytest file =>
    obtain ⟨output, h, hpassed⟩ := h
    exact ⟨setup, output, h.lastCall hq, hpassed⟩

theorem Prepared.passed {context : Option Context} {options : Options}
    (p : Prepared context options) {quiet : List (Exchange outside)} (hq : calls quiet = []) :
    Passed options.mode p.target.image p.version (p.trace ++ quiet) := by
  rcases ends_validate_ok p.validates with ⟨hmode, _⟩ | ⟨setup, checking, hpassed, hv⟩
  · rw [hmode]
    trivial
  · have htrace : p.trace ++ quiet =
        (p.toBuilt.trace ++ [⟨.prepareChecks (p.target.buildContext options), .ok setup⟩]) ++
          checking ++ (⟨.enter .validated p.target.deployment.id, ()⟩ :: quiet) := by
      simp [Prepared.trace, hv]
    rw [htrace]
    exact hpassed.passed (by simp [hq, Query.call?])

/-- An image is pushed only after the check that the mode asks for has let this image pass, with
no call in between. A run with a failed check neither pushes nor registers anything. -/
theorem deploy_pushes_only_checked {context : Option Context} {options : Options}
    {result : Except DeployError Report} (h : Runs (deploy context options) trace result) :
    (∀ before image auth repository tag answer after,
      trace = before ++ ⟨.push image auth repository tag, answer⟩ :: after →
      ∃ p : Prepared context options, p.trace <+: before ∧ image = p.target.image ∧
        Passed options.mode image p.version before) ∧
    ∀ e ∈ trace, CheckFailed e → ∀ c ∈ [Call.push, .createImage, .deployImage],
      c ∉ calls trace := by
  constructor
  · rintro before image auth repository tag answer after rfl
    obtain ⟨p, quiet, now, rfl, hquiet, hq, _⟩ := prepared_of_push h rfl
    obtain ⟨rfl, _⟩ := Query.push.inj hq
    exact ⟨p, List.prefix_append _ _, rfl, p.passed hquiet⟩
  · intro e he hfailed late hlate
    obtain ⟨c, hmem, hc⟩ := hfailed.call
    obtain ⟨before, after, rfl⟩ := List.append_of_mem he
    have hs := checkCalls_not_mem_selectionPlan c hmem
    have hi := checkCalls_not_mem_imagePlans options.imageName c hmem
    obtain ⟨last, state, id, rfl, hx⟩ := ends_attempt_at h hc
    obtain ⟨b, middle, rfl, hchecking⟩ := ends_validate_at hx hc hs hi
    obtain ⟨error, hvalidate⟩ := ends_validate_of_checkFailed hchecking hfailed
    have hb : late ∉ calls b.trace :=
      b.not_mem_calls (uploadPlan_not_mem_selectionPlan late hlate)
        (uploadPlan_not_mem_imagePlans _ late hlate)
    have hv : late ∉ calls (middle ++ e :: last) :=
      (follows_validate _ _ _).not_mem_calls (uploadPlan_not_mem_checkPlans _ late hlate) hvalidate
    have htrace : b.trace ++ middle ++ e :: (last ++ [⟨.enter state id, ()⟩]) =
        b.trace ++ ((middle ++ e :: last) ++ [⟨.enter state id, ()⟩]) := by
      simp
    rw [htrace, calls_append, calls_append, List.mem_append, List.mem_append]
    rintro (hmem | hmem | hmem)
    · exact hb hmem
    · exact hv hmem
    · simp [Query.call?] at hmem

theorem willingRun_pushes_only_checked :
    .push ∈ calls (willingRun (.pytest none)).1 ∧
    ∀ before image auth repository tag answer after,
      (willingRun (.pytest none)).1 = before ++ ⟨.push image auth repository tag, answer⟩ :: after →
      ∃ p : Prepared (some willingContext) (willingOptions (.pytest none)),
        p.trace <+: before ∧ image = p.target.image ∧
          Passed (.pytest none) image p.version before := by
  constructor
  · have hcalls : calls (willingRun (.pytest none)).1 = [.listWorkspaces, .listDeployments,
        .listReleases, .readLabel, .build, .readLabel, .prepareChecks, .pytest, .push,
        .createImage, .deployImage] := rfl
    simp [hcalls]
  · exact (deploy_pushes_only_checked (runs_willingRun (.pytest none))).1

end AirflowDeploy.Deploy
