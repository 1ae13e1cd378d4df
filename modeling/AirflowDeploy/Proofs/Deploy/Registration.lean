import AirflowDeploy.Proofs.Deploy.CallOrder
import AirflowDeploy.Proofs.Deploy.Stages

/-!
# Registration

What is registered is what was pushed: the record and the rollout carry the deployment, the tag
and the repository of the one push before them, and so does the report. Once the push has
succeeded, only the registration itself can fail.
-/
namespace AirflowDeploy.Deploy

open Dialogue Deploy.Action

/-- A deploy that has pushed its image. -/
structure Pushed (context : Option Context) (options : Options) extends
    Prepared context options where
  tag : String
  pushing : List (Exchange outside)
  pushes : Ends (pushImage target) pushing (.ok tag)

/-- Everything up to the point where the image is pushed. -/
def Pushed.trace {context : Option Context} {options : Options}
    (p : Pushed context options) : List (Exchange outside) :=
  p.toPrepared.trace ++ p.pushing

variable {context : Option Context} {options : Options}
  {trace before after : List (Exchange outside)} {e : Exchange outside} {t : Target}
  {tag version : String}

/-- The record of the image that was pushed with a tag. -/
def creation (t : Target) (tag : String) : ImageCreation where
  deploymentId := t.deployment.id
  tag := tag

/-- The move of the deployment onto a recorded image. -/
def rollout (t : Target) (tag : String) (created : Image) : ImageRollout where
  imageId := created.id
  tag := tag
  repository := t.repository

/-- The id of an image that was recorded and rolled out. -/
def registeredId (created deployed : Image) : String :=
  if deployed.id.isEmpty then created.id else deployed.id

/-- The registration in a run: the record is refused, or the rollout is, or none of them. -/
inductive Registration (t : Target) (tag : String) :
    List (Exchange outside) → Except DeployError String → Prop where
  | unrecorded (fault : Fault) :
      Registration t tag [⟨.createImage (creation t tag), .error fault⟩]
        (.error (.step "register image" fault))
  | notRolledOut (created : Image) (fault : Fault) :
      Registration t tag
        [⟨.createImage (creation t tag), .ok created⟩,
          ⟨.deployImage (rollout t tag created), .error fault⟩]
        (.error (.step "deploy image" fault))
  | registered (created deployed : Image) :
      Registration t tag
        [⟨.createImage (creation t tag), .ok created⟩,
          ⟨.deployImage (rollout t tag created), .ok deployed⟩,
          ⟨.enter .registered t.deployment.id, ()⟩]
        (.ok (registeredId created deployed))

theorem registration_of_ends {result : Except DeployError String}
    (h : Ends (register t tag) trace result) : Registration t tag trace result := by
  unfold register at h
  rcases ends_bind_iff.mp h with ⟨_, created, _, rfl, hcreate, hrest⟩ | ⟨error, hcreate, rfl⟩
  · obtain rfl := runs_query_iff.mp (ends_expect_ok_iff.mp hcreate)
    rcases ends_bind_iff.mp hrest with
      ⟨_, deployed, _, rfl, hdeploy, hlast⟩ | ⟨error, hdeploy, rfl⟩
    · obtain rfl := runs_query_iff.mp (ends_expect_ok_iff.mp hdeploy)
      rcases ends_bind_iff.mp hlast with ⟨_, ⟨⟩, _, rfl, henter, htold⟩ | ⟨error, henter, _⟩
      · obtain ⟨rfl, -⟩ := ends_enter_iff.mp henter
        obtain ⟨rfl, rfl⟩ := ends_pure_iff.mp htold
        exact .registered created deployed
      · cases (ends_enter_iff.mp henter).2
    · obtain ⟨answer, hasked, hanswer⟩ := ends_expect_iff.mp hdeploy
      obtain rfl := runs_query_iff.mp hasked
      cases answer with
      | ok deployed => cases hanswer
      | error fault =>
        cases hanswer
        exact .notRolledOut created fault
  · obtain ⟨answer, hasked, hanswer⟩ := ends_expect_iff.mp hcreate
    obtain rfl := runs_query_iff.mp hasked
    cases answer with
    | ok created => cases hanswer
    | error fault =>
      cases hanswer
      exact .unrecorded fault

/-- The calls of a registration are its first exchanges. -/
theorem Registration.at {result : Except DeployError String} {c : Call}
    (h : Registration t tag (before ++ e :: after) result) (he : Query.call? e.query = some c) :
    (before = [] ∧ e.query = .createImage (creation t tag)) ∨
      ∃ created, before = [⟨.createImage (creation t tag), .ok created⟩] ∧
        e.query = .deployImage (rollout t tag created) := by
  generalize htrace : before ++ e :: after = trace at h
  cases h with
  | unrecorded fault =>
    obtain ⟨rfl, rfl, rfl⟩ := append_cons_eq_singleton.mp htrace
    exact .inl ⟨rfl, rfl⟩
  | notRolledOut created fault =>
    rcases List.append_eq_cons_iff.mp htrace with ⟨rfl, hcons⟩ | ⟨middle, rfl, hcons⟩
    · cases hcons
      exact .inl ⟨rfl, rfl⟩
    · obtain ⟨rfl, rfl, rfl⟩ := append_cons_eq_singleton.mp hcons.symm
      exact .inr ⟨created, rfl, rfl⟩
  | registered created deployed =>
    rcases List.append_eq_cons_iff.mp htrace with ⟨rfl, hcons⟩ | ⟨middle, rfl, hcons⟩
    · cases hcons
      exact .inl ⟨rfl, rfl⟩
    · rcases List.append_eq_cons_iff.mp hcons.symm with ⟨rfl, hlast⟩ | ⟨middle, rfl, hlast⟩
      · cases hlast
        exact .inr ⟨created, rfl, rfl⟩
      · obtain ⟨rfl, rfl, rfl⟩ := append_cons_eq_singleton.mp hlast.symm
        cases he

theorem ends_pushImage_ok (h : Ends (pushImage t) trace (.ok tag)) :
    ∃ now quiet, tag = pushTag now ∧ calls quiet = [] ∧
      trace = quiet ++ [⟨pushQuery t now, .ok ()⟩, ⟨.enter .pushed t.deployment.id, ()⟩] := by
  unfold pushImage at h
  obtain ⟨first, now, _, rfl, hnow, hrest⟩ := ends_bind_ok_iff.mp h
  obtain ⟨told, ⟨⟩, _, rfl, htold, hrest⟩ := ends_bind_ok_iff.mp hrest
  obtain ⟨pushed, ⟨⟩, _, rfl, hpush, hrest⟩ := ends_bind_ok_iff.mp hrest
  obtain ⟨entered, ⟨⟩, _, rfl, henter, hlast⟩ := ends_bind_ok_iff.mp hrest
  obtain ⟨rfl, htag⟩ := ends_pure_iff.mp hlast
  have hfirst : calls first = [] := (Follows.lift calls_of_runs_ask).calls_eq_nil hnow
  have hquiet : calls told = [] := (Follows.sayLine _).calls_eq_nil htold
  refine ⟨now, first ++ told, Except.ok.inj htag, by simp [hfirst, hquiet], ?_⟩
  rw [runs_query_iff.mp (ends_expect_ok_iff.mp hpush), (ends_enter_iff.mp henter).1]
  simp [pushQuery]

/-- A push that was accepted, or a call that comes after it. -/
def PastPush : Exchange outside → Prop
  | ⟨.push _ _ _ _, answer⟩ => answer = .ok ()
  | ⟨.createImage _, _⟩ | ⟨.deployImage _, _⟩ => True
  | _ => False

theorem PastPush.call (h : PastPush e) : ∃ c ∈ uploadPlan, Query.call? e.query = some c := by
  obtain ⟨q, answer⟩ := e
  cases q with
  | push | createImage | deployImage => simp [Query.call?, uploadPlan]
  | _ => exact absurd h id

/-- Where the stage of the push fails, no push was accepted. -/
theorem not_pastPush_of_pushImage_error {error : DeployError}
    (h : Ends (pushImage t) trace (.error error)) (he : e ∈ trace) : ¬ PastPush e := by
  intro hpast
  obtain ⟨c, hmem, hc⟩ := hpast.call
  obtain ⟨before, after, rfl⟩ := List.append_of_mem he
  unfold pushImage at h
  obtain ⟨_, now, _, rfl, _, hrest⟩ :=
    (Follows.lift calls_of_runs_ask).ends_right h hc (by simp [Query.call?])
  obtain ⟨_, ⟨⟩, _, rfl, _, hrest⟩ := (Follows.sayLine _).ends_right hrest hc (by simp)
  rcases ends_bind_at hrest with
    ⟨_, ⟨⟩, _, rfl, _, hlast⟩ | ⟨_, hpush, _⟩ | ⟨_, ⟨⟩, _, rfl, _, hlast⟩
  · rcases ends_bind_iff.mp hlast with ⟨_, _, _, _, _, hpure⟩ | ⟨_, henter, _⟩
    · cases (ends_pure_iff.mp hpure).2
    · cases (ends_enter_iff.mp henter).2
  · obtain ⟨answer, hasked, hanswer⟩ := ends_expect_iff.mp hpush
    obtain ⟨_, rfl, _⟩ := append_cons_eq_singleton.mp (runs_query_iff.mp hasked)
    obtain rfl : answer = .ok () := hpast
    cases hanswer
  · have hnone : Follows (enter .pushed t.deployment.id >>= fun _ => pure (pushTag now)) [[]] :=
      .after (.enter _ _) fun _ => .pure _
    exact absurd (mem_calls_of_mem List.mem_append_cons_self hc)
      (hnone.not_mem_calls (by simp) hlast)

/-- Where a push was accepted or a call after it is made, the image is pushed and what follows is
its registration. -/
theorem pushed_of_mem {result : Except DeployError Report}
    (h : Runs (deploy context options) trace result) (he : e ∈ trace) (hpast : PastPush e) :
    ∃ (p : Pushed context options) (rest : List (Exchange outside)) (state : State) (id : String)
      (registered : Except DeployError String),
      trace = p.trace ++ rest ++ [⟨.enter state id, ()⟩] ∧
      Registration p.target p.tag rest registered ∧
      result = registered.map (report p.target p.version p.tag) := by
  obtain ⟨c, hupload, hc⟩ := hpast.call
  obtain ⟨before, after, rfl⟩ := List.append_of_mem he
  obtain ⟨last, state, id, rfl, hattempt⟩ := ends_attempt_at h hc
  obtain ⟨b, _, rfl, hchecking⟩ :=
    ends_validate_at hattempt hc (uploadPlan_not_mem_selectionPlan c hupload)
      (uploadPlan_not_mem_imagePlans _ c hupload)
  obtain ⟨validation, ⟨⟩, quiet, rfl, hvalidation, huploaded⟩ :=
    (follows_validate _ _ _).ends_right hchecking hc (uploadPlan_not_mem_checkPlans _ c hupload)
  rcases ends_bind_iff.mp huploaded with
    ⟨pushing, tag, rest, htrace, hpush, hrest⟩ | ⟨_, hpush, _⟩
  · rw [bind_pure_comp] at hrest
    obtain ⟨registered, hregister, hresult⟩ := ends_map_iff.mp hrest
    refine ⟨⟨⟨b, validation, hvalidation⟩, tag, pushing, hpush⟩, rest, state, id, registered, ?_,
      registration_of_ends hregister, hresult⟩
    have hsame : b.trace ++ (validation ++ quiet) ++ e :: (last ++ [⟨.enter state id, ()⟩]) =
        b.trace ++ validation ++ (quiet ++ e :: last) ++ [⟨.enter state id, ()⟩] := by
      simp
    rw [hsame, htrace]
    simp [Pushed.trace, Prepared.trace]
  · exact absurd hpast (not_pastPush_of_pushImage_error hpush List.mem_append_cons_self)

/-- The image of a deploy was pushed with a tag, after everything was ready, and nothing else was
pushed. -/
structure PushedOnce (p : Prepared context options) (tag : String)
    (trace : List (Exchange outside)) : Prop where
  prepared : p.trace <+: trace
  pushed : ⟨.push p.target.image p.target.auth p.target.repository tag, .ok ()⟩ ∈ trace
  once : (calls trace).count .push = 1

theorem Prepared.not_mem_calls (p : Prepared context options) {c : Call} (hc : c ∈ uploadPlan) :
    c ∉ calls p.trace := by
  have hbuilt : c ∉ calls p.toBuilt.trace :=
    p.toBuilt.not_mem_calls (uploadPlan_not_mem_selectionPlan c hc)
      (uploadPlan_not_mem_imagePlans _ c hc)
  have hvalidation : c ∉ calls p.validation :=
    (follows_validate _ _ _).not_mem_calls (uploadPlan_not_mem_checkPlans _ c hc) p.validates
  simp [Prepared.trace, hbuilt, hvalidation]

theorem Pushed.pushedOnce (p : Pushed context options) {rest : List (Exchange outside)}
    (hrest : .push ∉ calls rest) : PushedOnce p.toPrepared p.tag (p.trace ++ rest) := by
  obtain ⟨now, quiet, htag, hquiet, hpushing⟩ := ends_pushImage_ok p.pushes
  have hcount : (calls p.trace).count .push = 1 := by
    have hready := List.count_eq_zero.mpr (p.toPrepared.not_mem_calls (c := .push) (by decide))
    simp [Pushed.trace, hpushing, hready, hquiet, pushQuery, Query.call?]
  have hmem : ⟨pushQuery p.target now, .ok ()⟩ ∈ p.trace := by
    simp [Pushed.trace, hpushing]
  refine ⟨?_, ?_, ?_⟩
  · rw [Pushed.trace, List.append_assoc]
    exact List.prefix_append _ _
  · rw [htag]
    exact List.mem_append_left rest hmem
  · rw [calls_append, List.count_append, hcount, List.count_eq_zero.mpr hrest]

theorem Registration.push_not_mem_calls {result : Except DeployError String}
    (h : Registration t tag trace result) : .push ∉ calls trace := by
  cases h <;> simp [Query.call?]

/-- Before the record there is nothing but the push, and before the rollout only the record. -/
theorem registration_at {result : Except DeployError Report} {c : Call}
    (h : Runs (deploy context options) (before ++ e :: after) result)
    (he : Query.call? e.query = some c) (hc : c ∈ [Call.createImage, .deployImage])
    (hpast : PastPush e) :
    ∃ (p : Pushed context options) (middle : List (Exchange outside)),
      before = p.trace ++ middle ∧ .push ∉ calls middle ∧
      ((middle = [] ∧ e.query = .createImage (creation p.target p.tag)) ∨
        ∃ created, middle = [⟨.createImage (creation p.target p.tag), .ok created⟩] ∧
          e.query = .deployImage (rollout p.target p.tag created)) := by
  obtain ⟨p, rest, state, id, registered, htrace, hregistration, _⟩ :=
    pushed_of_mem h List.mem_append_cons_self hpast
  have hpushed : c ∉ calls p.trace := by
    have hready := p.toPrepared.not_mem_calls (c := c) (List.mem_cons_of_mem _ hc)
    have hpush : c ∉ [Call.push] := by
      rintro (_ | ⟨_, ⟨⟩⟩)
      exact absurd hc (by decide)
    have hpushing : c ∉ calls p.pushing :=
      (follows_pushImage _).not_mem_calls (by simpa using hpush) p.pushes
    simp [Pushed.trace, hready, hpushing]
  rcases append_eq_append_cons htrace.symm with ⟨last, hfirst, _⟩ | ⟨_, rfl, hlast⟩
  · rcases append_eq_append_cons hfirst with ⟨_, hp, _⟩ | ⟨middle, rfl, rfl⟩
    · exact absurd (mem_calls_of_mem (hp ▸ List.mem_append_cons_self) he) hpushed
    · have hquiet : .push ∉ calls middle := by
        have hnone := hregistration.push_not_mem_calls
        rw [calls_append, List.mem_append, not_or] at hnone
        exact hnone.1
      exact ⟨p, middle, rfl, hquiet, hregistration.at he⟩
  · obtain ⟨_, rfl, _⟩ := append_cons_eq_singleton.mp hlast.symm
    cases he

/-- A deploy that succeeds has made every call. -/
theorem exists_pastPush_of_ok {told : Report} (h : Runs (deploy context options) trace (.ok told)) :
    ∃ e ∈ trace, PastPush e := by
  obtain ⟨attempted, state, id, rfl, hattempt⟩ := ends_attempt_of_runs_deploy h
  obtain ⟨plan, hplan, _, hall⟩ := follows_attempt context options hattempt
  obtain ⟨_, _, _, himage, rfl⟩ := mem_andThen.mp hplan
  obtain ⟨_, _, _, hcheck, rfl⟩ := mem_andThen.mp himage
  obtain ⟨_, _, _, hupload, rfl⟩ := mem_andThen.mp hcheck
  obtain rfl := List.mem_singleton.mp hupload
  have hmem : .createImage ∈ calls attempted := by simp [hall told rfl]
  obtain ⟨⟨q, answer⟩, he, hc⟩ := List.mem_filterMap.mp hmem
  refine ⟨⟨q, answer⟩, List.mem_append_left _ he, ?_⟩
  cases q with
  | createImage record => trivial
  | _ => cases hc

/-- The record is made for the resolved deployment with the tag of the one push before it, the
rollout moves this deployment's record with the same tag and repository, and the report tells all
of that. Behind an accepted push only the record or the rollout can fail. -/
theorem deploy_registers_pushed {result : Except DeployError Report}
    (h : Runs (deploy context options) trace result) :
    (∀ before record answer after, trace = before ++ ⟨.createImage record, answer⟩ :: after →
      ∃ (p : Prepared context options) (tag : String), PushedOnce p tag before ∧
        record.deploymentId = p.target.deployment.id ∧ record.tag = tag) ∧
    (∀ before move answer after, trace = before ++ ⟨.deployImage move, answer⟩ :: after →
      ∃ (p : Prepared context options) (tag : String) (created : Image), PushedOnce p tag before ∧
        (∃ record, ⟨.createImage record, .ok created⟩ ∈ before) ∧
        move.imageId = created.id ∧ move.tag = tag ∧ move.repository = p.target.repository) ∧
    (∀ told, result = .ok told →
      ∃ (p : Prepared context options) (tag : String) (created deployed : Image),
        PushedOnce p tag trace ∧ (∃ record, ⟨.createImage record, .ok created⟩ ∈ trace) ∧
        (∃ move, ⟨.deployImage move, .ok deployed⟩ ∈ trace) ∧
        told.deploymentId = p.target.deployment.id ∧ told.repository = p.target.repository ∧
        told.tag = tag ∧ told.imageId = if deployed.id = "" then created.id else deployed.id) ∧
    ∀ before image auth repository tag after error,
      trace = before ++ ⟨.push image auth repository tag, .ok ()⟩ :: after →
      result = .error error →
      (∃ record fault, ⟨.createImage record, .error fault⟩ ∈ after ∧
        error = .step "register image" fault) ∨
      ∃ move fault, ⟨.deployImage move, .error fault⟩ ∈ after ∧
        error = .step "deploy image" fault := by
  refine ⟨?_, ?_, ?_, ?_⟩
  · rintro before record answer after rfl
    obtain ⟨p, middle, rfl, hquiet, hat⟩ := registration_at h rfl (by decide) trivial
    rcases hat with ⟨_, hquery⟩ | ⟨_, _, hquery⟩
    · obtain rfl := Query.createImage.inj hquery
      exact ⟨p.toPrepared, p.tag, p.pushedOnce hquiet, rfl, rfl⟩
    · cases hquery
  · rintro before move answer after rfl
    obtain ⟨p, middle, rfl, hquiet, hat⟩ := registration_at h rfl (by decide) trivial
    rcases hat with ⟨_, hquery⟩ | ⟨created, rfl, hquery⟩
    · cases hquery
    · obtain rfl := Query.deployImage.inj hquery
      exact ⟨p.toPrepared, p.tag, created, p.pushedOnce hquiet,
        ⟨creation p.target p.tag, by simp⟩, rfl, rfl, rfl⟩
  · rintro told rfl
    obtain ⟨e, he, hpast⟩ := exists_pastPush_of_ok h
    obtain ⟨p, rest, state, id, registered, rfl, hregistration, hresult⟩ := pushed_of_mem h he hpast
    cases hregistration with
    | unrecorded fault => cases hresult
    | notRolledOut created fault => cases hresult
    | registered created deployed =>
      obtain rfl := Except.ok.inj hresult
      rw [List.append_assoc]
      exact ⟨p.toPrepared, p.tag, created, deployed, p.pushedOnce (by simp [Query.call?]),
        ⟨creation p.target p.tag, by simp⟩, ⟨rollout p.target p.tag created, by simp⟩,
        rfl, rfl, rfl, by simp [report, registeredId]⟩
  · rintro before image auth repository tag after error rfl rfl
    obtain ⟨p, rest, state, id, registered, htrace, hregistration, hresult⟩ :=
      pushed_of_mem h List.mem_append_cons_self rfl
    rw [List.append_assoc] at htrace
    rcases append_eq_append_cons htrace.symm with ⟨middle, _, rfl⟩ | ⟨middle, _, hlast⟩
    · cases hregistration with
      | unrecorded fault =>
        exact .inl ⟨creation p.target p.tag, fault, by simp, Except.error.inj hresult⟩
      | notRolledOut created fault =>
        exact .inr ⟨rollout p.target p.tag created, fault, by simp, Except.error.inj hresult⟩
      | registered created deployed => cases hresult
    · -- Nothing is pushed by the registration or after it.
      have hnone := congrArg (fun trace => (calls trace).count .push) hlast
      simp [List.count_eq_zero.mpr hregistration.push_not_mem_calls, Query.call?] at hnone

theorem willingRun_registers_pushed :
    .createImage ∈ calls (willingRun .unchecked).1 ∧
    ∀ before record answer after,
      (willingRun .unchecked).1 = before ++ ⟨.createImage record, answer⟩ :: after →
      ∃ (p : Prepared (some willingContext) (willingOptions .unchecked)) (tag : String),
        PushedOnce p tag before ∧ record.deploymentId = p.target.deployment.id ∧
          record.tag = tag := by
  constructor
  · have hcalls : calls (willingRun .unchecked).1 = [.listWorkspaces, .listDeployments,
        .listReleases, .readLabel, .build, .readLabel, .push, .createImage, .deployImage] := rfl
    simp [hcalls]
  · exact (deploy_registers_pushed (runs_willingRun .unchecked)).1

end AirflowDeploy.Deploy
