import AirflowDeploy.Proofs.Deploy.PushedLabel
import Mathlib.Logic.Function.Basic

/-!
# Rejected versions

A version is rejected before an image is built for it, or the label of the built image is. In the
first case the local images stay as they were, unless a local image was supplied: it is tagged
before its label can be read.
-/
namespace AirflowDeploy.Deploy

open Dialogue Deploy.Action

variable {α β ε : Type} {trace rest : List (Exchange outside)} {r : ImageRequest}
  {error : DeployError} {version label : String}

/-- The catalog does not list a version, or it is older than what runs. -/
def IsRejection : DeployError → Prop
  | .invalidRuntimeTag _ | .invalidUpgrade _ _ => True
  | _ => False

/-- Where the action fails, it is for another reason. -/
def RejectsNone (x : Action α) : Prop :=
  ∀ trace error, Ends x trace (.error error) → ¬ IsRejection error

namespace RejectsNone

theorem pure (a : α) : RejectsNone (Pure.pure a) := by
  intro _ _ h
  cases (ends_pure_iff.mp h).2

/-- A rejection behind the action comes from what follows it. -/
theorem ends_bind {x : Action α} {f : α → Action β} (hx : RejectsNone x)
    (h : Ends (x >>= f) trace (.error error)) (hr : IsRejection error) :
    ∃ first a rest, trace = first ++ rest ∧ Ends x first (.ok a) ∧
      Ends (f a) rest (.error error) := by
  rcases ends_bind_iff.mp h with hlater | ⟨_, hxe, herror⟩
  · exact hlater
  · cases herror
    exact absurd hr (hx _ _ hxe)

theorem bind {x : Action α} {f : α → Action β} (hx : RejectsNone x) (hf : ∀ a, RejectsNone (f a)) :
    RejectsNone (x >>= f) := by
  intro _ _ h hr
  obtain ⟨_, a, _, _, _, hfa⟩ := hx.ends_bind h hr
  exact hf a _ _ hfa hr

theorem map {x : Action α} (f : α → β) (hx : RejectsNone x) : RejectsNone (f <$> x) := by
  rw [map_eq_pure_bind]
  exact hx.bind fun _ => pure _

theorem expect {f : ε → DeployError} {d : Dialogue outside (Except ε α)}
    (hf : ∀ e, ¬ IsRejection (f e)) : RejectsNone (expect f d) := by
  intro _ _ h
  obtain ⟨answer, _, herror⟩ := ends_expect_iff.mp h
  cases answer with
  | ok a => cases herror
  | error e =>
    cases herror
    exact hf e

theorem step {operation : String} {d : Dialogue outside (Except Fault α)} :
    RejectsNone (step operation d) := expect fun _ => id

theorem sayLine (text : String) : RejectsNone (sayLine text) := by
  unfold Action.sayLine say
  split
  · exact pure ()
  · exact expect fun _ => id

theorem sayLines : (texts : List String) → RejectsNone (sayLines texts)
  | [] => pure ()
  | text :: rest => (sayLine text).bind fun _ => sayLines rest

end RejectsNone

theorem rejectsNone_candidateVersion (r : ImageRequest) : RejectsNone (candidateVersion r) := by
  rw [candidateVersion_eq]
  split
  · exact .bind .step fun _ => .bind .step fun _ => .pure _
  · refine .bind (.map _ (.expect fun _ => id)) fun tag => ?_
    cases tag with
    | some tag => exact .pure _
    | none => exact .bind .step fun _ => .pure _

/-- How the image stage rejects a version. -/
inductive Rejected (r : ImageRequest) (error : DeployError) : List (Exchange outside) → Prop where
  /-- The version is found and rejected. -/
  | candidate {trace : List (Exchange outside)} {version : String}
      (hfound : Ends (candidateVersion r) trace (.ok version))
      (hcheck : checkRuntimeVersion r.catalog r.currentVersion version = .error error) :
      Rejected r error trace
  /-- The image is built, and the version on its label is rejected. -/
  | label (start : List (Exchange outside)) (version label : String) (hsource : r.source = none)
      (hcheck : checkRuntimeVersion r.catalog r.currentVersion label = .error error) :
      Rejected r error (start ++
        [⟨buildQuery r version, .ok ()⟩, ⟨.label r.ctx.image runtimeLabel, .ok label⟩])

theorem ends_labelledVersion_error
    (h : Ends (labelledVersion r version label) trace (.error error)) :
    trace = [] ∧ checkRuntimeVersion r.catalog r.currentVersion label = .error error := by
  unfold labelledVersion at h
  split at h
  · cases (ends_pure_iff.mp h).2
  · rcases ends_bind_iff.mp h with ⟨_, ⟨⟩, _, _, _, hlast⟩ | ⟨_, hcheck, herror⟩
    · cases (ends_pure_iff.mp hlast).2
    · obtain ⟨rfl, hresult⟩ := ends_ofExcept_iff.mp hcheck
      cases herror
      exact ⟨rfl, hresult.symm⟩

theorem ends_buildFor_rejection (h : Ends (buildFor r version) trace (.error error))
    (hr : IsRejection error) :
    ∃ start label, checkRuntimeVersion r.catalog r.currentVersion label = .error error ∧
      trace = start ++
        [⟨buildQuery r version, .ok ()⟩, ⟨.label r.ctx.image runtimeLabel, .ok label⟩] := by
  rw [buildFor_eq] at h
  obtain ⟨told, ⟨⟩, _, rfl, _, hbuildFor⟩ := (RejectsNone.sayLine _).ends_bind h hr
  obtain ⟨_, ⟨⟩, _, rfl, hbuild, hlast⟩ := RejectsNone.step.ends_bind hbuildFor hr
  obtain ⟨_, label, _, rfl, hlabel, hversion⟩ := RejectsNone.step.ends_bind hlast hr
  obtain ⟨rfl, hcheck⟩ := ends_labelledVersion_error hversion
  refine ⟨told, label, hcheck, ?_⟩
  rw [runs_query_iff.mp (ends_expect_ok_iff.mp hbuild),
    runs_query_iff.mp (ends_expect_ok_iff.mp hlabel)]
  rfl

theorem rejected_of_ends (h : Ends (produceImage r) trace (.error error)) (hr : IsRejection error) :
    Rejected r error trace := by
  rw [produceImage_eq] at h
  obtain ⟨first, version, _, rfl, hfound, hproduce⟩ :=
    (rejectsNone_candidateVersion r).ends_bind h hr
  rcases ends_bind_iff.mp hproduce with ⟨_, ⟨⟩, _, rfl, _, hrest⟩ | ⟨_, hcheck, herror⟩
  · obtain ⟨_, ⟨⟩, _, rfl, _, hsupply⟩ := (RejectsNone.sayLines _).ends_bind hrest hr
    unfold supply at hsupply
    split at hsupply
    · cases (ends_pure_iff.mp hsupply).2
    · next hsource =>
      obtain ⟨start, label, hcheck, rfl⟩ := ends_buildFor_rejection hsupply hr
      have hnone : r.source = none := by simpa using hsource
      simp only [← List.append_assoc]
      exact .label _ version label hnone hcheck
  · cases herror
    obtain ⟨rfl, hresult⟩ := ends_ofExcept_iff.mp hcheck
    rw [List.append_nil]
    exact .candidate hfound hresult.symm

/-- The labels of the local images, by their names. -/
abbrev LocalImages := String → Option String

namespace LocalImages

/-- The local images after one exchange. An image is tagged as another one, or built with the label
that a build gives. -/
def step (built : BuildContext → Option String) (images : LocalImages) :
    Exchange outside → LocalImages
  | ⟨.tagLocal image source, .ok ()⟩ => Function.update images image (images source)
  | ⟨.build image ctx, .ok ()⟩ => Function.update images image (built ctx)
  | _ => images

def after (built : BuildContext → Option String) (images : LocalImages)
    (trace : List (Exchange outside)) : LocalImages := trace.foldl (step built) images

variable {built : BuildContext → Option String} {images : LocalImages}

theorem step_eq_self {e : Exchange outside} (htag : Query.call? e.query ≠ some .tagLocal)
    (hbuild : Query.call? e.query ≠ some .build) : step built images e = images := by
  obtain ⟨q, answer⟩ := e
  cases q with
  | tagLocal image source => exact absurd rfl htag
  | build image ctx => exact absurd rfl hbuild
  | _ => rfl

/-- Nothing changes where nothing is tagged or built. -/
theorem after_eq_self (htag : .tagLocal ∉ calls trace) (hbuild : .build ∉ calls trace) :
    after built images trace = images := by
  induction trace with
  | nil => rfl
  | cons e rest ih =>
    simp only [calls_cons, List.mem_append, Option.mem_toList, not_or] at htag hbuild
    rw [after, List.foldl_cons, step_eq_self htag.1 hbuild.1]
    exact ih htag.2 hbuild.2

end LocalImages

section Images

variable (built : BuildContext → Option String) (images : LocalImages)

/-- Until the version is found nothing is built, and only a supplied image is tagged. -/
theorem ends_candidateVersion_images (h : Ends (candidateVersion r) trace (.ok version)) :
    .build ∉ calls trace ∧ (.tagLocal ∈ calls trace ↔ r.source.isSome) ∧
      (r.source = none → images.after built trace = images) ∧
      ∀ source, r.source = some source →
        images.after built trace = Function.update images r.ctx.image (images source) := by
  have hbuild : .build ∉ calls trace :=
    (follows_candidateVersion r).not_mem_calls (build_not_mem_candidatePlans _) h
  refine ⟨hbuild, ?_⟩
  cases hsource : r.source with
  | none =>
    have htag : .tagLocal ∉ calls trace :=
      (follows_candidateVersion r).not_mem_calls (by simp [hsource, candidatePlans]) h
    exact ⟨by simp [htag], fun _ => LocalImages.after_eq_self htag hbuild, by simp⟩
  | some source =>
    rw [candidateVersion_eq, hsource] at h
    obtain ⟨label, rfl, _⟩ := ends_localVersion_ok h
    refine ⟨by simp [Query.call?], by simp, fun _ h => ?_⟩
    cases h
    rfl

/-- A version is rejected before anything is built, where the local images stay as they were unless
one was supplied, or it is the version on the label of the image that was built. -/
theorem produceImage_rejects (h : Ends (produceImage r) trace (.error error))
    (hr : IsRejection error) :
    (∃ version, Ends (candidateVersion r) trace (.ok version) ∧
      checkRuntimeVersion r.catalog r.currentVersion version = .error error ∧
      .build ∉ calls trace ∧ (.tagLocal ∈ calls trace ↔ r.source.isSome) ∧
      (r.source = none → images.after built trace = images) ∧
      ∀ source, r.source = some source →
        images.after built trace = Function.update images r.ctx.image (images source)) ∨
    (r.source = none ∧ ∃ start version label,
      checkRuntimeVersion r.catalog r.currentVersion label = .error error ∧
      trace = start ++
        [⟨buildQuery r version, .ok ()⟩, ⟨.label r.ctx.image runtimeLabel, .ok label⟩]) := by
  cases rejected_of_ends h hr with
  | candidate hfound hcheck =>
    exact .inl ⟨_, hfound, hcheck, ends_candidateVersion_images built images hfound⟩
  | label start version label hsource hcheck =>
    exact .inr ⟨hsource, start, version, label, hcheck, rfl⟩

end Images

/-- A request for the image of a deployment that runs `5.0.0`, of two releases. -/
def requestOf (source : Option String) : ImageRequest where
  ctx := ⟨"/p", "Dockerfile", none, "", "r/airflow:latest"⟩
  source := source
  override := none
  currentVersion := "5.0.0"
  catalog := twoReleases

/-- A run of the image stage, where the image has a label. -/
def imageRun (source : Option String) (label : String) :
    List (Exchange outside) × Except DeployError String :=
  (produceImage (requestOf source)).run.follow (labelling label)

theorem ends_imageRun (source : Option String) (label : String) :
    Ends (produceImage (requestOf source)) (imageRun source label).1 (imageRun source label).2 :=
  runs_follow _ _

/-- Without a supplied image a rejection leaves the local images as they were. -/
theorem imageRun_rejects :
    IsRejection (.invalidUpgrade "5.0.0" "4.0.0") ∧
    ∀ built (images : LocalImages), images.after built (imageRun none "4.0.0").1 = images := by
  refine ⟨trivial, fun built images => ?_⟩
  have hends : Ends (produceImage (requestOf none)) (imageRun none "4.0.0").1
      (.error (.invalidUpgrade "5.0.0" "4.0.0")) := ends_imageRun none "4.0.0"
  have hcalls : calls (imageRun none "4.0.0").1 = [.readLabel] := rfl
  rcases produceImage_rejects built images hends trivial with
    ⟨_, _, _, _, _, himages, _⟩ | ⟨_, start, version, label, _, htrace⟩
  · exact himages rfl
  · have hlength := congrArg List.length hcalls
    simp [htrace, buildQuery, Query.call?] at hlength

/-- A supplied image whose version is rejected takes the place of the local one. The label that it
leaves makes a later request fail, which would succeed with the label before. -/
theorem imageRun_changes_images :
    (imageRun (some "i") "4.0.0").2 = .error (.invalidUpgrade "5.0.0" "4.0.0") ∧
    calls (imageRun (some "i") "4.0.0").1 = [.tagLocal, .readLabel] ∧
    (∀ built (images : LocalImages),
      images.after built (imageRun (some "i") "4.0.0").1 "r/airflow:latest" = images "i") ∧
    (imageRun none "5.0.0").2 = .ok "5.0.0" ∧
    (imageRun none "4.0.0").2 = .error (.invalidUpgrade "5.0.0" "4.0.0") := by
  exact ⟨rfl, rfl, fun _ _ => rfl, rfl, rfl⟩

end AirflowDeploy.Deploy
