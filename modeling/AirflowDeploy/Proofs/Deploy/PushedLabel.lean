import AirflowDeploy.Proofs.Deploy.CheckedVersion

/-!
# The label of a pushed image

The label that was read last before a push. A built image is pushed only with a label that the
catalog allows, or without one. For a local image the label is one of the candidates for the
version: it is compared without the blanks around it, and an override wins over it.
-/
namespace AirflowDeploy.Deploy

open Dialogue Deploy.Action

variable {context : Option Context} {options : Options} {trace rest : List (Exchange outside)}
  {image label version : String} {r : ImageRequest}

/-- A candidate that says nothing. -/
def IsBlank (candidate : Option String) : Prop := ∀ version ∈ candidate, trimmed version = ""

theorem resolveRuntimeVersion_blank {candidate : Option String} (h : IsBlank candidate)
    (candidates : List (Option String)) :
    resolveRuntimeVersion (candidate :: candidates) = resolveRuntimeVersion candidates := by
  cases candidate with
  | none => rfl
  | some version =>
    have hblank : trimmed version = "" := h version rfl
    simp [resolveRuntimeVersion, hblank]

theorem resolveRuntimeVersion_some (h : trimmed version ≠ "") (candidates : List (Option String)) :
    resolveRuntimeVersion (some version :: candidates) = trimmed version := by
  simp [resolveRuntimeVersion, h]

/-- The label of the image was read, and no other label after it. -/
def ReadLast (image label : String) (trace : List (Exchange outside)) : Prop :=
  ∃ before after, trace = before ++ ⟨.label image runtimeLabel, .ok label⟩ :: after ∧
    .readLabel ∉ calls after

theorem ReadLast.append (h : ReadLast image label trace) (hrest : .readLabel ∉ calls rest) :
    ReadLast image label (trace ++ rest) := by
  obtain ⟨before, after, rfl, hafter⟩ := h
  exact ⟨before, after ++ rest, by simp, by simp [hafter, hrest]⟩

theorem ReadLast.append_left (h : ReadLast image label trace) (first : List (Exchange outside)) :
    ReadLast image label (first ++ trace) := by
  obtain ⟨before, after, rfl, hafter⟩ := h
  exact ⟨first ++ before, after, by simp, hafter⟩

theorem BuiltLast.readLast (h : BuiltLast r version trace) :
    ∃ label, ReadLast r.ctx.image label trace ∧ (label ≠ "" → version = label) := by
  obtain ⟨start, built, label, rfl, hsame⟩ := h
  exact ⟨label, ⟨start ++ [⟨buildQuery r built, .ok ()⟩], [], by simp, by simp⟩, hsame⟩

theorem ends_localVersion_ok {source : String}
    (h : Ends (localVersion r source) trace (.ok version)) :
    ∃ label, trace = [⟨.tagLocal r.ctx.image source, .ok ()⟩,
        ⟨.label r.ctx.image runtimeLabel, .ok label⟩] ∧
      version = resolveRuntimeVersion [r.override, some label, some r.currentVersion] := by
  unfold localVersion at h
  obtain ⟨_, ⟨⟩, _, rfl, htag, hrest⟩ := ends_bind_ok_iff.mp h
  obtain ⟨_, label, _, rfl, hlabel, hlast⟩ := ends_bind_ok_iff.mp hrest
  obtain ⟨rfl, hversion⟩ := ends_pure_iff.mp hlast
  refine ⟨label, ?_, Except.ok.inj hversion⟩
  rw [runs_query_iff.mp (ends_expect_ok_iff.mp htag),
    runs_query_iff.mp (ends_expect_ok_iff.mp hlabel)]
  rfl

/-- A local image is tagged, its label is read, and what comes out of it is checked. -/
theorem ends_produceImage_local {source : String} (hsource : r.source = some source)
    (h : Ends (produceImage r) trace (.ok version)) :
    ∃ label, ReadLast r.ctx.image label trace ∧ Allowed r.catalog r.currentVersion
      (resolveRuntimeVersion [r.override, some label, some r.currentVersion]) := by
  rw [produceImage_eq] at h
  obtain ⟨candidates, candidate, rest, rfl, hcandidate, hproduce⟩ := ends_bind_ok_iff.mp h
  rw [candidateVersion_eq, hsource] at hcandidate
  obtain ⟨label, rfl, rfl⟩ := ends_localVersion_ok hcandidate
  have hquiet : calls rest = [] := by
    have hfollows := follows_produceFor r
      (resolveRuntimeVersion [r.override, some label, some r.currentVersion])
    rw [hsource] at hfollows
    exact hfollows.calls_eq_nil hproduce
  obtain ⟨_, ⟨⟩, _, _, hcheck, _⟩ := ends_bind_ok_iff.mp hproduce
  exact ⟨label, ⟨[⟨.tagLocal r.ctx.image source, .ok ()⟩], rest, rfl, by simp [hquiet]⟩,
    checkRuntimeVersion_eq_ok_iff.mp (ends_ofExcept_iff.mp hcheck).2.symm⟩

/-- What was checked about the label of an image: for a built image the label itself, for a local
image the label without the blanks around it, unless an override wins over it. -/
structure CheckedLabel (r : ImageRequest) (label : String) : Prop where
  built : r.source = none → label = "" ∨ Allowed r.catalog r.currentVersion label
  supplied : r.source.isSome → IsBlank r.override →
    trimmed label = "" ∨ Allowed r.catalog r.currentVersion (trimmed label)
  overridden : r.source.isSome → ∀ version, r.override = some version → trimmed version ≠ "" →
    Allowed r.catalog r.currentVersion (trimmed version)

theorem ends_produceImage_checkedLabel (h : Ends (produceImage r) trace (.ok version)) :
    ∃ label, ReadLast r.ctx.image label trace ∧ CheckedLabel r label := by
  cases hsource : r.source with
  | none =>
    obtain ⟨hallowed, hbuilt⟩ := ends_produceImage_ok h
    obtain ⟨label, hread, hsame⟩ := (hbuilt hsource).readLast
    refine ⟨label, hread, fun _ => ?_, by simp [hsource], by simp [hsource]⟩
    by_cases hne : label = ""
    · exact .inl hne
    · exact .inr (hsame hne ▸ hallowed)
  | some source =>
    obtain ⟨label, hread, hallowed⟩ := ends_produceImage_local hsource h
    refine ⟨label, hread, by simp [hsource], fun _ hblank => ?_, fun _ version hover hne => ?_⟩
    · rw [resolveRuntimeVersion_blank hblank] at hallowed
      by_cases hne : trimmed label = ""
      · exact .inl hne
      · exact .inr (resolveRuntimeVersion_some hne _ ▸ hallowed)
    · rw [hover, resolveRuntimeVersion_some hne] at hallowed
      exact hallowed

theorem Prepared.checkedLabel (p : Prepared context options) :
    ∃ label, ReadLast p.target.image label p.trace ∧
      CheckedLabel (p.target.imageRequest options) label := by
  obtain ⟨label, hread, hchecked⟩ := ends_produceImage_checkedLabel p.produces
  have hvalidation : .readLabel ∉ calls p.validation :=
    (follows_validate _ _ _).not_mem_calls (by cases options.mode <;> simp [checkPlans]) p.validates
  refine ⟨label, ?_, hchecked⟩
  rw [Prepared.trace, Built.trace]
  exact ((hread.append_left _).append (by simp [Query.call?])).append hvalidation

/-- The image of a push is the one whose label was read last, and this label is checked against
the catalog and the version of the deployment. -/
theorem deploy_pushes_checked_label {result : Except DeployError Report}
    (h : Runs (deploy context options) trace result) :
    ∀ before image auth repository tag answer after,
      trace = before ++ ⟨.push image auth repository tag, answer⟩ :: after →
      ∃ (p : Prepared context options) (label : String), p.trace <+: before ∧
        Fetched p.target.catalog p.selection ∧ ReadLast image label before ∧
        (options.imageName = none →
          label = "" ∨ Allowed p.target.catalog p.target.deployment.currentVersion label) ∧
        (options.imageName.isSome → IsBlank options.runtimeVersion → trimmed label = "" ∨
          Allowed p.target.catalog p.target.deployment.currentVersion (trimmed label)) ∧
        (options.imageName.isSome → ∀ version, options.runtimeVersion = some version →
          trimmed version ≠ "" →
          Allowed p.target.catalog p.target.deployment.currentVersion (trimmed version)) := by
  rintro before image auth repository tag answer after rfl
  obtain ⟨p, quiet, now, rfl, hquiet, hquery, _⟩ := prepared_of_push h rfl
  obtain ⟨rfl, _⟩ := Query.push.inj hquery
  obtain ⟨label, hread, hchecked⟩ := p.checkedLabel
  exact ⟨p, label, List.prefix_append _ _, p.fetched, hread.append (by simp [hquiet]),
    hchecked.built, hchecked.supplied, hchecked.overridden⟩

theorem willingRun_pushes_checked_label :
    .push ∈ calls (willingRun .unchecked).1 ∧
    ∀ before image auth repository tag answer after,
      (willingRun .unchecked).1 = before ++ ⟨.push image auth repository tag, answer⟩ :: after →
      ∃ (p : Prepared (some willingContext) (willingOptions .unchecked)) (label : String),
        p.trace <+: before ∧ ReadLast image label before ∧
        (label = "" ∨ Allowed p.target.catalog p.target.deployment.currentVersion label) := by
  constructor
  · have hcalls : calls (willingRun .unchecked).1 = [.listWorkspaces, .listDeployments,
        .listReleases, .readLabel, .build, .readLabel, .push, .createImage, .deployImage] := rfl
    simp [hcalls]
  · intro before image auth repository tag answer after htrace
    obtain ⟨p, label, hprefix, _, hread, hbuilt, _⟩ :=
      deploy_pushes_checked_label (runs_willingRun .unchecked) _ _ _ _ _ _ _ htrace
    exact ⟨p, label, hprefix, hread, hbuilt rfl⟩

/-- The releases `4.0.0` and `5.0.0`. -/
def twoReleases : List RuntimeRelease := [⟨"4.0.0", ""⟩, ⟨"5.0.0", ""⟩]

/-- A willing outside with two releases, a deployment that runs `5.0.0`, and a label on the
image. -/
def labelling (label : String) : (q : Query) → q.Answer
  | .listDeployments _ => .ok [⟨"d", "", "r", "w", ⟨"5.0.0", ""⟩, "", none⟩]
  | .listPublicReleases => .ok twoReleases
  | .label _ _ => .ok label
  | q => willing q

/-- A deploy of a local image with a label. -/
def suppliedRun (label : String) (override : Option String) :
    List (Exchange outside) × Except DeployError Report :=
  (deploy (some willingContext)
    { willingOptions .unchecked with imageName := some "i", runtimeVersion := override }).follow
    (labelling label)

/-- An image is pushed with a label that was read last, and that the releases do not allow for a
deployment that runs `5.0.0`. -/
def PushesUnallowed (label : String) (trace : List (Exchange outside)) : Prop :=
  ¬ Allowed twoReleases "5.0.0" label ∧
  ∃ before image auth repository tag after,
    trace = before ++ ⟨.push image auth repository tag, .ok ()⟩ :: after ∧
    ReadLast image label before ∧ Fetched twoReleases before

/-- A local image is pushed with a label that is older than what runs, where an override wins over
it, and with a label that the releases list only without the blanks around it. -/
theorem suppliedRun_pushes_unallowed :
    PushesUnallowed "4.0.0" (suppliedRun "4.0.0" (some "5.0.0")).1 ∧
      PushesUnallowed " 5.0.0 " (suppliedRun " 5.0.0 " none).1 := by
  have holder : ¬ Allowed twoReleases "5.0.0" "4.0.0" := by
    have hdowngrade : Version.isUpgrade "5.0.0" "4.0.0" = false := by decide +kernel
    simp [Allowed, hdowngrade]
  have hpadded : ¬ Allowed twoReleases "5.0.0" " 5.0.0 " := by
    simp [Allowed, twoReleases, catalogVersions]
  have hlisted {run : List (Exchange outside)}
      (h : run[3]? = some ⟨.listPublicReleases, .ok twoReleases⟩) : Fetched twoReleases run :=
    .inl (List.mem_of_getElem? h)
  constructor
  · let run := (suppliedRun "4.0.0" (some "5.0.0")).1
    refine ⟨holder, run.take 11, _, _, _, _, run.drop 12, rfl, ?_, hlisted rfl⟩
    exact ⟨run.take 7, run.extract 8 11, rfl, by decide⟩
  · let run := (suppliedRun " 5.0.0 " none).1
    refine ⟨hpadded, run.take 11, _, _, _, _, run.drop 12, rfl, ?_, hlisted rfl⟩
    exact ⟨run.take 7, run.extract 8 11, rfl, by decide⟩

end AirflowDeploy.Deploy
