import AirflowDeploy.Proofs.Deploy.Stages

/-!
# Checked versions

An image is built for a version only after this version was found in the catalog and is no
step back for the deployment. The version that is reported has passed the same check.
-/
namespace AirflowDeploy.Deploy

open Dialogue Deploy.Action

variable {trace before after : List (Exchange outside)} {e : Exchange outside}

/-- The catalog lists the version, and a deployment that runs `current` may move to it. -/
def Allowed (catalog : List RuntimeRelease) (current version : String) : Prop :=
  version ∈ catalogVersions catalog ∧ Version.isUpgrade current version = true

theorem checkRuntimeVersion_eq_ok_iff {catalog : List RuntimeRelease} {current version : String} :
    checkRuntimeVersion catalog current version = .ok () ↔ Allowed catalog current version := by
  rw [checkRuntimeVersion, Allowed, ← Version.isKnownTag_iff]
  cases Version.isKnownTag (catalogVersions catalog) version with
  | false => simp
  | true => cases Version.isUpgrade current version <;> simp

/-- The releases were listed, with this answer. -/
def Fetched (catalog : List RuntimeRelease) (trace : List (Exchange outside)) : Prop :=
  ⟨.listPublicReleases, .ok catalog⟩ ∈ trace ∨ ⟨.listInternalReleases, .ok catalog⟩ ∈ trace

theorem ends_listReleases_ok {credentials : Context} {catalog : List RuntimeRelease}
    (h : Ends (listReleases credentials) trace (.ok catalog)) : Fetched catalog trace := by
  unfold listReleases at h
  cases hadmin : credentials.systemAdmin with
  | true =>
    rw [hadmin] at h
    rw [runs_query_iff.mp (ends_expect_ok_iff.mp h)]
    exact .inr List.mem_cons_self
  | false =>
    rw [hadmin] at h
    rw [runs_query_iff.mp (ends_expect_ok_iff.mp h)]
    exact .inl List.mem_cons_self

theorem Resolved.fetched {context : Option Context} {options : Options}
    (r : Resolved context options) : Fetched r.target.catalog r.selection := by
  obtain ⟨_, _, _, releases, hselection, _, _, _, hreleases⟩ := ends_resolveTarget_ok r.resolves
  have hsub : releases ⊆ r.selection := by
    rw [hselection]
    intro e he
    simp [he]
  exact (ends_listReleases_ok hreleases).imp (@hsub _) (@hsub _)

/-- The question for the build of the requested image. -/
def buildQuery (r : ImageRequest) (version : String) : Query :=
  .build r.ctx.image { r.ctx with runtimeTag := version }

theorem ends_buildFor_at {r : ImageRequest} {version : String} {result : Except DeployError String}
    (h : Ends (buildFor r version) (before ++ e :: after) result)
    (he : Query.call? e.query = some .build) : e.query = buildQuery r version := by
  rw [buildFor_eq] at h
  obtain ⟨_, ⟨⟩, _, _, _, h⟩ := (Follows.sayLine _).ends_right h he (by simp)
  have hbuild {middle last : List (Exchange outside)} {answer : Except DeployError Unit}
      (h : Ends (step "build image" (ask (buildQuery r version))) (middle ++ e :: last) answer) :
      e.query = buildQuery r version := by
    obtain ⟨_, hd, _⟩ := ends_expect_iff.mp h
    obtain ⟨_, rfl, _⟩ := append_cons_eq_singleton.mp (runs_query_iff.mp hd)
    rfl
  rcases ends_bind_at h with ⟨_, ⟨⟩, _, _, hx, _⟩ | ⟨_, hx, _⟩ | ⟨_, ⟨⟩, _, _, _, hf⟩
  · exact hbuild hx
  · exact hbuild hx
  · have hlabel : Follows (readLabel r.ctx.image >>= labelledVersion r version) [[.readLabel]] :=
      .after (.step calls_of_runs_ask) (follows_labelledVersion r version)
    exact absurd (mem_calls_of_mem List.mem_append_cons_self he)
      (hlabel.not_mem_calls (by simp) hf)

theorem build_not_mem_candidatePlans (source : Option String) :
    ∀ plan ∈ candidatePlans source, .build ∉ plan := by
  cases source <;> simp [candidatePlans]

/-- An image is built only for the version that was found, and only if it is allowed. -/
theorem ends_produceFor_at {r : ImageRequest} {version : String}
    {result : Except DeployError String}
    (h : Ends (produceFor r version) (before ++ e :: after) result)
    (he : Query.call? e.query = some .build) :
    e.query = buildQuery r version ∧ Allowed r.catalog r.currentVersion version := by
  unfold produceFor at h
  obtain ⟨_, ⟨⟩, _, _, hcheck, h⟩ := (Follows.ofExcept _).ends_right h he (by simp)
  obtain ⟨_, ⟨⟩, _, _, _, h⟩ := (Follows.sayLines _).ends_right h he (by simp)
  have hallowed := checkRuntimeVersion_eq_ok_iff.mp (ends_ofExcept_iff.mp hcheck).2.symm
  unfold supply at h
  split at h
  · have hnil := (ends_pure_iff.mp h).1
    simp at hnil
  · exact ⟨ends_buildFor_at h he, hallowed⟩

theorem ends_produceImage_at {r : ImageRequest} {result : Except DeployError String}
    (h : Ends (produceImage r) (before ++ e :: after) result)
    (he : Query.call? e.query = some .build) :
    ∃ version, e.query = buildQuery r version ∧ Allowed r.catalog r.currentVersion version := by
  rw [produceImage_eq] at h
  obtain ⟨_, version, _, _, _, h⟩ :=
    (follows_candidateVersion r).ends_right h he (build_not_mem_candidatePlans _)
  exact ⟨version, ends_produceFor_at h he⟩

/-- The version of a built image is the one that its label names, and allowed. -/
theorem ends_labelledVersion_ok {r : ImageRequest} {version label v : String}
    (h : Ends (labelledVersion r version label) trace (.ok v))
    (hallowed : Allowed r.catalog r.currentVersion version) :
    trace = [] ∧ Allowed r.catalog r.currentVersion v ∧ (label ≠ "" → v = label) := by
  unfold labelledVersion at h
  split at h
  · next hsame =>
    obtain ⟨rfl, hv⟩ := ends_pure_iff.mp h
    obtain rfl := Except.ok.inj hv
    refine ⟨rfl, hallowed, fun hne => ?_⟩
    have hlabel : label = v := by simpa [hne] using hsame
    exact hlabel.symm
  · obtain ⟨_, ⟨⟩, _, rfl, hcheck, hlast⟩ := ends_bind_ok_iff.mp h
    obtain ⟨rfl, hv⟩ := ends_pure_iff.mp hlast
    obtain ⟨rfl, hok⟩ := ends_ofExcept_iff.mp hcheck
    obtain rfl := Except.ok.inj hv
    exact ⟨rfl, checkRuntimeVersion_eq_ok_iff.mp hok.symm, fun _ => rfl⟩

/-- The last exchanges of a stage that has built an image: the build, and the label after it. -/
def BuiltLast (r : ImageRequest) (version : String) (production : List (Exchange outside)) :
    Prop :=
  ∃ start built label, production = start ++
      [⟨buildQuery r built, .ok ()⟩, ⟨.label r.ctx.image runtimeLabel, .ok label⟩] ∧
    (label ≠ "" → version = label)

theorem ends_produceImage_ok {r : ImageRequest} {version : String}
    (h : Ends (produceImage r) trace (.ok version)) :
    Allowed r.catalog r.currentVersion version ∧ (r.source = none → BuiltLast r version trace) := by
  rw [produceImage_eq] at h
  obtain ⟨candidates, candidate, _, rfl, _, hproduce⟩ := ends_bind_ok_iff.mp h
  obtain ⟨checked, ⟨⟩, _, rfl, hcheck, hrest⟩ := ends_bind_ok_iff.mp hproduce
  obtain ⟨notice, ⟨⟩, _, rfl, _, hsupply⟩ := ends_bind_ok_iff.mp hrest
  have hallowed := checkRuntimeVersion_eq_ok_iff.mp (ends_ofExcept_iff.mp hcheck).2.symm
  unfold supply at hsupply
  split at hsupply
  · next hsource =>
    obtain rfl := Except.ok.inj (ends_pure_iff.mp hsupply).2
    exact ⟨hallowed, fun hnone => by simp [hnone] at hsource⟩
  · rw [buildFor_eq] at hsupply
    obtain ⟨told, ⟨⟩, _, rfl, _, hbuildFor⟩ := ends_bind_ok_iff.mp hsupply
    obtain ⟨_, ⟨⟩, _, rfl, hbuild, hlast⟩ := ends_bind_ok_iff.mp hbuildFor
    obtain ⟨_, label, _, rfl, hlabel, hversion⟩ := ends_bind_ok_iff.mp hlast
    obtain ⟨rfl, hv, hsame⟩ := ends_labelledVersion_ok hversion hallowed
    refine ⟨hv, fun _ =>
      ⟨candidates ++ checked ++ notice ++ told, candidate, label, ?_, hsame⟩⟩
    rw [runs_query_iff.mp (ends_expect_ok_iff.mp hbuild),
      runs_query_iff.mp (ends_expect_ok_iff.mp hlabel)]
    simp [buildQuery]

theorem follows_afterImage (t : Target) (options : Options) (version : String) :
    Follows (enter .built t.deployment.id >>= fun _ => validate t options version >>= fun _ =>
      upload t version) (andThen (checkPlans options.mode) [uploadPlan]) :=
  .before (.enter _ _) fun _ => .bind (follows_validate _ _ _) fun _ => follows_upload _ _

theorem build_not_mem_plans (mode : Mode) :
    ∀ plan ∈ andThen (checkPlans mode) [uploadPlan], .build ∉ plan := by
  cases mode <;> simp [andThen, checkPlans, uploadPlan]

/-- An image is built, and a version reported after a push, only if the catalog of this deploy
allows it. The version of a built image is the one that its label names. -/
theorem deploy_versions_allowed {context : Option Context} {options : Options}
    {result : Except DeployError Report} (h : Runs (deploy context options) trace result) :
    (∀ before image ctx answer after, trace = before ++ ⟨.build image ctx, answer⟩ :: after →
      ∃ r : Resolved context options, r.trace <+: before ∧ Fetched r.target.catalog r.selection ∧
        Allowed r.target.catalog r.target.deployment.currentVersion ctx.runtimeTag) ∧
    ∀ before image auth repository tag answer after,
      trace = before ++ ⟨.push image auth repository tag, answer⟩ :: after →
      ∃ p : Prepared context options, p.trace <+: before ∧ Fetched p.target.catalog p.selection ∧
        Allowed p.target.catalog p.target.deployment.currentVersion p.version ∧
        (∀ told, result = .ok told → told.runtimeVersion = p.version) ∧
        (options.imageName = none →
          BuiltLast (p.target.imageRequest options) p.version p.production) := by
  constructor
  · rintro before image ctx answer after rfl
    obtain ⟨_, _, _, _, hx⟩ := ends_attempt_at h rfl
    obtain ⟨r, middle, rfl, hproduce⟩ := ends_produce_at hx rfl (by simp [selectionPlan])
    have hbuild : ∃ version, Query.build image ctx =
        buildQuery (r.target.imageRequest options) version ∧
        Allowed r.target.catalog r.target.deployment.currentVersion version := by
      rcases ends_bind_at hproduce with ⟨_, _, _, _, hx, _⟩ | ⟨_, hx, _⟩ | ⟨_, v, _, _, _, hf⟩
      · exact ends_produceImage_at hx rfl
      · exact ends_produceImage_at hx rfl
      · exact absurd (mem_calls_of_mem List.mem_append_cons_self rfl)
          ((follows_afterImage r.target options v).not_mem_calls (build_not_mem_plans _) hf)
    obtain ⟨version, hq, hallowed⟩ := hbuild
    obtain ⟨_, rfl⟩ := Query.build.inj hq
    exact ⟨r, List.prefix_append _ _, r.fetched, hallowed⟩
  · rintro before image auth repository tag answer after rfl
    obtain ⟨p, quiet, now, rfl, _, _, hreport⟩ := prepared_of_push h rfl
    obtain ⟨hallowed, hbuilt⟩ := ends_produceImage_ok p.produces
    refine ⟨p, List.prefix_append _ _, p.fetched, hallowed, fun told htold => ?_, hbuilt⟩
    obtain ⟨id, rfl⟩ := hreport told htold
    rfl

theorem willingRun_versions_allowed :
    .build ∈ calls (willingRun .unchecked).1 ∧
    ∀ before image ctx answer after,
      (willingRun .unchecked).1 = before ++ ⟨.build image ctx, answer⟩ :: after →
      ∃ r : Resolved (some willingContext) (willingOptions .unchecked),
        r.trace <+: before ∧ Fetched r.target.catalog r.selection ∧
        Allowed r.target.catalog r.target.deployment.currentVersion ctx.runtimeTag := by
  constructor
  · have hcalls : calls (willingRun .unchecked).1 = [.listWorkspaces, .listDeployments,
        .listReleases, .readLabel, .build, .readLabel, .push, .createImage, .deployImage] := rfl
    simp [hcalls]
  · exact (deploy_versions_allowed (runs_willingRun .unchecked)).1

end AirflowDeploy.Deploy
