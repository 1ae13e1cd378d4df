import AirflowDeploy.Proofs.Deploy.Rejection
import AirflowDeploy.Proofs.Dialogue.Behaviour

/-!
# The version of a build

Without a supplied image the image stage looks into the Dockerfile, and at the label of an image
that may be there only if the Dockerfile names no runtime. It builds for the first candidate that
is not blank, so that an old image never decides in place of the Dockerfile.
-/
namespace AirflowDeploy.Deploy

open Dialogue Deploy.Action

variable {r : ImageRequest} {trace before after : List (Exchange outside)} {e : Exchange outside}
  {version : String} {result : Except DeployError String}

/-- The tag of the base image names a runtime: the catalog lists it, or it is a version without a
pre-release. -/
def NamesRuntime (catalog : List RuntimeRelease) (dockerfile : Dockerfile) (tag : String) : Prop :=
  ∃ image, dockerfile.baseImage = some image ∧ tag = ImageReference.tag image ∧
    (tag ∈ catalogVersions catalog ∨ ∃ version, Version.read? tag = some version ∧ version.pre = [])

/-- The first of some candidates that is not blank, without the blanks around it. Where all of them
are blank it is empty. -/
inductive FirstNotBlank : List String → String → Prop where
  | here {candidate : String} (rest : List String) (h : trimmed candidate ≠ "") :
      FirstNotBlank (candidate :: rest) (trimmed candidate)
  | later {candidate version : String} {rest : List String} (h : trimmed candidate = "")
      (hrest : FirstNotBlank rest version) : FirstNotBlank (candidate :: rest) version
  | none : FirstNotBlank [] ""

theorem isRuntimeTag_iff {catalog : List RuntimeRelease} {tag : String} :
    isRuntimeTag catalog tag = true ↔ tag ∈ catalogVersions catalog ∨
      ∃ version, Version.read? tag = some version ∧ version.pre = [] := by
  simp [isRuntimeTag, Version.isPreRelease, Option.any_eq_true]

theorem runtimeTag?_eq_some_iff {catalog : List RuntimeRelease} {dockerfile : Dockerfile}
    {tag : String} :
    runtimeTag? catalog dockerfile = some tag ↔ NamesRuntime catalog dockerfile tag := by
  rw [runtimeTag?, Option.filter_eq_some_iff, Option.map_eq_some_iff, isRuntimeTag_iff]
  constructor
  · rintro ⟨⟨image, himage, rfl⟩, htag⟩
    exact ⟨image, himage, rfl, htag⟩
  · rintro ⟨image, himage, rfl, htag⟩
    exact ⟨⟨image, himage, rfl⟩, htag⟩

theorem exists_of_not_isBlank {candidate : Option String} (h : ¬ IsBlank candidate) :
    ∃ version, candidate = some version ∧ trimmed version ≠ "" := by
  simpa [IsBlank] using h

theorem firstNotBlank_resolveRuntimeVersion (candidates : List (Option String)) :
    FirstNotBlank (candidates.filterMap id) (resolveRuntimeVersion candidates) := by
  induction candidates with
  | nil => exact .none
  | cons candidate rest ih =>
    by_cases hblank : IsBlank candidate
    · rw [resolveRuntimeVersion_blank hblank]
      cases candidate with
      | none => exact ih
      | some version => exact .later (hblank version rfl) ih
    · obtain ⟨version, rfl, hne⟩ := exists_of_not_isBlank hblank
      rw [resolveRuntimeVersion_some hne]
      exact .here _ hne

/-- What is looked at to find a version, and the candidates that come out of it. -/
inductive Detected (r : ImageRequest) : List (Exchange outside) → List String → Prop where
  /-- The Dockerfile names a runtime, and no label is read. -/
  | dockerfile {content : Except IoFault (List UInt8)} {dockerfile : Dockerfile} {tag : String}
      (hread : readDockerfile r.ctx.dockerfilePath content = .ok dockerfile)
      (hnames : NamesRuntime r.catalog dockerfile tag) :
      Detected r [⟨.fileContent r.ctx.dockerfilePath, content⟩]
        (r.override.toList ++ [tag, r.currentVersion])
  /-- The Dockerfile names none, and the label is read. An image that is not there has none. -/
  | label {content : Except IoFault (List UInt8)} {dockerfile : Dockerfile}
      {answer : Except Fault String} {label : String}
      (hread : readDockerfile r.ctx.dockerfilePath content = .ok dockerfile)
      (hnone : ∀ tag, ¬ NamesRuntime r.catalog dockerfile tag)
      (hlabel : answer = .ok label ∨ (∃ text, answer = .error (.notFound text)) ∧ label = "") :
      Detected r [⟨.fileContent r.ctx.dockerfilePath, content⟩,
        ⟨.label r.ctx.image runtimeLabel, answer⟩] (r.override.toList ++ [label, r.currentVersion])

theorem ends_dockerfileRuntimeTag_ok {tag : Option String}
    (h : Ends (dockerfileRuntimeTag r.ctx r.catalog) trace (.ok tag)) :
    ∃ content dockerfile, trace = [⟨.fileContent r.ctx.dockerfilePath, content⟩] ∧
      readDockerfile r.ctx.dockerfilePath content = .ok dockerfile ∧
      tag = runtimeTag? r.catalog dockerfile := by
  obtain ⟨read, hread, htag⟩ := ends_map_iff.mp h
  cases read with
  | error _ => cases htag
  | ok dockerfile =>
    obtain ⟨content, hcontent, hdockerfile⟩ := runs_map_iff.mp (ends_expect_ok_iff.mp hread)
    exact ⟨content, dockerfile, runs_query_iff.mp hcontent, hdockerfile.symm, Except.ok.inj htag⟩

theorem ends_existingLabel_ok {image label : String}
    (h : Ends (existingLabel image) trace (.ok label)) :
    ∃ answer : Except Fault String, trace = [⟨.label image runtimeLabel, answer⟩] ∧
      (answer = .ok label ∨ (∃ text, answer = .error (.notFound text)) ∧ label = "") := by
  obtain ⟨answer, hask, hlabel⟩ := runs_map_iff.mp (ends_expect_ok_iff.mp h)
  refine ⟨answer, runs_query_iff.mp hask, ?_⟩
  unfold labelIfAny at hlabel
  split at hlabel
  · next text => exact .inr ⟨⟨text, rfl⟩, Except.ok.inj hlabel⟩
  · exact .inl hlabel.symm

/-- A candidate that says nothing may stand anywhere. -/
theorem resolveRuntimeVersion_append_blank {candidate : Option String} (h : IsBlank candidate)
    (first rest : List (Option String)) :
    resolveRuntimeVersion (first ++ candidate :: rest) = resolveRuntimeVersion (first ++ rest) := by
  induction first with
  | nil => exact resolveRuntimeVersion_blank h rest
  | cons candidate' first ih =>
    rw [List.cons_append, List.cons_append]
    by_cases hblank : IsBlank candidate'
    · rw [resolveRuntimeVersion_blank hblank, resolveRuntimeVersion_blank hblank, ih]
    · obtain ⟨version, rfl, hne⟩ := exists_of_not_isBlank hblank
      rw [resolveRuntimeVersion_some hne, resolveRuntimeVersion_some hne]

theorem detected_of_ends (hsource : r.source = none)
    (h : Ends (candidateVersion r) trace (.ok version)) :
    ∃ candidates, Detected r trace candidates ∧ FirstNotBlank candidates version := by
  have hcandidates (found : String) :
      FirstNotBlank (r.override.toList ++ [found, r.currentVersion])
        (resolveRuntimeVersion [r.override, some found, some r.currentVersion]) := by
    have hfirst := firstNotBlank_resolveRuntimeVersion
      [r.override, some found, some r.currentVersion]
    cases hoverride : r.override <;> simpa [hoverride] using hfirst
  rw [candidateVersion_eq, hsource] at h
  obtain ⟨_, _, last, rfl, htag, hversion⟩ := ends_bind_ok_iff.mp h
  obtain ⟨content, dockerfile, rfl, hread, rfl⟩ := ends_dockerfileRuntimeTag_ok htag
  cases hnamed : runtimeTag? r.catalog dockerfile with
  | some tag =>
    rw [hnamed] at hversion
    obtain ⟨rfl, hfound⟩ := ends_pure_iff.mp hversion
    obtain rfl := Except.ok.inj hfound
    refine ⟨_, .dockerfile hread (runtimeTag?_eq_some_iff.mp hnamed), ?_⟩
    -- An empty label stands for the one that is not read.
    have hempty : IsBlank (some "") := by
      rintro _ ⟨⟩
      decide
    have hskip := resolveRuntimeVersion_append_blank hempty [r.override, some tag]
      [some r.currentVersion]
    exact hskip ▸ hcandidates tag
  | none =>
    have hnone (tag : String) : ¬ NamesRuntime r.catalog dockerfile tag := by
      simp [← runtimeTag?_eq_some_iff, hnamed]
    rw [hnamed] at hversion
    obtain ⟨_, label, _, rfl, hlabel, hlast⟩ := ends_bind_ok_iff.mp hversion
    obtain ⟨answer, rfl, hanswer⟩ := ends_existingLabel_ok hlabel
    obtain ⟨rfl, hfound⟩ := ends_pure_iff.mp hlast
    obtain rfl := Except.ok.inj hfound
    refine ⟨_, .label hread hnone hanswer, ?_⟩
    have habsent : IsBlank none := by
      rintro _ ⟨⟩
    have hskip := resolveRuntimeVersion_append_blank habsent [r.override]
      [some label, some r.currentVersion]
    exact hskip ▸ hcandidates label

/-- Behind the version there is one build, with no call before it, and one look at the label. -/
theorem calls_produceFor (hsource : r.source = none)
    (h : Ends (produceFor r version) (before ++ e :: after) result) {c : Call}
    (he : Query.call? e.query = some c) :
    (c = .build ∧ calls before = [] ∧ .build ∉ calls after) ∨
      c = .readLabel ∧ calls before = [.build] := by
  have hfollows := follows_produceFor r version
  rw [hsource] at hfollows
  obtain ⟨plan, hplan, hprefix, _⟩ := hfollows h
  obtain rfl := List.mem_singleton.mp hplan
  rw [calls_append, calls_cons, he, Option.toList_some, List.singleton_append] at hprefix
  cases hbefore : calls before with
  | nil =>
    rw [hbefore] at hprefix
    obtain ⟨hc, hafter⟩ := List.cons_prefix_cons.mp hprefix
    exact .inl ⟨hc, rfl, fun hmem => by simpa using hafter.subset hmem⟩
  | cons first rest =>
    rw [hbefore] at hprefix
    obtain ⟨rfl, hrest⟩ := List.cons_prefix_cons.mp hprefix
    cases rest with
    | nil => exact .inr ⟨(List.cons_prefix_cons.mp hrest).1, rfl⟩
    | cons second rest =>
      have hnone := (List.cons_prefix_cons.mp hrest).2
      simp at hnone

/-- The content of a file is a Dockerfile that names a runtime. -/
def HasRuntime (r : ImageRequest) (content : Except IoFault (List UInt8)) : Prop :=
  ∃ dockerfile tag, readDockerfile r.ctx.dockerfilePath content = .ok dockerfile ∧
    NamesRuntime r.catalog dockerfile tag

/-- Where the Dockerfile names a runtime, a label is read only after a build. -/
theorem build_mem_of_label (hsource : r.source = none)
    (h : Ends (produceImage r) (before ++ e :: after) result)
    (he : Query.call? e.query = some .readLabel) :
    ∃ content rest, before = ⟨.fileContent r.ctx.dockerfilePath, content⟩ :: rest ∧
      (HasRuntime r content → .build ∈ calls before) := by
  have hproduce : produceImage r = dockerfileRuntimeTag r.ctx r.catalog >>= fun tag =>
      detectedVersion r tag >>= produceFor r := by
    rw [produceImage_eq, candidateVersion_eq, hsource]
    exact LawfulMonad.bind_assoc ..
  rw [hproduce] at h
  obtain ⟨_, _, middle, rfl, htag, hrest⟩ :=
    (follows_dockerfileRuntimeTag _ _).ends_right h he (by simp)
  obtain ⟨content, dockerfile, rfl, hread, rfl⟩ := ends_dockerfileRuntimeTag_ok htag
  refine ⟨content, middle, rfl, ?_⟩
  -- The version is there without another question.
  rintro ⟨_, tag, hread', hnames⟩
  obtain rfl := Except.ok.inj (hread.symm.trans hread')
  rw [runtimeTag?_eq_some_iff.mpr hnames] at hrest
  rcases calls_produceFor hsource hrest he with ⟨⟨⟩, _⟩ | ⟨_, hbuild⟩
  simp [hbuild]

/-- Two behaviours that differ at most in the labels that they answer with before a build. -/
def DifferInLabels (b b' : Behaviour outside) : Prop :=
  ∀ past q, (Query.call? q = some .readLabel → .build ∈ calls past) → b' past q = b past q

/-- Without a supplied image, at most one image is built. What is built is the request with the
version that was found, the first of the candidates that is not blank. Where the Dockerfile names a
runtime, the labels before the build change nothing. -/
theorem produceImage_builds_first_candidate (hsource : r.source = none) :
    (∀ before image ctx answer after result,
      Ends (produceImage r) (before ++ ⟨.build image ctx, answer⟩ :: after) result →
      image = r.ctx.image ∧ .build ∉ calls before ∧ .build ∉ calls after ∧
      ∃ looked told candidates version, before = looked ++ told ∧ calls told = [] ∧
        Detected r looked candidates ∧ FirstNotBlank candidates version ∧
        ctx = { r.ctx with runtimeTag := version }) ∧
    ∀ b b' : Behaviour outside, DifferInLabels b b' →
      HasRuntime r (b [] (.fileContent r.ctx.dockerfilePath)) →
      (produceImage r).run.respond b' [] = (produceImage r).run.respond b [] := by
  constructor
  · intro before image ctx answer after result h
    rw [produceImage_eq] at h
    obtain ⟨looked, version, told, rfl, hversion, hproduce⟩ :=
      (follows_candidateVersion r).ends_right h rfl (build_not_mem_candidatePlans _)
    obtain ⟨candidates, hdetected, hfirst⟩ := detected_of_ends hsource hversion
    have hlooked : .build ∉ calls looked :=
      (follows_candidateVersion r).not_mem_calls (build_not_mem_candidatePlans _) hversion
    obtain ⟨rfl, rfl⟩ := Query.build.inj (ends_produceFor_at hproduce rfl).1
    rcases calls_produceFor hsource hproduce rfl with ⟨_, htold, hafter⟩ | ⟨⟨⟩, _⟩
    exact ⟨rfl, by simp [hlooked, htold], hafter, looked, told, candidates, version, rfl, htold,
      hdetected, hfirst, rfl⟩
  · intro b b' hdiffer hruntime
    -- Along the run of `b` every label comes after a build, where both give the same answers.
    refine respond_congr fun before e after hrun => hdiffer _ _ fun hlabel => ?_
    have hends := runs_respond b [] (produceImage r).run
    rw [hrun] at hends
    obtain ⟨content, rest, rfl, hbuild⟩ := build_mem_of_label hsource hends hlabel
    have hfirst : ((produceImage r).run.respond b []).1 =
        [] ++ ⟨.fileContent r.ctx.dockerfilePath, content⟩ :: (rest ++ e :: after) := hrun
    have hcontent : content = b [] (.fileContent r.ctx.dockerfilePath) := answer_of_respond hfirst
    exact hbuild (hcontent ▸ hruntime)

/-- The text `FROM r:5.0.0`. -/
def releaseText : List UInt8 := [70, 82, 79, 77, 32, 114, 58, 53, 46, 48, 46, 48]

/-- The Dockerfile in that text. -/
def releaseFile : Dockerfile := ⟨[⟨.fromImage, "r:5.0.0", 1⟩]⟩

theorem readDockerfile_releaseText (path : String) :
    readDockerfile path (.ok releaseText) = .ok releaseFile := rfl

/-- An outside with that Dockerfile. Until an image is built, an older one is there with a label. -/
def withOldImage (label : String) : Behaviour outside
  | _, .fileContent _ => .ok releaseText
  | past, .label _ _ => .ok (if .build ∈ calls past then "5.0.0" else label)
  | _, q => labelling "" q

theorem differInLabels_withOldImage (label label' : String) :
    DifferInLabels (withOldImage label) (withOldImage label') := by
  intro past q hq
  cases q with
  | label image key =>
    have hlabel (label : String) : withOldImage label past (.label image key) = .ok "5.0.0" :=
      congrArg Except.ok (if_pos (hq rfl))
    rw [hlabel, hlabel]
  | _ => rfl

/-- A request for the image of a deployment that runs `5.0.0`, answered by that outside. -/
def builtRun (label : String) : List (Exchange outside) × Except DeployError String :=
  (produceImage (requestOf none)).run.respond (withOldImage label) []

/-- The version of the Dockerfile is built, whether the image before was an older one or not. -/
theorem builtRun_ignores_label :
    (requestOf none).source = none ∧ builtRun "4.0.0" = builtRun "5.0.0" ∧
    ∃ before after, (builtRun "4.0.0").1 = before ++
        ⟨.build "r/airflow:latest" { (requestOf none).ctx with runtimeTag := "5.0.0" }, .ok ()⟩ ::
          after ∧
      .build ∉ calls before ∧ .build ∉ calls after ∧
      ∃ looked candidates,
        Detected (requestOf none) looked candidates ∧ FirstNotBlank candidates "5.0.0" := by
  have hsource : (requestOf none).source = none := rfl
  obtain ⟨hbuild, hsame⟩ := produceImage_builds_first_candidate hsource
  refine ⟨hsource, hsame (withOldImage "5.0.0") (withOldImage "4.0.0") ?_ ?_, ?_⟩
  · exact differInLabels_withOldImage _ _
  · have hbase : releaseFile.baseImage = some "r:5.0.0" := by decide +kernel
    have htag : "5.0.0" = ImageReference.tag "r:5.0.0" := by decide +kernel
    exact ⟨releaseFile, "5.0.0", readDockerfile_releaseText _, "r:5.0.0", hbase, htag,
      .inl (by decide)⟩
  · let run := (builtRun "4.0.0").1
    have hrun : run = run.take 2 ++
        ⟨.build "r/airflow:latest" { (requestOf none).ctx with runtimeTag := "5.0.0" }, .ok ()⟩ ::
          run.drop 3 := rfl
    have hends : Ends (produceImage (requestOf none)) run (builtRun "4.0.0").2 :=
      runs_respond _ _ _
    rw [hrun] at hends
    obtain ⟨_, hbefore, hafter, looked, _, candidates, version, _, _, hdetected, hfirst, hctx⟩ :=
      hbuild _ _ _ _ _ _ hends
    have hversion : "5.0.0" = version := congrArg BuildContext.runtimeTag hctx
    exact ⟨_, _, hrun, hbefore, hafter, looked, candidates, hdetected, hversion ▸ hfirst⟩

end AirflowDeploy.Deploy
