import AirflowDeploy.Proofs.Deploy.CheckedVersion
import AirflowDeploy.Proofs.Version.Chains
import AirflowDeploy.Proofs.Version.Newest

/-!
# The notice of a newer release

A notice is shown exactly where a stable version of the catalog comes after the version that is
deployed. It names the newest stable version. Where the deployed version has passed the check of
the catalog and of the running version, the named one passes it, too.
-/
namespace AirflowDeploy.Deploy

open Std Version

variable {catalog : List RuntimeRelease} {current version latest latest' : String}
  {v w : Version}

/-- The notice that names the release `latest`. -/
def noticeText (version latest : String) : String :=
  "WARNING! You are deploying runtime version " ++ version ++ " but " ++ latest ++
    " is available. Consider upgrading the base image in your Dockerfile."

theorem newerReleaseNotice?_eq (catalog : List RuntimeRelease) (version : String) :
    newerReleaseNotice? catalog version =
      (newerRelease? catalog version).map (noticeText version) := by
  unfold newerReleaseNotice? noticeText
  rfl

/-- A notice names one release. -/
theorem noticeText_inj : noticeText version latest = noticeText version latest' ↔
    latest = latest' := by
  unfold noticeText
  rw [String.append_left_inj, String.append_right_inj]

theorem newerRelease?_eq_some (h : newerRelease? catalog version = some latest) :
    ∃ v w, read? version = some v ∧ Newest (catalogVersions catalog) (some (latest, w)) ∧
      v.Precedes w := by
  obtain ⟨hlatest, hnewer⟩ := Option.filter_eq_some_iff.mp h
  rw [latestStable?_eq, Option.map_eq_some_iff] at hlatest
  obtain ⟨⟨_, w⟩, hentry, rfl⟩ := hlatest
  have hnewest := newest_newestOf? (catalogVersions catalog)
  rw [hentry] at hnewest
  cases hread : read? version with
  | none => simp [hread] at hnewer
  | some v =>
    simp only [hnewest.isStable.1, hread, beq_iff_eq] at hnewer
    exact ⟨v, w, rfl, hnewest, compare_eq_gt_iff.mp hnewer⟩

/-- The newest stable version is named where any stable version comes after the given one. -/
theorem newerRelease?_isSome (hread : read? version = some v) {text : String}
    (hmem : text ∈ catalogVersions catalog) (htext : IsStable text w) (hlt : v.Precedes w) :
    (newerRelease? catalog version).isSome = true := by
  have hnewest := newest_newestOf? (catalogVersions catalog)
  cases hentry : newestOf? (stable (catalogVersions catalog)) with
  | none =>
    rw [hentry] at hnewest
    exact absurd htext (hnewest.not_isStable text hmem w)
  | some entry =>
    obtain ⟨latest, u⟩ := entry
    rw [hentry] at hnewest
    have hwu : (w.compare u).isLE = true := by
      have hnot := hnewest.not_precedes hmem htext
      rw [← compare_eq_gt_iff] at hnot
      rwa [Ordering.isLE_iff_ne_gt]
    have hvu : v.compare u = .lt := TransCmp.lt_of_lt_of_isLE (compare_eq_lt_iff.mpr hlt) hwu
    have hgt : u.compare v = .gt := compare_eq_gt_iff.mpr (compare_eq_lt_iff.mp hvu)
    simp [newerRelease?, latestStable?_eq, hentry, hnewest.isStable.1, hread, hgt, Option.filter]

/-- A later version that the catalog lists is allowed as well. -/
theorem Allowed.of_precedes (h : Allowed catalog current version)
    (hcurrent : current = "" ∨ isReadable current = true) (hversion : read? version = some v)
    (hlatest : read? latest = some w) (hlt : v.Precedes w)
    (hmem : latest ∈ catalogVersions catalog) : Allowed catalog current latest := by
  refine ⟨hmem, ?_⟩
  by_cases hempty : current = ""
  · exact isUpgrade_iff.mpr (.inl hempty)
  · have hreadable : isReadable version = true := by simp [isReadable, hversion]
    have hle := ((isUpgrade_iff.mp h.2).resolve_left hempty).2
    have hfirst : NotOlder current version :=
      notOlder_of_isLE (hcurrent.resolve_left hempty) hreadable hle
    have hsecond : NotOlder version latest :=
      ⟨v, w, hversion, hlatest, by rw [compare_eq_lt_iff.mpr hlt]; rfl⟩
    exact (Trans.trans hfirst hsecond : NotOlder current latest).isUpgrade

/-- There is a notice exactly where the version can be read and a stable version of the catalog
comes after it. The release that the notice names is the last of the greatest ones, as the catalog
writes it, and it passes every check that the version has passed. -/
theorem newerReleaseNotice?_names_newest (catalog : List RuntimeRelease) (version : String) :
    ((newerReleaseNotice? catalog version).isSome = true ↔
      ∃ v, read? version = some v ∧
        ∃ text ∈ catalogVersions catalog, ∃ w, IsStable text w ∧ v.Precedes w) ∧
    ∀ notice, newerReleaseNotice? catalog version = some notice →
      ∃ latest w, notice = noticeText version latest ∧
        Newest (catalogVersions catalog) (some (latest, w)) ∧
        ∀ current, current = "" ∨ isReadable current = true →
          checkRuntimeVersion catalog current version = .ok () →
          checkRuntimeVersion catalog current latest = .ok () := by
  rw [newerReleaseNotice?_eq, Option.isSome_map]
  refine ⟨⟨fun h => ?_, ?_⟩, fun notice h => ?_⟩
  · obtain ⟨latest, hlatest⟩ := Option.isSome_iff_exists.mp h
    obtain ⟨v, w, hread, hnewest, hlt⟩ := newerRelease?_eq_some hlatest
    exact ⟨v, hread, latest, hnewest.mem, w, hnewest.isStable, hlt⟩
  · rintro ⟨v, hread, text, hmem, w, htext, hlt⟩
    exact newerRelease?_isSome hread hmem htext hlt
  · obtain ⟨latest, hlatest, rfl⟩ := Option.map_eq_some_iff.mp h
    obtain ⟨v, w, hread, hnewest, hlt⟩ := newerRelease?_eq_some hlatest
    refine ⟨latest, w, rfl, hnewest, fun current hcurrent hcheck => ?_⟩
    rw [checkRuntimeVersion_eq_ok_iff] at hcheck ⊢
    exact hcheck.of_precedes hcurrent hread hnewest.isStable.1 hlt hnewest.mem

/-- Releases of which one is listed twice, with texts that are none among them. -/
def mixedCatalog : List RuntimeRelease :=
  ["nightly", "4.2.5", "4.10.0+b.2", "5.0.0-rc1", "v4.10.0", "4.9.1"].map (⟨·, "2.7.3"⟩)

/-- The later one of two equal releases is named, and may be deployed as well. -/
theorem mixedCatalog_names_newest :
    newerReleaseNotice? mixedCatalog "4.2.5" = some (noticeText "4.2.5" "v4.10.0") ∧
    checkRuntimeVersion mixedCatalog "4.2.4" "4.2.5" = .ok () ∧
    checkRuntimeVersion mixedCatalog "4.2.4" "v4.10.0" = .ok () := by
  have hnotice : newerReleaseNotice? mixedCatalog "4.2.5" =
      some (noticeText "4.2.5" "v4.10.0") := by decide +kernel
  have hcheck : checkRuntimeVersion mixedCatalog "4.2.4" "4.2.5" = .ok () := rfl
  obtain ⟨latest, w, htext, -, hsame⟩ :=
    (newerReleaseNotice?_names_newest mixedCatalog "4.2.5").2 _ hnotice
  obtain rfl := noticeText_inj.mp htext
  exact ⟨hnotice, hcheck, hsame "4.2.4" (.inr (by decide +kernel)) hcheck⟩

end AirflowDeploy.Deploy
