import AirflowDeploy.Proofs.Engine.BuildPlace
import AirflowDeploy.Proofs.Engine.CheckRun
import AirflowDeploy.Proofs.Text.Lines

/-!
# Parts of references

A reference has a tag where a colon stands behind its last slash. Repository and tag make it up
again, so the engine tags the very image that it builds, inspects and pushes.
-/
namespace AirflowDeploy

open Dialogue Text

namespace ImageReference

variable {reference repository : String} {tag : Option String} {name cs : List Char}

/-- What stands behind the last slash. -/
def lastPart (cs : List Char) : List Char := (pieces Path.isSlash cs).getLastD []

/-- The repository of a reference, and the tag where it has one. -/
inductive Parts (reference : String) : String → Option String → Prop where
  | tagged {repository tag : String} (named : ':' ∈ lastPart reference.toList)
      (whole : repository ++ ":" ++ tag = reference) (slash : '/' ∉ tag.toList)
      (colon : ':' ∉ tag.toList) : Parts reference repository (some tag)
  | untagged (unnamed : ':' ∉ lastPart reference.toList) : Parts reference reference none

theorem lastPart_of_not_mem (h : '/' ∉ cs) : lastPart cs = cs := by
  have hpieces : pieces Path.isSlash cs = [cs] :=
    pieces_eq_singleton fun _ => beq_eq_false_of_notMem h
  rw [lastPart, hpieces]
  rfl

theorem lastPart_append_slash (path : List Char) (h : '/' ∉ name) :
    lastPart (path ++ '/' :: name) = name := by
  have hslash : Path.isSlash '/' = true := rfl
  have hname : pieces Path.isSlash name = [name] :=
    pieces_eq_singleton fun _ => beq_eq_false_of_notMem h
  rw [lastPart, pieces_append_cons hslash, hname]
  simp

/-- A text has no slash, or it has a last one. -/
theorem lastPart_cases (cs : List Char) :
    ('/' ∉ cs ∧ lastPart cs = cs) ∨
      ∃ path, cs = path ++ '/' :: lastPart cs ∧ '/' ∉ lastPart cs := by
  by_cases hslash : '/' ∈ cs
  · obtain ⟨path, name, rfl, hname⟩ := exists_last_of_mem hslash
    rw [lastPart_append_slash path hname]
    exact .inr ⟨path, rfl, hname⟩
  · exact .inl ⟨hslash, lastPart_of_not_mem hslash⟩

/-- The last colon of the last part is the one in front of the tag. -/
theorem cutTag_append_colon {tag : List Char} (hslash : '/' ∉ tag) (hcolon : ':' ∉ tag) :
    cutTag (cs ++ ':' :: tag) = (cs, some tag) := by
  have hcut (base : List Char) : cutLast isColon (base ++ ':' :: tag) = (some base, tag) :=
    cutLast_append base rfl fun _ => beq_eq_false_of_notMem hcolon
  by_cases hmem : '/' ∈ cs
  · obtain ⟨path, base, rfl, hbase⟩ := exists_last_of_mem hmem
    have hname : '/' ∉ base ++ ':' :: tag := by simp [hbase, hslash]
    have hdirs : cutLast Path.isSlash (path ++ '/' :: (base ++ ':' :: tag)) =
        (some path, base ++ ':' :: tag) :=
      cutLast_append path rfl fun _ => beq_eq_false_of_notMem hname
    simp [cutTag, hdirs, hcut]
  · have hname : '/' ∉ cs ++ ':' :: tag := by simp [hmem, hslash]
    have hdirs : cutLast Path.isSlash (cs ++ ':' :: tag) = (none, cs ++ ':' :: tag) :=
      cutLast_eq_self fun _ => beq_eq_false_of_notMem hname
    simp [cutTag, hdirs, hcut]

theorem cutTag_eq_self (h : ':' ∉ lastPart cs) : cutTag cs = (cs, none) := by
  have hcut : cutLast isColon (lastPart cs) = (none, lastPart cs) :=
    cutLast_eq_self fun _ => beq_eq_false_of_notMem h
  rcases lastPart_cases cs with ⟨hslash, hlast⟩ | ⟨path, hcs, hslash⟩
  · have hdirs : cutLast Path.isSlash cs = (none, cs) :=
      cutLast_eq_self fun _ => beq_eq_false_of_notMem hslash
    rw [hlast] at hcut
    simp [cutTag, hdirs, hcut]
  · have hdirs : cutLast Path.isSlash cs = (some path, lastPart cs) := by
      conv_lhs => rw [hcs]
      exact cutLast_append path rfl fun _ => beq_eq_false_of_notMem hslash
    simp [cutTag, hdirs, hcut]

theorem Parts.cutTag_eq (h : Parts reference repository tag) :
    cutTag reference.toList = (repository.toList, tag.map String.toList) := by
  cases h with
  | tagged named whole slash colon =>
    rw [← whole]
    simpa using cutTag_append_colon slash colon
  | untagged unnamed => exact cutTag_eq_self unnamed

/-- A reference has its parts in one way. -/
theorem Parts.unique {repository' : String} {tag' : Option String}
    (h : Parts reference repository tag) (h' : Parts reference repository' tag') :
    repository' = repository ∧ tag' = tag := by
  obtain ⟨hrepository, htag⟩ := Prod.mk.inj (h'.cutTag_eq.symm.trans h.cutTag_eq)
  exact ⟨String.toList_injective hrepository,
    Option.map_injective (fun _ _ htexts => String.toList_injective htexts) htag⟩

/-- A colon in the last part is followed by a tag. -/
theorem exists_tag_of_mem (h : ':' ∈ lastPart cs) :
    ∃ repository tag, cs = repository ++ ':' :: tag ∧ '/' ∉ tag ∧ ':' ∉ tag := by
  obtain ⟨base, tag, hlast, hcolon⟩ := exists_last_of_mem h
  rcases lastPart_cases cs with ⟨hslash, hwhole⟩ | ⟨path, hcs, hslash⟩
  · rw [hwhole] at hlast
    have htag : '/' ∉ tag := fun hmem => hslash (by simp [hlast, hmem])
    exact ⟨base, tag, hlast, htag, hcolon⟩
  · rw [hlast] at hcs hslash
    have htag : '/' ∉ tag := fun hmem => hslash (by simp [hmem])
    exact ⟨path ++ '/' :: base, tag, by simpa using hcs, htag, hcolon⟩

theorem exists_parts (reference : String) : ∃ repository tag, Parts reference repository tag := by
  by_cases hnamed : ':' ∈ lastPart reference.toList
  · obtain ⟨repository, tag, hwhole, hslash, hcolon⟩ := exists_tag_of_mem hnamed
    refine ⟨String.ofList repository, some (String.ofList tag), .tagged hnamed ?_ ?_ ?_⟩
    · simp [← String.toList_inj, hwhole]
    · simpa using hslash
    · simpa using hcolon
  · exact ⟨reference, none, .untagged hnamed⟩

theorem Parts.split_eq (h : Parts reference repository tag) :
    split reference = (repository, tag.getD "latest") := by
  rw [split, h.cutTag_eq]
  cases tag <;> simp

/-- Without a digest the tag is that of the whole reference. -/
theorem tag_eq (h : '@' ∉ reference.toList) :
    ImageReference.tag reference = String.ofList ((cutTag reference.toList).2.getD []) := by
  rw [ImageReference.tag, cutFirst_eq_self_of_notMem h]

theorem Parts.tag_eq (h : Parts reference repository tag) (hdigest : '@' ∉ reference.toList) :
    ImageReference.tag reference = tag.getD "" := by
  rw [ImageReference.tag_eq hdigest, h.cutTag_eq]
  cases tag <;> simp

/-- A digest makes no difference to the tag. -/
theorem tag_append_digest (h : '@' ∉ reference.toList) (digest : String) :
    ImageReference.tag (reference ++ "@" ++ digest) = ImageReference.tag reference := by
  have hcut : cutFirst (· == '@') (reference ++ "@" ++ digest).toList =
      (reference.toList, some digest.toList) := by
    have hcut := cutFirst_append (fun _ => beq_eq_false_of_notMem h) (beq_self_eq_true '@')
      digest.toList
    simpa using hcut
  rw [ImageReference.tag_eq h, ImageReference.tag, hcut]

theorem parts_ofRelease (release : String) {tag : String} (hslash : '/' ∉ tag.toList)
    (hcolon : ':' ∉ tag.toList) :
    Parts (ofRelease release tag) (release ++ "/airflow") (some tag) := by
  have hname : '/' ∉ "airflow:".toList ++ tag.toList := by simp [hslash]
  have hlast : lastPart (ofRelease release tag).toList = "airflow:".toList ++ tag.toList := by
    rw [← lastPart_append_slash release.toList hname]
    simp [ofRelease]
  refine .tagged ?_ ?_ hslash hcolon
  · simp [hlast]
  · simp [ofRelease, ← String.toList_inj]

end ImageReference

namespace Engine

open Machine

variable {e : Engine} {image : String} {trace : List (Exchange machine)}

/-- The reference that a question gives to a local image, by a build or a tag. -/
def givenReference? : Query → Option String
  | .process _ _ arguments => optionValue? "-t" arguments.tail
  | .daemon _ (.tag _ repository tag) => some (repository ++ ":" ++ tag)
  | _ => none

/-- The reference by which a question finds a local image. -/
def soughtReference? : Query → Option String
  | .daemon _ (.tag source _ _) => some source
  | .daemon _ (.inspect image) => some image
  | _ => none

/-- A supplied image is tagged by the same reference by which an image is built, inspected and
taken for a push. -/
structure AgreesOn (e : Engine) (image : String) : Prop where
  tagged : ∀ {source trace result}, Runs (e.tagLocal image source).run trace result →
    trace.map (givenReference? ·.query) = [some image]
  built : ∀ {ctx trace result}, Runs (e.build image ctx) trace result →
    trace.map (givenReference? ·.query) = [some image]
  inspected : ∀ {key trace result}, Runs (e.label image key) trace result →
    trace.map (soughtReference? ·.query) = [some image]
  pushed : ∀ {auth repository tag trace result},
    Runs (e.push image auth repository tag).run trace result →
      (trace.map (soughtReference? ·.query)).head? = some (some image)

theorem givenReference?_build {ctx : BuildContext} {result : Except Fault Unit}
    (h : Runs (e.build image ctx) trace result) :
    trace.map (givenReference? ·.query) = [some image] := by
  obtain ⟨answer, rfl⟩ := runs_build h
  simp [givenReference?, BuildContext.arguments, optionValue?]

theorem soughtReference?_label {key : String} {result : Except Fault String}
    (h : Runs (e.label image key) trace result) :
    trace.map (soughtReference? ·.query) = [some image] := by
  obtain ⟨body, hasked, -⟩ := runs_map_iff.mp h
  obtain ⟨reply, rfl, -⟩ := runs_request_iff.mp hasked
  rfl

theorem soughtReference?_push {auth : RegistryAuth} {repository tag : String}
    {result : Except Fault Unit} (h : Runs (e.push image auth repository tag).run trace result) :
    (trace.map (soughtReference? ·.query)).head? = some (some image) := by
  obtain ⟨reply, ⟨error, -, rfl, -⟩ | ⟨body, rest, -, rfl, -⟩⟩ := runs_request_bind h
  · rfl
  · rfl

/-- The daemon is asked once to tag the image that is supplied. -/
theorem givenReference?_tagLocal {source repository tag : String} {result : Except Fault Unit}
    (hparts : ImageReference.Parts image repository (some tag))
    (h : Runs (e.tagLocal image source).run trace result) :
    trace.map (givenReference? ·.query) = [some image] := by
  have hwhole : repository ++ ":" ++ tag = image := by
    cases hparts with
    | tagged _ whole _ _ => exact whole
  rw [tagLocal, hparts.split_eq] at h
  obtain ⟨reply, ⟨error, -, rfl, -⟩ | ⟨body, rest, -, rfl, hrest⟩⟩ := runs_request_bind h
  · exact congrArg (fun given => [some given]) hwhole
  · obtain ⟨rfl, -⟩ := runs_run_pure_iff.mp hrest
    exact congrArg (fun given => [some given]) hwhole

theorem agreesOn_of_parts {repository tag : String}
    (h : ImageReference.Parts image repository (some tag)) : e.AgreesOn image where
  tagged := givenReference?_tagLocal h
  built := givenReference?_build
  inspected := soughtReference?_label
  pushed := soughtReference?_push

end Engine

namespace ImageReference

/-- A reference is split into the parts that it has, where the tag is `latest` if there is none. Its
tag is the same one, or empty, whatever digest it has. The reference of a release is split into the
release and the tag, so the engine agrees on it. -/
theorem split_tag_by_parts :
    (∀ reference, ∃ repository tag, Parts reference repository tag ∧
      split reference = (repository, tag.getD "latest") ∧
      ('@' ∉ reference.toList → ImageReference.tag reference = tag.getD "" ∧
        ∀ digest, ImageReference.tag (reference ++ "@" ++ digest) = tag.getD "")) ∧
    ∀ release tag : String, '/' ∉ tag.toList → ':' ∉ tag.toList →
      split (ofRelease release tag) = (release ++ "/airflow", tag) ∧
      ∀ e : Engine, e.AgreesOn (ofRelease release tag) := by
  refine ⟨fun reference => ?_, fun release tag hslash hcolon => ?_⟩
  · obtain ⟨repository, tag, hparts⟩ := exists_parts reference
    refine ⟨repository, tag, hparts, hparts.split_eq, fun hdigest => ⟨hparts.tag_eq hdigest, ?_⟩⟩
    intro digest
    rw [tag_append_digest hdigest, hparts.tag_eq hdigest]
  · have hparts := parts_ofRelease release hslash hcolon
    exact ⟨hparts.split_eq, fun e => Engine.agreesOn_of_parts hparts⟩

/-- A reference with two colons, of which one belongs to a port. -/
def portReference : String := "localhost:5000/büro/airflow:1.0"

theorem parts_portReference :
    Parts portReference "localhost:5000/büro/airflow" (some "1.0") :=
  .tagged (by decide) rfl (by decide) (by decide)

theorem portReference_by_parts :
    ('@' ∉ portReference.toList ∧
      split portReference = ("localhost:5000/büro/airflow", "1.0") ∧
      ImageReference.tag portReference = "1.0" ∧
      ImageReference.tag (portReference ++ "@" ++ "sha256:0") = "1.0") ∧
    ('/' ∉ "latest".toList ∧ ':' ∉ "latest".toList ∧
      split (ofRelease "quasar:1/a" "latest") = ("quasar:1/a/airflow", "latest") ∧
      Engine.AgreesOn ⟨"", "docker"⟩ (ofRelease "quasar:1/a" "latest")) := by
  have hdigest : '@' ∉ portReference.toList := by decide
  have hslash : '/' ∉ "latest".toList := by decide
  have hcolon : ':' ∉ "latest".toList := by decide
  obtain ⟨repository, tag, hparts, hsplit, htag⟩ := split_tag_by_parts.1 portReference
  obtain ⟨rfl, rfl⟩ := parts_portReference.unique hparts
  obtain ⟨hplain, hwith⟩ := htag hdigest
  obtain ⟨hrelease, hagrees⟩ := split_tag_by_parts.2 "quasar:1/a" "latest" hslash hcolon
  exact ⟨⟨hdigest, hsplit, hplain, hwith _⟩, hslash, hcolon, hrelease, hagrees _⟩

end ImageReference

end AirflowDeploy
