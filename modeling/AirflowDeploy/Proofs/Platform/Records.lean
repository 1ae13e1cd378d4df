import AirflowDeploy.Platform.Record
import AirflowDeploy.Proofs.Json.Records
import AirflowDeploy.Proofs.Time.Instants

/-!
# Decoded platform records

A record is decoded from every text that tells its members, in any order and among others. A member
that may be left out leaves its field at the default. Both hold in the records within a record.
-/
namespace AirflowDeploy

open Json

variable {left : List String} {j : Json}

/-- An instant is told by its text, and none by null. -/
theorem Json.FieldTold.instant {name : String} {value : Option Json} {t : Option Instant}
    (h : FieldTold left (name, orNull (text ·.render) t) value) (ht : ∀ i ∈ t, i.InRange) :
    withDefault? none (nullable? Instant.ofJson?) value = some (toldOr left name t none) := by
  by_cases hname : name ∈ left
  · obtain rfl := (fieldTold_of_mem hname).mp h
    rw [toldOr, if_pos hname, withDefault?]
  · obtain ⟨j, rfl, htold⟩ := (fieldTold_of_not_mem hname).mp h
    rw [toldOr, if_neg hname, withDefault?]
    cases t with
    | none =>
      rw [Retold.eq_null htold]
      rfl
    | some i =>
      have hparse : Instant.ofJson? (text i.render) = some i := by
        rw [Instant.ofJson?, text, text?, Option.bind_some, Instant.parse?_render (ht i rfl)]
      rw [Retold.eq_text htold, nullable?, hparse, Option.map_some]
      rintro ⟨⟩

namespace Workspace

/-- The members that may be left out. -/
def optional : List String := ["label", "organizationId"]

/-- The record with the defaults in place of what is left out. -/
def without (left : List String) (w : Workspace) : Workspace where
  id := w.id
  label := toldOr left "label" w.label ""
  organizationId := toldOr left "organizationId" w.organizationId ""

theorem ofJson?_of_retold {w : Workspace} (hleft : left ⊆ optional) (h : Retold left w.toJson j) :
    ofJson? j = some (w.without left) := by
  have hnodup : ["id", "label", "organizationId"].Nodup := by decide
  have hstays : "id" ∉ left := mt (@hleft _) (by decide)
  obtain ⟨values, hfields, hvalues⟩ := h.exists_fields hnodup rfl
  rcases hvalues with _ | ⟨hid, _ | ⟨hlabel, _ | ⟨horganization, _ | _⟩⟩⟩
  rw [ofJson?, hfields]
  simp only [Option.bind_eq_bind, Option.bind_some, hid.required hstays, hlabel.withDefault,
    horganization.withDefault]
  rfl

end Workspace

namespace RuntimeRelease

def optional : List String := ["airflowVersion"]

def without (left : List String) (r : RuntimeRelease) : RuntimeRelease where
  version := r.version
  airflowVersion := toldOr left "airflowVersion" r.airflowVersion ""

/-- A release is decoded alike where a list also names members of the record around it. -/
theorem ofJson?_of_retold {r : RuntimeRelease} (hstays : "version" ∉ left)
    (h : Retold left r.toJson j) : ofJson? j = some (r.without left) := by
  have hnodup : ["version", "airflowVersion"].Nodup := by decide
  obtain ⟨values, hfields, hvalues⟩ := h.exists_fields hnodup rfl
  rcases hvalues with _ | ⟨hversion, _ | ⟨hairflow, _ | _⟩⟩
  rw [ofJson?, hfields]
  simp only [Option.bind_eq_bind, Option.bind_some, hversion.required hstays, hairflow.withDefault]
  rfl

end RuntimeRelease

namespace Deployment

/-- The members that may be left out, with those of the release within. -/
def optional : List String :=
  ["label", "workspaceId", "webserverUrl", "createdAt"] ++ RuntimeRelease.optional

def without (left : List String) (d : Deployment) : Deployment where
  id := d.id
  label := toldOr left "label" d.label ""
  releaseName := d.releaseName
  workspaceId := toldOr left "workspaceId" d.workspaceId ""
  runtimeRelease := d.runtimeRelease.without left
  webserverUrl := toldOr left "webserverUrl" d.webserverUrl ""
  createdAt := toldOr left "createdAt" d.createdAt none

theorem ofJson?_of_retold {d : Deployment} (hcreated : ∀ t ∈ d.createdAt, t.InRange)
    (hleft : left ⊆ optional) (h : Retold left d.toJson j) :
    ofJson? j = some (d.without left) := by
  have hnodup : ["id", "label", "releaseName", "workspaceId", "runtimeRelease", "webserverUrl",
    "createdAt"].Nodup := by decide
  have hid : "id" ∉ left := mt (@hleft _) (by decide)
  have hname : "releaseName" ∉ left := mt (@hleft _) (by decide)
  have hrelease : "runtimeRelease" ∉ left := mt (@hleft _) (by decide)
  have hversion : "version" ∉ left := mt (@hleft _) (by decide)
  obtain ⟨values, hfields, hvalues⟩ := h.exists_fields hnodup rfl
  rcases hvalues with _ | ⟨id, _ | ⟨label, _ | ⟨name, _ | ⟨workspace, _ | ⟨release, _ |
    ⟨url, _ | ⟨created, _ | _⟩⟩⟩⟩⟩⟩⟩
  obtain ⟨told, rfl, htold⟩ := (fieldTold_of_not_mem hrelease).mp release
  have hwithin : required? RuntimeRelease.ofJson? (some told) =
      some (d.runtimeRelease.without left) := RuntimeRelease.ofJson?_of_retold hversion htold
  rw [ofJson?, hfields]
  simp only [Option.bind_eq_bind, Option.bind_some, id.required hid, label.withDefault,
    name.required hname, workspace.withDefault, hwithin, url.withDefault, created.instant hcreated]
  rfl

end Deployment

namespace Image

def optional : List String := ["deploymentId", "tag", "repository"]

def without (left : List String) (i : Image) : Image where
  id := i.id
  deploymentId := toldOr left "deploymentId" i.deploymentId ""
  tag := toldOr left "tag" i.tag ""
  repository := toldOr left "repository" i.repository ""

theorem ofJson?_of_retold {i : Image} (hleft : left ⊆ optional) (h : Retold left i.toJson j) :
    ofJson? j = some (i.without left) := by
  have hnodup : ["id", "deploymentId", "tag", "repository"].Nodup := by decide
  have hstays : "id" ∉ left := mt (@hleft _) (by decide)
  obtain ⟨values, hfields, hvalues⟩ := h.exists_fields hnodup rfl
  rcases hvalues with _ | ⟨hid, _ | ⟨hdeployment, _ | ⟨htag, _ | ⟨hrepository, _ | _⟩⟩⟩⟩
  rw [ofJson?, hfields]
  simp only [Option.bind_eq_bind, Option.bind_some, hid.required hstays, hdeployment.withDefault,
    htag.withDefault, hrepository.withDefault]
  rfl

end Image

/-- Nothing may be left out of a request. -/
theorem ImageCreation.ofJson?_of_retold {c : ImageCreation} (h : Retold [] c.toJson j) :
    ofJson? j = some c := by
  have hnodup : ["deploymentId", "tag"].Nodup := by decide
  obtain ⟨values, hfields, hvalues⟩ := h.exists_fields hnodup rfl
  rcases hvalues with _ | ⟨hdeployment, _ | ⟨htag, _ | _⟩⟩
  rw [ofJson?, hfields]
  simp only [Option.bind_eq_bind, Option.bind_some, hdeployment.required List.not_mem_nil,
    htag.required List.not_mem_nil]
  rfl

theorem ImageRollout.ofJson?_of_retold {r : ImageRollout} (h : Retold [] r.toJson j) :
    ofJson? j = some r := by
  have hnodup : ["imageId", "tag", "repository"].Nodup := by decide
  obtain ⟨values, hfields, hvalues⟩ := h.exists_fields hnodup rfl
  rcases hvalues with _ | ⟨himage, _ | ⟨htag, _ | ⟨hrepository, _ | _⟩⟩⟩
  rw [ofJson?, hfields]
  simp only [Option.bind_eq_bind, Option.bind_some, himage.required List.not_mem_nil,
    htag.required List.not_mem_nil, hrepository.required List.not_mem_nil]
  rfl

/-- Each of the records is decoded from every text that tells it. -/
theorem records_isDecoded :
    (∀ w, IsDecoded Workspace.toJson Workspace.ofJson? Workspace.optional Workspace.without w) ∧
    (∀ r, IsDecoded RuntimeRelease.toJson RuntimeRelease.ofJson? RuntimeRelease.optional
      RuntimeRelease.without r) ∧
    (∀ d : Deployment, (∀ t ∈ d.createdAt, t.InRange) →
      IsDecoded Deployment.toJson Deployment.ofJson? Deployment.optional Deployment.without d) ∧
    (∀ i, IsDecoded Image.toJson Image.ofJson? Image.optional Image.without i) ∧
    (∀ c, IsDecoded ImageCreation.toJson ImageCreation.ofJson? [] (fun _ c => c) c) ∧
    ∀ r, IsDecoded ImageRollout.toJson ImageRollout.ofJson? [] (fun _ r => r) r := by
  refine ⟨fun w => ?_, fun r => ?_, fun d hd => ?_, fun i => ?_, fun c => ?_, fun r => ?_⟩
  · exact isDecoded_of_retold rfl fun left hleft j hj => Workspace.ofJson?_of_retold hleft hj
  · refine isDecoded_of_retold rfl fun left hleft j hj => ?_
    exact RuntimeRelease.ofJson?_of_retold (mt (@hleft _) (by decide)) hj
  · exact isDecoded_of_retold rfl fun left hleft j hj => Deployment.ofJson?_of_retold hd hleft hj
  · exact isDecoded_of_retold rfl fun left hleft j hj => Image.ofJson?_of_retold hleft hj
  · refine isDecoded_of_retold rfl fun left hleft j hj => ?_
    rw [List.subset_nil.mp hleft] at hj
    exact ImageCreation.ofJson?_of_retold hj
  · refine isDecoded_of_retold rfl fun left hleft j hj => ?_
    rw [List.subset_nil.mp hleft] at hj
    exact ImageRollout.ofJson?_of_retold hj

/-- A record that is told backwards with another member before the rest. -/
theorem Json.Retold.backwards {fields : List (String × Json)}
    {known : List (Option String × Json)} {name : String} {value : Json}
    (hnames : known.map Prod.fst = (kept left fields).map fun field => some field.1)
    (hvalues : List.Forall₂ (fun field member => Retold left field.2 member.2) (kept left fields)
      known) (hname : name ∉ fields.map Prod.fst) :
    Retold left (record fields) (.object ((some name, value) :: known.reverse)) := by
  have horder : ((some name, value) :: known.reverse).Perm (known ++ [(some name, value)]) :=
    (List.perm_append_singleton _ _).symm.trans ((List.reverse_perm known).append_right _)
  refine .object hnames hvalues horder fun other hother => ?_
  rw [List.mem_singleton.mp hother]
  exact ⟨name, rfl, hname⟩

/-- A deployment, which is told backwards below, without two of its members and with another one
before the rest of each record. -/
def quasar : Deployment where
  id := "dep-1"
  label := "Quasar"
  releaseName := "quasar-\"star\""
  workspaceId := "ws-1"
  runtimeRelease := { version := "4.2.5", airflowVersion := "2.2.5" }
  webserverUrl := "https://é"
  createdAt := some (.ofSeconds 1700000000)

def quasarRelease : List (Option String × Json) :=
  [(some "version", text "4.2.5"), (some "airflowVersion", text "2.2.5")]

def quasarMembers : List (Option String × Json) :=
  [(some "id", text "dep-1"), (some "releaseName", text "quasar-\"star\""),
    (some "runtimeRelease", .object ((some "channel", .null) :: quasarRelease.reverse)),
    (some "webserverUrl", text "https://é"), (some "createdAt", text "2023-11-14T22:13:20Z")]

def quasarUsage : Json :=
  record [("cpu", .number ['0', '.', '5']), ("tags", .array [.bool true, text "a"])]

def quasarTold : Json := .object ((some "usage", quasarUsage) :: quasarMembers.reverse)

def quasarText : String :=
  "\x7b\"usage\":\x7b\"cpu\":0.5,\"tags\":[true,\"a\"]\x7d," ++
  "\"createdAt\":\"2023-11-14T22:13:20Z\",\"webserverUrl\":\"https://é\"," ++
  "\"runtimeRelease\":\x7b\"channel\":null,\"airflowVersion\":\"2.2.5\"," ++
  "\"version\":\"4.2.5\"\x7d,\"releaseName\":\"quasar-\\\"star\\\"\",\"id\":\"dep-1\"\x7d"

theorem quasarText_tells : IsToldBy quasar.toJson ["label", "workspaceId"] quasarText.toList := by
  have hrelease : Retold ["label", "workspaceId"] quasar.runtimeRelease.toJson
      (.object ((some "channel", .null) :: quasarRelease.reverse)) :=
    .backwards rfl (.cons (.text _) (.cons (.text _) .nil)) (by decide)
  have hinstant : (Instant.ofSeconds 1700000000).render = "2023-11-14T22:13:20Z" := by
    decide +kernel
  have hcreated : Retold ["label", "workspaceId"] (orNull (text ·.render) quasar.createdAt)
      (text "2023-11-14T22:13:20Z") := by
    rw [← hinstant]
    exact .text _
  have htold : Retold ["label", "workspaceId"] quasar.toJson quasarTold :=
    .backwards rfl (.cons (.text _) (.cons (.text _) (.cons hrelease (.cons (.text _)
      (.cons hcreated .nil))))) (by decide)
  have hfraction : IsFraction ['.', '5'] := .some ⟨by decide, List.forall_mem_singleton.mpr rfl⟩
  have hnumber : IsNumber ['0', '.', '5'] :=
    .mk (.inl rfl) ⟨by decide, List.forall_mem_singleton.mpr rfl, fun _ => rfl⟩ hfraction .none
  have husage : IsSpelled quasarUsage := isSpelled_record <| by
    simp [isSpelled_number hnumber, isSpelled_array, isSpelled_bool, isSpelled_text]
  have hspelled : IsSpelled quasarTold := isSpelled_object <| by
    simp [husage, quasarMembers, quasarRelease, isSpelled_null, isSpelled_text, isSpelled_object]
  have hwritten : render quasarTold = quasarText := by decide +kernel
  exact ⟨quasarTold, htold, hwritten ▸ (spells_render hspelled).toItem⟩

theorem quasarText_decodes :
    (∀ t ∈ quasar.createdAt, t.InRange) ∧ ["label", "workspaceId"] ⊆ Deployment.optional ∧
      Decodes Deployment.ofJson? quasarText.toList
        { quasar with label := "", workspaceId := "" } := by
  have hcreated : ∀ t ∈ quasar.createdAt, t.InRange := by
    intro t ht
    obtain rfl : Instant.ofSeconds 1700000000 = t := Option.some.inj ht
    exact ⟨by decide, by decide⟩
  have hleft : ["label", "workspaceId"] ⊆ Deployment.optional := by decide
  exact ⟨hcreated, hleft,
    (records_isDecoded.2.2.1 quasar hcreated).partly _ hleft _ quasarText_tells⟩

end AirflowDeploy
