import AirflowDeploy.Json.Fields
import AirflowDeploy.Proofs.Json.Reading
import Mathlib.Data.List.Forall2
import Mathlib.Data.List.Nodup
import Mathlib.Data.Option.Basic

/-!
# Told records

A text tells a record by its members in any order and among others, or without some of them. Each
field is found where it is told, and left to its default where it is left out.
-/
namespace AirflowDeploy.Json

variable {left : List String} {fields : List (String × Json)}

/-- The fields that are told. -/
def kept (left : List String) (fields : List (String × Json)) : List (String × Json) :=
  fields.filter fun field => field.1 ∉ left

/-- A value that tells the same as another one: a record has its members in any order, without
those that are left out and with others that have other names. -/
inductive Retold (left : List String) : Json → Json → Prop where
  | null : Retold left .null .null
  | text (s : String) : Retold left (.text s) (.text s)
  | object {fields : List (String × Json)} {known others members : List (Option String × Json)}
      (hnames : known.map Prod.fst = (kept left fields).map fun field => some field.1)
      (hvalues : List.Forall₂ (fun field member => Retold left field.2 member.2) (kept left fields)
        known)
      (horder : members.Perm (known ++ others))
      (hothers : ∀ other ∈ others, ∃ name, other.1 = some name ∧ name ∉ fields.map Prod.fst) :
      Retold left (record fields) (.object members)

theorem Retold.eq_null {j : Json} (h : Retold left .null j) : j = .null := by
  cases h with
  | null => rfl

theorem Retold.eq_text {s : String} {j : Json} (h : Retold left (.text s) j) : j = .text s := by
  generalize hfull : Json.text s = full at h
  cases h with
  | null => cases hfull
  | text t => rfl
  | object => cases hfull

theorem record_injective : Function.Injective record := by
  intro fields others h
  refine List.map_injective_iff.mpr ?_ (Json.object.inj h)
  rintro ⟨name, value⟩ ⟨other, value'⟩ hfield
  simpa using hfield

section Members

variable {known others members : List (Option String × Json)} {name : String} {value : Json}

/-- The only member with its name is found by it. -/
theorem filter_name_eq_singleton (hnodup : (members.map Prod.fst).Nodup)
    (hmem : (some name, value) ∈ members) :
    members.filter (fun member => member.1 == some name) = [(some name, value)] := by
  induction members with
  | nil => cases hmem
  | cons member members ih =>
    obtain ⟨hnew, hrest⟩ := List.nodup_cons.mp hnodup
    rcases List.mem_cons.mp hmem with rfl | hlater
    · have hnone : members.filter (fun member => member.1 == some name) = [] := by
        refine List.filter_eq_nil_iff.mpr fun other hother hname => hnew ?_
        have hin : other.1 ∈ members.map Prod.fst := List.mem_map_of_mem hother
        rwa [eq_of_beq hname] at hin
      simp [hnone]
    · have hother : ¬(member.1 == some name) = true := by
        intro hname
        have hin : some name ∈ members.map Prod.fst := List.mem_map_of_mem hlater
        rw [← eq_of_beq hname] at hin
        exact hnew hin
      rw [List.filter_cons, if_neg hother, ih hrest hlater]

theorem filter_name_eq_nil (h : ∀ member ∈ members, member.1 ≠ some name) :
    members.filter (fun member => member.1 == some name) = [] :=
  List.filter_eq_nil_iff.mpr fun member hmember hname => h member hmember (eq_of_beq hname)

/-- A known member is found, whatever the order is and whichever other names there are. -/
theorem member?_eq_some (horder : members.Perm (known ++ others))
    (hnodup : (known.map Prod.fst).Nodup) (hothers : ∀ other ∈ others, other.1 ≠ some name)
    (hmem : (some name, value) ∈ known) : member? name members = some (some value) := by
  have hfound := horder.filter fun member => member.1 == some name
  rw [List.filter_append, filter_name_eq_singleton hnodup hmem, filter_name_eq_nil hothers,
    List.append_nil, List.perm_singleton] at hfound
  rw [member?, hfound]

theorem member?_eq_none (horder : members.Perm (known ++ others))
    (hknown : ∀ member ∈ known, member.1 ≠ some name)
    (hothers : ∀ other ∈ others, other.1 ≠ some name) : member? name members = some none := by
  have hfound := horder.filter fun member => member.1 == some name
  rw [List.filter_append, filter_name_eq_nil hknown, filter_name_eq_nil hothers,
    List.append_nil, List.perm_nil] at hfound
  rw [member?, hfound]

end Members

/-- What is found of a field: nothing where it is left out. -/
def FieldTold (left : List String) (field : String × Json) (value : Option Json) : Prop :=
  if field.1 ∈ left then value = none else ∃ j, value = some j ∧ Retold left field.2 j

theorem fieldTold_of_mem {field : String × Json} {value : Option Json} (h : field.1 ∈ left) :
    FieldTold left field value ↔ value = none := by
  rw [FieldTold, if_pos h]

theorem fieldTold_of_not_mem {field : String × Json} {value : Option Json} (h : field.1 ∉ left) :
    FieldTold left field value ↔ ∃ j, value = some j ∧ Retold left field.2 j := by
  rw [FieldTold, if_neg h]

theorem exists_mapM_eq_some {α β γ : Type} {key : α → β} {f : β → Option γ} {r : α → γ → Prop}
    {as : List α} (h : ∀ a ∈ as, ∃ c, f (key a) = some c ∧ r a c) :
    ∃ cs, (as.map key).mapM f = some cs ∧ List.Forall₂ r as cs := by
  induction as with
  | nil => exact ⟨[], rfl, .nil⟩
  | cons a as ih =>
    obtain ⟨⟨c, hc, hr⟩, hrest⟩ := List.forall_mem_cons.mp h
    obtain ⟨cs, hcs, hrs⟩ := ih hrest
    exact ⟨c :: cs, by simp [List.mapM_cons, hc, hcs], .cons hr hrs⟩

theorem exists_mem_of_forall₂ {known : List (Option String × Json)}
    (hnames : known.map Prod.fst = fields.map fun field => some field.1)
    (hvalues : List.Forall₂ (fun field member => Retold left field.2 member.2) fields known)
    {field : String × Json} (hfield : field ∈ fields) :
    ∃ value, (some field.1, value) ∈ known ∧ Retold left field.2 value := by
  induction hvalues with
  | nil => cases hfield
  | @cons first member fields known hvalue _ ih =>
    obtain ⟨hname, hrest⟩ := List.cons.inj hnames
    rcases List.mem_cons.mp hfield with rfl | hlater
    · refine ⟨member.2, ?_, hvalue⟩
      rw [← show member.1 = some field.1 from hname]
      exact List.mem_cons_self
    · obtain ⟨value, hmem, htold⟩ := ih hrest hlater
      exact ⟨value, List.mem_cons_of_mem member hmem, htold⟩

section Told

variable {known others members : List (Option String × Json)}
  (hnames : known.map Prod.fst = (kept left fields).map fun field => some field.1)
  (horder : members.Perm (known ++ others))
  (hothers : ∀ other ∈ others, ∃ name, other.1 = some name ∧ name ∉ fields.map Prod.fst)

include hnames

theorem exists_kept {member : Option String × Json} (hmember : member ∈ known) :
    ∃ field ∈ kept left fields, member.1 = some field.1 := by
  have hname : member.1 ∈ known.map Prod.fst := List.mem_map_of_mem hmember
  rw [hnames] at hname
  obtain ⟨field, hfield, heq⟩ := List.mem_map.mp hname
  exact ⟨field, hfield, heq.symm⟩

theorem nodup_known (hnodup : (fields.map Prod.fst).Nodup) : (known.map Prod.fst).Nodup := by
  have hsome := List.Nodup.map (Option.some_injective String) hnodup
  rw [List.map_map] at hsome
  rw [hnames]
  exact hsome.sublist (List.filter_sublist.map _)

include horder hothers

/-- Every member has a name. -/
theorem all_isSome : members.all (fun member => member.1.isSome) = true := by
  refine List.all_eq_true.mpr fun member hmember => ?_
  rcases List.mem_append.mp (horder.mem_iff.mp hmember) with htold | hother
  · obtain ⟨field, -, hname⟩ := exists_kept hnames htold
    rw [hname, Option.isSome_some]
  · obtain ⟨name, hname, -⟩ := hothers member hother
    rw [hname, Option.isSome_some]

theorem exists_member? (hnodup : (fields.map Prod.fst).Nodup)
    (hvalues : List.Forall₂ (fun field member => Retold left field.2 member.2) (kept left fields)
      known) {field : String × Json} (hfield : field ∈ fields) :
    ∃ value, member? field.1 members = some value ∧ FieldTold left field value := by
  have hforeign : ∀ other ∈ others, other.1 ≠ some field.1 := by
    intro other hother heq
    obtain ⟨name, hname, hnew⟩ := hothers other hother
    obtain rfl : name = field.1 := Option.some.inj (hname.symm.trans heq)
    exact hnew (List.mem_map_of_mem hfield)
  by_cases hleft : field.1 ∈ left
  · have hknown : ∀ member ∈ known, member.1 ≠ some field.1 := by
      intro member hmember heq
      obtain ⟨other, hkept, hname⟩ := exists_kept hnames hmember
      have hsame : other.1 = field.1 := Option.some.inj (hname.symm.trans heq)
      have hstays : other.1 ∉ left := by simpa using (List.mem_filter.mp hkept).2
      exact hstays (hsame ▸ hleft)
    exact ⟨none, member?_eq_none horder hknown hforeign, (fieldTold_of_mem hleft).mpr rfl⟩
  · have hkept : field ∈ kept left fields := List.mem_filter.mpr ⟨hfield, by simpa using hleft⟩
    obtain ⟨value, hmem, htold⟩ := exists_mem_of_forall₂ hnames hvalues hkept
    exact ⟨some value, member?_eq_some horder (nodup_known hnames hnodup) hforeign hmem,
      (fieldTold_of_not_mem hleft).mpr ⟨value, rfl, htold⟩⟩

end Told

/-- All fields of a record are found where it is told, or found to be left out. -/
theorem Retold.exists_fields {j : Json} {names : List String} (h : Retold left (record fields) j)
    (hnodup : names.Nodup) (hfields : fields.map Prod.fst = names) :
    ∃ values, j.fields? names = some values ∧ List.Forall₂ (FieldTold left) fields values := by
  subst hfields
  generalize hfull : record fields = full at h
  cases h with
  | null => cases hfull
  | text s => cases hfull
  | @object told known others members hnames hvalues horder hothers =>
    obtain rfl := record_injective hfull
    have hfound : ∀ field ∈ fields, ∃ value, member? field.1 members = some value ∧
        FieldTold left field value :=
      fun _ hfield => exists_member? hnames horder hothers hnodup hvalues hfield
    obtain ⟨values, hvalues, htold⟩ : ∃ values,
        (fields.map Prod.fst).mapM (member? · members) = some values ∧
          List.Forall₂ (FieldTold left) fields values := exists_mapM_eq_some hfound
    exact ⟨values, (if_pos (all_isSome hnames horder hothers)).trans hvalues, htold⟩

/-- The value of a field, or its default where the field is left out. -/
def toldOr {α : Type} (left : List String) (name : String) (value default : α) : α :=
  if name ∈ left then default else value

variable {name s : String} {value : Option Json}

theorem FieldTold.required (h : FieldTold left (name, text s) value) (hname : name ∉ left) :
    required? text? value = some s := by
  obtain ⟨j, rfl, htold⟩ := (fieldTold_of_not_mem hname).mp h
  rw [htold.eq_text]
  rfl

theorem FieldTold.withDefault (h : FieldTold left (name, text s) value) :
    withDefault? "" text? value = some (toldOr left name s "") := by
  by_cases hname : name ∈ left
  · obtain rfl := (fieldTold_of_mem hname).mp h
    rw [toldOr, if_pos hname, withDefault?]
  · obtain ⟨j, rfl, htold⟩ := (fieldTold_of_not_mem hname).mp h
    rw [toldOr, if_neg hname, htold.eq_text]
    rfl

/-- A text tells a record: its members in any order and among others, but for those left out. -/
def IsToldBy (full : Json) (left : List String) (cs : List Char) : Prop :=
  ∃ told, Retold left full told ∧ Spells (.item told) cs

/-- A record is decoded from a text and from its bytes. -/
structure Decodes {α : Type} (ofJson? : Json → Option α) (cs : List Char) (a : α) : Prop where
  text : (read? cs).bind ofJson? = some a
  bytes : (readBytes? (Text.Utf8.encode cs)).bind ofJson? = some a

theorem IsToldBy.decodes {α : Type} {ofJson? : Json → Option α} {full : Json} {cs : List Char}
    {a : α} (h : IsToldBy full left cs) (hdecode : ∀ j, Retold left full j → ofJson? j = some a) :
    Decodes ofJson? cs a := by
  obtain ⟨told, htold, hspells⟩ := h
  have hread : (read? cs).bind ofJson? = some a := by
    rw [read?_of_spells hspells, Option.bind_some, hdecode told htold]
  exact ⟨hread, by rwa [readBytes?_encode]⟩

/-- Every text that tells a record is decoded to it, or to the record with defaults in place of
what is left out. -/
structure IsDecoded {α : Type} (toJson : α → Json) (ofJson? : Json → Option α)
    (optional : List String) (without : List String → α → α) (a : α) : Prop where
  whole : ∀ cs, IsToldBy (toJson a) [] cs → Decodes ofJson? cs a
  partly : ∀ left ⊆ optional, ∀ cs, IsToldBy (toJson a) left cs →
    Decodes ofJson? cs (without left a)

theorem isDecoded_of_retold {α : Type} {toJson : α → Json} {ofJson? : Json → Option α}
    {optional : List String} {without : List String → α → α} {a : α}
    (hnothing : without [] a = a) (h : ∀ left ⊆ optional, ∀ j, Retold left (toJson a) j →
      ofJson? j = some (without left a)) : IsDecoded toJson ofJson? optional without a where
  whole cs hcs := by
    have hdecodes := hcs.decodes (h [] (List.nil_subset optional))
    rwa [hnothing] at hdecodes
  partly left hleft cs hcs := hcs.decodes (h left hleft)

end AirflowDeploy.Json
