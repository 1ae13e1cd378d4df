import AirflowDeploy.Proofs.Version.Precedence
import Mathlib.Data.List.Induction

/-!
# The newest stable version

Of some texts the newest stable version is one without a pre-release that no other such version
comes after. Of versions that count as the same one it is the last.
-/
namespace AirflowDeploy.Version

open Std

variable {texts : List String} {text latest : String} {v w : Version}
  {found : Option (String × Version)}

/-- The text reads as a version without a pre-release. -/
def IsStable (text : String) (v : Version) : Prop := read? text = some v ∧ v.pre = []

/-- Which of the texts is the newest stable version, and which version it is. -/
inductive Newest : List String → Option (String × Version) → Prop where
  | found {before after : List String} {latest : String} {v : Version}
      (hlatest : IsStable latest v)
      (hbefore : ∀ text ∈ before, ∀ w, IsStable text w → ¬ v.Precedes w)
      (hafter : ∀ text ∈ after, ∀ w, IsStable text w → w.Precedes v) :
      Newest (before ++ latest :: after) (some (latest, v))
  | missing {texts : List String} (h : ∀ text ∈ texts, ∀ v, ¬ IsStable text v) : Newest texts none

theorem Newest.mem (h : Newest texts (some (latest, v))) : latest ∈ texts := by
  cases h
  simp

theorem Newest.isStable (h : Newest texts (some (latest, v))) : IsStable latest v := by
  cases h
  assumption

theorem Newest.not_isStable (h : Newest texts none) : ∀ text ∈ texts, ∀ v, ¬ IsStable text v := by
  cases h
  assumption

/-- No stable version of the texts comes after the newest one. -/
theorem Newest.not_precedes (h : Newest texts (some (latest, v))) (hmem : text ∈ texts)
    (htext : IsStable text w) : ¬ v.Precedes w := by
  cases h with
  | found hlatest hbefore hafter =>
    rcases List.mem_append.mp hmem with hmem | hmem
    · exact hbefore text hmem w htext
    · rw [← compare_eq_lt_iff]
      rcases List.mem_cons.mp hmem with rfl | hmem
      · obtain rfl := Option.some.inj (htext.1.symm.trans hlatest.1)
        have hsame : w.compare w = .eq := ReflCmp.compare_self
        simp [hsame]
      · have hlater := compare_eq_gt_iff.mpr (hafter text hmem w htext)
        simp [hlater]

/-- A text that is no stable version changes nothing. -/
theorem Newest.append_unstable (h : Newest texts found) (htext : ∀ v, ¬ IsStable text v) :
    Newest (texts ++ [text]) found := by
  cases h with
  | @found before after latest v hlatest hbefore hafter =>
    rw [List.append_assoc, List.cons_append]
    refine .found hlatest hbefore fun other hother w hw => ?_
    rcases List.mem_append.mp hother with hother | hother
    · exact hafter other hother w hw
    · exact absurd (List.mem_singleton.mp hother ▸ hw) (htext w)
  | missing h =>
    refine .missing fun other hother => ?_
    rcases List.mem_append.mp hother with hother | hother
    · exact h other hother
    · exact List.mem_singleton.mp hother ▸ htext

/-- A stable version that comes before the newest one leaves it as it is. -/
theorem Newest.append_older (h : Newest texts (some (latest, v))) (htext : IsStable text w)
    (hlt : w.Precedes v) : Newest (texts ++ [text]) (some (latest, v)) := by
  cases h with
  | @found before after _ _ hlatest hbefore hafter =>
    rw [List.append_assoc, List.cons_append]
    refine .found hlatest hbefore fun other hother u hu => ?_
    rcases List.mem_append.mp hother with hother | hother
    · exact hafter other hother u hu
    · obtain rfl := List.mem_singleton.mp hother
      obtain rfl := Option.some.inj (htext.1.symm.trans hu.1)
      exact hlt

/-- A stable version that none of the others comes after is the newest one. -/
theorem newest_append (htext : IsStable text w)
    (hall : ∀ other ∈ texts, ∀ v, IsStable other v → ¬ w.Precedes v) :
    Newest (texts ++ [text]) (some (text, w)) :=
  .found htext hall fun _ hmem => by cases hmem

/-- The entry that a search from the left ends with. -/
def newestOf? : List (String × Version) → Option (String × Version)
  | [] => none
  | first :: rest => some (rest.foldl later first)

theorem latestStable?_eq (texts : List String) :
    latestStable? texts = (newestOf? (stable texts)).map (·.1) := by
  unfold latestStable?
  cases stable texts <;> rfl

theorem newestOf?_append (entries : List (String × Version)) (e : String × Version) :
    newestOf? (entries ++ [e]) = some ((newestOf? entries).elim e (later · e)) := by
  cases entries with
  | nil => rfl
  | cons first rest => simp [newestOf?]

/-- What a text contributes to the stable versions. -/
theorem stable_singleton_of (htext : IsStable text v) : stable [text] = [(text, v)] := by
  simp [stable, htext.1, isPreRelease, htext.2]

theorem stable_singleton_eq_nil (htext : ∀ v, ¬ IsStable text v) : stable [text] = [] := by
  cases hread : read? text with
  | none => simp [stable, hread]
  | some v =>
    have hpre : v.pre ≠ [] := fun hpre => htext v ⟨hread, hpre⟩
    simp [stable, hread, isPreRelease, hpre]

theorem newest_newestOf? (texts : List String) : Newest texts (newestOf? (stable texts)) := by
  induction texts using List.reverseRecOn with
  | nil => exact .missing fun _ hmem => by cases hmem
  | append_singleton texts text ih =>
    have happend : stable (texts ++ [text]) = stable texts ++ stable [text] :=
      List.filterMap_append
    by_cases htext : ∃ w, IsStable text w
    · obtain ⟨w, hw⟩ := htext
      rw [happend, stable_singleton_of hw, newestOf?_append]
      cases hfound : newestOf? (stable texts) with
      | none =>
        rw [hfound] at ih
        exact newest_append hw fun other hmem v hv => absurd hv (ih.not_isStable other hmem v)
      | some best =>
        obtain ⟨latest, v⟩ := best
        rw [hfound] at ih
        simp only [Option.elim_some, later]
        split
        · next hgt => exact ih.append_older hw (compare_eq_gt_iff.mp (by simpa using hgt))
        · next hle =>
          -- No earlier version comes after `w`, since none comes after `v`, which is not after `w`.
          refine newest_append hw fun other hmem u hu hwu => ?_
          have hvw : (v.compare w).isLE = true := by
            simpa [Ordering.isLE_iff_ne_gt] using hle
          have hvu : v.compare u = .lt := TransCmp.lt_of_isLE_of_lt hvw (compare_eq_lt_iff.mpr hwu)
          exact ih.not_precedes hmem hu (compare_eq_lt_iff.mp hvu)
    · have hnone : ∀ w, ¬ IsStable text w := fun w hw => htext ⟨w, hw⟩
      rw [happend, stable_singleton_eq_nil hnone, List.append_nil]
      exact ih.append_unstable hnone

end AirflowDeploy.Version
