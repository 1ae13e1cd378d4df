import AirflowDeploy.Dockerfile.Stage
import AirflowDeploy.Proofs.Text.Cut
import Mathlib.Data.List.Basic
import Mathlib.Data.List.TakeWhile

/-!
# Variables in a Dockerfile

A text is cut into characters and references to variables, `$NAME` or `${NAME}`. All references
are replaced at once: what stands in their place is not looked through again, so that it may hold
references in its turn.
-/
namespace AirflowDeploy.Dockerfile

open Text

/-- A letter or an underscore, then letters, digits and underscores. -/
def IsName : List Char → Prop
  | [] => False
  | c :: rest => isNameStart c = true ∧ ∀ d ∈ rest, isNameChar d = true

instance : DecidablePred IsName
  | [] => isFalse id
  | c :: rest => decidable_of_iff ((isNameStart c && rest.all isNameChar) = true) (by simp [IsName])

/-- The text after a dollar sign that makes a reference of both. -/
def StartsReference (cs : List Char) : Prop :=
  ∃ name rest, IsName name ∧ (cs = name ++ rest ∨ cs = '{' :: (name ++ '}' :: rest))

/-- Somewhere in the text stands `$NAME` or `${NAME}`. -/
def HasReference (cs : List Char) : Prop :=
  ∃ before after, cs = before ++ '$' :: after ∧ StartsReference after

theorem isNameStart_ne_brace {c : Char} (h : isNameStart c = true) : c ≠ '{' := by
  rintro rfl
  cases h

/-- A name is read as far as it goes. -/
theorem variableName?_eq_some_iff {cs name rest : List Char} :
    variableName? cs = some (name, rest) ↔
      IsName name ∧ cs = name ++ rest ∧ ∀ c ∈ rest.head?, isNameChar c = false := by
  cases cs with
  | nil =>
    cases name with
    | nil => simp [variableName?, IsName]
    | cons d more => simp [variableName?]
  | cons c cs =>
    constructor
    · intro h
      rw [variableName?] at h
      split at h
      · next hc =>
        obtain ⟨rfl, rfl⟩ := Prod.mk.inj (Option.some.inj h)
        refine ⟨⟨hc, fun d hd => List.mem_takeWhile_imp hd⟩, ?_, head?_dropWhile⟩
        rw [List.cons_append, List.takeWhile_append_dropWhile]
      · cases h
    · rintro ⟨hname, hcs, hend⟩
      cases name with
      | nil => exact hname.elim
      | cons d more =>
        rw [List.cons_append] at hcs
        obtain ⟨rfl, rfl⟩ := List.cons.inj hcs
        rw [variableName?, if_pos hname.1, List.takeWhile_append_of_pos hname.2,
          List.dropWhile_append_of_pos hname.2, takeWhile_eq_nil hend, dropWhile_eq_self hend,
          List.append_nil]

/-- A reference is a name in braces, or a name that no further character belongs to. -/
theorem reference?_eq_some_iff {cs name rest : List Char} :
    reference? cs = some (name, rest) ↔
      IsName name ∧ (cs = name ++ rest ∧ (∀ c ∈ rest.head?, isNameChar c = false) ∨
        cs = '{' :: (name ++ '}' :: rest)) := by
  by_cases hbrace : ∃ more, cs = '{' :: more
  · obtain ⟨more, rfl⟩ := hbrace
    have hbraced : reference? ('{' :: more) = some (name, rest) ↔
        variableName? more = some (name, '}' :: rest) := by
      simp only [reference?]
      constructor
      · intro h
        split at h
        · next hname =>
          obtain ⟨rfl, rfl⟩ := Prod.mk.inj (Option.some.inj h)
          exact hname
        · cases h
      · intro h
        simp [h]
    rw [hbraced, variableName?_eq_some_iff]
    have hclosing : ∀ c ∈ ('}' :: rest).head?, isNameChar c = false := by
      intro c hc
      obtain rfl := Option.some.inj hc
      rfl
    constructor
    · rintro ⟨hname, rfl, _⟩
      exact ⟨hname, .inr rfl⟩
    · rintro ⟨hname, ⟨hcs, _⟩ | hcs⟩
      · cases name with
        | nil => exact hname.elim
        | cons d name => exact absurd (List.cons.inj hcs).1.symm (isNameStart_ne_brace hname.1)
      · exact ⟨hname, (List.cons.inj hcs).2, hclosing⟩
  · have hbare : reference? cs = variableName? cs := by
      unfold reference?
      split
      · exact absurd ⟨_, rfl⟩ hbrace
      · rfl
    rw [hbare, variableName?_eq_some_iff]
    constructor
    · rintro ⟨hname, hcs⟩
      exact ⟨hname, .inl hcs⟩
    · rintro ⟨hname, hcs | hcs⟩
      · exact ⟨hname, hcs⟩
      · exact absurd ⟨_, hcs⟩ hbrace

theorem StartsReference.reference?_ne_none {cs : List Char} (h : StartsReference cs) :
    reference? cs ≠ none := by
  obtain ⟨name, rest, hname, rfl | rfl⟩ := h
  · -- The name may go on in `rest`.
    cases name with
    | nil => exact hname.elim
    | cons c name =>
      have hlong : variableName? (c :: (name ++ rest)) =
          some (c :: (name ++ rest).takeWhile isNameChar, (name ++ rest).dropWhile isNameChar) := by
        rw [variableName?, if_pos hname.1]
      obtain ⟨hfull, hcs, hend⟩ := variableName?_eq_some_iff.mp hlong
      have href := reference?_eq_some_iff.mpr ⟨hfull, .inl ⟨hcs, hend⟩⟩
      rw [List.cons_append, href]
      exact Option.some_ne_none _
  · rw [reference?_eq_some_iff.mpr ⟨hname, .inr rfl⟩]
    exact Option.some_ne_none _

theorem StartsReference.append {cs : List Char} (h : StartsReference cs) (more : List Char) :
    StartsReference (cs ++ more) := by
  obtain ⟨name, rest, hname, rfl | rfl⟩ := h
  · exact ⟨name, rest ++ more, hname, .inl (by simp)⟩
  · exact ⟨name, rest ++ more, hname, .inr (by simp)⟩

/-- A part with a reference makes one of the whole text. -/
theorem HasReference.within {cs : List Char} (h : HasReference cs) (first last : List Char) :
    HasReference (first ++ (cs ++ last)) := by
  obtain ⟨before, after, rfl, href⟩ := h
  exact ⟨first ++ before, after ++ last, by simp, href.append last⟩

inductive Segment where
  | char (c : Char)
  | reference (name : List Char)
  deriving DecidableEq, Repr

/-- The text of a segment, where variables have values. -/
def Segment.text (value : List Char → List Char) : Segment → List Char
  | char c => [c]
  | reference name => value name

def Segment.name? : Segment → Option (List Char)
  | char _ => none
  | reference name => some name

/-- The first segment of a text that starts with `c`, and the rest. -/
def cutSegment (c : Char) (cs : List Char) : Segment × List Char :=
  if c = '$' then
    match reference? cs with
    | some (name, rest) => (.reference name, rest)
    | none => (.char c, cs)
  else (.char c, cs)

theorem cutSegment_reference {cs name rest : List Char} (h : reference? cs = some (name, rest)) :
    cutSegment '$' cs = (.reference name, rest) := by
  simp [cutSegment, h]

theorem cutSegment_char {c : Char} {cs : List Char} (h : c = '$' → reference? cs = none) :
    cutSegment c cs = (.char c, cs) := by
  by_cases hc : c = '$'
  · simp [cutSegment, h hc]
  · simp [cutSegment, hc]

theorem length_cutSegment_le (c : Char) (cs : List Char) :
    (cutSegment c cs).2.length ≤ cs.length := by
  unfold cutSegment
  split
  · split
    · next href =>
      obtain ⟨_, ⟨rfl, _⟩ | rfl⟩ := reference?_eq_some_iff.mp href
      · simp
      · simp
        omega
    · exact Nat.le_refl _
  · exact Nat.le_refl _

def segments : List Char → List Segment
  | [] => []
  | c :: cs => (cutSegment c cs).1 :: segments (cutSegment c cs).2
termination_by cs => cs.length
decreasing_by exact Nat.lt_succ_of_le (length_cutSegment_le c cs)

/-- The text with its variables replaced, all of them at once. -/
def substitute (value : List Char → List Char) (cs : List Char) : List Char :=
  (segments cs).flatMap (Segment.text value)

/-- The variables that a text refers to. -/
def references (cs : List Char) : List (List Char) := (segments cs).filterMap Segment.name?

theorem mem_references {cs name : List Char} :
    name ∈ references cs ↔ .reference name ∈ segments cs := by
  rw [references, List.mem_filterMap]
  constructor
  · rintro ⟨segment, hmem, hname⟩
    cases segment with
    | char c => cases hname
    | reference name' => rwa [← Option.some.inj hname]
  · intro hmem
    exact ⟨.reference name, hmem, rfl⟩

/-- The steps allowed for an expansion suffice: each takes a character or more. -/
theorem expandWithin_eq_substitute (args : Bindings) {fuel : Nat} {cs : List Char}
    (h : cs.length ≤ fuel) :
    expandWithin args fuel cs = substitute (fun name => (args.lookup name).getD []) cs := by
  induction fuel generalizing cs with
  | zero =>
    obtain rfl := List.length_eq_zero_iff.mp (Nat.le_zero.mp h)
    simp [expandWithin, substitute, segments]
  | succ fuel ih =>
    cases cs with
    | nil => simp [expandWithin, substitute, segments]
    | cons c cs =>
      have hcs : cs.length ≤ fuel := Nat.le_of_succ_le_succ h
      have hrest := ih ((length_cutSegment_le c cs).trans hcs)
      have hsub (value : List Char → List Char) : substitute value (c :: cs) =
          (cutSegment c cs).1.text value ++ substitute value (cutSegment c cs).2 := by
        simp [substitute, segments]
      rw [hsub, ← hrest]
      by_cases hc : c = '$'
      · subst hc
        rw [expandWithin]
        cases href : reference? cs with
        | none =>
          rw [cutSegment_char fun _ => href]
          rfl
        | some found =>
          obtain ⟨name, rest⟩ := found
          simp only [cutSegment_reference href, Segment.text]
      · rw [cutSegment_char fun h => absurd h hc, expandWithin]
        · rfl
        · exact hc

theorem expand_eq_substitute (args : Bindings) (cs : List Char) :
    expand args cs = substitute (fun name => (args.lookup name).getD []) cs :=
  expandWithin_eq_substitute args (Nat.le_refl _)

/-- Every dollar sign of the text starts a reference. -/
def Tidy (cs : List Char) : Prop :=
  ∀ before after, cs = before ++ '$' :: after → StartsReference after

theorem tidy_of_dollar_not_mem (first : List Char) {after : List Char} (hfirst : '$' ∉ first)
    (hafter : '$' ∉ after) (h : StartsReference after) : Tidy (first ++ '$' :: after) := by
  intro before rest heq
  obtain ⟨_, _, rfl⟩ := (List.append_cons_inj_of_notMem hfirst hafter).mp heq
  exact h

theorem Tidy.dollar_not_mem {cs : List Char} (h : Tidy cs) (hnone : ¬ HasReference cs) :
    '$' ∉ cs := by
  intro hmem
  obtain ⟨before, after, hcs⟩ := List.append_of_mem hmem
  exact hnone ⟨before, after, hcs, h before after hcs⟩

/-- A dollar sign that is no part of a reference starts none. -/
theorem exists_of_dollar_mem_segments {cs : List Char} (h : .char '$' ∈ segments cs) :
    ∃ before after, cs = before ++ '$' :: after ∧ ¬ StartsReference after := by
  induction cs using segments.induct with
  | case1 => simp [segments] at h
  | case2 c cs ih =>
    rw [segments] at h
    by_cases href : c = '$' ∧ reference? cs ≠ none
    · obtain ⟨rfl, href⟩ := href
      obtain ⟨⟨name, rest⟩, hname⟩ := Option.ne_none_iff_exists'.mp href
      rw [cutSegment_reference hname] at h ih
      obtain ⟨before, after, rfl, hnone⟩ := ih (by simpa using h)
      obtain ⟨_, ⟨rfl, _⟩ | rfl⟩ := reference?_eq_some_iff.mp hname
      · exact ⟨'$' :: name ++ before, after, by simp, hnone⟩
      · exact ⟨'$' :: '{' :: name ++ '}' :: before, after, by simp, hnone⟩
    · have hchar : c = '$' → reference? cs = none := by simpa using href
      rw [cutSegment_char hchar] at h ih
      rcases List.mem_cons.mp h with hc | h
      · obtain rfl := Segment.char.inj hc
        exact ⟨[], cs, rfl, fun hstarts => hstarts.reference?_ne_none (hchar rfl)⟩
      · obtain ⟨before, after, rfl, hnone⟩ := ih h
        exact ⟨c :: before, after, rfl, hnone⟩

/-- In tidy texts the replaced variables leave a reference exactly where the value of one of them
holds one. -/
theorem hasReference_substitute_iff {value : List Char → List Char} {cs : List Char}
    (hcs : Tidy cs) (hvalue : ∀ name ∈ references cs, Tidy (value name)) :
    HasReference (substitute value cs) ↔ ∃ name ∈ references cs, HasReference (value name) := by
  constructor
  · intro ⟨before, after, heq, _⟩
    have hdollar : '$' ∈ substitute value cs := by simp [heq]
    obtain ⟨segment, hsegment, hmem⟩ := List.mem_flatMap.mp hdollar
    cases segment with
    | char c =>
      obtain rfl := List.mem_singleton.mp hmem
      obtain ⟨first, last, hsplit, hnone⟩ := exists_of_dollar_mem_segments hsegment
      exact absurd (hcs first last hsplit) hnone
    | reference name =>
      have hname := mem_references.mpr hsegment
      refine ⟨name, hname, ?_⟩
      by_contra hnone
      exact (hvalue name hname).dollar_not_mem hnone hmem
  · rintro ⟨name, hname, href⟩
    obtain ⟨first, last, hsplit⟩ := List.append_of_mem (mem_references.mp hname)
    have hsub : substitute value cs = first.flatMap (Segment.text value) ++
        (value name ++ last.flatMap (Segment.text value)) := by
      simp [substitute, hsplit, Segment.text]
    rw [hsub]
    exact href.within _ _

end AirflowDeploy.Dockerfile
