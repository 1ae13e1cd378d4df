import AirflowDeploy.Dockerfile.Stage
import AirflowDeploy.Proofs.Text.Cut
import Mathlib.Data.List.Induction

/-!
# Defaults of variables

The instructions before the first `FROM` give defaults to variables. A default is what stands
behind the first equals sign, without the blanks and the double quotes around it. Of two defaults
for one variable the later one counts.
-/
namespace AirflowDeploy.Dockerfile

open Text

variable {cs name text : List Char} {i : Instruction} {instructions : List Instruction}

/-- A text with double quotes around it, of which none is left at its own ends. -/
def IsQuoted (text cs : List Char) : Prop := IsCore isQuote text cs

theorem unquote_eq_iff : unquote cs = text ↔ IsQuoted text cs := dropEnds_eq_iff

/-- An instruction gives a variable a default. -/
def GivesDefault (name text : List Char) (i : Instruction) : Prop :=
  i.keyword = .arg ∧ ∃ left right, i.args.toList = left ++ '=' :: right ∧ '=' ∉ left ∧
    name = trim left ∧ IsQuoted text (trim right)

/-- Name and default that an instruction gives. -/
def defaultOf? (i : Instruction) : Option (List Char × List Char) :=
  if i.keyword = .arg then default? i.args.toList else none

theorem default?_eq_some_iff :
    default? cs = some (name, text) ↔ ∃ left right, cs = left ++ '=' :: right ∧ '=' ∉ left ∧
      name = trim left ∧ IsQuoted text (trim right) := by
  have hother {part : List Char} (h : '=' ∉ part) : ∀ c ∈ part, (c == '=') = false :=
    fun c hc => beq_false_of_ne fun he => h (he ▸ hc)
  have hsplit {left : List Char} (h : '=' ∉ left) (right : List Char) :
      default? (left ++ '=' :: right) = some (trim left, unquote (trim right)) := by
    rw [default?, cutFirst_append (hother h) rfl]
  constructor
  · intro h
    by_cases hmem : '=' ∈ cs
    · obtain ⟨left, right, rfl, hleft⟩ := List.eq_append_cons_of_mem hmem
      rw [hsplit hleft] at h
      obtain ⟨rfl, rfl⟩ := Prod.mk.inj (Option.some.inj h)
      exact ⟨left, right, rfl, hleft, rfl, unquote_eq_iff.mp rfl⟩
    · rw [default?, cutFirst_eq_self (hother hmem)] at h
      cases h
  · rintro ⟨left, right, rfl, hleft, rfl, htext⟩
    rw [hsplit hleft, unquote_eq_iff.mpr htext]

theorem defaultOf?_eq_some_iff : defaultOf? i = some (name, text) ↔ GivesDefault name text i := by
  by_cases hi : i.keyword = .arg
  · simp [defaultOf?, GivesDefault, hi, default?_eq_some_iff]
  · simp [defaultOf?, GivesDefault, hi]

/-- The instructions before the first `FROM`. -/
def header (d : Dockerfile) : List Instruction :=
  d.instructions.takeWhile fun i => i.keyword != .fromImage

/-- Names and defaults of the header, one after the other. -/
def defaults (d : Dockerfile) : List (List Char × List Char) := d.header.filterMap defaultOf?

/-- The default that the header gives last for a variable; nothing where it gives none. -/
def value (d : Dockerfile) (name : List Char) : List Char :=
  (d.defaults.reverse.lookup name).getD []

/-- The text is the last default that instructions give a variable, or nothing where they give
none. -/
inductive InForce (name : List Char) : List Instruction → List Char → Prop where
  | given {before after : List Instruction} {i : Instruction} {text : List Char}
      (hgives : GivesDefault name text i)
      (hlast : ∀ j ∈ after, ∀ text, ¬ GivesDefault name text j) :
      InForce name (before ++ i :: after) text
  | none {instructions : List Instruction}
      (h : ∀ i ∈ instructions, ∀ text, ¬ GivesDefault name text i) : InForce name instructions []

/-- An instruction that gives the variable no default changes nothing. -/
theorem InForce.append (h : InForce name instructions text)
    (hi : ∀ text, ¬ GivesDefault name text i) : InForce name (instructions ++ [i]) text := by
  cases h with
  | @given before after j _ hgives hlast =>
    rw [List.append_assoc, List.cons_append]
    refine .given hgives fun k hk => ?_
    rcases List.mem_append.mp hk with hk | hk
    · exact hlast k hk
    · exact List.mem_singleton.mp hk ▸ hi
  | none h =>
    refine .none fun k hk => ?_
    rcases List.mem_append.mp hk with hk | hk
    · exact h k hk
    · exact List.mem_singleton.mp hk ▸ hi

theorem inForce_lookup (name : List Char) (instructions : List Instruction) :
    InForce name instructions
      (((instructions.filterMap defaultOf?).reverse.lookup name).getD []) := by
  induction instructions using List.reverseRecOn with
  | nil => exact .none fun i hi => by cases hi
  | append_singleton instructions i ih =>
    rw [List.filterMap_append, List.reverse_append]
    cases hi : defaultOf? i with
    | none =>
      have hnone (text : List Char) : ¬ GivesDefault name text i := by
        rw [← defaultOf?_eq_some_iff, hi]
        exact Option.some_ne_none _ ∘ Eq.symm
      simpa [hi] using ih.append hnone
    | some found =>
      obtain ⟨name', text⟩ := found
      by_cases hname : name = name'
      · subst hname
        have hlast : InForce name (instructions ++ i :: []) text :=
          .given (defaultOf?_eq_some_iff.mp hi) fun _ hj => by cases hj
        simpa [hi] using hlast
      · have hother (text' : List Char) : ¬ GivesDefault name text' i := by
          rw [← defaultOf?_eq_some_iff, hi]
          exact fun h => hname (Prod.mk.inj (Option.some.inj h)).1.symm
        have hlookup : (name == name') = false := beq_false_of_ne hname
        simpa [hi, List.lookup_cons, hlookup] using ih.append hother

theorem inForce_value (d : Dockerfile) (name : List Char) : InForce name d.header (d.value name) :=
  inForce_lookup name d.header

end AirflowDeploy.Dockerfile
