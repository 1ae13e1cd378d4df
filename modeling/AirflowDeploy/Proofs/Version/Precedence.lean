import AirflowDeploy.Proofs.Version.Order

/-!
# Precedence of versions

Which of two versions comes first: the three numbers decide, then the pre-release, and build
metadata never does. Comparing two versions tells exactly this, and so it is a total order.
-/
namespace AirflowDeploy

open Std

namespace Text

theorem compare_eq_eq_iff {as bs : List Char} : compare as bs = .eq ↔ as = bs := by
  induction as generalizing bs with
  | nil => cases bs <;> simp [compare]
  | cons a as ih =>
    cases bs with
    | nil => simp [compare]
    | cons b bs =>
      rw [compare, Ordering.then_eq_eq, Nat.compare_eq_eq, Char.toNat_inj, ih, List.cons.injEq]

end Text

namespace Identifier

/-- Numbers go by their value and words by code point. Every number comes before every word. -/
inductive Precedes : Identifier → Identifier → Prop where
  | numbers {m n : Nat} (h : m < n) : Precedes (.number m) (.number n)
  | numberWord (n : Nat) (text : List Char) : Precedes (.number n) (.word text)
  | words {s t : List Char} (h : s < t) : Precedes (.word s) (.word t)

theorem compare_eq_lt_iff {a b : Identifier} : a.compare b = .lt ↔ a.Precedes b := by
  constructor
  · intro h
    cases a with
    | number m =>
      cases b with
      | number n => exact .numbers (Nat.compare_eq_lt.mp h)
      | word t => exact .numberWord m t
    | word s =>
      cases b with
      | number n => cases h
      | word t => exact .words (Text.compare_eq_lt_iff.mp h)
  · rintro (h | _ | h)
    · exact Nat.compare_eq_lt.mpr h
    · rfl
    · exact Text.compare_eq_lt_iff.mpr h

theorem compare_eq_eq_iff {a b : Identifier} : a.compare b = .eq ↔ a = b := by
  cases a <;> cases b <;> simp [compare, Text.compare_eq_eq_iff]

/-- The first difference from the left decides, and a proper beginning comes first. -/
theorem compareLists_eq_lt_iff {as bs : List Identifier} :
    compareLists as bs = .lt ↔ List.Lex Precedes as bs := by
  induction as generalizing bs with
  | nil => cases bs <;> simp [compareLists]
  | cons a as ih =>
    cases bs with
    | nil => simp [compareLists]
    | cons b bs =>
      rw [compareLists, Ordering.then_eq_lt, compare_eq_lt_iff, compare_eq_eq_iff, ih,
        List.cons_lex_cons_iff]

theorem compareLists_eq_eq_iff {as bs : List Identifier} :
    compareLists as bs = .eq ↔ as = bs := by
  induction as generalizing bs with
  | nil => cases bs <;> simp [compareLists]
  | cons a as ih =>
    cases bs with
    | nil => simp [compareLists]
    | cons b bs => rw [compareLists, Ordering.then_eq_eq, compare_eq_eq_iff, ih, List.cons.injEq]

/-- A pre-release comes before the release without one, and pre-releases go by their identifiers. -/
inductive PrecedesPre : List Identifier → List Identifier → Prop where
  | release {as : List Identifier} (has : as ≠ []) : PrecedesPre as []
  | identifiers {as bs : List Identifier} (has : as ≠ []) (h : List.Lex Precedes as bs) :
    PrecedesPre as bs

theorem comparePre_eq_lt_iff {as bs : List Identifier} :
    comparePre as bs = .lt ↔ PrecedesPre as bs := by
  cases as with
  | nil =>
    constructor
    · intro h
      cases bs <;> cases h
    · rintro (has | ⟨has, -⟩) <;> exact absurd rfl has
  | cons a as =>
    cases bs with
    | nil => exact iff_of_true rfl (.release (List.cons_ne_nil a as))
    | cons b bs =>
      constructor
      · intro h
        exact .identifiers (List.cons_ne_nil a as) (compareLists_eq_lt_iff.mp h)
      · rintro (_ | ⟨-, h⟩)
        exact compareLists_eq_lt_iff.mpr h

theorem comparePre_eq_eq_iff {as bs : List Identifier} : comparePre as bs = .eq ↔ as = bs := by
  cases as with
  | nil => cases bs <;> simp [comparePre]
  | cons a as =>
    cases bs with
    | nil => simp [comparePre]
    | cons b bs => exact compareLists_eq_eq_iff

end Identifier

namespace Version

/-- The numbers decide from left to right. Where they are the same, the pre-release does. -/
inductive Precedes (a b : Version) : Prop where
  | major (h : a.major < b.major)
  | minor (hmajor : a.major = b.major) (h : a.minor < b.minor)
  | patch (hmajor : a.major = b.major) (hminor : a.minor = b.minor) (h : a.patch < b.patch)
  | pre (hmajor : a.major = b.major) (hminor : a.minor = b.minor) (hpatch : a.patch = b.patch)
    (h : Identifier.PrecedesPre a.pre b.pre)

variable {a b : Version}

theorem compare_eq_lt_iff : a.compare b = .lt ↔ a.Precedes b := by
  simp only [compare, Ordering.then_eq_lt, Nat.compare_eq_lt, Nat.compare_eq_eq,
    Identifier.comparePre_eq_lt_iff]
  constructor
  · rintro (h | ⟨hmajor, h | ⟨hminor, h | ⟨hpatch, h⟩⟩⟩)
    · exact .major h
    · exact .minor hmajor h
    · exact .patch hmajor hminor h
    · exact .pre hmajor hminor hpatch h
  · rintro (h | ⟨hmajor, h⟩ | ⟨hmajor, hminor, h⟩ | ⟨hmajor, hminor, hpatch, h⟩)
    · exact .inl h
    · exact .inr ⟨hmajor, .inl h⟩
    · exact .inr ⟨hmajor, .inr ⟨hminor, .inl h⟩⟩
    · exact .inr ⟨hmajor, .inr ⟨hminor, .inr ⟨hpatch, h⟩⟩⟩

theorem compare_eq_gt_iff : a.compare b = .gt ↔ b.Precedes a := by
  rw [← compare_eq_lt_iff]
  exact OrientedCmp.gt_iff_lt

theorem compare_eq_eq_iff : a.compare b = .eq ↔
    a.major = b.major ∧ a.minor = b.minor ∧ a.patch = b.patch ∧ a.pre = b.pre := by
  simp only [compare, Ordering.then_eq_eq, Nat.compare_eq_eq, Identifier.comparePre_eq_eq_iff]

theorem isSame_iff : a.isSame b = true ↔ a.compare b = .eq := beq_iff_eq

/-- What two steps of the same kind lead to is of this kind, too. -/
theorem compare_trans {c : Version} {order : Ordering} (hab : a.compare b = order)
    (hbc : b.compare c = order) : a.compare c = order := by
  cases order with
  | lt => exact TransCmp.lt_trans hab hbc
  | eq => exact TransCmp.eq_trans hab hbc
  | gt => exact TransCmp.gt_trans hab hbc

/-- Texts that are no versions are compared by another order, which tells the reverse as well. -/
theorem compareTexts_swap (x y : String) : compareTexts y x = (compareTexts x y).swap := by
  have hversions (v w : Version) : w.compare v = (v.compare w).swap := OrientedCmp.eq_swap
  have htexts : Text.compare y.toList x.toList = (Text.compare x.toList y.toList).swap :=
    OrientedCmp.eq_swap
  unfold compareTexts
  cases read? x with
  | none => cases read? y <;> exact htexts
  | some v =>
    cases read? y with
    | none => exact htexts
    | some w => exact hversions v w

/-- Versions are compared by a total order, in which a version comes first exactly where it
precedes the other one. Two versions are the same in it where they differ in nothing but their
build metadata. -/
theorem compare_total_by_precedence (a b c : Version) (x y : String) :
    a.compare a = .eq ∧ b.compare a = (a.compare b).swap ∧
    (∀ order, a.compare b = order → b.compare c = order → a.compare c = order) ∧
    ((a.compare b).isLE = true → (b.compare c).isLE = true → (a.compare c).isLE = true) ∧
    (a.isSame b = true ↔ a.compare b = .eq) ∧
    (a.compare b = .eq ↔
      a.major = b.major ∧ a.minor = b.minor ∧ a.patch = b.patch ∧ a.pre = b.pre) ∧
    (a.compare b = .lt ↔ a.Precedes b) ∧ (a.compare b = .gt ↔ b.Precedes a) ∧
    compareTexts y x = (compareTexts x y).swap :=
  ⟨ReflCmp.compare_self, OrientedCmp.eq_swap, fun _ => compare_trans, TransCmp.isLE_trans,
    isSame_iff, compare_eq_eq_iff, compare_eq_lt_iff, compare_eq_gt_iff, compareTexts_swap x y⟩

/-- Numbers of any length go by their value, before words, and the release comes last. -/
example : ["1.0.0-alpha", "1.0.0-alpha.1", "1.0.0-alpha.beta", "1.0.0-beta", "1.0.0-beta.2",
    "1.0.0-beta.11", "1.0.0-beta.99999999999999999999+b.2", "1.0.0-beta.100000000000000000000",
    "1.0.0-rc.1", "v1.0.0+b.1"].IsChain fun x y => compareTexts x y = .lt := by
  decide +kernel

end Version

end AirflowDeploy
