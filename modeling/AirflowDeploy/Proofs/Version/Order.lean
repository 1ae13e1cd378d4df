import AirflowDeploy.Version.Upgrade
import Mathlib.Data.List.Chain

/-!
# Laws of the order of versions

Texts, identifiers and versions are compared by orders that are reflexive and transitive and that
tell the reverse when their arguments are exchanged.
-/
namespace AirflowDeploy

open Std

namespace Text

theorem compare_eq_compareLex : compare = List.compareLex (compareOn Char.toNat) := by
  funext as bs
  induction as generalizing bs with
  | nil => cases bs <;> rfl
  | cons a as ih =>
    cases bs with
    | nil => rfl
    | cons b bs =>
      rw [compare, List.compareLex_cons_cons, ih]
      rfl

instance : TransCmp compare :=
  compare_eq_compareLex ▸ inferInstanceAs (TransCmp (List.compareLex (compareOn Char.toNat)))

theorem compare_eq_lt_iff {as bs : List Char} : compare as bs = .lt ↔ as < bs := by
  induction as generalizing bs with
  | nil => cases bs <;> simp [compare]
  | cons a as ih =>
    cases bs with
    | nil => simp [compare]
    | cons b bs =>
      have hlt : a.toNat < b.toNat ↔ a < b := Iff.rfl
      rw [compare, Ordering.then_eq_lt, Nat.compare_eq_lt, Nat.compare_eq_eq, ih, hlt,
        Char.toNat_inj, List.cons_lt_cons_iff]

theorem compare_append_left (cs as bs : List Char) :
    compare (cs ++ as) (cs ++ bs) = compare as bs := by
  induction cs with
  | nil => rfl
  | cons c cs ih => simp [compare, ih]

end Text

namespace Identifier

instance : TransCmp compare where
  eq_swap {a b} := by
    cases a with
    | number m =>
      cases b with
      | number n => exact (OrientedCmp.eq_swap : Ord.compare m n = (Ord.compare n m).swap)
      | word t => rfl
    | word s =>
      cases b with
      | number n => rfl
      | word t => exact (OrientedCmp.eq_swap : Text.compare s t = (Text.compare t s).swap)
  isLE_trans {a b c} hab hbc := by
    cases a <;> cases b <;> cases c <;> simp only [compare] at hab hbc ⊢
    all_goals first | contradiction | rfl | exact TransCmp.isLE_trans hab hbc

theorem compareLists_eq_compareLex : compareLists = List.compareLex compare := by
  funext as bs
  induction as generalizing bs with
  | nil => cases bs <;> rfl
  | cons a as ih =>
    cases bs with
    | nil => rfl
    | cons b bs => rw [compareLists, List.compareLex_cons_cons, ih]

instance : TransCmp compareLists :=
  compareLists_eq_compareLex ▸ inferInstanceAs (TransCmp (List.compareLex compare))

instance : TransCmp comparePre where
  eq_swap {as bs} := by
    cases as <;> cases bs
    case cons.cons a as b bs =>
      have hswap : compareLists (a :: as) (b :: bs) = (compareLists (b :: bs) (a :: as)).swap :=
        OrientedCmp.eq_swap
      exact hswap
    all_goals rfl
  isLE_trans {as bs cs} hab hbc := by
    cases as <;> cases bs <;> cases cs
    case cons.cons.cons a as b bs c cs =>
      have htrans : (compareLists (a :: as) (c :: cs)).isLE = true := TransCmp.isLE_trans hab hbc
      exact htrans
    all_goals first | contradiction | rfl

end Identifier

namespace Version

instance : TransCmp (fun a b : Version => Identifier.comparePre a.pre b.pre) where
  eq_swap {a b} :=
    (OrientedCmp.eq_swap :
      Identifier.comparePre a.pre b.pre = (Identifier.comparePre b.pre a.pre).swap)
  isLE_trans hab hbc := @TransCmp.isLE_trans _ Identifier.comparePre _ _ _ _ hab hbc

instance : TransCmp compare :=
  inferInstanceAs (TransCmp (compareLex (compareOn major) (compareLex (compareOn minor)
    (compareLex (compareOn patch) fun a b => Identifier.comparePre a.pre b.pre))))

end Version

end AirflowDeploy
