import AirflowDeploy.Proofs.Text.Lines
import AirflowDeploy.Text.Case

/-!
# Decimal numerals

A numeral without a superfluous zero is the one that is written for its value, so that a number has
one such numeral. The others have zeros or a plus sign in front of it.
-/
namespace AirflowDeploy.Text

variable {cs : List Char} {c : Char}

/-- Digits, with no zero in front of another digit. -/
structure IsNumeral (cs : List Char) : Prop where
  ne_nil : cs ≠ []
  digits : ∀ c ∈ cs, isDigit c = true
  canonical : cs.head? = some '0' → cs = ['0']

theorem isDigit_lt (h : isDigit c = true) : c.toNat < 128 := by
  simp [isDigit] at h
  omega

/-- The value of a digit in front of none is its place from zero on. -/
theorem digit_spec (h : isDigit c = true) :
    digitChar (digitValue c) = c ∧ digitValue c < 10 ∧ (digitValue c = 0 → c = '0') :=
  forall_ascii (P := fun c => isDigit c = true →
    digitChar (digitValue c) = c ∧ digitValue c < 10 ∧ (digitValue c = 0 → c = '0'))
    (by decide) (isDigit_lt h) h

/-- Digits that are read after a number other than zero are written again behind it. -/
theorem decimalOnto_digitsFrom {n : Nat} (hn : 0 < n) (hcs : ∀ c ∈ cs, isDigit c = true)
    (tail : List Char) : decimalOnto (digitsFrom n cs) tail = decimalOnto n (cs ++ tail) := by
  induction cs generalizing n with
  | nil => rfl
  | cons c cs ih =>
    obtain ⟨hc, hrest⟩ := List.forall_mem_cons.mp hcs
    obtain ⟨hchar, hlt, -⟩ := digit_spec hc
    have hdiv : (n * 10 + digitValue c) / 10 = n := by omega
    have hmod : (n * 10 + digitValue c) % 10 = digitValue c := by omega
    have hlarge : ¬ n * 10 + digitValue c < 10 := by omega
    rw [digitsFrom, ih (by omega) hrest, decimalOnto, if_neg hlarge, hdiv, hmod, hchar,
      List.cons_append]

theorem IsNumeral.decimal_digitsFrom (h : IsNumeral cs) : decimal (digitsFrom 0 cs) = cs := by
  obtain ⟨c, rest, rfl⟩ := List.exists_cons_of_ne_nil h.ne_nil
  obtain ⟨hc, hrest⟩ := List.forall_mem_cons.mp h.digits
  obtain ⟨hchar, hlt, hzero⟩ := digit_spec hc
  by_cases hfirst : c = '0'
  · subst hfirst
    rw [h.canonical rfl, decimal, decimalOnto]
    rfl
  · have hpos : 0 < digitValue c := Nat.pos_of_ne_zero fun h => hfirst (hzero h)
    rw [decimal, digitsFrom, Nat.zero_mul, Nat.zero_add, decimalOnto_digitsFrom hpos hrest,
      List.append_nil, decimalOnto, if_pos hlt, hchar]

theorem readDigits?_eq_some_iff {n : Nat} :
    readDigits? cs = some n ↔ cs ≠ [] ∧ (∀ c ∈ cs, isDigit c = true) ∧ digitsFrom 0 cs = n := by
  unfold readDigits?
  split
  · next hbad =>
    refine iff_of_false (Option.some_ne_none n ∘ Eq.symm) fun ⟨hne, hdigits, _⟩ => ?_
    have hall : cs.all isDigit = true := List.all_eq_true.mpr hdigits
    simp [hne, hall] at hbad
  · next hgood => simp_all

/-- The digits of `n`, with any number of zeros in front. -/
def IsPadded (n : Nat) (cs : List Char) : Prop :=
  ∃ zeros, cs = List.replicate zeros '0' ++ decimal n

/-- A numeral for `n`, with zeros and a plus sign in front where one likes. -/
def IsNumeralOf (n : Nat) (cs : List Char) : Prop :=
  IsPadded n cs ∨ ∃ digits, cs = '+' :: digits ∧ IsPadded n digits

theorem IsPadded.isDigit {n : Nat} (h : IsPadded n cs) (hc : c ∈ cs) : isDigit c = true := by
  have hzero : Text.isDigit '0' = true := rfl
  obtain ⟨zeros, rfl⟩ := h
  rcases List.mem_append.mp hc with hzeros | hdigits
  · rwa [List.eq_of_mem_replicate hzeros]
  · exact isDigit_of_mem_decimal hdigits

theorem digitsFrom_zeros_append (zeros : Nat) (cs : List Char) :
    digitsFrom 0 (List.replicate zeros '0' ++ cs) = digitsFrom 0 cs := by
  induction zeros with
  | zero => rfl
  | succ zeros ih => exact ih

/-- Digits are those of their value with zeros in front. -/
theorem isPadded_digitsFrom (hne : cs ≠ []) (hcs : ∀ c ∈ cs, isDigit c = true) :
    IsPadded (digitsFrom 0 cs) cs := by
  induction cs with
  | nil => exact absurd rfl hne
  | cons c cs ih =>
    by_cases hzero : c = '0' ∧ cs ≠ []
    · obtain ⟨rfl, hrest⟩ := hzero
      obtain ⟨zeros, hzeros⟩ := ih hrest fun d hd => hcs d (List.mem_cons_of_mem _ hd)
      exact ⟨zeros + 1, congrArg ('0' :: ·) hzeros⟩
    · have hcanonical : IsNumeral (c :: cs) := by
        refine ⟨hne, hcs, fun hhead => ?_⟩
        obtain rfl := Option.some.inj hhead
        by_contra hlong
        exact hzero ⟨rfl, fun hnil => hlong (by rw [hnil])⟩
      exact ⟨0, hcanonical.decimal_digitsFrom.symm⟩

theorem readDigits?_eq_some_iff_isPadded {n : Nat} : readDigits? cs = some n ↔ IsPadded n cs := by
  constructor
  · intro hread
    obtain ⟨hne, hdigits, rfl⟩ := readDigits?_eq_some_iff.mp hread
    exact isPadded_digitsFrom hne hdigits
  · intro hpadded
    refine readDigits?_eq_some_iff.mpr ⟨?_, fun _ => hpadded.isDigit, ?_⟩
    · obtain ⟨zeros, rfl⟩ := hpadded
      simp [decimal, decimalOnto_ne_nil]
    · obtain ⟨zeros, rfl⟩ := hpadded
      rw [digitsFrom_zeros_append]
      exact (readDigits?_eq_some_iff.mp (readDigits?_decimal n)).2.2

/-- A number of 64 bits is read from its numerals, and from nothing else. -/
theorem readNatural?_eq_some_iff {n : Nat} :
    readNatural? cs = some n ↔ IsNumeralOf n cs ∧ n < wordBound := by
  have hread (digits : List Char) : (readDigits? digits).filter (· < wordBound) = some n ↔
      IsPadded n digits ∧ n < wordBound := by
    rw [Option.filter_eq_some_iff, readDigits?_eq_some_iff_isPadded, decide_eq_true_iff]
  have hplus {digits : List Char} : ¬ IsPadded n ('+' :: digits) := fun hpadded =>
    absurd (hpadded.isDigit List.mem_cons_self) (by decide)
  unfold readNatural?
  split
  · next digits =>
    rw [hread, IsNumeralOf]
    simp [hplus]
  · next hsign =>
    have hnone : ¬ ∃ digits, cs = '+' :: digits ∧ IsPadded n digits := fun ⟨digits, hcs, _⟩ =>
      hsign digits hcs
    rw [hread, IsNumeralOf, or_iff_left hnone]

end AirflowDeploy.Text
