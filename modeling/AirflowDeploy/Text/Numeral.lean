import AirflowDeploy.Text.Ascii

/-!
# Decimal numerals

Writing naturals and integers in decimal, and reading them with an optional sign and a range.
The main lemma says that reading what was written gives the number back.
-/
namespace AirflowDeploy.Text

/-- The low four bits of a digit's code. -/
def digitValue (c : Char) : Nat := c.toNat % 16

def digitChar (n : Nat) : Char := Char.ofNat ('0'.toNat + n)

/-- The value of a digit sequence read after a number `n`. -/
def digitsFrom (n : Nat) : List Char → Nat
  | [] => n
  | c :: cs => digitsFrom (n * 10 + digitValue c) cs

/-- Decimal digits of `n` in front of `tail`. -/
def decimalOnto (n : Nat) (tail : List Char) : List Char :=
  if n < 10 then digitChar n :: tail
  else decimalOnto (n / 10) (digitChar (n % 10) :: tail)
termination_by n

def decimal (n : Nat) : List Char := decimalOnto n []

/-- At least `width` digits, with zeros in front. -/
def padded (width n : Nat) : List Char :=
  let digits := decimal n
  List.replicate (width - digits.length) '0' ++ digits

def integer (n : Int) : List Char :=
  match n with
  | .ofNat n => decimal n
  | .negSucc n => '-' :: decimal (n + 1)

/-- A non-empty run of digits. -/
def readDigits? (cs : List Char) : Option Nat :=
  if cs.isEmpty || !cs.all isDigit then none else some (digitsFrom 0 cs)

/-- One more than the largest number of 64 bits. -/
def wordBound : Nat := 18446744073709551616

/-- A natural of 64 bits, with an optional plus sign. -/
def readNatural? (cs : List Char) : Option Nat :=
  let digits := match cs with
    | '+' :: rest => rest
    | _ => cs
  (readDigits? digits).filter (· < wordBound)

/-- One more than the largest integer of 32 bits. -/
def integerBound : Nat := 2147483648

/-- An integer of 32 bits, with an optional sign. -/
def readInteger? (cs : List Char) : Option Int :=
  match cs with
  | '-' :: rest => ((readDigits? rest).filter (· ≤ integerBound)).map fun n => -(n : Int)
  | '+' :: rest => ((readDigits? rest).filter (· < integerBound)).map fun n => (n : Int)
  | _ => ((readDigits? cs).filter (· < integerBound)).map fun n => (n : Int)

theorem digitChar_spec (d : Fin 10) :
    isDigit (digitChar d) = true ∧ digitValue (digitChar d) = d := by
  revert d; decide

theorem isDigit_digitChar {n : Nat} (h : n < 10) : isDigit (digitChar n) = true :=
  (digitChar_spec ⟨n, h⟩).1

theorem digitValue_digitChar {n : Nat} (h : n < 10) : digitValue (digitChar n) = n :=
  (digitChar_spec ⟨n, h⟩).2

theorem digitsFrom_decimalOnto (n : Nat) (tail : List Char) :
    digitsFrom 0 (decimalOnto n tail) = digitsFrom n tail := by
  fun_induction decimalOnto n tail with
  | case1 n tail h => simp [digitsFrom, digitValue_digitChar h]
  | case2 n tail h ih =>
    rw [ih, digitsFrom, digitValue_digitChar (Nat.mod_lt _ (by decide))]
    congr 1
    omega

theorem all_isDigit_decimalOnto (n : Nat) (tail : List Char) :
    (decimalOnto n tail).all isDigit = tail.all isDigit := by
  fun_induction decimalOnto n tail with
  | case1 n tail h => simp [isDigit_digitChar h]
  | case2 n tail h ih =>
    rw [ih]
    simp [isDigit_digitChar (Nat.mod_lt n (show 0 < 10 by decide))]

theorem decimalOnto_ne_nil (n : Nat) (tail : List Char) : decimalOnto n tail ≠ [] := by
  fun_induction decimalOnto n tail with
  | case1 => simp
  | case2 _ _ _ ih => exact ih

/-- Reading a written number gives it back. -/
theorem readDigits?_decimal (n : Nat) : readDigits? (decimal n) = some n := by
  have h : (decimal n).all isDigit = true := by simp [decimal, all_isDigit_decimalOnto]
  have h' : (decimal n).isEmpty = false := by
    simp [decimal, decimalOnto_ne_nil]
  simp only [readDigits?, h, h', Bool.not_true, Bool.or_self, Bool.false_eq_true, if_false]
  rw [decimal, digitsFrom_decimalOnto]
  rfl

end AirflowDeploy.Text
