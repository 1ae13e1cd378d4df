import AirflowDeploy.Text.Ascii

/-!
# Punycode

The ASCII form of a label with other characters: its ASCII characters, then the places of the
others as differences in a variable-length base of 36.
-/
namespace AirflowDeploy.Text.Punycode

def digitChar (d : Nat) : Char :=
  if d < 26 then Char.ofNat ('a'.toNat + d) else Char.ofNat ('0'.toNat + (d - 26))

def digitValue? (c : Char) : Option Nat :=
  if isAsciiLower c then some (c.toNat - 'a'.toNat)
  else if isAsciiUpper c then some (c.toNat - 'A'.toNat)
  else if isDigit c then some (c.toNat - '0'.toNat + 26)
  else none

def threshold (k bias : Nat) : Nat :=
  if k ≤ bias + 1 then 1 else if bias + 26 ≤ k then 26 else k - bias

theorem threshold_bounds (k bias : Nat) : 1 ≤ threshold k bias ∧ threshold k bias ≤ 26 := by
  unfold threshold
  split
  · omega
  · split <;> omega

def shrink (delta k : Nat) : Nat × Nat :=
  if 455 < delta then shrink (delta / 35) (k + 36) else (delta, k)
termination_by delta
decreasing_by exact Nat.div_lt_self (by omega) (by omega)

/-- The bias after a difference, with the number of characters that are placed by then. -/
def adapt (delta count : Nat) (first : Bool) : Nat :=
  let delta := if first then delta / 700 else delta / 2
  let (delta, k) := shrink (delta + delta / count) 0
  k + 36 * delta / (delta + 38)

/-- A difference as digits, the lowest first. -/
def digits (bias k q : Nat) : List Char :=
  let t := threshold k bias
  if q < t then [digitChar q]
  else digitChar (t + (q - t) % (36 - t)) :: digits bias (k + 36) ((q - t) / (36 - t))
termination_by q
decreasing_by
  have h := threshold_bounds k bias
  exact Nat.lt_of_le_of_lt (Nat.div_le_self _ _) (by omega)

/-- What is written so far, the difference since the last character, the bias and the number
of characters that are placed. -/
structure State where
  written : List Char
  delta : Nat
  bias : Nat
  placed : Nat

/-- One character of the label, while characters with the code point `m` are placed. -/
def State.visit (basic m : Nat) (s : State) (c : Char) : State :=
  if c.toNat < m then { s with delta := s.delta + 1 }
  else if c.toNat = m then
    { written := s.written ++ digits s.bias 36 s.delta
      delta := 0
      bias := adapt s.delta (s.placed + 1) (s.placed == basic)
      placed := s.placed + 1 }
  else s

/-- Places the characters with the next code points in ascending order. `n` is the first code
point that is not placed yet. -/
def encodeFrom (label : List Char) (basic : Nat) : Nat → Nat → State → State
  | 0, _, s => s
  | fuel + 1, n, s =>
    match (label.map Char.toNat).filter (n ≤ ·) with
    | [] => s
    | p :: ps =>
      let m := ps.foldl min p
      let s := { s with delta := s.delta + (m - n) * (s.placed + 1) }
      let s := label.foldl (State.visit basic m) s
      encodeFrom label basic fuel (m + 1) { s with delta := s.delta + 1 }

def isAscii (c : Char) : Bool := c.toNat < 128

def encode (label : List Char) : List Char :=
  let basic := label.filter isAscii
  let start : State := ⟨basic ++ (if basic.isEmpty then [] else ['-']), 0, 72, basic.length⟩
  (encodeFrom label basic.length label.length 128 start).written

/-- A difference at the front, read from digits of rising weight, and the rest. -/
def readDelta (bias : Nat) : Nat → Nat → Nat → List Char → Option (Nat × List Char)
  | _, _, _, [] => none
  | k, weight, sum, c :: rest =>
    (digitValue? c).bind fun d =>
      let t := threshold k bias
      let sum := sum + d * weight
      if d < t then some (sum, rest) else readDelta bias (k + 36) (weight * (36 - t)) sum rest

/-- Puts one character after another into a label, in at most `fuel` steps. -/
def decodeFrom : Nat → Nat → Nat → Nat → List Char → List Char → Option (List Char)
  | _, _, _, _, label, [] => some label
  | 0, _, _, _, _, _ => none
  | fuel + 1, n, i, bias, label, cs =>
    (readDelta bias 36 1 0 cs).bind fun (delta, rest) =>
      let count := label.length + 1
      let place := i + delta
      let n := n + place / count
      let at_ := place % count
      if h : n.isValidChar then
        decodeFrom fuel n (at_ + 1) (adapt delta count (i == 0))
          (label.take at_ ++ Char.ofNatAux n h :: label.drop at_) rest
      else none

def decode? (cs : List Char) : Option (List Char) :=
  let after := (cs.reverse.takeWhile (· != '-')).reverse
  let basic := (cs.take (cs.length - after.length)).dropLast
  if basic.all isAscii then decodeFrom cs.length 128 0 72 basic after else none

end AirflowDeploy.Text.Punycode
