import AirflowDeploy.Text.Ascii
import AirflowDeploy.Text.CaseTable

/-!
# Upper and lower case

Full case mapping, where one character may become several, and the rule for the final sigma.
-/
namespace AirflowDeploy.Text

def inRanges (ranges : List (Nat × Nat)) (c : Char) : Bool :=
  ranges.any fun range => range.1 ≤ c.toNat && c.toNat ≤ range.2

/-- The mapping of `c` by the rows and the special cases of a table; `c` itself when it has
none. -/
def mapped (rows : List (Nat × Nat × Nat × Int)) (special : List (Nat × List Nat)) (c : Char) :
    List Char :=
  let n := c.toNat
  match special.find? fun entry => entry.1 == n with
  | some entry => entry.2.map Char.ofNat
  | none =>
    match rows.find? fun row => row.1 ≤ n && n ≤ row.2.1 && (n - row.1) % row.2.2.1 == 0 with
    | some row => [Char.ofNat ((n : Int) + row.2.2.2).toNat]
    | none => [c]

def upperChar (c : Char) : List Char :=
  if c.toNat < 128 then [asciiUpper c] else mapped CaseTable.upperRows CaseTable.upperSpecial c

def lowerChar (c : Char) : List Char :=
  if c.toNat < 128 then [asciiLower c] else mapped CaseTable.lowerRows CaseTable.lowerSpecial c

def upper (cs : List Char) : List Char := cs.flatMap upperChar

/-- Whether the nearest character that is not case-ignorable is cased. -/
def nextIsCased (cs : List Char) : Bool :=
  match cs.dropWhile (inRanges CaseTable.caseIgnorable) with
  | [] => false
  | c :: _ => inRanges CaseTable.cased c

/-- A capital sigma becomes a final sigma where a cased character stands before it and none
after it. `before` holds the characters before, nearest first. -/
def lowerAfter (before : List Char) : List Char → List Char
  | [] => []
  | c :: cs =>
    let mapping :=
      if c == 'Σ' then [if nextIsCased before && !nextIsCased cs then 'ς' else 'σ']
      else lowerChar c
    mapping ++ lowerAfter (c :: before) cs

def lower (cs : List Char) : List Char := lowerAfter [] cs

theorem forall_ascii {P : Char → Prop} (h : ∀ n : Fin 128, P (.ofNat n)) {c : Char}
    (hc : c.toNat < 128) : P c := by
  have hn := h ⟨c.toNat, hc⟩
  rwa [Char.ofNat_toNat] at hn

theorem asciiLower_eq_self {c : Char} (h : ¬ c.toNat < 128) : asciiLower c = c := by
  have hupper : isAsciiUpper c = false := by
    simp [isAsciiUpper]
    omega
  simp [asciiLower, hupper]

theorem asciiUpper_asciiLower (c : Char) : asciiUpper (asciiLower c) = asciiUpper c := by
  by_cases h : c.toNat < 128
  · exact forall_ascii (P := fun c => asciiUpper (asciiLower c) = asciiUpper c) (by decide) h
  · rw [asciiLower_eq_self h]

theorem asciiLower_lt_iff (c : Char) : (asciiLower c).toNat < 128 ↔ c.toNat < 128 := by
  by_cases h : c.toNat < 128
  · exact iff_of_true (forall_ascii (P := fun c => (asciiLower c).toNat < 128) (by decide) h) h
  · rw [asciiLower_eq_self h]

theorem upper_of_ascii {cs : List Char} (h : ∀ c ∈ cs, c.toNat < 128) :
    upper cs = cs.map asciiUpper := by
  induction cs with
  | nil => rfl
  | cons c cs ih =>
    have hrest := ih fun d hd => h d (List.mem_cons_of_mem c hd)
    simpa [upper, upperChar, h c List.mem_cons_self] using hrest

/-- A word in any case of its ASCII letters has one and the same upper case. -/
theorem upper_of_eqAsciiCase {cs name : List Char} (h : eqAsciiCase cs name = true)
    (hname : ∀ c ∈ name, c.toNat < 128) : upper cs = name.map asciiUpper := by
  have hlower : cs.map asciiLower = name.map asciiLower := by simpa [eqAsciiCase] using h
  have hascii : ∀ c ∈ cs, c.toNat < 128 := by
    intro c hc
    obtain ⟨d, hd, hsame⟩ := List.mem_map.mp (hlower ▸ List.mem_map_of_mem hc)
    rw [← asciiLower_lt_iff, ← hsame, asciiLower_lt_iff]
    exact hname d hd
  have hsame := congrArg (List.map asciiUpper) hlower
  simp only [List.map_map, Function.comp_def, asciiUpper_asciiLower] at hsame
  rw [upper_of_ascii hascii, hsame]

end AirflowDeploy.Text
