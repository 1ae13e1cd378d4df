import AirflowDeploy.Proofs.Json.Grammar
import AirflowDeploy.Proofs.Text.Utf8
import Mathlib.Algebra.Group.Nat.Defs

/-!
# Reading what the grammar spells

The reader gives every value back from each of its spellings. A part is read with whatever closes
it behind it, in as many steps as it has characters.
-/
namespace AirflowDeploy.Json

open Text

variable {cs rest gap : List Char} {c : Char}

theorem points_append {ns : List Nat} (h : SpellsUnits ns cs) (rest : List Char) :
    points (cs ++ '"' :: rest) = some (ns, rest) := by
  induction h with
  | nil => rfl
  | @plain c ns cs hvisible hquote hslash _ ih =>
    have hplain : (decide (c.toNat < 32) || c == '\\') = false := by
      simp [hslash, Nat.not_lt.mpr hvisible]
    rw [List.cons_append, points]
    · simp [hplain, ih]
    · exact hquote
    · intro a b d e more heq _
      exact hslash heq
    · intro e more heq _
      exact hslash heq
  | @short e c ns cs he _ ih =>
    have hne : e ≠ 'u' := by
      rintro rfl
      cases he
    rw [List.cons_append, List.cons_append, points]
    · rw [he, ih]
      rfl
    · intro a b d e more heq _
      exact hne heq
  | @long a b c d n ns cs hn _ ih =>
    simp only [List.cons_append, points, hn, ih, Option.bind_some, Option.map_some]

theorem not_isHalf (c : Char) : isHighHalf c.toNat = false ∧ isLowHalf c.toNat = false := by
  have hvalid : c.toNat < 0xD800 ∨ 0xDFFF < c.toNat ∧ c.toNat < 0x110000 := c.valid
  simp only [isHighHalf, isLowHalf, Bool.and_eq_false_iff, decide_eq_false_iff_not]
  omega

theorem joinHalves_point (c : Char) (ns : List Nat) :
    joinHalves (c.toNat :: ns) = (joinHalves ns).map (c :: ·) := by
  obtain ⟨hhigh, hlow⟩ := not_isHalf c
  cases ns with
  | nil => simp [joinHalves, hhigh, hlow]
  | cons n ns => simp [joinHalves, hhigh, hlow]

theorem joinHalves_of_makesUp {ns : List Nat} (h : MakesUp ns cs) : joinHalves ns = some cs := by
  induction h with
  | nil => rfl
  | point c _ ih => rw [joinHalves_point, ih, Option.map_some]
  | @pair high low c ns cs hhigh hlow hc _ ih =>
    rw [joinHalves, if_pos hhigh, if_pos hlow, ih, ← hc, Char.ofNat_toNat, Option.map_some]

theorem hexValue?_lt {n : Nat} (h : hexValue? c = some n) : n < 16 := by
  simp only [hexValue?] at h
  split_ifs at h with hdigit hlower hupper <;> cases h <;>
    simp only [Bool.and_eq_true, decide_eq_true_eq, Char.reduceToNat] at * <;> omega

theorem readHex?_lt {n : Nat} (h : readHex? cs = some n) : n < 16 ^ cs.length := by
  have hfold (start : Nat) (h : cs.foldlM (fun n c => (hexValue? c).map fun d => n * 16 + d) start =
      some n) : n < (start + 1) * 16 ^ cs.length := by
    clear * - h
    induction cs generalizing start with
    | nil =>
      obtain rfl := Option.some.inj h
      simp
    | cons c cs ih =>
      obtain ⟨next, hnext, hrest⟩ := Option.bind_eq_some_iff.mp h
      obtain ⟨d, hd, rfl⟩ := Option.map_eq_some_iff.mp hnext
      have hdigit := hexValue?_lt hd
      calc n < (start * 16 + d + 1) * 16 ^ cs.length := ih _ hrest
        _ ≤ ((start + 1) * 16) * 16 ^ cs.length := Nat.mul_le_mul_right _ (by omega)
        _ = (start + 1) * 16 ^ (c :: cs).length := by
          rw [List.length_cons, Nat.pow_succ', Nat.mul_assoc]
  simpa using hfold 0 h

/-- A unit is a character or half of a pair. -/
def IsUnit (n : Nat) : Prop := n.isValidChar ∨ isHighHalf n = true ∨ isLowHalf n = true

/-- Every unit that is spelled is a character or half of a pair. -/
theorem SpellsUnits.isUnit {ns : List Nat} (h : SpellsUnits ns cs) : ∀ n ∈ ns, IsUnit n := by
  induction h with
  | nil => simp
  | @plain c _ _ _ _ _ _ ih => exact List.forall_mem_cons.mpr ⟨.inl c.valid, ih⟩
  | @short _ c _ _ _ _ ih => exact List.forall_mem_cons.mpr ⟨.inl c.valid, ih⟩
  | @long a b c d n ns cs hn _ ih =>
    refine List.forall_mem_cons.mpr ⟨?_, ih⟩
    have hword := readHex?_lt hn
    simp only [IsUnit, Nat.isValidChar, isHighHalf, isLowHalf, Bool.and_eq_true, decide_eq_true_eq]
    simp only [List.length_cons, List.length_nil] at hword
    omega

theorem toNat_ofNat_of_isUnit {n : Nat} (hn : IsUnit n) (hhigh : isHighHalf n ≠ true)
    (hlow : isLowHalf n ≠ true) : (Char.ofNat n).toNat = n := by
  have hvalid : n.isValidChar := by
    simpa [IsUnit, hhigh, hlow] using hn
  rw [Char.ofNat, dif_pos hvalid]
  rfl

theorem toNat_ofNat_pair {high low : Nat} (hhigh : isHighHalf high = true)
    (hlow : isLowHalf low = true) :
    (Char.ofNat (0x10000 + (high - 0xD800) * 0x400 + (low - 0xDC00))).toNat =
      0x10000 + (high - 0xD800) * 0x400 + (low - 0xDC00) := by
  simp only [isHighHalf, isLowHalf, Bool.and_eq_true, decide_eq_true_eq] at hhigh hlow
  have hvalid : (0x10000 + (high - 0xD800) * 0x400 + (low - 0xDC00)).isValidChar := by
    right
    omega
  rw [Char.ofNat, dif_pos hvalid]
  rfl

theorem makesUp_of_joinHalves {ns : List Nat} (hns : ∀ n ∈ ns, IsUnit n)
    (h : joinHalves ns = some cs) : MakesUp ns cs := by
  induction ns using joinHalves.induct generalizing cs with
  | case1 =>
    obtain rfl := Option.some.inj h
    exact .nil
  | case2 n hhalf => simp [joinHalves, hhalf] at h
  | case3 n hhalf =>
    rw [joinHalves, if_neg hhalf] at h
    obtain rfl := Option.some.inj h
    rw [Bool.or_eq_true, not_or] at hhalf
    have hpoint := MakesUp.point (Char.ofNat n) .nil
    rwa [toNat_ofNat_of_isUnit (hns n List.mem_cons_self) hhalf.1 hhalf.2] at hpoint
  | case4 n m rest hhigh hlow ih =>
    rw [joinHalves, if_pos hhigh, if_pos hlow] at h
    obtain ⟨ds, hds, rfl⟩ := Option.map_eq_some_iff.mp h
    have hrest := fun k hk => hns k (List.mem_cons_of_mem n (List.mem_cons_of_mem m hk))
    exact .pair hhigh hlow (toNat_ofNat_pair hhigh hlow) (ih hrest hds)
  | case5 n m rest hhigh hlow => simp [joinHalves, hhigh, hlow] at h
  | case6 n m rest hhigh hlow => simp [joinHalves, hhigh, hlow] at h
  | case7 n m rest hhigh hlow ih =>
    rw [joinHalves, if_neg hhigh, if_neg hlow] at h
    obtain ⟨ds, hds, rfl⟩ := Option.map_eq_some_iff.mp h
    have hrest := fun k hk => hns k (List.mem_cons_of_mem n hk)
    have hpoint := MakesUp.point (Char.ofNat n) (ih hrest hds)
    rwa [toNat_ofNat_of_isUnit (hns n List.mem_cons_self) hhigh hlow] at hpoint

theorem readString_append {text : Option String} (h : SpellsString text cs) (rest : List Char) :
    readString (cs ++ '"' :: rest) = some (text, rest) := by
  cases h with
  | @text s ns _ h hs =>
    rw [readString, points_append h, Option.map_some, joinHalves_of_makesUp hs, Option.map_some,
      String.ofList_toList]
  | broken h hs =>
    have hnone : ∀ ds, joinHalves _ ≠ some ds := fun ds hds =>
      hs ds (makesUp_of_joinHalves h.isUnit hds)
    rw [readString, points_append h, Option.map_some, Option.eq_none_iff_forall_ne_some.mpr hnone]
    rfl

/-- What may stand behind a value: a blank, a comma or a closing bracket, or nothing. -/
def Closed (rest : List Char) : Prop :=
  ∀ c ∈ rest.head?, isSpace c = true ∨ c = ',' ∨ c = ']' ∨ c = '}'

/-- A character that does not go on with a number. -/
def EndsNumber (rest : List Char) : Prop :=
  ∀ c ∈ rest.head?, isDigit c = false ∧ c ≠ '.' ∧ c ≠ 'e' ∧ c ≠ 'E'

theorem Closed.endsNumber (h : Closed rest) : EndsNumber rest := by
  intro c hc
  rcases h c hc with hspace | rfl | rfl | rfl
  · simp only [isSpace, Bool.or_eq_true, beq_iff_eq] at hspace
    rcases hspace with ((rfl | rfl) | rfl) | rfl <;> decide
  · decide
  · decide
  · decide

theorem digitRun_append (h : IsDigits cs) (hrest : ∀ c ∈ rest.head?, isDigit c = false) :
    digitRun (cs ++ rest) = some (cs, rest) := by
  have htake : (cs ++ rest).takeWhile isDigit = cs := by
    rw [List.takeWhile_append_of_pos h.digits, takeWhile_eq_nil hrest, List.append_nil]
  have hdrop : (cs ++ rest).dropWhile isDigit = rest := by
    rw [List.dropWhile_append_of_pos h.digits, dropWhile_eq_self hrest]
  rw [digitRun, htake, hdrop, if_neg]
  simpa using h.ne_nil

theorem wholePart_append (h : IsNumeral cs) (hrest : ∀ c ∈ rest.head?, isDigit c = false) :
    wholePart (cs ++ rest) = some (cs, rest) := by
  have hrun := digitRun_append ⟨h.ne_nil, h.digits⟩ hrest
  unfold wholePart
  split
  · next digits heq =>
    have hzero : cs = ['0'] := by
      refine h.canonical ?_
      rw [← List.head?_append_of_ne_nil cs h.ne_nil, heq, List.head?_cons]
    rw [hzero] at heq ⊢
    obtain rfl := (List.cons.inj heq).2
    rfl
  · exact hrun

theorem fractionPart_append (h : IsFraction cs)
    (hrest : ∀ c ∈ rest.head?, isDigit c = false ∧ c ≠ '.') :
    fractionPart (cs ++ rest) = some (cs, rest) := by
  cases h with
  | none =>
    rw [List.nil_append, fractionPart]
    rintro digits rfl
    exact (hrest '.' rfl).2 rfl
  | some h =>
    rw [List.cons_append, fractionPart, digitRun_append h fun c hc => (hrest c hc).1]
    rfl

theorem exponentPart_append (h : IsExponent cs) (hrest : EndsNumber rest) :
    exponentPart (cs ++ rest) = some (cs, rest) := by
  cases h with
  | none =>
    cases rest with
    | nil => rfl
    | cons c rest =>
      obtain ⟨-, -, he, hE⟩ := hrest c rfl
      unfold exponentPart
      simp [he, hE]
  | @some e sign ds he hsign h =>
    have hmark : (e == 'e' || e == 'E') = true := by simpa using he
    have hrun := digitRun_append h fun c hc => (hrest c hc).1
    unfold exponentPart
    simp only [List.cons_append, List.append_assoc, hmark, if_true]
    rcases hsign with rfl | rfl | rfl
    · have hdigit : ∀ c ∈ (ds ++ rest).head?, isDigit c = true := by
        intro c hc
        rw [List.head?_append_of_ne_nil ds h.ne_nil] at hc
        exact h.digits c (List.mem_of_mem_head? hc)
      split
      · next heq => exact absurd (hdigit '+' (congrArg List.head? heq)) (by decide)
      · next heq => exact absurd (hdigit '-' (congrArg List.head? heq)) (by decide)
      · rw [List.nil_append, hrun]
        rfl
    · simp only [List.cons_append, List.nil_append, hrun, Option.map_some]
    · simp only [List.cons_append, List.nil_append, hrun, Option.map_some]

theorem unsigned_append {whole fraction exponent : List Char} (hwhole : IsNumeral whole)
    (hfraction : IsFraction fraction) (hexponent : IsExponent exponent)
    (hrest : EndsNumber rest) :
    unsigned (whole ++ (fraction ++ exponent) ++ rest) =
      some (whole ++ (fraction ++ exponent), rest) := by
  -- behind the digits of a part stands what begins the next part, or what ends the number
  have hmark : ∀ c ∈ (exponent ++ rest).head?, isDigit c = false ∧ c ≠ '.' := by
    cases hexponent with
    | none => exact fun c hc => ⟨(hrest c hc).1, (hrest c hc).2.1⟩
    | some he =>
      rintro c ⟨⟩
      rcases he with rfl | rfl <;> decide
  have hpoint : ∀ c ∈ (fraction ++ (exponent ++ rest)).head?, isDigit c = false := by
    cases hfraction with
    | none => exact fun c hc => (hmark c hc).1
    | some =>
      rintro c ⟨⟩
      decide
  rw [List.append_assoc, List.append_assoc, unsigned, wholePart_append hwhole hpoint]
  simp only [Option.bind_eq_bind, Option.bind_some, fractionPart_append hfraction hmark,
    exponentPart_append hexponent hrest, Option.pure_def, List.append_assoc]

/-- A number is read up to what ends it. -/
theorem readNumber_append (h : IsNumber cs) (hrest : EndsNumber rest) :
    readNumber (cs ++ rest) = some (cs, rest) := by
  cases h with
  | @mk sign whole fraction exponent hsign hwhole hfraction hexponent =>
    have hunsigned := unsigned_append hwhole hfraction hexponent hrest
    rcases hsign with rfl | rfl
    · unfold readNumber
      split
      · next heq =>
        have hdigit : isDigit '-' = true := by
          refine hwhole.digits '-' (List.mem_of_mem_head? ?_)
          have hhead := congrArg List.head? heq
          rwa [List.nil_append, List.append_assoc,
            List.head?_append_of_ne_nil whole hwhole.ne_nil] at hhead
        cases hdigit
      · exact hunsigned
    · rw [List.append_assoc, List.singleton_append, readNumber, hunsigned]
      rfl

theorem isSpace_cases (h : isSpace c = true) : c = ' ' ∨ c = '\n' ∨ c = '\r' ∨ c = '\t' := by
  simpa [isSpace, or_assoc] using h

theorem not_isSpace_of_isDigit (h : isDigit c = true) : isSpace c = false := by
  rw [← Bool.not_eq_true]
  intro hspace
  rcases isSpace_cases hspace with rfl | rfl | rfl | rfl <;> cases h

theorem skip_append (h : IsGap gap) (cs : List Char) : skip (gap ++ cs) = skip cs :=
  List.dropWhile_append_of_pos h

theorem exists_gap_append_skip (cs : List Char) : ∃ gap, IsGap gap ∧ cs = gap ++ skip cs :=
  ⟨cs.takeWhile isSpace, fun _ => List.mem_takeWhile_imp, List.takeWhile_append_dropWhile.symm⟩

theorem closed_gap_append (hgap : IsGap gap) (h : Closed rest) : Closed (gap ++ rest) := by
  cases gap with
  | nil => exact h
  | cons c gap =>
    rintro d ⟨⟩
    exact .inl (hgap c List.mem_cons_self)

theorem readValue_gap (h : IsGap gap) (fuel : Nat) (cs : List Char) :
    readValue fuel (gap ++ cs) = readValue fuel cs := by
  cases fuel with
  | zero => rw [readValue, readValue]
  | succ fuel => simp only [readValue, skip_append h]

theorem readItems_gap (h : IsGap gap) (fuel : Nat) (cs : List Char) :
    readItems fuel (gap ++ cs) = readItems fuel cs := by
  cases fuel with
  | zero => rw [readItems, readItems]
  | succ fuel => simp only [readItems, readValue_gap h]

theorem readMembers_gap (h : IsGap gap) (fuel : Nat) (cs : List Char) :
    readMembers fuel (gap ++ cs) = readMembers fuel cs := by
  cases fuel with
  | zero => rw [readMembers, readMembers]
  | succ fuel => simp only [readMembers, skip_append h]

theorem head?_number {literal : List Char} (h : IsNumber literal) (rest : List Char) :
    ∀ c ∈ (literal ++ rest).head?, c = '-' ∨ isDigit c = true := by
  cases h with
  | @mk sign whole fraction exponent hsign hwhole =>
    rcases hsign with rfl | rfl
    · intro c hc
      rw [List.nil_append, List.append_assoc,
        List.head?_append_of_ne_nil whole hwhole.ne_nil] at hc
      exact .inr (hwhole.digits c (List.mem_of_mem_head? hc))
    · rintro c ⟨⟩
      exact .inl rfl

theorem readValue_number {literal : List Char} (h : IsNumber literal) (hrest : EndsNumber rest)
    (fuel : Nat) : readValue (fuel + 1) (literal ++ rest) = some (.number literal, rest) := by
  have hhead := head?_number h rest
  have hskip : skip (literal ++ rest) = literal ++ rest := by
    refine dropWhile_eq_self fun c hc => ?_
    rcases hhead c hc with rfl | hdigit
    · rfl
    · exact not_isSpace_of_isDigit hdigit
  have hother {c : Char} {cs : List Char} (heq : literal ++ rest = c :: cs) :
      c = '-' ∨ isDigit c = true := hhead c (congrArg List.head? heq)
  rw [readValue, hskip]
  split
  · next heq => exact absurd (hother heq) (by decide)
  · next heq => exact absurd (hother heq) (by decide)
  · next heq => exact absurd (hother heq) (by decide)
  · next heq => exact absurd (hother heq) (by decide)
  · next heq => exact absurd (hother heq) (by decide)
  · next heq => exact absurd (hother heq) (by decide)
  · rw [readNumber_append h hrest]
    rfl

theorem readValue_bracket (fuel : Nat) (cs : List Char) :
    readValue (fuel + 1) ('[' :: cs) =
      match skip cs with
      | ']' :: rest => some (.array [], rest)
      | rest => (readItems fuel rest).map fun r => (.array r.1, r.2) := by
  rw [readValue, skip_cons rfl]
  rfl

theorem readValue_brace (fuel : Nat) (cs : List Char) :
    readValue (fuel + 1) ('{' :: cs) =
      match skip cs with
      | '}' :: rest => some (.object [], rest)
      | rest => (readMembers fuel rest).map fun r => (.object r.1, r.2) := by
  rw [readValue, skip_cons rfl]
  rfl

theorem readValue_array {items : List Json} {fuel : Nat}
    (h : readItems fuel cs = some (items, rest)) :
    readValue (fuel + 1) ('[' :: cs) = some (.array items, rest) := by
  obtain ⟨gap, hgap, hcs⟩ := exists_gap_append_skip cs
  rw [hcs, readItems_gap hgap] at h
  rw [readValue_bracket]
  split
  · next heq =>
    rw [heq, readItems_bracket] at h
    cases h
  · rw [h]
    rfl

theorem readValue_object {members : List (Option String × Json)} {fuel : Nat}
    (h : readMembers fuel cs = some (members, rest)) :
    readValue (fuel + 1) ('{' :: cs) = some (.object members, rest) := by
  obtain ⟨gap, hgap, hcs⟩ := exists_gap_append_skip cs
  rw [hcs, readMembers_gap hgap] at h
  rw [readValue_brace]
  split
  · next heq =>
    rw [heq, readMembers_brace] at h
    cases h
  · rw [h]
    rfl

theorem readItems_last {item : Json} {fuel : Nat} (hgap : IsGap gap)
    (h : readValue fuel cs = some (item, gap ++ ']' :: rest)) :
    readItems (fuel + 1) cs = some ([item], rest) := by
  rw [readItems, h, Option.bind_some]
  dsimp only
  rw [skip_append hgap, skip_cons rfl]
  rfl

theorem readItems_next {item : Json} {items : List Json} {fuel : Nat} {ds : List Char}
    (hgap : IsGap gap) (h : readValue fuel cs = some (item, gap ++ ',' :: ds))
    (hrest : readItems fuel ds = some (items, rest)) :
    readItems (fuel + 1) cs = some (item :: items, rest) := by
  rw [readItems, h, Option.bind_some]
  dsimp only
  rw [skip_append hgap, skip_cons rfl]
  exact congrArg (Option.map fun r => (item :: r.1, r.2)) hrest

/-- A name is read up to its colon, and then its value. -/
theorem readMembers_name {key : Option String} {before name after ds : List Char}
    (hbefore : IsGap before) (hname : SpellsString key name) (hafter : IsGap after) (fuel : Nat) :
    readMembers (fuel + 1) (before ++ '"' :: (name ++ '"' :: (after ++ ':' :: ds))) =
      (readValue fuel ds).bind fun (value, rest) =>
        match skip rest with
        | ',' :: rest => (readMembers fuel rest).map fun r => ((key, value) :: r.1, r.2)
        | '}' :: rest => some ([(key, value)], rest)
        | _ => none := by
  rw [readMembers, skip_append hbefore, skip_cons rfl]
  change (readString (name ++ '"' :: (after ++ ':' :: ds))).bind _ = _
  rw [readString_append hname, Option.bind_some]
  dsimp only
  rw [skip_append hafter, skip_cons rfl]
  rfl

/-- What the reader makes of a part. -/
def Reads : Part → List Char → Prop
  | .value j, cs => ∀ fuel rest, cs.length < fuel → Closed rest →
      readValue fuel (cs ++ rest) = some (j, rest)
  | .item j, cs => ∀ fuel rest, cs.length < fuel → Closed rest →
      ∃ gap, IsGap gap ∧ readValue fuel (cs ++ rest) = some (j, gap ++ rest)
  | .items js, cs => ∀ fuel rest, cs.length + 1 < fuel →
      readItems fuel (cs ++ ']' :: rest) = some (js, rest)
  | .member m, cs => ∀ fuel rest, cs.length < fuel → Closed rest →
      readMembers (fuel + 1) (cs ++ rest) =
        match skip rest with
        | ',' :: rest => (readMembers fuel rest).map fun r => (m :: r.1, r.2)
        | '}' :: rest => some ([m], rest)
        | _ => none
  | .members ms, cs => ∀ fuel rest, cs.length + 1 < fuel →
      readMembers fuel (cs ++ '}' :: rest) = some (ms, rest)

theorem closed_comma (cs : List Char) : Closed (',' :: cs) := by
  rintro c ⟨⟩
  exact .inr (.inl rfl)

theorem closed_bracket (cs : List Char) : Closed (']' :: cs) := by
  rintro c ⟨⟩
  exact .inr (.inr (.inl rfl))

theorem closed_brace (cs : List Char) : Closed ('}' :: cs) := by
  rintro c ⟨⟩
  exact .inr (.inr (.inr rfl))

/-- A value takes at least one step. -/
theorem reads_value {j : Json} (h : ∀ fuel rest, cs.length ≤ fuel → Closed rest →
    readValue (fuel + 1) (cs ++ rest) = some (j, rest)) : Reads (.value j) cs := by
  intro fuel rest hfuel hrest
  obtain ⟨fuel, rfl⟩ := Nat.exists_eq_add_one.mpr (Nat.zero_lt_of_lt hfuel)
  exact h fuel rest (Nat.le_of_lt_succ hfuel) hrest

/-- Every part is read as what it spells. -/
theorem reads_of_spells {part : Part} (h : Spells part cs) : Reads part cs := by
  induction h with
  | null =>
    refine reads_value fun fuel rest _ _ => ?_
    rw [readValue]
    rfl
  | truth =>
    refine reads_value fun fuel rest _ _ => ?_
    rw [readValue]
    rfl
  | falsehood =>
    refine reads_value fun fuel rest _ _ => ?_
    rw [readValue]
    rfl
  | number h =>
    refine reads_value fun fuel rest _ hrest => ?_
    exact readValue_number h hrest.endsNumber fuel
  | @string text cs h =>
    refine reads_value fun fuel rest _ _ => ?_
    have hstring := readString_append h rest
    rw [List.cons_append, List.append_assoc, List.singleton_append, readValue, skip_cons rfl]
    exact congrArg (Option.map fun r => (Json.string r.1, r.2)) hstring
  | @emptyArray gap h =>
    refine reads_value fun fuel rest _ _ => ?_
    rw [List.cons_append, List.append_assoc, readValue_bracket, skip_append h]
    rfl
  | @array items cs _ ih =>
    refine reads_value fun fuel rest hfuel _ => ?_
    rw [List.length_cons, List.length_append, List.length_singleton] at hfuel
    rw [List.cons_append, List.append_assoc, List.singleton_append]
    exact readValue_array (ih fuel rest (by omega))
  | @emptyObject gap h =>
    refine reads_value fun fuel rest _ _ => ?_
    rw [List.cons_append, List.append_assoc, readValue_brace, skip_append h]
    rfl
  | @object members cs _ ih =>
    refine reads_value fun fuel rest hfuel _ => ?_
    rw [List.length_cons, List.length_append, List.length_singleton] at hfuel
    rw [List.cons_append, List.append_assoc, List.singleton_append]
    exact readValue_object (ih fuel rest (by omega))
  | @item j before cs after hbefore _ hafter ih =>
    intro fuel rest hfuel hrest
    rw [List.length_append, List.length_append] at hfuel
    refine ⟨after, hafter, ?_⟩
    rw [List.append_assoc, List.append_assoc, readValue_gap hbefore]
    exact ih fuel _ (by omega) (closed_gap_append hafter hrest)
  | @lastItem j cs _ ih =>
    intro fuel rest hfuel
    obtain ⟨fuel, rfl⟩ := Nat.exists_eq_add_one.mpr (Nat.zero_lt_of_lt hfuel)
    obtain ⟨gap, hgap, hread⟩ := ih fuel _ (Nat.lt_of_succ_lt_succ hfuel) (closed_bracket rest)
    exact readItems_last hgap hread
  | @nextItem j js cs ds _ _ ih ihrest =>
    intro fuel rest hfuel
    obtain ⟨fuel, rfl⟩ := Nat.exists_eq_add_one.mpr (Nat.zero_lt_of_lt hfuel)
    rw [List.length_append, List.length_cons] at hfuel
    obtain ⟨gap, hgap, hread⟩ := ih fuel (',' :: (ds ++ ']' :: rest)) (by omega) (closed_comma _)
    rw [List.append_assoc, List.cons_append]
    exact readItems_next hgap hread (ihrest fuel rest (by omega))
  | @member key j before name after cs hbefore hkey hafter _ ih =>
    intro fuel rest hfuel hrest
    simp only [List.length_append, List.length_cons] at hfuel
    obtain ⟨gap, hgap, hread⟩ := ih fuel rest (by omega) hrest
    simp only [List.append_assoc, List.cons_append]
    rw [readMembers_name hbefore hkey hafter, hread, Option.bind_some]
    dsimp only
    rw [skip_append hgap]
  | @lastMember m cs _ ih =>
    intro fuel rest hfuel
    obtain ⟨fuel, rfl⟩ := Nat.exists_eq_add_one.mpr (Nat.zero_lt_of_lt hfuel)
    rw [ih fuel _ (Nat.lt_of_succ_lt_succ hfuel) (closed_brace rest), skip_cons rfl]
    rfl
  | @nextMember m ms cs ds _ _ ih ihrest =>
    intro fuel rest hfuel
    obtain ⟨fuel, rfl⟩ := Nat.exists_eq_add_one.mpr (Nat.zero_lt_of_lt hfuel)
    rw [List.length_append, List.length_cons] at hfuel
    have hlater := ihrest fuel rest (by omega)
    rw [List.append_assoc, List.cons_append, ih fuel _ (by omega) (closed_comma _), skip_cons rfl]
    exact congrArg (Option.map fun r => (m :: r.1, r.2)) hlater

/-- A value is read from each of its spellings, with blanks around it. -/
theorem read?_of_spells {j : Json} (h : Spells (.item j) cs) : read? cs = some j := by
  have hclosed : Closed [] := by
    rintro c ⟨⟩
  obtain ⟨gap, hgap, hread⟩ := reads_of_spells h (cs.length + 1) [] (Nat.lt_succ_self _) hclosed
  have hskip : skip (gap ++ []) = [] := skip_append hgap []
  rw [List.append_nil] at hread
  rw [read?, readFront?, hread, Option.bind_some, hskip]
  rfl

theorem spelledWithin_encode (cs : List Char) {fuel : Nat}
    (hfuel : (Utf8.encode cs).length ≤ fuel) : spelledWithin fuel (Utf8.encode cs) = cs := by
  induction cs generalizing fuel with
  | nil => cases fuel <;> rfl
  | cons c cs ih =>
    have hsplit : Utf8.encode (c :: cs) = String.utf8EncodeChar c ++ Utf8.encode cs :=
      List.flatMap_cons
    have hpos := List.length_pos_of_ne_nil (String.utf8EncodeChar_ne_nil (c := c))
    rw [hsplit, List.length_append] at hfuel
    obtain ⟨fuel, rfl⟩ := Nat.exists_eq_add_one.mpr (by omega : 0 < fuel)
    rw [hsplit, spelledWithin, Utf8.front_encodeChar]
    simp only [List.drop_left, ih (by omega : (Utf8.encode cs).length ≤ fuel)]

/-- The bytes of a text are read as the text is. -/
theorem readBytes?_encode (cs : List Char) : readBytes? (Utf8.encode cs) = read? cs := by
  rw [readBytes?, spelledWithin_encode cs (Nat.le_refl _)]

end AirflowDeploy.Json
