import AirflowDeploy.Proofs.Text.Utf8

/-!
# Units of a byte sequence

Bytes are decoded unit by unit, where a unit is a character or a maximal ill-formed part. Two
parts that are decoded on their own give the text of the whole exactly if the cut between them
divides no unit; else they give more characters.
-/
namespace AirflowDeploy.Text.Utf8

def Front.length : Front → Nat
  | .empty => 0
  | .char _ n => n
  | .illFormed n => n

@[simp, grind =] theorem Front.length_empty : Front.empty.length = 0 := rfl

@[simp, grind =] theorem Front.length_char (c : Char) (n : Nat) : (Front.char c n).length = n := rfl

@[simp, grind =] theorem Front.length_illFormed (n : Nat) : (Front.illFormed n).length = n := rfl

def Front.decoded : Front → List Char
  | .empty => []
  | .char c _ => [c]
  | .illFormed _ => [replacement]

theorem length_front_pos {bs : List UInt8} (h : bs ≠ []) : 0 < (front bs).length := by
  cases bs with
  | nil => exact absurd rfl h
  | cons b rest =>
    simp only [front]
    (repeat' split) <;> exact Nat.succ_pos _

theorem length_front_le (bs : List UInt8) : (front bs).length ≤ bs.length := by
  unfold front
  split
  · exact Nat.le_refl 0
  · (repeat' split) <;> simp

theorem length_front_le_four (bs : List UInt8) : (front bs).length ≤ 4 := by
  unfold front
  (repeat' split) <;> simp

theorem length_decoded_front {bs : List UInt8} (h : bs ≠ []) :
    (front bs).decoded.length = 1 := by
  cases hfront : front bs with
  | empty => exact absurd (front_eq_empty_iff.mp hfront) h
  | _ => rfl

/-- The bytes behind a unit have no say in it. -/
theorem front_append {bs rest : List UInt8} (hne : bs ≠ [])
    (h : (front (bs ++ rest)).length ≤ bs.length) : front (bs ++ rest) = front bs := by
  revert h
  rcases bs with _ | ⟨a, _ | ⟨b, _ | ⟨d, _ | ⟨e, bs⟩⟩⟩⟩
  · exact absurd rfl hne
  all_goals
    rcases announced_cases a with hlead | hlead | hlead | hlead | hlead <;>
      rcases rest with _ | ⟨x, _ | ⟨y, _ | ⟨z, rest⟩⟩⟩ <;>
      simp only [front, hlead, List.cons_append, List.nil_append, List.length_cons,
        List.length_nil, implies_true] <;>
      grind

/-- The first bytes of a unit are one ill-formed part without the others. -/
theorem front_of_length_lt {bs rest : List UInt8} (hne : bs ≠ [])
    (h : bs.length < (front (bs ++ rest)).length) : front bs = .illFormed bs.length := by
  revert h
  rcases bs with _ | ⟨a, _ | ⟨b, _ | ⟨d, _ | ⟨e, bs⟩⟩⟩⟩
  · exact absurd rfl hne
  all_goals
    rcases announced_cases a with hlead | hlead | hlead | hlead | hlead <;>
      rcases rest with _ | ⟨x, _ | ⟨y, _ | ⟨z, rest⟩⟩⟩ <;>
      simp only [front, hlead, List.cons_append, List.nil_append, List.length_cons,
        List.length_nil] <;>
      grind

theorem front_of_announced_eq_none {b : UInt8} (h : announced b = none) (rest : List UInt8) :
    front (b :: rest) = .illFormed 1 := by
  simp only [front, h]

theorem announced_of_isContinuation {b : UInt8} (h : isContinuation b = true) :
    announced b = none := by
  obtain ⟨hlow, hhigh⟩ := (isContinuation_iff b).mp h
  rw [announced_eq]
  split_ifs <;> first | rfl | omega

theorem isContinuation_of_isSecond {first second : UInt8} (h : isSecond first second = true) :
    isContinuation second = true := by
  obtain ⟨hlow, hhigh⟩ := (isSecond_iff first second).mp h
  rw [isContinuation_iff]
  split_ifs at hlow hhigh <;> omega

/-- The later bytes of a unit are continuation bytes. -/
theorem isContinuation_of_lt_length_front {b : UInt8} {rest : List UInt8} {i : Nat}
    (h : i + 1 < (front (b :: rest)).length) :
    ∃ c, rest[i]? = some c ∧ isContinuation c = true := by
  have hthree : i < 3 := Nat.lt_of_succ_lt_succ (Nat.lt_of_lt_of_le h (length_front_le_four _))
  revert h
  obtain rfl | rfl | rfl : i = 0 ∨ i = 1 ∨ i = 2 := by omega
  all_goals
    rcases announced_cases b with hlead | hlead | hlead | hlead | hlead <;>
      rcases rest with _ | ⟨x, _ | ⟨y, _ | ⟨z, rest⟩⟩⟩ <;>
      simp only [front, hlead] <;>
      (try split_ifs) <;>
      simp_all <;>
      exact isContinuation_of_isSecond ‹_›

/-- A later byte of a unit is a unit of its own where it comes first. -/
theorem front_drop {bs : List UInt8} {i : Nat} (hpos : 0 < i) (h : i < (front bs).length) :
    front (bs.drop i) = .illFormed 1 := by
  cases bs with
  | nil => exact absurd h (Nat.not_lt_zero i)
  | cons b rest =>
    obtain ⟨i, rfl⟩ := Nat.exists_eq_add_one.mpr hpos
    obtain ⟨c, hc, hcontinues⟩ := isContinuation_of_lt_length_front h
    obtain ⟨hi, rfl⟩ := List.getElem?_eq_some_iff.mp hc
    rw [List.drop_succ_cons, List.drop_eq_getElem_cons hi]
    exact front_of_announced_eq_none (announced_of_isContinuation hcontinues) _

/-- More steps than bytes make no difference. -/
theorem lossyWithin_eq {fuel : Nat} {bs : List UInt8} (h : bs.length ≤ fuel) :
    lossyWithin fuel bs = decodeLossy bs := by
  suffices hsame : ∀ fuel other bs, bs.length ≤ fuel → bs.length ≤ other →
      lossyWithin fuel bs = lossyWithin other bs from hsame _ _ bs h (Nat.le_refl _)
  intro fuel
  induction fuel with
  | zero =>
    intro other bs hfuel _
    obtain rfl := List.eq_nil_of_length_eq_zero (Nat.le_zero.mp hfuel)
    cases other <;> rfl
  | succ fuel ih =>
    intro other bs hfuel hother
    cases other with
    | zero =>
      obtain rfl := List.eq_nil_of_length_eq_zero (Nat.le_zero.mp hother)
      rfl
    | succ other =>
      have hdrop (hne : bs ≠ []) : lossyWithin fuel (bs.drop (front bs).length) =
          lossyWithin other (bs.drop (front bs).length) := by
        have hpos := length_front_pos hne
        have hle := length_front_le bs
        refine ih other _ ?_ ?_ <;> rw [List.length_drop] <;> omega
      rw [lossyWithin, lossyWithin]
      cases hfront : front bs with
      | empty => rfl
      | _ =>
        rw [hfront] at hdrop
        refine congrArg _ (hdrop ?_)
        rintro rfl
        cases hfront

theorem decodeLossy_of_ne_nil {bs : List UInt8} (h : bs ≠ []) :
    decodeLossy bs = (front bs).decoded ++ decodeLossy (bs.drop (front bs).length) := by
  have hpos := length_front_pos h
  have hle := length_front_le bs
  obtain ⟨fuel, hfuel⟩ := Nat.exists_eq_add_one.mpr (Nat.lt_of_lt_of_le hpos hle)
  have hrest : lossyWithin fuel (bs.drop (front bs).length) =
      decodeLossy (bs.drop (front bs).length) := by
    refine lossyWithin_eq ?_
    rw [List.length_drop]
    omega
  rw [← hrest, decodeLossy, hfuel, lossyWithin]
  cases hfront : front bs with
  | empty => exact absurd (front_eq_empty_iff.mp hfront) h
  | _ => rfl

/-- The units in order: characters and maximal ill-formed parts. -/
def units (bs : List UInt8) : List (List UInt8) :=
  if _h : bs = [] then []
  else bs.take (front bs).length :: units (bs.drop (front bs).length)
termination_by bs.length
decreasing_by
  have hpos := length_front_pos ‹¬bs = []›
  have hle := length_front_le bs
  rw [List.length_drop]
  omega

theorem units_nil : units [] = [] := by rw [units, dif_pos rfl]

theorem units_of_ne_nil {bs : List UInt8} (h : bs ≠ []) :
    units bs = bs.take (front bs).length :: units (bs.drop (front bs).length) := by
  rw [units, dif_neg h]

theorem flatten_units (bs : List UInt8) : (units bs).flatten = bs := by
  induction bs using units.induct with
  | case1 => rw [units_nil, List.flatten_nil]
  | case2 bs h ih => rw [units_of_ne_nil h, List.flatten_cons, ih, List.take_append_drop]

theorem length_of_mem_units {bs unit : List UInt8} (h : unit ∈ units bs) :
    0 < unit.length ∧ unit.length ≤ 4 := by
  induction bs using units.induct with
  | case1 => simp [units_nil] at h
  | case2 bs hne ih =>
    rw [units_of_ne_nil hne, List.mem_cons] at h
    rcases h with rfl | hrest
    · rw [List.length_take_of_le (length_front_le bs)]
      exact ⟨length_front_pos hne, length_front_le_four bs⟩
    · exact ih hrest

/-- The units of a sequence of ASCII bytes are its bytes. -/
theorem length_of_mem_units_ascii {bs unit : List UInt8} (hascii : ∀ b ∈ bs, b < 0x80)
    (h : unit ∈ units bs) : unit.length = 1 := by
  induction bs using units.induct with
  | case1 => simp [units_nil] at h
  | case2 bs hne ih =>
    have hone : (front bs).length = 1 := by
      cases bs with
      | nil => exact absurd rfl hne
      | cons b rest =>
        have hlead : announced b = some 1 := if_pos (hascii b List.mem_cons_self)
        simp only [front, hlead, Front.length_char]
    rw [units_of_ne_nil hne, List.mem_cons] at h
    rcases h with rfl | hrest
    · rw [List.length_take_of_le (length_front_le bs), hone]
    · exact ih (fun b hb => hascii b (List.mem_of_mem_drop hb)) hrest

/-- The bytes of some first units stand in front of the cut. -/
def Between (bs rest : List UInt8) : Prop :=
  ∃ before after, units (bs ++ rest) = before ++ after ∧ before.flatten = bs

variable {bs rest : List UInt8}

theorem between_nil (rest : List UInt8) : Between [] rest := ⟨[], units rest, rfl, rfl⟩

theorem units_append_of_length_le (hne : bs ≠ [])
    (h : (front (bs ++ rest)).length ≤ bs.length) :
    units (bs ++ rest) =
      bs.take (front bs).length :: units (bs.drop (front bs).length ++ rest) := by
  have hfront := front_append hne h
  rw [hfront] at h
  rw [units_of_ne_nil (List.append_ne_nil_of_left_ne_nil hne rest), hfront,
    List.take_append_of_le_length h, List.drop_append_of_le_length h]

theorem between_drop_iff (hne : bs ≠ []) (h : (front (bs ++ rest)).length ≤ bs.length) :
    Between (bs.drop (front bs).length) rest ↔ Between bs rest := by
  have hunits := units_append_of_length_le hne h
  constructor
  · rintro ⟨before, after, hsplit, hbefore⟩
    refine ⟨bs.take (front bs).length :: before, after, ?_, ?_⟩
    · rw [hunits, hsplit, List.cons_append]
    · rw [List.flatten_cons, hbefore, List.take_append_drop]
  · rintro ⟨before, after, hsplit, hbefore⟩
    rw [hunits] at hsplit
    cases before with
    | nil => exact absurd hbefore.symm hne
    | cons unit before =>
      obtain ⟨rfl, hrest⟩ := List.cons.inj hsplit
      refine ⟨before, after, hrest, ?_⟩
      rw [List.flatten_cons] at hbefore
      exact List.append_cancel_left (hbefore.trans (List.take_append_drop _ bs).symm)

theorem not_between_of_lt (hne : bs ≠ []) (h : bs.length < (front (bs ++ rest)).length) :
    ¬Between bs rest := by
  rintro ⟨before, after, hsplit, hbefore⟩
  rw [units_of_ne_nil (List.append_ne_nil_of_left_ne_nil hne rest)] at hsplit
  cases before with
  | nil => exact hne hbefore.symm
  | cons unit before =>
    obtain ⟨rfl, -⟩ := List.cons.inj hsplit
    have hlength := congrArg List.length hbefore
    rw [List.flatten_cons, List.length_append,
      List.length_take_of_le (length_front_le _)] at hlength
    omega

theorem units_append (h : Between bs rest) : units (bs ++ rest) = units bs ++ units rest := by
  induction bs using units.induct with
  | case1 => rw [units_nil, List.nil_append, List.nil_append]
  | case2 bs hne ih =>
    rcases Nat.lt_or_ge bs.length (front (bs ++ rest)).length with hlt | hle
    · exact absurd h (not_between_of_lt hne hlt)
    · rw [units_append_of_length_le hne hle, ih ((between_drop_iff hne hle).mpr h),
        units_of_ne_nil hne, List.cons_append]

theorem decodeLossy_append_of_length_le (hne : bs ≠ [])
    (h : (front (bs ++ rest)).length ≤ bs.length) :
    decodeLossy (bs ++ rest) =
      (front bs).decoded ++ decodeLossy (bs.drop (front bs).length ++ rest) := by
  have hfront := front_append hne h
  rw [hfront] at h
  rw [decodeLossy_of_ne_nil (List.append_ne_nil_of_left_ne_nil hne rest), hfront,
    List.drop_append_of_le_length h]

theorem decodeLossy_append (h : Between bs rest) :
    decodeLossy (bs ++ rest) = decodeLossy bs ++ decodeLossy rest := by
  induction bs using units.induct with
  | case1 => rfl
  | case2 bs hne ih =>
    rcases Nat.lt_or_ge bs.length (front (bs ++ rest)).length with hlt | hle
    · exact absurd h (not_between_of_lt hne hlt)
    · rw [decodeLossy_append_of_length_le hne hle, ih ((between_drop_iff hne hle).mpr h),
        decodeLossy_of_ne_nil hne, List.append_assoc]

/-- Where the first bytes of a unit are missing, each of the others is replaced on its own. -/
theorem length_decodeLossy_drop {i : Nat} (hpos : 0 < i) (h : i ≤ (front bs).length) :
    (decodeLossy (bs.drop i)).length =
      (front bs).length - i + (decodeLossy (bs.drop (front bs).length)).length := by
  obtain ⟨missing, hmissing⟩ := Nat.exists_eq_add_of_le h
  induction missing generalizing i with
  | zero =>
    obtain rfl : i = (front bs).length := hmissing.symm
    rw [Nat.sub_self, Nat.zero_add]
  | succ missing ih =>
    have hlt : i < (front bs).length := by omega
    have hfront := front_drop hpos hlt
    have hdropped : bs.drop i ≠ [] := by
      intro hnil
      rw [hnil] at hfront
      cases hfront
    have hone : (Front.illFormed 1).length = 1 := rfl
    have hlater := ih (i := i + 1) (Nat.succ_pos i) hlt (by omega)
    rw [decodeLossy_of_ne_nil hdropped, List.length_append, length_decoded_front hdropped, hfront,
      hone, List.drop_drop, hlater]
    omega

/-- A cut through a unit gives more characters. -/
theorem length_decodeLossy_append_lt (h : ¬Between bs rest) :
    (decodeLossy (bs ++ rest)).length < (decodeLossy bs).length + (decodeLossy rest).length := by
  induction bs using units.induct with
  | case1 => exact absurd (between_nil rest) h
  | case2 bs hne ih =>
    have hwhole := List.append_ne_nil_of_left_ne_nil hne rest
    rcases Nat.lt_or_ge bs.length (front (bs ++ rest)).length with hlt | hle
    · have hfirst : (decodeLossy bs).length = 1 := by
        rw [decodeLossy_of_ne_nil hne, List.length_append, length_decoded_front hne,
          front_of_length_lt hne hlt, Front.length_illFormed, List.drop_length]
        rfl
      have hrest := length_decodeLossy_drop (List.length_pos_of_ne_nil hne) (Nat.le_of_lt hlt)
      rw [List.drop_left] at hrest
      rw [decodeLossy_of_ne_nil hwhole, List.length_append, length_decoded_front hwhole]
      omega
    · have hmore := ih ((between_drop_iff hne hle).not.mpr h)
      rw [decodeLossy_append_of_length_le hne hle, decodeLossy_of_ne_nil hne]
      simp only [List.length_append]
      omega

variable {pieces : List (List UInt8)}

/-- No piece ends inside of a unit. -/
def CutsBetween (pieces : List (List UInt8)) : Prop :=
  ∀ before after, before ++ after = pieces → Between before.flatten after.flatten

theorem cutsBetween_nil : CutsBetween [] := by
  intro before after h
  obtain ⟨rfl, rfl⟩ := List.append_eq_nil_iff.mp h
  exact between_nil _

/-- Behind a cut between units the units are those of what stands there. -/
theorem between_append_iff {first : List UInt8} (h : Between first (bs ++ rest)) :
    Between (first ++ bs) rest ↔ Between bs rest := by
  have hunits := units_append h
  constructor
  · rintro ⟨before, after, hsplit, hbefore⟩
    rw [List.append_assoc, hunits] at hsplit
    rcases List.append_eq_append_iff.mp hsplit with ⟨more, rfl, hmore⟩ | ⟨less, hless, -⟩
    · refine ⟨more, after, hmore, ?_⟩
      rw [List.flatten_append, flatten_units] at hbefore
      exact List.append_cancel_left hbefore
    · have hfirst := flatten_units first
      rw [hless, List.flatten_append, hbefore, List.append_assoc] at hfirst
      obtain ⟨rfl, -⟩ := List.append_eq_nil_iff.mp (List.append_right_eq_self.mp hfirst)
      exact between_nil rest
  · rintro ⟨before, after, hsplit, hbefore⟩
    refine ⟨units first ++ before, after, ?_, ?_⟩
    · rw [List.append_assoc, hunits, hsplit, List.append_assoc]
    · rw [List.flatten_append, flatten_units, hbefore]

theorem cutsBetween_cons {piece : List UInt8} :
    CutsBetween (piece :: pieces) ↔ Between piece pieces.flatten ∧ CutsBetween pieces := by
  constructor
  · intro h
    have hfirst : Between piece pieces.flatten := by simpa using h [piece] pieces rfl
    refine ⟨hfirst, fun before after hsplit => ?_⟩
    have hlater := h (piece :: before) after (by rw [← hsplit, List.cons_append])
    rw [← hsplit, List.flatten_append] at hfirst
    exact (between_append_iff hfirst).mp hlater
  · rintro ⟨hfirst, hrest⟩ before after hsplit
    cases before with
    | nil => exact between_nil _
    | cons _ before =>
      obtain ⟨rfl, hpieces⟩ : _ ∧ before ++ after = pieces := List.cons.inj hsplit
      rw [← hpieces, List.flatten_append] at hfirst
      exact (between_append_iff hfirst).mpr (hrest before after hpieces)

theorem length_decodeLossy_flatten_le (pieces : List (List UInt8)) :
    (decodeLossy pieces.flatten).length ≤ (pieces.flatMap decodeLossy).length := by
  induction pieces with
  | nil => exact Nat.le_refl _
  | cons piece pieces ih =>
    rw [List.flatten_cons, List.flatMap_cons, List.length_append]
    by_cases hcut : Between piece pieces.flatten
    · rw [decodeLossy_append hcut, List.length_append]
      omega
    · have hmore := length_decodeLossy_append_lt hcut
      omega

/-- Pieces give the text of the whole exactly if none ends inside of a unit. -/
theorem flatMap_decodeLossy_eq_iff :
    pieces.flatMap decodeLossy = decodeLossy pieces.flatten ↔ CutsBetween pieces := by
  induction pieces with
  | nil => exact iff_of_true rfl cutsBetween_nil
  | cons piece pieces ih =>
    rw [List.flatMap_cons, List.flatten_cons, cutsBetween_cons]
    by_cases hcut : Between piece pieces.flatten
    · rw [decodeLossy_append hcut, List.append_cancel_left_eq, ih, and_iff_right hcut]
    · refine iff_of_false (fun heq => ?_) (fun h => hcut h.1)
      have hmore := length_decodeLossy_append_lt hcut
      have hleast := length_decodeLossy_flatten_le pieces
      have hlength := congrArg List.length heq
      rw [List.length_append] at hlength
      omega

theorem cutsBetween_units (bs : List UInt8) : CutsBetween (units bs) := by
  intro before after hsplit
  refine ⟨before, after, ?_, rfl⟩
  rw [← List.flatten_append, hsplit, flatten_units]

theorem flatten_take_of_single {singles : List (List UInt8)}
    (h : ∀ single ∈ singles, single.length = 1) (n : Nat) :
    (singles.take n).flatten = singles.flatten.take n := by
  induction singles generalizing n with
  | nil => simp
  | cons single singles ih =>
    obtain ⟨hsingle, hrest⟩ := List.forall_mem_cons.mp h
    obtain ⟨b, rfl⟩ := List.length_eq_one_iff.mp hsingle
    cases n with
    | zero => rfl
    | succ n => simp [ih hrest n]

/-- Where every unit is a single byte, no cut divides one. -/
theorem cutsBetween_of_single (h : ∀ unit ∈ units pieces.flatten, unit.length = 1) :
    CutsBetween pieces := by
  intro before after hsplit
  have hwhole : pieces.flatten = before.flatten ++ after.flatten := by
    rw [← hsplit, List.flatten_append]
  rw [hwhole] at h
  refine ⟨_, _, (List.take_append_drop before.flatten.length _).symm, ?_⟩
  rw [flatten_take_of_single h, flatten_units, List.take_left]

/-- The units, the one with a second byte divided before it. -/
theorem not_cutsBetween_of_divided {bs first rest : List UInt8} {before after : List (List UInt8)}
    (hunits : units bs = before ++ (first ++ rest) :: after) (hfirst : first ≠ [])
    (hrest : rest ≠ []) : ¬CutsBetween (before ++ first :: rest :: after) := by
  intro h
  obtain ⟨early, late, hsplit, hearly⟩ := h (before ++ [first]) (rest :: after) (by simp)
  have hwhole : (before ++ [first]).flatten ++ (rest :: after).flatten = bs := by
    rw [← flatten_units bs, hunits]
    simp
  rw [hwhole, hunits] at hsplit
  rw [List.flatten_append, List.flatten_singleton] at hearly
  rcases List.append_eq_append_iff.mp hsplit with ⟨more, rfl, hmid⟩ | ⟨less, rfl, -⟩
  · rw [List.flatten_append] at hearly
    have hcovered := List.append_cancel_left hearly
    cases more with
    | nil => exact hfirst hcovered.symm
    | cons unit more =>
      obtain ⟨rfl, -⟩ := List.cons.inj hmid
      rw [List.flatten_cons, List.append_assoc] at hcovered
      have hnone := List.append_right_eq_self.mp hcovered
      exact hrest (List.append_eq_nil_iff.mp hnone).1
  · rw [List.flatten_append, List.append_assoc] at hearly
    have hnone := List.append_right_eq_self.mp hearly.symm
    exact hfirst (List.append_eq_nil_iff.mp hnone).2

end AirflowDeploy.Text.Utf8
