import AirflowDeploy.Text.Utf8
import Mathlib.Data.List.Basic

/-!
# Encoded text

Decoding gives back what was encoded, and bytes that are cut after a newline are decoded piece by
piece.
-/
namespace AirflowDeploy.Text.Utf8

theorem toNat_ofNat {n : Nat} (h : n < 256) : (UInt8.ofNat n).toNat = n := by
  rw [UInt8.toNat_ofNat', Nat.mod_eq_of_lt h]

theorem announced_eq (b : UInt8) : announced b =
    if b.toNat < 0x80 then some 1
    else if 0xC2 ≤ b.toNat ∧ b.toNat ≤ 0xDF then some 2
    else if 0xE0 ≤ b.toNat ∧ b.toNat ≤ 0xEF then some 3
    else if 0xF0 ≤ b.toNat ∧ b.toNat ≤ 0xF4 then some 4
    else none := by
  simp [announced, UInt8.lt_iff_toNat_lt, UInt8.le_iff_toNat_le]

theorem isContinuation_iff (b : UInt8) :
    isContinuation b = true ↔ 0x80 ≤ b.toNat ∧ b.toNat ≤ 0xBF := by
  simp [isContinuation, UInt8.le_iff_toNat_le]

theorem isSecond_iff (first second : UInt8) : isSecond first second = true ↔
    (if first.toNat = 0xE0 then 0xA0 else if first.toNat = 0xF0 then 0x90 else 0x80) ≤
        second.toNat ∧
      second.toNat ≤
        (if first.toNat = 0xED then 0x9F else if first.toNat = 0xF4 then 0x8F else 0xBF) := by
  simp only [isSecond, secondRange, beq_iff_eq, ← UInt8.toNat_inj, UInt8.reduceToNat,
    Bool.and_eq_true, decide_eq_true_eq]
  split_ifs <;> omega

variable {a b d e : Nat} (rest : List UInt8)

theorem front_one (ha : a < 0x80) : front (UInt8.ofNat a :: rest) = .char (Char.ofNat a) 1 := by
  have hfirst := toNat_ofNat (n := a) (by omega)
  have hannounced : announced (UInt8.ofNat a) = some 1 := by
    rw [announced_eq, hfirst, if_pos ha]
  simp only [front, hannounced, hfirst]

theorem front_two (ha : 0xC2 ≤ a ∧ a ≤ 0xDF) (hb : 0x80 ≤ b ∧ b ≤ 0xBF) :
    front (UInt8.ofNat a :: UInt8.ofNat b :: rest) =
      .char (Char.ofNat (a % 32 * 64 + b % 64)) 2 := by
  have hfirst := toNat_ofNat (n := a) (by omega)
  have hsecond := toNat_ofNat (n := b) (by omega)
  have hannounced : announced (UInt8.ofNat a) = some 2 := by
    rw [announced_eq, hfirst, if_neg (by omega), if_pos ha]
  have hin : isSecond (UInt8.ofNat a) (UInt8.ofNat b) = true := by
    rw [isSecond_iff, hfirst, hsecond]
    split_ifs <;> omega
  simp only [front, hannounced, hin, if_true, payload, hfirst, hsecond]

theorem front_three (ha : 0xE0 ≤ a ∧ a ≤ 0xEF)
    (hb : (if a = 0xE0 then 0xA0 else 0x80) ≤ b ∧ b ≤ if a = 0xED then 0x9F else 0xBF)
    (hd : 0x80 ≤ d ∧ d ≤ 0xBF) :
    front (UInt8.ofNat a :: UInt8.ofNat b :: UInt8.ofNat d :: rest) =
      .char (Char.ofNat (a % 16 * 4096 + b % 64 * 64 + d % 64)) 3 := by
  have hbound : b ≤ 0xBF := by
    have := hb.2
    split_ifs at this <;> omega
  have hfirst := toNat_ofNat (n := a) (by omega)
  have hsecond := toNat_ofNat (n := b) (by omega)
  have hthird := toNat_ofNat (n := d) (by omega)
  have hannounced : announced (UInt8.ofNat a) = some 3 := by
    rw [announced_eq, hfirst, if_neg (by omega), if_neg (by omega), if_pos ha]
  have hin : isSecond (UInt8.ofNat a) (UInt8.ofNat b) = true := by
    rw [isSecond_iff, hfirst, hsecond]
    rw [if_neg (by omega : a ≠ 0xF0), if_neg (by omega : a ≠ 0xF4)]
    exact hb
  have hcontinues : isContinuation (UInt8.ofNat d) = true := by
    rw [isContinuation_iff, hthird]
    exact hd
  simp only [front, hannounced, hin, hcontinues, if_true, payload, hfirst, hsecond, hthird]

theorem front_four (ha : 0xF0 ≤ a ∧ a ≤ 0xF4)
    (hb : (if a = 0xF0 then 0x90 else 0x80) ≤ b ∧ b ≤ if a = 0xF4 then 0x8F else 0xBF)
    (hd : 0x80 ≤ d ∧ d ≤ 0xBF) (he : 0x80 ≤ e ∧ e ≤ 0xBF) :
    front (UInt8.ofNat a :: UInt8.ofNat b :: UInt8.ofNat d :: UInt8.ofNat e :: rest) =
      .char (Char.ofNat (a % 8 * 262144 + b % 64 * 4096 + d % 64 * 64 + e % 64)) 4 := by
  have hbound : b ≤ 0xBF := by
    have := hb.2
    split_ifs at this <;> omega
  have hfirst := toNat_ofNat (n := a) (by omega)
  have hsecond := toNat_ofNat (n := b) (by omega)
  have hthird := toNat_ofNat (n := d) (by omega)
  have hfourth := toNat_ofNat (n := e) (by omega)
  have hannounced : announced (UInt8.ofNat a) = some 4 := by
    rw [announced_eq, hfirst, if_neg (by omega), if_neg (by omega), if_neg (by omega), if_pos ha]
  have hin : isSecond (UInt8.ofNat a) (UInt8.ofNat b) = true := by
    rw [isSecond_iff, hfirst, hsecond]
    rw [if_neg (by omega : a ≠ 0xE0), if_neg (by omega : a ≠ 0xED)]
    exact hb
  have hcontinues : isContinuation (UInt8.ofNat d) = true := by
    rw [isContinuation_iff, hthird]
    exact hd
  have hends : isContinuation (UInt8.ofNat e) = true := by
    rw [isContinuation_iff, hfourth]
    exact he
  simp only [front, hannounced, hin, hcontinues, hends, if_true, payload, hfirst, hsecond, hthird,
    hfourth]

/-- The bytes of a character are read as this character, whatever follows. -/
theorem front_encodeChar (c : Char) :
    front (String.utf8EncodeChar c ++ rest) = .char c (String.utf8EncodeChar c).length := by
  have hvalid : c.val.toNat < 0xD800 ∨ 0xDFFF < c.val.toNat ∧ c.val.toNat < 0x110000 := c.valid
  have hchar {n : Nat} (h : n = c.val.toNat) : Char.ofNat n = c := h ▸ Char.ofNat_toNat c
  rw [String.utf8EncodeChar]
  split
  · refine (front_one rest (by omega)).trans ?_
    rw [hchar rfl]
    rfl
  · split
    · refine (front_two rest (by omega) (by omega)).trans ?_
      rw [hchar (by omega)]
      rfl
    · split
      · refine (front_three rest (by omega) (by split_ifs <;> omega) (by omega)).trans ?_
        rw [hchar (by omega)]
        rfl
      · refine (front_four rest (by omega) (by split_ifs <;> omega) (by omega) (by omega)).trans ?_
        rw [hchar (by omega)]
        rfl

theorem strictWithin_encode (cs : List Char) {fuel : Nat} (hfuel : (encode cs).length ≤ fuel) :
    strictWithin fuel (encode cs) = some cs := by
  induction cs generalizing fuel with
  | nil => cases fuel <;> rfl
  | cons c cs ih =>
    have hsplit : encode (c :: cs) = String.utf8EncodeChar c ++ encode cs := List.flatMap_cons
    have hpos := List.length_pos_of_ne_nil (String.utf8EncodeChar_ne_nil (c := c))
    rw [hsplit, List.length_append] at hfuel
    obtain ⟨fuel, rfl⟩ :=
      Nat.exists_eq_add_of_le' (Nat.le_trans hpos (Nat.le_of_add_right_le hfuel))
    have hrest : (encode cs).length ≤ fuel := by omega
    rw [hsplit, strictWithin, front_encodeChar]
    simp only [List.drop_left, ih hrest, Option.map_some]

theorem decode?_encode (cs : List Char) : decode? (encode cs) = some cs :=
  strictWithin_encode cs (Nat.le_refl _)

theorem encode_injective : Function.Injective encode := fun cs ds h => by
  have hdecoded : decode? (encode cs) = decode? (encode ds) := congrArg decode? h
  simpa [decode?_encode] using hdecoded

theorem encode_toList_injective : Function.Injective fun text : String => encode text.toList :=
  fun _ _ h => String.toList_injective (encode_injective h)

theorem announced_cases (b : UInt8) :
    announced b = some 1 ∨ announced b = some 2 ∨ announced b = some 3 ∨ announced b = some 4 ∨
      announced b = none := by
  unfold announced
  split_ifs <;> simp

theorem isSecond_newline (first : UInt8) : isSecond first 10 = false := by
  rw [← Bool.not_eq_true, isSecond_iff]
  split_ifs <;> decide

/-- A newline is never a later byte of a character. -/
theorem front_append_newline (bs rest : List UInt8) :
    front (bs ++ 10 :: rest) = front (bs ++ [10]) := by
  have hcontinues : isContinuation 10 = false := by decide
  rcases bs with _ | ⟨a, _ | ⟨b, _ | ⟨d, _ | ⟨e, bs⟩⟩⟩⟩
  · rfl
  all_goals
    rcases announced_cases a with h | h | h | h | h <;>
      simp [front, h, isSecond_newline, hcontinues]

/-- More steps than bytes make no difference. -/
theorem strictWithin_eq {fuel : Nat} {bs : List UInt8} (h : bs.length ≤ fuel) :
    strictWithin fuel bs = decode? bs := by
  suffices hsame : ∀ fuel other bs, bs.length ≤ fuel → bs.length ≤ other →
      strictWithin fuel bs = strictWithin other bs from hsame _ _ bs h (Nat.le_refl _)
  intro fuel
  induction fuel with
  | zero =>
    intro other bs hfuel _
    obtain rfl := List.eq_nil_of_length_eq_zero (Nat.le_zero.mp hfuel)
    cases other <;> rfl
  | succ fuel ih =>
    intro other bs hfuel hother
    cases other with
    | zero =>
      obtain rfl := List.eq_nil_of_length_eq_zero (Nat.le_zero.mp hother)
      rfl
    | succ other =>
      rw [strictWithin, strictWithin]
      cases hfront : front bs with
      | char c n =>
        have hn := length_of_front hfront
        have hrest : (bs.drop n).length = bs.length - n := List.length_drop
        exact congrArg (Option.map (c :: ·)) (ih other (bs.drop n) (by omega) (by omega))
      | _ => rfl

theorem decode?_of_front_char {bs : List UInt8} {c : Char} {n : Nat} (h : front bs = .char c n) :
    decode? bs = (decode? (bs.drop n)).map (c :: ·) := by
  obtain ⟨hpos, hlength⟩ := length_of_front h
  obtain ⟨fuel, hfuel⟩ := Nat.exists_eq_add_of_lt (Nat.lt_of_lt_of_le hpos hlength)
  have hrest : (bs.drop n).length = bs.length - n := List.length_drop
  rw [decode?, hfuel, strictWithin, h]
  exact congrArg (Option.map (c :: ·)) (strictWithin_eq (by omega))

theorem decode?_of_front_illFormed {bs : List UInt8} {n : Nat} (h : front bs = .illFormed n) :
    decode? bs = none := by
  cases bs with
  | nil => cases h
  | cons b bs => rw [decode?, List.length_cons, strictWithin, h]

/-- What is cut after a newline is decoded piece by piece. -/
theorem decode?_append_newline (bs rest : List UInt8) :
    decode? (bs ++ 10 :: rest) =
      (decode? (bs ++ [10])).bind fun cs => (decode? rest).map (cs ++ ·) := by
  induction hlength : bs.length using Nat.strongRecOn generalizing bs with
  | ind length ih =>
  cases hfront : front (bs ++ [10]) with
  | empty => simp [front_eq_empty_iff] at hfront
  | illFormed n =>
    have hwhole := (front_append_newline bs rest).trans hfront
    rw [decode?_of_front_illFormed hfront, decode?_of_front_illFormed hwhole]
    rfl
  | char c n =>
    have hwhole := (front_append_newline bs rest).trans hfront
    obtain ⟨hpos, hn⟩ := length_of_front hfront
    rw [decode?_of_front_char hfront, decode?_of_front_char hwhole]
    rw [List.length_append, List.length_singleton] at hn
    rcases Nat.lt_or_ge bs.length n with hend | hmore
    · obtain rfl : n = bs.length + 1 := by omega
      have hempty : (bs ++ [10]).drop (bs.length + 1) = [] := by simp
      have hrest : (bs ++ 10 :: rest).drop (bs.length + 1) = rest := by simp
      rw [hempty, hrest]
      simp [decode?, strictWithin]
    · have hshorter : (bs.drop n).length < length := by
        rw [List.length_drop]
        omega
      rw [List.drop_append_of_le_length hmore, List.drop_append_of_le_length hmore,
        ih _ hshorter (bs.drop n) rfl, Option.map_bind, Option.bind_map]
      simp [Function.comp_def]

theorem lossyWithin_of_strictWithin {fuel : Nat} {bs : List UInt8} {cs : List Char}
    (h : strictWithin fuel bs = some cs) : lossyWithin fuel bs = cs := by
  induction fuel generalizing bs cs with
  | zero =>
    rw [strictWithin] at h
    split at h
    · exact Option.some.inj h
    · cases h
  | succ fuel ih =>
    rw [strictWithin] at h
    rw [lossyWithin]
    split at h
    · exact Option.some.inj h
    · obtain ⟨rest, hrest, rfl⟩ := Option.map_eq_some_iff.mp h
      exact congrArg _ (ih hrest)
    · cases h

/-- Text stays as it is where ill-formed parts are replaced. -/
theorem decodeLossy_of_decode? {bs : List UInt8} {cs : List Char} (h : decode? bs = some cs) :
    decodeLossy bs = cs := lossyWithin_of_strictWithin h

end AirflowDeploy.Text.Utf8
