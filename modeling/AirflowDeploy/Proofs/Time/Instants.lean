import AirflowDeploy.Proofs.Text.Numerals
import AirflowDeploy.Proofs.Time.Calendar
import AirflowDeploy.Time.Instant

/-!
# Written instants

An instant within the years of the calendar is read back from its text, to the nanosecond and with
a leap second. Each part of the text is read up to the mark behind it.
-/
namespace AirflowDeploy

namespace Text

variable {n width : Nat} {c : Char}

theorem length_decimalOnto_le (n : Nat) (tail : List Char) (hwidth : 0 < width)
    (h : n < 10 ^ width) : (decimalOnto n tail).length ≤ width + tail.length := by
  induction n, tail using decimalOnto.induct generalizing width with
  | case1 n tail hn =>
    rw [decimalOnto, if_pos hn, List.length_cons]
    omega
  | case2 n tail hn ih =>
    obtain ⟨width, rfl⟩ := Nat.exists_eq_add_one.mpr hwidth
    have htens : n / 10 < 10 ^ width := by
      rw [Nat.div_lt_iff_lt_mul (by decide), ← Nat.pow_succ]
      exact h
    have hmore : 0 < width := by
      by_contra hnone
      obtain rfl : width = 0 := by omega
      omega
    have hrest := ih hmore htens
    rw [decimalOnto, if_neg hn]
    rw [List.length_cons] at hrest
    omega

theorem length_padded (hwidth : 0 < width) (h : n < 10 ^ width) :
    (padded width n).length = width := by
  have hdigits : (decimal n).length ≤ width := length_decimalOnto_le n [] hwidth h
  rw [padded, List.length_append, List.length_replicate]
  omega

theorem isPadded_padded (width n : Nat) : IsPadded n (padded width n) := ⟨_, rfl⟩

theorem isDigit_of_mem_padded (h : c ∈ padded width n) : isDigit c = true :=
  (isPadded_padded width n).isDigit h

theorem readDigits?_padded (width n : Nat) : readDigits? (padded width n) = some n :=
  readDigits?_eq_some_iff_isPadded.mpr (isPadded_padded width n)

theorem padded_ne_nil (width n : Nat) : padded width n ≠ [] :=
  (readDigits?_eq_some_iff.mp (readDigits?_padded width n)).1

theorem takeWhile_padded_append (width n : Nat) {rest : List Char}
    (hrest : ∀ c ∈ rest.head?, isDigit c = false) :
    (padded width n ++ rest).takeWhile isDigit = padded width n := by
  rw [List.takeWhile_append_of_pos fun c => isDigit_of_mem_padded, takeWhile_eq_nil hrest,
    List.append_nil]

theorem trimStart_padded_append (width n : Nat) (rest : List Char) :
    trimStart (padded width n ++ rest) = padded width n ++ rest := by
  obtain ⟨c, digits, hdigits⟩ := List.exists_cons_of_ne_nil (padded_ne_nil width n)
  have hc : isDigit c = true := isDigit_of_mem_padded (hdigits ▸ List.mem_cons_self)
  rw [hdigits, List.cons_append, trimStart_eq_self (isBlank_of_isDigit hc)]

theorem digitsFrom_append (n : Nat) (cs ds : List Char) :
    digitsFrom n (cs ++ ds) = digitsFrom (digitsFrom n cs) ds := by
  induction cs generalizing n with
  | nil => rfl
  | cons c cs ih => exact ih _

theorem digitsFrom_zeros (n zeros : Nat) :
    digitsFrom n (List.replicate zeros '0') = n * 10 ^ zeros := by
  induction zeros generalizing n with
  | zero => simp [digitsFrom]
  | succ zeros ih =>
    have hzero : digitValue '0' = 0 := rfl
    rw [List.replicate_succ, digitsFrom, ih, hzero, Nat.add_zero, Nat.pow_succ', Nat.mul_assoc]

end Text

namespace Instant

open Text

variable {n width : Nat} {rest : List Char}

theorem readNumber_padded (hwidth : 0 < width) (h : n < 10 ^ width) (rest : List Char) :
    readNumber width (padded width n ++ rest) = some (n, rest) := by
  have hlength := length_padded hwidth h
  have hall : (padded width n).takeWhile isDigit = padded width n :=
    List.takeWhile_eq_self_iff.mpr fun c => isDigit_of_mem_padded
  simp only [readNumber, trimStart_padded_append, List.take_left' hlength, hall,
    readDigits?_padded, Option.map_some, List.drop_left]

theorem readMark_cons {mark : Char} (h : isBlank mark = false) (rest : List Char) :
    readMark mark (mark :: rest) = some rest := by
  rw [readMark, trimStart_eq_self h]
  exact if_pos rfl

theorem readSigned_padded (width n : Nat) (hrest : ∀ c ∈ rest.head?, isDigit c = false) :
    readYear.readSigned (padded width n ++ rest) = some (n, rest) := by
  simp only [readYear.readSigned, takeWhile_padded_append width n hrest, readDigits?_padded,
    Option.map_some, List.drop_left]

/-- A year is read up to the hyphen behind it. -/
theorem readYear_renderYear (year : Int) (rest : List Char) :
    readYear (renderYear year ++ '-' :: rest) = some (year, '-' :: rest) := by
  have hyphen : ∀ c ∈ ('-' :: rest).head?, isDigit c = false := by
    rintro c ⟨⟩
    rfl
  unfold renderYear
  split_ifs with hnegative hshort
  · have habs : -((year.natAbs : Nat) : Int) = year := by omega
    rw [List.cons_append, readYear, trimStart_eq_self rfl]
    simp only [readSigned_padded 4 _ hyphen, Option.map_some, habs]
  · have hnat : ((year.toNat : Nat) : Int) = year := by omega
    have hbound : year.toNat < 10 ^ 4 := by omega
    obtain ⟨c, digits, hdigits⟩ := List.exists_cons_of_ne_nil (padded_ne_nil 4 year.toNat)
    have hc : isDigit c = true := isDigit_of_mem_padded (hdigits ▸ List.mem_cons_self)
    have hread := readNumber_padded (by decide) hbound ('-' :: rest)
    rw [readYear, trimStart_padded_append]
    rw [hdigits, List.cons_append] at hread ⊢
    split
    · next heq =>
      obtain ⟨rfl, -⟩ := List.cons.inj heq
      cases hc
    · next heq =>
      obtain ⟨rfl, -⟩ := List.cons.inj heq
      cases hc
    · rw [hread, Option.map_some, hnat]
  · have hnat : ((year.toNat : Nat) : Int) = year := by omega
    rw [List.cons_append, readYear, trimStart_eq_self rfl]
    simp only [readSigned_padded 4 _ hyphen, Option.map_some, hnat]

/-- The digits of a fraction, made up to nine. -/
theorem readFraction_padded {width n : Nat} (hwidth : 0 < width) (hnine : width ≤ 9)
    (h : n < 10 ^ width) (hrest : ∀ c ∈ rest.head?, isDigit c = false) :
    readFraction ('.' :: (padded width n ++ rest)) = some (n * 10 ^ (9 - width), rest) := by
  have hlength := length_padded hwidth h
  have hsome : (padded width n).isEmpty = false := by
    simpa using padded_ne_nil width n
  have hcounted : (padded width n ++ List.replicate 9 '0').take 9 =
      padded width n ++ List.replicate (9 - width) '0' := by
    rw [List.take_append, hlength, List.take_of_length_le (hlength.le.trans hnine),
      List.take_replicate, Nat.min_eq_left (Nat.sub_le 9 width)]
  have hvalue : readDigits? (padded width n ++ List.replicate (9 - width) '0') =
      some (n * 10 ^ (9 - width)) := by
    obtain ⟨-, -, hn⟩ := readDigits?_eq_some_iff.mp (readDigits?_padded width n)
    refine readDigits?_eq_some_iff.mpr ⟨?_, ?_, ?_⟩
    · exact List.append_ne_nil_of_left_ne_nil (padded_ne_nil width n) _
    · intro c hc
      rcases List.mem_append.mp hc with hdigit | hzero
      · exact isDigit_of_mem_padded hdigit
      · rw [List.eq_of_mem_replicate hzero]
        rfl
    · rw [digitsFrom_append, hn, digitsFrom_zeros]
  simp only [readFraction, takeWhile_padded_append width n hrest, hsome, hcounted, hvalue,
    Bool.false_eq_true, if_false, Option.map_some, List.drop_left]

/-- The fewest digits that lose nothing give all nanoseconds back. -/
theorem readFraction_renderFraction {nanos : Nat} (h : nanos < 1000000000) :
    readFraction (renderFraction nanos ++ ['Z']) = some (nanos, ['Z']) := by
  have hmark : ∀ c ∈ ['Z'].head?, isDigit c = false := by
    rintro c ⟨⟩
    rfl
  have hexact {unit : Nat} (width : Nat) (hwidth : 0 < width ∧ width ≤ 9)
      (hunit : unit = 10 ^ (9 - width)) (hall : 10 ^ (9 - width) * 10 ^ width = 1000000000)
      (hnone : nanos % unit = 0) :
      readFraction ('.' :: (padded width (nanos / unit) ++ ['Z'])) = some (nanos, ['Z']) := by
    have hbound : nanos / unit < 10 ^ width := by
      refine Nat.div_lt_of_lt_mul ?_
      rwa [hunit, hall]
    rw [readFraction_padded hwidth.1 hwidth.2 hbound hmark, ← hunit,
      Nat.div_mul_cancel (Nat.dvd_of_mod_eq_zero hnone)]
  unfold renderFraction
  split_ifs with hzero hmillis hmicros
  · rw [hzero]
    rfl
  · exact hexact 3 (by decide) (by decide) (by decide) hmillis
  · exact hexact 6 (by decide) (by decide) (by decide) hmicros
  · have hnanos : readFraction ('.' :: (padded 9 (nanos / 1) ++ ['Z'])) = some (nanos, ['Z']) :=
      hexact 9 (by decide) (by decide) (by decide) (Nat.mod_one nanos)
    rwa [Nat.div_one] at hnanos

/-- The instants of the calendar's years. -/
def InRange (t : Instant) : Prop := years.1 ≤ t.date.year ∧ t.date.year ≤ years.2

/-- The second of the minute that is written, where a leap second is the sixtieth. -/
def second (t : Instant) : Nat := t.secondOfDay % 60 + t.nanos / 1000000000

theorem secondOfDay_lt (t : Instant) : t.secondOfDay < 86400 := by
  unfold secondOfDay
  omega

theorem hour_lt (t : Instant) : t.hour < 24 := by
  have hday := t.secondOfDay_lt
  unfold hour
  omega

theorem minute_lt (t : Instant) : t.minute < 60 := Nat.mod_lt _ (by decide)

theorem second_le (t : Instant) : t.second ≤ 60 := by
  have hfraction := t.fraction
  unfold second
  omega

/-- A leap second stands behind the last second of its minute. -/
theorem second_eq_sixty_iff (t : Instant) : t.second = 60 ↔ 1000000000 ≤ t.nanos := by
  have hfraction := t.fraction
  unfold second secondOfDay
  omega

/-- The parts of an instant make it up again. -/
theorem ofParts?_parts {t : Instant} (h : t.InRange) :
    ofParts? t.date t.hour t.minute t.second (t.nanos % 1000000000) 0 = some t := by
  have hleap := t.second_eq_sixty_iff
  have hday := t.secondOfDay_lt
  have hfraction := t.fraction
  have hwhole : t.date.toDays * 86400 + t.hour * 3600 + t.minute * 60 +
      (if t.second = 60 then 59 else t.second) - 0 = t.seconds := by
    have hdays : t.date.toDays = t.seconds / 86400 := Date.toDays_ofDays _
    rw [hdays]
    unfold hour minute second secondOfDay at *
    split_ifs <;> omega
  have hnanos : (if t.second = 60 then t.nanos % 1000000000 + 1000000000
      else t.nanos % 1000000000) = t.nanos := by
    split_ifs <;> omega
  have hvalid : t.date.isValid = true := Date.isValid_ofDays _
  have hhour := t.hour_lt
  have hminute := t.minute_lt
  have hyear : (Date.ofDays (t.seconds / 86400)).year = t.date.year := rfl
  simp only [ofParts?, hwhole, hnanos, hvalid, hhour, hminute, t.second_le, hyear, h.1, h.2,
    decide_true, Bool.and_self, if_true, dif_pos hfraction]

theorem toList_render (t : Instant) : t.render.toList =
    renderYear t.date.year ++ '-' :: (padded 2 t.date.month ++ '-' :: (padded 2 t.date.day ++
      'T' :: (padded 2 t.hour ++ ':' :: (padded 2 t.minute ++ ':' :: (padded 2 t.second ++
        (renderFraction (t.nanos % 1000000000) ++ ['Z'])))))) := by
  simp only [render, renderDate, second, String.toList_ofList, List.append_assoc, List.cons_append]

/-- A written instant is read back. -/
theorem parse?_render {t : Instant} (h : t.InRange) : parse? t.render.toList = some t := by
  have hread {n : Nat} (hn : n < 10 ^ 2) (rest : List Char) :
      readNumber 2 (padded 2 n ++ rest) = some (n, rest) := readNumber_padded (by decide) hn rest
  have hhyphen (rest : List Char) : readMark '-' ('-' :: rest) = some rest := readMark_cons rfl rest
  have hcolon (rest : List Char) : readMark ':' (':' :: rest) = some rest := readMark_cons rfl rest
  obtain ⟨hmonths, hdays⟩ : t.date.month ≤ 12 ∧ t.date.day ≤ 31 :=
    Date.le_of_isValid (Date.isValid_ofDays _)
  have hmonth : t.date.month < 10 ^ 2 := Nat.lt_of_le_of_lt hmonths (by decide)
  have hday : t.date.day < 10 ^ 2 := Nat.lt_of_le_of_lt hdays (by decide)
  have hhour : t.hour < 10 ^ 2 := Nat.lt_trans t.hour_lt (by decide)
  have hminute : t.minute < 10 ^ 2 := Nat.lt_trans t.minute_lt (by decide)
  have hsecond : t.second < 10 ^ 2 := Nat.lt_of_le_of_lt t.second_le (by decide)
  have hnanos : t.nanos % 1000000000 < 1000000000 := Nat.mod_lt _ (by decide)
  rw [toList_render]
  -- the date
  refine Option.bind_eq_some_iff.mpr ⟨_, readYear_renderYear _ _, ?_⟩
  refine Option.bind_eq_some_iff.mpr ⟨_, hhyphen _, ?_⟩
  refine Option.bind_eq_some_iff.mpr ⟨_, hread hmonth _, ?_⟩
  refine Option.bind_eq_some_iff.mpr ⟨_, hhyphen _, ?_⟩
  refine Option.bind_eq_some_iff.mpr ⟨_, hread hday _, ?_⟩
  refine Option.bind_eq_some_iff.mpr ⟨_, rfl, ?_⟩
  -- the time
  refine Option.bind_eq_some_iff.mpr ⟨_, hread hhour _, ?_⟩
  refine Option.bind_eq_some_iff.mpr ⟨_, hcolon _, ?_⟩
  refine Option.bind_eq_some_iff.mpr ⟨_, hread hminute _, ?_⟩
  refine Option.bind_eq_some_iff.mpr ⟨_, hcolon _, ?_⟩
  refine Option.bind_eq_some_iff.mpr ⟨_, hread hsecond _, ?_⟩
  refine Option.bind_eq_some_iff.mpr ⟨_, readFraction_renderFraction hnanos, ?_⟩
  -- nothing is left behind the Z
  exact ofParts?_parts h

end Instant

end AirflowDeploy
