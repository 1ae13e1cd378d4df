import AirflowDeploy.Time.Calendar
import Mathlib.Tactic.IntervalCases

/-!
# Days and dates

The date of a day is a date of the calendar, and its number of days is that of the day. A day of an
era has a place: the century, the span of four years in it, the year of the span and the day of the
year. Only the last year of a span has 366 days, and of the last spans only that of the last
century.
-/
namespace AirflowDeploy.Date

/-- The place of a day in an era of 400 years that begin in March. -/
structure IsPlace (dayOfEra century span year day : Int) : Prop where
  sum : dayOfEra = 36524 * century + 1461 * span + 365 * year + day
  centuries : 0 ≤ century ∧ century ≤ 3
  spans : 0 ≤ span ∧ span ≤ 24
  years : 0 ≤ year ∧ year ≤ 3
  days : 0 ≤ day ∧ day ≤ 365
  leap : day = 365 → year = 3 ∧ (span = 24 → century = 3)

theorem exists_isPlace {dayOfEra : Int} (hpos : 0 ≤ dayOfEra) (hlt : dayOfEra < 146097) :
    ∃ century span year day, IsPlace dayOfEra century span year day := by
  obtain ⟨century, hcentury⟩ : ∃ century, century = min (dayOfEra / 36524) 3 := ⟨_, rfl⟩
  obtain ⟨rest, hrest⟩ : ∃ rest, rest = dayOfEra - 36524 * century := ⟨_, rfl⟩
  obtain ⟨year, hyear⟩ : ∃ year, year = min (rest % 1461 / 365) 3 := ⟨_, rfl⟩
  refine ⟨century, rest / 1461, year, rest % 1461 - 365 * year, ?_, ?_, ?_, ?_, ?_, ?_⟩ <;> omega

variable {dayOfEra century span year day : Int}

theorem IsPlace.yearOfEra (h : IsPlace dayOfEra century span year day) :
    (dayOfEra - dayOfEra / 1460 + dayOfEra / 36524 - dayOfEra / 146096) / 365 =
      100 * century + 4 * span + year := by
  obtain ⟨hsum, hcentury, hspan, hyear, hday, hleap⟩ := h
  have hlast : 1461 * span + 365 * year + day < 36524 ∨
      century = 3 ∧ 1461 * span + 365 * year + day = 36524 := by omega
  have hcenturies : dayOfEra / 36524 - dayOfEra / 146096 = century := by
    rcases hlast with hwithin | ⟨rfl, hend⟩
    · have hquotient : dayOfEra / 36524 = century := by omega
      have hnone : dayOfEra / 146096 = 0 := by omega
      omega
    · have hday : dayOfEra = 146096 := by omega
      rw [hday]
      rfl
  have hspans : dayOfEra / 1460 =
      25 * century + span + (24 * century + span + 365 * year + day) / 1460 := by omega
  omega

theorem IsPlace.dayOfYear (h : IsPlace dayOfEra century span year day) :
    dayOfEra - (365 * (100 * century + 4 * span + year) +
      (100 * century + 4 * span + year) / 4 - (100 * century + 4 * span + year) / 100) = day := by
  obtain ⟨hsum, hcentury, hspan, hyear, hday, -⟩ := h
  have hfour : (100 * century + 4 * span + year) / 4 = 25 * century + span := by omega
  have hhundred : (100 * century + 4 * span + year) / 100 = century := by omega
  omega

/-- A day of a year that begins in March, in its month. -/
structure IsMonthDay (dayOfYear month day : Int) : Prop where
  sum : dayOfYear = (153 * month + 2) / 5 + (day - 1)
  months : 0 ≤ month ∧ month ≤ 11
  days : 1 ≤ day ∧ day ≤ 31
  short : month = 1 ∨ month = 3 ∨ month = 6 ∨ month = 8 → day ≤ 30
  last : month = 11 → day ≤ 29 ∧ (day = 29 → dayOfYear = 365)

theorem isMonthDay {dayOfYear : Int} (hpos : 0 ≤ dayOfYear) (hle : dayOfYear ≤ 365) :
    IsMonthDay dayOfYear ((5 * dayOfYear + 2) / 153)
      (dayOfYear - (153 * ((5 * dayOfYear + 2) / 153) + 2) / 5 + 1) := by
  obtain ⟨month, hmonth⟩ : ∃ month, month = (5 * dayOfYear + 2) / 153 := ⟨_, rfl⟩
  have hlow : 0 ≤ month := by omega
  have hhigh : month ≤ 11 := by omega
  rw [← hmonth]
  interval_cases month <;> constructor <;> omega

/-- The date of a day, where years begin in March: months from ten on belong to the next year. -/
structure IsDateOf (date : Date) (days era century span year dayOfYear month day : Int) :
    Prop where
  days_eq : days + epoch =
    146097 * era + (36524 * century + 1461 * span + 365 * year + dayOfYear)
  place : IsPlace (36524 * century + 1461 * span + 365 * year + dayOfYear) century span year
    dayOfYear
  monthDay : IsMonthDay dayOfYear month day
  year_eq : date.year =
    400 * era + (100 * century + 4 * span + year) + if month < 10 then 0 else 1
  month_eq : (date.month : Int) = if month < 10 then month + 3 else month - 9
  day_eq : (date.day : Int) = day

theorem exists_isDateOf (days : Int) : ∃ era century span year dayOfYear month day,
    IsDateOf (ofDays days) days era century span year dayOfYear month day := by
  obtain ⟨era, hera⟩ : ∃ era, era = (days + epoch) / 146097 := ⟨_, rfl⟩
  obtain ⟨dayOfEra, hdayOfEra⟩ : ∃ dayOfEra, dayOfEra = (days + epoch) % 146097 := ⟨_, rfl⟩
  obtain ⟨century, span, year, dayOfYear, hplace⟩ :
      ∃ century span year dayOfYear, IsPlace dayOfEra century span year dayOfYear :=
    exists_isPlace (by omega) (by omega)
  have hsum := hplace.sum
  have hyear := hplace.yearOfEra
  have hday := hplace.dayOfYear
  have hmonth := isMonthDay hplace.days.1 hplace.days.2
  have hmonths := hmonth.months
  have hdays := hmonth.days
  subst hsum
  refine ⟨era, century, span, year, dayOfYear, _, _, ?_, hplace, hmonth, ?_, ?_, ?_⟩
  · omega
  · simp only [ofDays, ← hera, ← hdayOfEra, hyear, hday]
    split_ifs <;> omega
  · simp only [ofDays, ← hdayOfEra, hyear, hday]
    split_ifs <;> omega
  · simp only [ofDays, ← hdayOfEra, hyear, hday]
    omega

/-- The days of a date are counted back to the day that it is the date of. -/
theorem toDays_ofDays (days : Int) : (ofDays days).toDays = days := by
  obtain ⟨era, century, span, year, dayOfYear, month, day, hdate⟩ := exists_isDateOf days
  generalize ofDays days = date at hdate ⊢
  obtain ⟨hdays, hplace, hmonthDay, hyear, hmonth, hday⟩ := hdate
  have hmonths := hmonthDay.months
  have hsum := hmonthDay.sum
  have hcount := hplace.dayOfYear
  have hbounds := And.intro hplace.centuries (And.intro hplace.spans hplace.years)
  have hmarch : (if date.month ≤ 2 then date.year - 1 else date.year) =
      400 * era + (100 * century + 4 * span + year) := by
    split_ifs at hyear hmonth ⊢ <;> omega
  have hmonthOfYear : ((if date.month ≤ 2 then date.month + 9 else date.month - 3 : Nat) : Int) =
      month := by
    split_ifs at hmonth ⊢ <;> omega
  have hera : (400 * era + (100 * century + 4 * span + year)) / 400 = era := by omega
  have hyearOfEra : (400 * era + (100 * century + 4 * span + year)) % 400 =
      100 * century + 4 * span + year := by omega
  simp only [toDays, hmarch, hmonthOfYear, hera, hyearOfEra, hday]
  omega

theorem isLeap_of_lastDay {era century span : Int} (hspan : 0 ≤ span ∧ span ≤ 24)
    (hlast : span = 24 → century = 3) :
    isLeap (400 * era + (100 * century + 4 * span + 3) + 1) = true := by
  have hfour : (400 * era + (100 * century + 4 * span + 3) + 1) % 4 = 0 := by omega
  have hcentury : (400 * era + (100 * century + 4 * span + 3) + 1) % 100 ≠ 0 ∨
      (400 * era + (100 * century + 4 * span + 3) + 1) % 400 = 0 := by omega
  simpa [isLeap, hfour] using hcentury

theorem isValid_ofDays (days : Int) : (ofDays days).isValid = true := by
  obtain ⟨era, century, span, year, dayOfYear, month, day, hdate⟩ := exists_isDateOf days
  generalize ofDays days = date at hdate ⊢
  obtain ⟨-, hplace, hmonthDay, hyear, hmonth, hday⟩ := hdate
  obtain ⟨-, hmonths, hdays, hshort, hlast⟩ := hmonthDay
  have hfits : date.day ≤ daysIn date.year date.month := by
    simp only [daysIn, beq_iff_eq, Bool.or_eq_true]
    split_ifs with hfebruary hleap hthirty
    · split_ifs at hmonth <;> omega
    · -- A 29 February is the last day of its year from March on, and so the year is a leap year.
      have hfeb : month = 11 := by split_ifs at hmonth <;> omega
      obtain ⟨hmost, hend⟩ := hlast hfeb
      by_contra hlong
      obtain ⟨rfl, hcentury⟩ := hplace.leap (hend (by omega))
      have hyearEq : date.year = 400 * era + (100 * century + 4 * span + 3) + 1 := by
        rw [hyear, if_neg (by omega)]
      rw [hyearEq] at hleap
      exact hleap (isLeap_of_lastDay hplace.spans hcentury)
    · split_ifs at hmonth <;> omega
    · omega
  simp only [isValid, Bool.and_eq_true, decide_eq_true_eq]
  split_ifs at hmonth <;> omega

theorem daysIn_le (year : Int) (month : Nat) : daysIn year month ≤ 31 := by
  unfold daysIn
  split_ifs <;> decide

/-- The months and days of valid dates have two digits. -/
theorem le_of_isValid {date : Date} (h : date.isValid = true) :
    date.month ≤ 12 ∧ date.day ≤ 31 := by
  simp only [isValid, Bool.and_eq_true, decide_eq_true_eq] at h
  exact ⟨h.1.1.2, Nat.le_trans h.2 (daysIn_le _ _)⟩

end AirflowDeploy.Date
