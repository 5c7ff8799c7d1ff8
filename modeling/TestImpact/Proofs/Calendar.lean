import TestImpact.Timestamp

/-! The calendar. Every day has a date that the calendar has, and the date leads back to the day. -/

namespace TestImpact.Timestamp

/-! ## Years in a span of 400 -/

/-- The year of a span of 400 years in which a day of the span lies. -/
def yearOfEra (dayOfEra : Nat) : Nat :=
  (dayOfEra - dayOfEra / 1460 + dayOfEra / 36524 - dayOfEra / 146096) / 365

/-- The days of a span of 400 years before one of its years. -/
def daysBefore (year : Nat) : Nat :=
  365 * year + year / 4 - year / 100

/-- A day by its century, its cycle of four years and its day of the cycle. The last day of the span
makes the last century longer than the others. -/
theorem exists_cycle {dayOfEra : Nat} (h : dayOfEra < 146097) :
    ∃ century cycle day, dayOfEra = 36524 * century + 1461 * cycle + day ∧ century ≤ 3 ∧
      cycle ≤ 24 ∧ day ≤ 1460 ∧ (cycle = 24 → day = 1460 → century = 3) := by
  by_cases last : dayOfEra = 146096
  · exact ⟨3, 24, 1460, last, by decide⟩
  · refine ⟨dayOfEra / 36524, dayOfEra % 36524 / 1461, dayOfEra % 36524 % 1461, ?_, ?_, ?_, ?_, ?_⟩ <;>
      omega

theorem yearOfEra_cycle {century cycle day : Nat} (centuries : century ≤ 3) (cycles : cycle ≤ 24)
    (days : day ≤ 1460) (full : cycle = 24 → day = 1460 → century = 3) :
    yearOfEra (36524 * century + 1461 * cycle + day) =
      100 * century + 4 * cycle + (if day = 1460 then 3 else day / 365) := by
  generalize whole : 36524 * century + 1461 * cycle + day = dayOfEra
  have cyclesPassed : dayOfEra / 1460 = 25 * century + cycle + (24 * century + cycle + day) / 1460 := by
    omega
  have centuriesPassed : dayOfEra / 36524 = century + dayOfEra / 146096 := by
    by_cases last : dayOfEra = 146096 <;> omega
  rw [yearOfEra, cyclesPassed, centuriesPassed, ← Nat.add_assoc, Nat.add_sub_cancel, ← whole]
  clear whole cyclesPassed centuriesPassed full
  split <;> omega

theorem daysBefore_cycle {century cycle year : Nat} (cycles : cycle ≤ 24) (years : year ≤ 3) :
    daysBefore (100 * century + 4 * cycle + year) = 36524 * century + 1461 * cycle + 365 * year := by
  unfold daysBefore
  omega

/-- A day of the span lies in its year, which has a last day of February if it is a leap year. -/
theorem yearOfEra_spec {dayOfEra : Nat} (h : dayOfEra < 146097) :
    yearOfEra dayOfEra < 400 ∧ daysBefore (yearOfEra dayOfEra) ≤ dayOfEra ∧
      dayOfEra ≤ daysBefore (yearOfEra dayOfEra) + 365 ∧
      (dayOfEra = daysBefore (yearOfEra dayOfEra) + 365 →
        (yearOfEra dayOfEra + 1) % 4 = 0 ∧
          ((yearOfEra dayOfEra + 1) % 100 ≠ 0 ∨ (yearOfEra dayOfEra + 1) % 400 = 0)) := by
  obtain ⟨century, cycle, day, rfl, centuries, cycles, days, full⟩ := exists_cycle h
  rw [yearOfEra_cycle centuries cycles days full, daysBefore_cycle cycles (by split <;> omega)]
  clear h
  split <;> omega

/-! ## Months from March -/

/-- The month counted from March in which a day of a year lies that begins in March. -/
def monthFromMarch (dayOfYear : Nat) : Nat :=
  (5 * dayOfYear + 2) / 153

/-- The days of such a year before one of its months. -/
def monthStart (monthFromMarch : Nat) : Nat :=
  (153 * monthFromMarch + 2) / 5

/-- The length of a month of such a year, of which February is the last. -/
def monthLength (leap : Bool) (monthFromMarch : Nat) : Nat :=
  if monthFromMarch = 11 then (if leap then 29 else 28)
  else if monthFromMarch ∈ [1, 3, 6, 8] then 30 else 31

theorem daysInMonth_le (year : Int) (month : Nat) : daysInMonth year month ≤ 31 := by
  unfold daysInMonth
  split
  · split <;> decide
  · split <;> decide

theorem daysInMonth_eq_monthLength (year : Int) {march : Nat} (months : march ≤ 11) :
    daysInMonth year (if march < 10 then march + 3 else march - 9) =
      monthLength (isLeapYear year) march := by
  unfold daysInMonth
  generalize isLeapYear year = leap
  revert leap march
  decide

/-- Only February depends on the year. -/
theorem monthLength_le {leap leap' : Bool} {march : Nat}
    (february : march = 11 → leap = true → leap' = true) :
    monthLength leap march ≤ monthLength leap' march := by
  unfold monthLength
  split
  · next last => cases leap <;> cases leap' <;> simp_all
  · exact Nat.le_refl _

theorem monthFromMarch_spec : ∀ dayOfYear ≤ 365,
    monthFromMarch dayOfYear ≤ 11 ∧ monthStart (monthFromMarch dayOfYear) ≤ dayOfYear ∧
      dayOfYear - monthStart (monthFromMarch dayOfYear) <
        monthLength (dayOfYear = 365) (monthFromMarch dayOfYear) := by
  decide +kernel

/-! ## Dates -/

/-- How many whole spans there are in a count, and what is left of it. -/
theorem fdiv_and_left (spans : Int) {span : Int} {left : Nat} (inside : left < span) :
    (spans * span + left).fdiv span = spans ∧
      (spans * span + left - spans * span).toNat = left := by
  have whole : (spans * span + left).fdiv span = spans := by
    rw [Int.fdiv_eq_ediv_of_nonneg _ (by omega), Int.add_comm,
      Int.add_mul_ediv_right _ _ (by omega), Int.ediv_eq_zero_of_lt (by omega) inside, Int.zero_add]
  exact ⟨whole, by omega⟩

/-- A day is given by its span of 400 years and its number in the span. -/
theorem exists_era (day : Int) :
    ∃ (era : Int) (dayOfEra : Nat), dayOfEra < 146097 ∧ day = era * 146097 + dayOfEra - 719468 := by
  refine ⟨(day + 719468) / 146097, ((day + 719468) % 146097).toNat, ?_, ?_⟩ <;> omega

/-- The date of a day of a span of 400 years, by its parts. -/
theorem dateOfDay_era (era : Int) {dayOfEra : Nat} (h : dayOfEra < 146097) :
    let year := yearOfEra dayOfEra
    let dayOfYear := dayOfEra - daysBefore year
    let march := monthFromMarch dayOfYear
    let month := if march < 10 then march + 3 else march - 9
    dateOfDay (era * 146097 + dayOfEra - 719468) =
      (year + era * 400 + (if month ≤ 2 then 1 else 0), month, dayOfYear - monthStart march + 1) := by
  have inside : (dayOfEra : Int) < 146097 := by omega
  obtain ⟨number, rest⟩ := fdiv_and_left era inside
  simp only [dateOfDay, Int.sub_add_cancel, number, rest]
  rfl

theorem dayOfDate_era (era : Int) {year march : Nat} (years : year < 400) (months : march ≤ 11)
    (dayOfMonth : Nat) :
    let month := if march < 10 then march + 3 else march - 9
    dayOfDate (year + era * 400 + (if month ≤ 2 then 1 else 0)) month (dayOfMonth + 1) =
      era * 146097 + (daysBefore year + (monthStart march + dayOfMonth) : Nat) - 719468 := by
  intro month
  have fromMarch : (if 2 < month then month - 3 else month + 9) = march := by
    simp only [month]
    split <;> split <;> omega
  have marchYear : (if month ≤ 2 then (year + era * 400 + (if month ≤ 2 then 1 else 0) : Int) - 1
      else year + era * 400 + (if month ≤ 2 then 1 else 0)) = year + era * 400 := by
    split <;> omega
  have number : (year + era * 400 : Int).fdiv 400 = era :=
    Int.add_comm .. ▸ (fdiv_and_left era (by omega)).1
  have inEra : (year + era * 400 : Int) - era * 400 = year := by omega
  simp only [dayOfDate, fromMarch, marchYear, number, inEra, daysBefore, monthStart]
  omega

theorem dayOfDate_dateOfDay (day : Int) :
    dayOfDate (dateOfDay day).1 (dateOfDay day).2.1 (dateOfDay day).2.2 = day := by
  obtain ⟨era, dayOfEra, inside, rfl⟩ := exists_era day
  obtain ⟨years, before, lastDay, -⟩ := yearOfEra_spec inside
  obtain ⟨months, start, -⟩ :=
    monthFromMarch_spec (dayOfEra - daysBefore (yearOfEra dayOfEra)) (by omega)
  rw [dateOfDay_era era inside, dayOfDate_era era years months, Nat.add_sub_cancel' start,
    Nat.add_sub_cancel' before]

/-- A day has a date that the calendar has. -/
theorem dateOfDay_valid (day : Int) :
    (1 ≤ (dateOfDay day).2.1 ∧ (dateOfDay day).2.1 ≤ 12) ∧ 1 ≤ (dateOfDay day).2.2 ∧
      (dateOfDay day).2.2 ≤ daysInMonth (dateOfDay day).1 (dateOfDay day).2.1 := by
  obtain ⟨era, dayOfEra, inside, rfl⟩ := exists_era day
  obtain ⟨years, before, lastDay, leap⟩ := yearOfEra_spec inside
  obtain ⟨months, start, short⟩ :=
    monthFromMarch_spec (dayOfEra - daysBefore (yearOfEra dayOfEra)) (by omega)
  rw [dateOfDay_era era inside]
  simp only
  rw [daysInMonth_eq_monthLength _ months]
  refine ⟨by split <;> omega, by omega, Nat.le_trans short (monthLength_le fun february last => ?_)⟩
  have leapYear := leap (by have := of_decide_eq_true last; omega)
  have civil : (if (if (11 : Nat) < 10 then 11 + 3 else 11 - 9) ≤ 2 then (1 : Int) else 0) = 1 := rfl
  simp only [february, civil, isLeapYear, Bool.and_eq_true, Bool.or_eq_true, beq_iff_eq, bne_iff_ne]
  omega

end TestImpact.Timestamp
