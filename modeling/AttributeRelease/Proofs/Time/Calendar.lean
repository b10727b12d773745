import AttributeRelease.Time.Instant
import Mathlib.Tactic.IntervalCases

/-!
# Days and dates

Every day has one date: `Date.ofDayNumber` finds a date that exists, and the number of that date is
the day's. A year counted from March holds a day exactly if the day lies between two starts of
years, so the two corrections of the guess in `Date.marchYear` are enough.
-/

namespace AttributeRelease.Time

/-- No month has more than thirty-one days. -/
theorem monthLength_le (year : Int) (month : Nat) : monthLength year month ≤ 31 := by
  simp only [monthLength]
  split_ifs <;> omega

/-- A year counted from March has a day more if the next year has a leap day. -/
theorem startOfYear_succ (year : Int) :
    startOfYear (year + 1) = startOfYear year + if isLeapYear (year + 1) then 366 else 365 := by
  simp only [startOfYear, isLeapYear, Bool.and_eq_true, Bool.or_eq_true, beq_iff_eq, bne_iff_ne]
  split <;> omega

/-- The days before a year are those of as many average years, short of a fraction of two days. -/
theorem startOfYear_bounds (year : Int) :
    146097 * year - 699 ≤ 400 * startOfYear year ∧ 400 * startOfYear year ≤ 146097 * year + 396 := by
  simp only [startOfYear]
  omega

namespace Date

/-- A day lies in the year that is found for it. -/
theorem marchYear_spec (day : Int) :
    startOfYear (marchYear day) ≤ day ∧ day < startOfYear (marchYear day + 1) := by
  have before := startOfYear_bounds (day * 400 / 146097 - 1)
  have after := startOfYear_bounds (day * 400 / 146097 + 2)
  simp only [marchYear]
  split_ifs with afterNext afterGuess
  · rw [show day * 400 / 146097 + 1 + 1 = day * 400 / 146097 + 2 by omega]
    omega
  · omega
  · rw [show day * 400 / 146097 - 1 + 1 = day * 400 / 146097 by omega]
    omega

/-- A day of a year counted from March is a day of one of its twelve months. -/
theorem dayOfYear_spec {dayOfYear : Nat} (inYear : dayOfYear < 366) :
    (5 * dayOfYear + 2) / 153 < 12 ∧ startOfMonth ((5 * dayOfYear + 2) / 153) ≤ dayOfYear ∧
      dayOfYear < startOfMonth ((5 * dayOfYear + 2) / 153 + 1) := by
  simp only [startOfMonth]
  omega

/-- The date of a day that lies some days after the start of a year, counted from March. -/
theorem exists_ofDayNumber_eq (number : Int) :
    ∃ (year : Int) (dayOfYear : Nat), number = startOfYear year + dayOfYear - epochOffset ∧
      dayOfYear < (if isLeapYear (year + 1) then 366 else 365) ∧
      ofDayNumber number =
        let month := (5 * dayOfYear + 2) / 153
        let dayOfMonth := dayOfYear - startOfMonth month + 1
        if month < 10 then ⟨year, month + 3, dayOfMonth⟩ else ⟨year + 1, month - 9, dayOfMonth⟩ := by
  obtain ⟨notBefore, notAfter⟩ := marchYear_spec (number + epochOffset)
  refine ⟨marchYear (number + epochOffset), _, ?isNumber, ?inYear, rfl⟩
  case isNumber => omega
  case inYear =>
    rw [startOfYear_succ] at notAfter
    split at notAfter <;> simp_all <;> omega

/-- The date found for a day is the date of that day. -/
theorem dayNumber_ofDayNumber (number : Int) : (ofDayNumber number).dayNumber = number := by
  obtain ⟨year, dayOfYear, isNumber, inYear, isDate⟩ := exists_ofDayNumber_eq number
  obtain ⟨isMonth, notBefore, -⟩ := dayOfYear_spec (inYear.trans_le (by split <;> omega))
  rw [isDate, isNumber]
  simp only
  generalize (5 * dayOfYear + 2) / 153 = month at *
  split
  next early =>
    rw [dayNumber, if_pos (by simp), show month + 3 - 3 = month by omega]
    simp only
    omega
  next late =>
    rw [dayNumber, if_neg (by simp only; omega)]
    simp only [show month - 9 + 9 = month by omega, Int.add_sub_cancel]
    omega

/-- The date found for a day exists. -/
theorem ofDayNumber_isValid (number : Int) : (ofDayNumber number).isValid = true := by
  obtain ⟨year, dayOfYear, -, inYear, isDate⟩ := exists_ofDayNumber_eq number
  obtain ⟨isMonth, notBefore, notAfter⟩ := dayOfYear_spec (inYear.trans_le (by split <;> omega))
  rw [isDate]
  simp only
  generalize (5 * dayOfYear + 2) / 153 = month at *
  simp only [startOfMonth] at *
  cases leap : isLeapYear (year + 1)
  all_goals
    simp only [leap, if_true, Bool.false_eq_true, if_false] at inYear
    interval_cases month <;> simp [isValid, monthLength, leap] <;> omega

end Date

end AttributeRelease.Time
