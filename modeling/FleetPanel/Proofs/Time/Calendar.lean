/-
This file numbers the dates of the calendar. Earlier dates have smaller numbers, and the number of
the next date is the next number.
-/

import FleetPanel.Proofs.Time.Written
import Mathlib.Order.Monotone.Basic

namespace FleetPanel.Time.Date

variable {year other : Int} {month day : Nat} {date left right later earlier : Date}

theorem someDaysInMonth (year : Int) (month : Nat) : 1 ≤ daysInMonth year month := by
  unfold daysInMonth
  split
  · split <;> decide
  all_goals decide

theorem daysBeforeYearSucc (year : Int) :
    daysBeforeYear (year + 1) = daysBeforeYear year + daysBeforeMonth year 13 := by
  have whole : daysBeforeMonth year 13 = if isLeapYear year then 366 else 365 := by
    simp only [daysBeforeMonth, daysInMonth]
    split <;> rfl
  rw [whole]
  simp only [daysBeforeYear, isLeapYear, Bool.and_eq_true, Bool.or_eq_true, beq_iff_eq,
    bne_iff_ne]
  split <;> omega

theorem daysBeforeYearMono (before : year ≤ other) :
    daysBeforeYear year ≤ daysBeforeYear other := by
  simp only [daysBeforeYear]
  omega

theorem daysBeforeMonthSucc (year : Int) (some : 1 ≤ month) :
    daysBeforeMonth year (month + 1) = daysBeforeMonth year month + daysInMonth year month := by
  cases month with
  | zero => omega
  | succ month => rfl

theorem daysBeforeMonthMono (year : Int) : Monotone (daysBeforeMonth year) := by
  refine monotone_nat_of_le_succ fun month => ?_
  cases month with
  | zero => exact Nat.le_refl _
  | succ month => exact Nat.le_add_right _ _

theorem isDateIff : isDate year month day = true ↔
    firstYear ≤ year ∧ year ≤ lastYear ∧ 1 ≤ month ∧ month ≤ 12 ∧ 1 ≤ day ∧
      day ≤ daysInMonth year month := by
  simp only [isDate, Bool.and_eq_true, decide_eq_true_eq, and_assoc]

theorem dayLe (date : Date) : date.day ≤ daysInMonth date.year date.month :=
  (isDateIff.mp date.exists_).2.2.2.2.2

theorem ofSome {made : Date} (formed : of? year month day = some made) :
    made.year = year ∧ made.month = month ∧ made.day = day := by
  unfold of? at formed
  split at formed
  · cases formed
    exact ⟨rfl, rfl, rfl⟩
  · cases formed

theorem ofNone (missing : of? year month day = none) : isDate year month day = false := by
  unfold of? at missing
  split at missing
  · cases missing
  · case isFalse invalid => simpa using invalid

/-- The day of the year lies between the days before its month and those before the next. -/
theorem dayOfYearLe (date : Date) :
    daysBeforeMonth date.year date.month + date.day ≤
      daysBeforeMonth date.year (date.month + 1) := by
  have some := (dateBounds date).2.2.1
  have fits := date.dayLe
  rw [daysBeforeMonthSucc date.year some]
  omega

theorem numberOfLaterYear (date : Date) : date.number ≤ daysBeforeYear (date.year + 1) := by
  have inMonth := date.dayOfYearLe
  have inYear := daysBeforeMonthMono date.year
    (show date.month + 1 ≤ 13 by have := (dateBounds date).2.2.2.1; omega)
  rw [daysBeforeYearSucc, number]
  omega

theorem numberOfYear (date : Date) : daysBeforeYear date.year < date.number := by
  have some := (dateBounds date).2.2.2.2.1
  rw [number]
  omega

theorem numberLtOfYear (before : left.year < right.year) : left.number < right.number := by
  have leftLe := left.numberOfLaterYear
  have step := daysBeforeYearMono (show left.year + 1 ≤ right.year by omega)
  have rightLt := right.numberOfYear
  omega

theorem numberLtOfMonth (same : left.year = right.year) (before : left.month < right.month) :
    left.number < right.number := by
  have inMonth := left.dayOfYearLe
  have step := daysBeforeMonthMono left.year (show left.month + 1 ≤ right.month by omega)
  have some := (dateBounds right).2.2.2.2.1
  rw [number, number, ← same]
  omega

theorem numberLtOfDay (same : left.year = right.year) (sameMonth : left.month = right.month)
    (before : left.day < right.day) : left.number < right.number := by
  rw [number, number, ← same, ← sameMonth]
  omega

theorem extOfParts (same : left.year = right.year) (sameMonth : left.month = right.month)
    (sameDay : left.day = right.day) : left = right := by
  cases left
  cases right
  cases same
  cases sameMonth
  cases sameDay
  rfl

/-- Dates are numbered in the order of their years, months and days. -/
theorem numberLtIff : left.number < right.number ↔
    left.year < right.year ∨ left.year = right.year ∧
      (left.month < right.month ∨ left.month = right.month ∧ left.day < right.day) := by
  constructor
  · intro before
    by_contra notBefore
    rcases lt_trichotomy left.year right.year with less | same | greater
    · exact notBefore (.inl less)
    · rcases Nat.lt_trichotomy left.month right.month with less | sameMonth | greater
      · exact notBefore (.inr ⟨same, .inl less⟩)
      · rcases Nat.lt_trichotomy left.day right.day with less | sameDay | greater
        · exact notBefore (.inr ⟨same, .inr ⟨sameMonth, less⟩⟩)
        · rw [extOfParts same sameMonth sameDay] at before
          omega
        · have := numberLtOfDay same.symm sameMonth.symm greater
          omega
      · have := numberLtOfMonth same.symm greater
        omega
    · have := numberLtOfYear greater
      omega
  · rintro (less | ⟨same, less | ⟨sameMonth, less⟩⟩)
    · exact numberLtOfYear less
    · exact numberLtOfMonth same less
    · exact numberLtOfDay same sameMonth less

theorem numberInjective (same : left.number = right.number) : left = right := by
  have notBefore : ¬ left.number < right.number := by omega
  have notBehind : ¬ right.number < left.number := by omega
  rw [numberLtIff] at notBefore notBehind
  apply extOfParts <;> omega

/-- The numbers of all dates lie between those of the first and the last. -/
theorem numberBounds (date : Date) :
    daysBeforeYear firstYear < date.number ∧ date.number ≤ daysBeforeYear (lastYear + 1) := by
  obtain ⟨first, last, -⟩ := dateBounds date
  have above := date.numberOfYear
  have below := date.numberOfLaterYear
  have fromFirst := daysBeforeYearMono first
  have toLast := daysBeforeYearMono (show date.year + 1 ≤ lastYear + 1 by omega)
  omega

theorem numberOfNext (next : date.next? = some later) : later.number = date.number + 1 := by
  have fits := date.dayLe
  obtain ⟨-, -, someMonth, -⟩ := dateBounds date
  unfold next? at next
  split at next
  · -- The month has another day.
    obtain ⟨year, month, day⟩ := ofSome next
    rw [number, number, year, month, day]
    omega
  · split at next
    · -- The month ends, and the year has another one.
      obtain ⟨year, month, day⟩ := ofSome next
      rw [number, number, year, month, day, daysBeforeMonthSucc date.year someMonth]
      omega
    · -- The year ends.
      obtain ⟨year, month, day⟩ := ofSome next
      have twelfth : date.month = 12 := by
        have := (dateBounds date).2.2.2.1
        omega
      rw [number, number, year, month, day, daysBeforeYearSucc, twelfth,
        daysBeforeMonthSucc date.year (show 1 ≤ 12 by decide)]
      rw [twelfth] at fits
      have lastDay : ¬ date.day < daysInMonth date.year 12 := twelfth ▸ ‹_›
      simp only [daysBeforeMonth] at *
      omega

theorem numberOfPrevious (previous : date.previous? = some earlier) :
    earlier.number = date.number - 1 := by
  obtain ⟨-, -, someMonth, -, someDay, -⟩ := dateBounds date
  unfold previous? at previous
  split at previous
  · obtain ⟨year, month, day⟩ := ofSome previous
    rw [number, number, year, month, day]
    omega
  · split at previous
    · obtain ⟨year, month, day⟩ := ofSome previous
      have step := daysBeforeMonthSucc date.year (show 1 ≤ date.month - 1 by omega)
      rw [Nat.sub_add_cancel someMonth] at step
      rw [number, number, year, month, day]
      omega
    · obtain ⟨year, month, day⟩ := ofSome previous
      have first : date.month = 1 := by omega
      have step := daysBeforeYearSucc (date.year - 1)
      rw [Int.sub_add_cancel] at step
      rw [number, number, year, month, day, first, step]
      simp only [daysBeforeMonth, daysInMonth]
      omega

/-- Only the last date has no next one. -/
theorem numberOfNoNext (missing : date.next? = none) :
    date.number = daysBeforeYear (lastYear + 1) := by
  have fits := date.dayLe
  obtain ⟨first, last, someMonth, fewMonths, someDay, -⟩ := dateBounds date
  unfold next? at missing
  split at missing
  · case isTrue more =>
    have formed : isDate date.year date.month (date.day + 1) = true :=
      isDateIff.mpr ⟨first, last, someMonth, fewMonths, by omega, more⟩
    rw [ofNone missing] at formed
    cases formed
  · split at missing
    · case isTrue more =>
      have formed : isDate date.year (date.month + 1) 1 = true :=
        isDateIff.mpr ⟨first, last, by omega, by omega, le_refl _, someDaysInMonth _ _⟩
      rw [ofNone missing] at formed
      cases formed
    · have unformed := ofNone missing
      have lastOne : date.year = lastYear := by
        by_contra notLast
        have formed : isDate (date.year + 1) 1 1 = true :=
          isDateIff.mpr ⟨by omega, by omega, le_refl _, by decide, le_refl _, by simp [daysInMonth]⟩
        rw [unformed] at formed
        cases formed
      have twelfth : date.month = 12 := by omega
      have lastDay : date.day = 31 := by
        have atLeast : daysInMonth date.year date.month ≤ date.day := by omega
        rw [twelfth] at fits atLeast
        exact Nat.le_antisymm fits atLeast
      rw [number, lastOne, twelfth, lastDay]
      decide

theorem numberOfNoPrevious (missing : date.previous? = none) :
    date.number = daysBeforeYear firstYear + 1 := by
  obtain ⟨first, last, someMonth, fewMonths, someDay, -⟩ := dateBounds date
  have fits := date.dayLe
  unfold previous? at missing
  split at missing
  · have formed : isDate date.year date.month (date.day - 1) = true :=
      isDateIff.mpr ⟨first, last, someMonth, fewMonths, by omega, by omega⟩
    rw [ofNone missing] at formed
    cases formed
  · split at missing
    · have formed : isDate date.year (date.month - 1) (daysInMonth date.year (date.month - 1)) =
          true := isDateIff.mpr ⟨first, last, by omega, by omega, someDaysInMonth _ _, le_refl _⟩
      rw [ofNone missing] at formed
      cases formed
    · have unformed := ofNone missing
      have firstOne : date.year = firstYear := by
        by_contra notFirst
        have formed : isDate (date.year - 1) 12 31 = true :=
          isDateIff.mpr ⟨by omega, by omega, by decide, le_refl _, by decide, by simp [daysInMonth]⟩
        rw [unformed] at formed
        cases formed
      have firstMonth : date.month = 1 := by omega
      have firstDay : date.day = 1 := by omega
      rw [number, firstOne, firstMonth, firstDay]
      decide

theorem nextIff : date.next? = some later ↔ later.number = date.number + 1 := by
  refine ⟨numberOfNext, fun numbered => ?_⟩
  cases found : date.next? with
  | none =>
      have greatest := numberOfNoNext found
      have := later.numberBounds
      omega
  | some next =>
      have := numberOfNext found
      rw [numberInjective (show next.number = later.number by omega)]

theorem previousIff : date.previous? = some earlier ↔ earlier.number = date.number - 1 := by
  refine ⟨numberOfPrevious, fun numbered => ?_⟩
  cases found : date.previous? with
  | none =>
      have least := numberOfNoPrevious found
      have := earlier.numberBounds
      omega
  | some previous =>
      have := numberOfPrevious found
      rw [numberInjective (show previous.number = earlier.number by omega)]

end FleetPanel.Time.Date
