/-
This file shows that an instant is read back from its text: every part of the text is taken with its
number, and the parts form the same instant again.
-/

import FleetPanel.Proofs.Amount.Numeral
import FleetPanel.Time.Relaxed
import FleetPanel.Time.Text

namespace FleetPanel.Time

open Text
open Amount.Numeral (Stops dropWhileDigits stopsOfMark)

variable {digits rest : List Char} {width number : Nat}

theorem notBlankOfDigit {character : Char} (isDigit : character.isDigit = true) :
    isBlank character = false := by
  obtain ⟨bounded, code⟩ := digitValueSpec isDigit
  simp only [isBlank, Bool.or_eq_false_iff, beq_eq_false_iff_ne, Bool.and_eq_false_iff,
    decide_eq_false_iff_not]
  omega

theorem dropBlanksOfVisible {character : Char} (visible : isBlank character = false)
    (rest : List Char) : dropBlanks (character :: rest) = character :: rest :=
  List.dropWhile_cons_of_neg (by simp [visible])

theorem dropBlanksOfDigits (isDigits : IsDigits digits) (filled : digits ≠ []) (rest : List Char) :
    dropBlanks (digits ++ rest) = digits ++ rest := by
  cases digits with
  | nil => exact absurd rfl filled
  | cons digit digits => exact dropBlanksOfVisible (notBlankOfDigit (isDigitsCons.mp isDigits).1) _

theorem paddedFilled (width number : Nat) : padded width number ≠ [] :=
  List.append_ne_nil_of_right_ne_nil _ Nat.toDigits_ne_nil

namespace Relaxed

/-- Digits are taken up to the width, or up to what ends them. -/
theorem digitsSpec (isDigits : IsDigits digits) (filled : digits ≠ [])
    (short : digits.length ≤ width) (ends : digits.length = width ∨ Stops rest) :
    Relaxed.digits width (digits ++ rest) = .ok (digits, rest) := by
  have found : ((digits ++ rest).take width).takeWhile Char.isDigit = digits := by
    rw [List.take_append, List.take_of_length_le short, List.takeWhile_append_of_pos isDigits]
    rcases ends with full | stops
    · simp [full]
    · cases rest with
      | nil => simp
      | cons character rest =>
          cases width - digits.length with
          | zero => simp
          | succ more => simp [stops character rfl]
  simp [Relaxed.digits, found, filled]

theorem separatorSpec {mark : Char} (visible : isBlank mark = false) (rest : List Char) :
    separator mark (mark :: rest) = .ok rest := by
  simp [separator, dropBlanksOfVisible visible]

/-- A number of two digits is taken if it is within the bounds. -/
theorem boundedSpec {least greatest : Nat} (above : least ≤ number) (below : number ≤ greatest)
    (few : number < 100) (rest : List Char) :
    bounded least greatest (padded 2 number ++ rest) = .ok (number, rest) := by
  have two : (padded 2 number).length = 2 := lengthPadded few (by decide)
  rw [bounded, dropBlanksOfDigits (isDigitsPadded 2 number) (paddedFilled 2 number),
    digitsSpec (isDigitsPadded 2 number) (paddedFilled 2 number) two.le (.inl two)]
  simp [bind, Except.bind, numberOfPadded, above, below]

/-- A year is taken up to the mark behind it. -/
theorem yearSpec {year : Int} (small : year.natAbs ≤ greatestYear) (stops : Stops rest) :
    Relaxed.year (yearText year ++ rest) = .ok (year, rest) := by
  have isDigits := isDigitsPadded 4 year.natAbs
  have filled := paddedFilled 4 year.natAbs
  have number := numberOfPadded 4 year.natAbs
  unfold yearText
  split
  · case isTrue plain =>
      simp only [Bool.and_eq_true, decide_eq_true_eq] at plain
      have four : (padded 4 year.natAbs).length = 4 :=
        lengthPadded (show year.natAbs < 10 ^ 4 by omega) (by decide)
      have taken : Relaxed.digits 4 (padded 4 year.natAbs ++ rest) =
          .ok (padded 4 year.natAbs, rest) := digitsSpec isDigits filled four.le (.inl four)
      have same : ((year.natAbs : ℕ) : ℤ) = year := by omega
      rw [Relaxed.year, dropBlanksOfDigits isDigits filled]
      generalize padded 4 year.natAbs = digits at *
      -- The text begins with a digit, so neither sign is taken.
      split
      · case h_1 signed =>
          cases digits with
          | nil => exact absurd rfl filled
          | cons digit digits =>
              obtain ⟨rfl, -⟩ := List.cons.inj signed
              exact absurd (isDigitsCons.mp isDigits).1 (by decide)
      · case h_2 signed =>
          cases digits with
          | nil => exact absurd rfl filled
          | cons digit digits =>
              obtain ⟨rfl, -⟩ := List.cons.inj signed
              exact absurd (isDigitsCons.mp isDigits).1 (by decide)
      · rw [taken]
        simp [bind, Except.bind, number, same]
  · have taken : Relaxed.digits (padded 4 year.natAbs ++ rest).length
        (padded 4 year.natAbs ++ rest) = .ok (padded 4 year.natAbs, rest) :=
      digitsSpec isDigits filled (by simp) (.inr stops)
    split
    · case isTrue negative =>
        have same : -((year.natAbs : ℕ) : ℤ) = year := by omega
        rw [List.cons_append, Relaxed.year, dropBlanksOfVisible (by decide)]
        simp only [taken, bind, Except.bind, number, same]
        rw [if_pos (Nat.le_succ_of_le small)]
    · case isFalse positive =>
        have same : ((year.natAbs : ℕ) : ℤ) = year := by omega
        rw [List.cons_append, Relaxed.year, dropBlanksOfVisible (by decide)]
        simp only [taken, bind, Except.bind, number, same]
        rw [if_pos small]

/-- The digits behind a point are taken as so many nanoseconds. -/
theorem nanosecondsOfPlaces {places : Nat} (some : 0 < places) (few : places ≤ 9)
    (fits : number < 10 ^ places) (stops : Stops rest) :
    nanoseconds ('.' :: padded places number ++ rest) =
      .ok (number * 10 ^ (9 - places), rest) := by
  have counted : (padded places number).length = places := lengthPadded fits some
  rw [List.cons_append, nanoseconds, digitsSpec (isDigitsPadded _ _) (paddedFilled _ _)
    (counted.trans_le few) (.inr stops)]
  have left : rest.dropWhile Char.isDigit = rest := dropWhileDigits isDigitsNil stops
  simp [bind, Except.bind, numberOfPadded, counted, left]

/-- A fraction is taken as the nanoseconds that it was written from. -/
theorem nanosecondsSpec (few : number < 10 ^ 9) (stops : Stops rest)
    (noPoint : rest.head? ≠ some '.') :
    nanoseconds (fractionText number ++ rest) = .ok (number, rest) := by
  unfold fractionText
  split
  · case isTrue zero =>
      rw [List.nil_append, zero, nanoseconds.eq_def]
      split
      · exact absurd rfl noPoint
      · rfl
  · split
    · case isTrue whole =>
        rw [nanosecondsOfPlaces (by decide) (by decide) (by omega) stops]
        congr 2
        omega
    · split
      · case isTrue whole =>
          rw [nanosecondsOfPlaces (by decide) (by decide) (by omega) stops]
          congr 2
          omega
      · rw [nanosecondsOfPlaces (by decide) (by decide) few stops]
        congr 2
        omega

theorem offsetSpec (zone : Instant.Zone) : offset zone.text = .ok (0, []) := by
  cases zone <;> rfl

end Relaxed

/-- An instant is the one of its own date and time of day at no offset. -/
theorem ofLocalOfUtc (instant : Instant) :
    Instant.ofLocal? instant.date instant.clock 0 = some instant := by
  obtain ⟨date, hour, minute, second, nanosecond⟩ := instant
  have hourLt := hour.isLt
  have minuteLt := minute.isLt
  have total : (60 * (hour.val : Int) + minute.val - 0) = (60 * hour.val + minute.val : ℕ) := by
    push_cast
    omega
  have notBefore : ¬((60 * hour.val + minute.val : ℕ) : Int) < 0 := by omega
  have notBehind : ¬1440 ≤ ((60 * hour.val + minute.val : ℕ) : Int) := by omega
  have sameHour :
      Fin.ofNat 24 (((60 * hour.val + minute.val : ℕ) : Int) % 1440 / 60).toNat = hour := by
    apply Fin.ext
    simp only [Fin.ofNat]
    omega
  have sameMinute :
      Fin.ofNat 60 (((60 * hour.val + minute.val : ℕ) : Int) % 1440 % 60).toNat = minute := by
    apply Fin.ext
    simp only [Fin.ofNat]
    omega
  simp only [Instant.ofLocal?, total, sameHour, sameMinute, notBefore, notBehind, if_false]
  rfl

/-- The parts of an instant form it again. -/
theorem instantOfParts (instant : Instant) :
    instantOf instant.date.year instant.date.month instant.date.day instant.clock.hour
      instant.clock.minute instant.clock.second instant.clock.nanosecond 0 = .ok instant := by
  have sameDate : Date.of? instant.date.year instant.date.month instant.date.day =
      some instant.date := dif_pos instant.date.exists_
  have sameClock : Clock.ofNumbers instant.clock.hour instant.clock.minute instant.clock.second
      instant.clock.nanosecond = instant.clock := by
    simp [Clock.ofNumbers]
  simp [instantOf, sameDate, sameClock, ofLocalOfUtc]

theorem daysInMonthLe (year : Int) (month : Nat) : daysInMonth year month ≤ 31 := by
  unfold daysInMonth
  split
  · split <;> decide
  all_goals decide

/-- What the parts of a date are bounded by. -/
theorem dateBounds (date : Date) :
    firstYear ≤ date.year ∧ date.year ≤ lastYear ∧ 1 ≤ date.month ∧ date.month ≤ 12 ∧
      1 ≤ date.day ∧ date.day ≤ 31 := by
  have exists_ := date.exists_
  simp only [isDate, Bool.and_eq_true, decide_eq_true_eq] at exists_
  obtain ⟨⟨⟨⟨⟨first, last⟩, monthAbove⟩, monthBelow⟩, dayAbove⟩, dayBelow⟩ := exists_
  exact ⟨first, last, monthAbove, monthBelow, dayAbove, dayBelow.trans (daysInMonthLe _ _)⟩

/-- An instant is read back from its text, whichever way the offset is written. -/
theorem readRelaxedText (zone : Instant.Zone) (instant : Instant) :
    readRelaxed (instant.text zone).toList = .ok instant := by
  obtain ⟨first, last, monthAbove, monthBelow, dayAbove, dayBelow⟩ := dateBounds instant.date
  have yearSmall : instant.date.year.natAbs ≤ Relaxed.greatestYear := by
    unfold firstYear lastYear Relaxed.greatestYear at *
    omega
  have hourLt := instant.clock.hour.isLt
  have minuteLt := instant.clock.minute.isLt
  have secondLt := instant.clock.second.isLt
  have zoneStops : Stops zone.text := by cases zone <;> exact stopsOfMark (by decide) _
  have zoneNoPoint : zone.text.head? ≠ some '.' := by cases zone <;> decide
  rw [Instant.text, String.toList_ofList]
  simp only [Date.text, Clock.text, Clock.minuteText, List.append_assoc, List.cons_append]
  rw [readRelaxed, Relaxed.yearSpec yearSmall (stopsOfMark (by decide) _)]
  simp only [bind, Except.bind, Relaxed.separatorSpec (show isBlank '-' = false by decide),
    Relaxed.separatorSpec (show isBlank ':' = false by decide), Relaxed.dateEnd,
    Relaxed.boundedSpec monthAbove monthBelow (by omega),
    Relaxed.boundedSpec dayAbove dayBelow (by omega),
    Relaxed.boundedSpec (Nat.zero_le _) (Nat.le_of_lt_succ hourLt) (by omega),
    Relaxed.boundedSpec (Nat.zero_le _) (Nat.le_of_lt_succ minuteLt) (by omega),
    Relaxed.boundedSpec (Nat.zero_le _) (Nat.le_of_lt_succ secondLt) (by omega),
    Relaxed.nanosecondsSpec instant.clock.nanosecond.isLt zoneStops zoneNoPoint,
    Relaxed.offsetSpec]
  exact instantOfParts instant

end FleetPanel.Time
