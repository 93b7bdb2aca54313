/-
This file shows that the strict reader reads only texts that denote an instant, and of the texts of
an instant exactly those whose year has four digits.
-/

import FleetPanel.Proofs.Time.Lenient
import FleetPanel.Time.Strict

namespace FleetPanel.Time

open Text Spelling
open Amount.Numeral (Stops stopsOfMark)

variable {text rest : List Char} {mark : Char} {width number : Nat} {ahead : Int}
  {instant : Instant}

theorem okOfToOption {Fault Value : Type} {outcome : Except Fault Value} {value : Value}
    (found : outcome.toOption = some value) : outcome = .ok value := by
  cases outcome with
  | error fault => cases found
  | ok value => exact congrArg _ (Option.some.inj found)

theorem blanksNil : IsBlanks [] :=
  fun _ inside => nomatch inside

namespace Strict

theorem digitsSound (read : digits? width text = some (number, rest)) :
    ∃ found, text = found ++ rest ∧ IsDigits found ∧ found.length = width ∧
      numberOf found = number := by
  simp only [digits?] at read
  split at read
  · case isTrue fits =>
    cases read
    simp only [Bool.and_eq_true, decide_eq_true_eq, List.all_eq_true] at fits
    exact ⟨text.take width, (List.take_append_drop _ _).symm, fits.2, fits.1, rfl⟩
  · cases read

theorem digitsSpec (fits : number < 10 ^ width) (wide : 0 < width) (rest : List Char) :
    digits? width (padded width number ++ rest) = some (number, rest) := by
  have filled : (padded width number).length = width := lengthPadded fits wide
  have front : (padded width number ++ rest).take width = padded width number :=
    List.take_left' filled
  have behind : (padded width number ++ rest).drop width = rest := List.drop_left' filled
  have isDigits : (padded width number).all Char.isDigit = true :=
    List.all_eq_true.mpr (isDigitsPadded width number)
  simp [digits?, front, behind, filled, isDigits, numberOfPadded]

theorem digitsOfMark (noDigit : mark.isDigit = false) (text : List Char) :
    digits? (width + 1) (mark :: text) = none := by
  simp [digits?, noDigit]

theorem markSpec (mark : Char) (rest : List Char) : mark? mark (mark :: rest) = some rest := by
  simp [mark?]

theorem shortSound (read : digits? 2 text = some (number, rest)) :
    ∃ found, text = found ++ rest ∧ Short found number := by
  obtain ⟨found, split, isDigits, two, rfl⟩ := digitsSound read
  exact ⟨found, split, .mk blanksNil isDigits (List.ne_nil_of_length_pos (by omega)) two.le⟩

theorem yearSound (read : digits? 4 text = some (number, rest)) :
    ∃ found, text = found ++ rest ∧ Year found number := by
  obtain ⟨found, split, isDigits, four, rfl⟩ := digitsSound read
  exact ⟨found, split, .bare isDigits (List.ne_nil_of_length_pos (by omega)) four.le⟩

theorem markSound (read : mark? mark text = some rest) :
    ∃ found, text = found ++ rest ∧ Mark mark found := by
  unfold mark? at read
  split at read
  · split at read
    · case isTrue same =>
      cases read
      obtain rfl := eq_of_beq same
      exact ⟨_, rfl, .mk blanksNil⟩
    · cases read
  · cases read

theorem dateEndSound (read : dateEnd? text = some rest) :
    ∃ mark, text = mark :: rest ∧ DateEnd mark := by
  unfold dateEnd? at read
  split at read
  · cases read
    exact ⟨_, rfl, .upper⟩
  · cases read
    exact ⟨_, rfl, .lower⟩
  · cases read
    exact ⟨_, rfl, .space⟩
  · cases read

/-- A colon after blanks stands between the hours and the minutes of an offset. -/
theorem Mark.separates (marked : Mark ':' text) :
    ∀ character ∈ text, Relaxed.isOffsetSeparator character = true := by
  obtain ⟨blanks⟩ := marked
  refine List.forall_mem_append.mpr ⟨fun character inside => ?_, ?_⟩
  · simp [Relaxed.isOffsetSeparator, blanks character inside]
  · exact List.forall_mem_cons.mpr ⟨rfl, List.forall_mem_nil _⟩

theorem magnitudeSound (read : magnitude? text = some (ahead, rest)) :
    ∃ found, text = found ++ rest ∧ Magnitude found ahead := by
  obtain ⟨⟨hours, behind⟩, takesHours, made⟩ := Option.bind_eq_some_iff.mp read
  obtain ⟨others, takesMark, made⟩ := Option.bind_eq_some_iff.mp made
  obtain ⟨⟨minutes, _⟩, takesMinutes, made⟩ := Option.bind_eq_some_iff.mp made
  obtain ⟨hoursFound, rfl, hoursAreDigits, hoursAreTwo, rfl⟩ := digitsSound takesHours
  obtain ⟨found, rfl, marked⟩ := markSound takesMark
  obtain ⟨minutesFound, rfl, minutesAreDigits, minutesAreTwo, rfl⟩ := digitsSound takesMinutes
  dsimp only at made
  split at made
  · case isTrue few =>
    cases made
    refine ⟨hoursFound ++ found ++ minutesFound, by simp only [List.append_assoc], ?_⟩
    exact .mk hoursAreDigits hoursAreTwo (Mark.separates marked) minutesAreDigits minutesAreTwo few
  · cases made

theorem offsetSound (read : offset? text = some (ahead, rest)) :
    ∃ found, text = found ++ rest ∧ Offset found ahead := by
  unfold offset? at read
  split at read
  · cases read
    exact ⟨['Z'], rfl, .upper⟩
  · cases read
    exact ⟨['z'], rfl, .lower⟩
  · obtain ⟨found, rfl, magnitude⟩ := magnitudeSound read
    exact ⟨_, rfl, .ahead magnitude⟩
  · obtain ⟨⟨minutes, others⟩, taken, made⟩ := Option.bind_eq_some_iff.mp read
    obtain ⟨found, rfl, magnitude⟩ := magnitudeSound taken
    cases made
    exact ⟨_, rfl, .behind (.inl rfl) magnitude⟩
  · obtain ⟨⟨minutes, others⟩, taken, made⟩ := Option.bind_eq_some_iff.mp read
    obtain ⟨found, rfl, magnitude⟩ := magnitudeSound taken
    cases made
    exact ⟨_, rfl, .behind (.inr rfl) magnitude⟩
  · cases read

end Strict

/-- What the strict reader reads is the instant that the text denotes. -/
theorem denotesOfStrict (read : readStrict? text = some instant) : Denotes text instant := by
  obtain ⟨⟨year, _⟩, takesYear, read⟩ := Option.bind_eq_some_iff.mp read
  obtain ⟨_, takesYearMark, read⟩ := Option.bind_eq_some_iff.mp read
  obtain ⟨⟨month, _⟩, takesMonth, read⟩ := Option.bind_eq_some_iff.mp read
  obtain ⟨_, takesMonthMark, read⟩ := Option.bind_eq_some_iff.mp read
  obtain ⟨⟨day, _⟩, takesDay, read⟩ := Option.bind_eq_some_iff.mp read
  obtain ⟨_, takesDateEnd, read⟩ := Option.bind_eq_some_iff.mp read
  obtain ⟨⟨hour, _⟩, takesHour, read⟩ := Option.bind_eq_some_iff.mp read
  obtain ⟨_, takesHourMark, read⟩ := Option.bind_eq_some_iff.mp read
  obtain ⟨⟨minute, _⟩, takesMinute, read⟩ := Option.bind_eq_some_iff.mp read
  obtain ⟨_, takesMinuteMark, read⟩ := Option.bind_eq_some_iff.mp read
  obtain ⟨⟨second, _⟩, takesSecond, read⟩ := Option.bind_eq_some_iff.mp read
  obtain ⟨⟨nanosecond, _⟩, takesFraction, read⟩ := Option.bind_eq_some_iff.mp read
  obtain ⟨⟨ahead, back⟩, takesOffset, formed⟩ := Option.bind_eq_some_iff.mp read
  clear read
  dsimp only at *
  obtain ⟨yearText, rfl, spellsYear⟩ := Strict.yearSound takesYear
  obtain ⟨yearMark, rfl, marksYear⟩ := Strict.markSound takesYearMark
  obtain ⟨monthText, rfl, spellsMonth⟩ := Strict.shortSound takesMonth
  obtain ⟨monthMark, rfl, marksMonth⟩ := Strict.markSound takesMonthMark
  obtain ⟨dayText, rfl, spellsDay⟩ := Strict.shortSound takesDay
  obtain ⟨dateEnd, rfl, endsDate⟩ := Strict.dateEndSound takesDateEnd
  obtain ⟨hourText, rfl, spellsHour⟩ := Strict.shortSound takesHour
  obtain ⟨hourMark, rfl, marksHour⟩ := Strict.markSound takesHourMark
  obtain ⟨minuteText, rfl, spellsMinute⟩ := Strict.shortSound takesMinute
  obtain ⟨minuteMark, rfl, marksMinute⟩ := Strict.markSound takesMinuteMark
  obtain ⟨secondText, rfl, spellsSecond⟩ := Strict.shortSound takesSecond
  obtain ⟨fraction, rfl, spellsFraction⟩ := Relaxed.fractionSound (okOfToOption takesFraction)
  obtain ⟨offset, rfl, spellsOffset⟩ := Strict.offsetSound takesOffset
  split at formed
  · case isTrue within =>
    simp only [Bool.and_eq_true, decide_eq_true_eq, List.isEmpty_iff] at within
    obtain ⟨⟨⟨rfl, hourLt⟩, minuteLt⟩, secondLe⟩ := within
    have spells : Spells _ ⟨year, month, day, hour, minute, second, nanosecond, ahead⟩ :=
      .mk blanksNil spellsYear marksYear spellsMonth marksMonth spellsDay endsDate spellsHour
        marksHour spellsMinute marksMinute spellsSecond spellsFraction blanksNil spellsOffset
        blanksNil
    simp only [List.nil_append] at spells
    refine ⟨_, spells, ?_⟩
    exact (instantOfIff (Nat.le_of_lt_succ hourLt) (Nat.le_of_lt_succ minuteLt) secondLe
      spellsFraction.lt).mp (okOfToOption formed)
  · cases formed

/-- An instant is read back from its text if its year has four digits. -/
theorem readStrictText (zone : Instant.Zone) (notBefore : 0 ≤ instant.date.year)
    (notBehind : instant.date.year ≤ 9999) :
    readStrict? (instant.text zone).toList = some instant := by
  obtain ⟨-, -, -, monthBelow, -, dayBelow⟩ := dateBounds instant.date
  have hourLt := instant.clock.hour.isLt
  have minuteLt := instant.clock.minute.isLt
  have secondLt := instant.clock.second.isLt
  have plainYear : yearText instant.date.year = padded 4 instant.date.year.natAbs :=
    if_pos (by simp [notBefore, notBehind])
  have sameYear : ((instant.date.year.natAbs : ℕ) : ℤ) = instant.date.year := by omega
  have zoneStops : Stops zone.text := by cases zone <;> exact stopsOfMark (by decide) _
  have zoneNoPoint : zone.text.head? ≠ some '.' := by cases zone <;> decide
  have takesZone : Strict.offset? zone.text = some (0, []) := by cases zone <;> rfl
  have formed := instantOfParts instant
  rw [Instant.text, String.toList_ofList]
  simp only [Date.text, Clock.text, Clock.minuteText, plainYear, List.append_assoc,
    List.cons_append]
  rw [readStrict?, Strict.digitsSpec (show instant.date.year.natAbs < 10 ^ 4 by omega) (by decide)]
  simp only [bind, Option.bind, Strict.markSpec, Strict.dateEnd?,
    Strict.digitsSpec (show instant.date.month < 10 ^ 2 by omega) (by decide),
    Strict.digitsSpec (show instant.date.day < 10 ^ 2 by omega) (by decide),
    Strict.digitsSpec (show instant.clock.hour.val < 10 ^ 2 by omega) (by decide),
    Strict.digitsSpec (show instant.clock.minute.val < 10 ^ 2 by omega) (by decide),
    Strict.digitsSpec (show instant.clock.second.val < 10 ^ 2 by omega) (by decide),
    Relaxed.nanosecondsSpec instant.clock.nanosecond.isLt zoneStops zoneNoPoint,
    Except.toOption, takesZone, sameYear, formed]
  rw [if_pos (by simp [hourLt, minuteLt, Nat.le_of_lt_succ secondLt])]

/-- A text whose year has a sign is not read. -/
theorem readStrictSigned (zone : Instant.Zone)
    (outside : ¬(0 ≤ instant.date.year ∧ instant.date.year ≤ 9999)) :
    readStrict? (instant.text zone).toList = none := by
  have signedYear : yearText instant.date.year =
      (if instant.date.year < 0 then '-' else '+') :: padded 4 instant.date.year.natAbs :=
    if_neg (by simpa using outside)
  have noDigit : (if instant.date.year < 0 then '-' else '+').isDigit = false := by
    split <;> decide
  rw [Instant.text, String.toList_ofList, Date.text, signedYear]
  simp only [List.cons_append]
  rw [readStrict?, Strict.digitsOfMark noDigit]
  rfl

end FleetPanel.Time
