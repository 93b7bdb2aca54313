/-
This file shows that the lenient reader accepts exactly the texts that denote an instant, and reads
that instant. Each part is read as it is spelled, and only what spells it is read.
-/

import FleetPanel.Proofs.Time.Spelling
import Mathlib.Data.List.TakeWhile

namespace FleetPanel.Time

open Text Spelling
open Amount.Numeral (Stops stopsOfMark takeWhileDigits dropWhileDigits stopsDropWhile
  isDigitsTakeWhile)

variable {text front found rest digits : List Char} {mark : Char} {width number least greatest
  nanosecond : Nat} {year ahead : Int} {instant : Instant}

theorem okOfBind {Fault Value Next : Type} {outcome : Except Fault Value}
    {next : Value → Except Fault Next} {result : Next} (made : outcome >>= next = .ok result) :
    ∃ value, outcome = .ok value ∧ next value = .ok result := by
  cases outcome with
  | error fault => cases made
  | ok value => exact ⟨value, rfl, made⟩

theorem blanksSplit (text : List Char) :
    ∃ front, text = front ++ dropBlanks text ∧ IsBlanks front :=
  ⟨text.takeWhile isBlank, List.takeWhile_append_dropWhile.symm,
    List.all_eq_true.mp List.all_takeWhile⟩

theorem dropBlanksBefore (blanks : IsBlanks front) (rest : List Char) :
    dropBlanks (front ++ rest) = dropBlanks rest :=
  List.dropWhile_append_of_pos blanks

namespace Relaxed

/-- What is taken as digits is digits, and ends at the width or where digits end. -/
theorem digitsSound (read : Relaxed.digits width text = .ok (digits, rest)) :
    text = digits ++ rest ∧ IsDigits digits ∧ digits ≠ [] ∧ digits.length ≤ width ∧
      (digits.length = width ∨ Stops rest) := by
  have split := List.takeWhile_append_dropWhile (p := Char.isDigit) (l := text)
  have isDigits := isDigitsTakeWhile text
  have stops := stopsDropWhile text
  rw [Relaxed.digits, ← List.take_takeWhile] at read
  generalize text.takeWhile Char.isDigit = run at *
  generalize text.dropWhile Char.isDigit = behind at *
  subst split
  simp only [Bool.not_eq_true', List.isEmpty_eq_false_iff] at read
  split at read
  · case isTrue filled =>
    cases read
    rcases Nat.lt_or_ge width run.length with longer | shorter
    · have full : (run.take width).length = width := List.length_take_of_le longer.le
      refine ⟨?_, fun _ inside => isDigits _ (List.mem_of_mem_take inside), filled, full.le,
        .inl full⟩
      rw [full, List.drop_append_of_le_length longer.le, ← List.append_assoc,
        List.take_append_drop]
    · rw [List.take_of_length_le shorter] at filled ⊢
      rw [List.drop_left]
      exact ⟨rfl, isDigits, filled, shorter, .inr stops⟩
  · split at read <;> cases read

theorem yearSound (read : Relaxed.year text = .ok (year, rest)) :
    ∃ front found, text = front ++ (found ++ rest) ∧ IsBlanks front ∧ Year found year := by
  obtain ⟨front, whole, blanks⟩ := blanksSplit text
  refine ⟨front, ?_⟩
  rw [Relaxed.year] at read
  generalize dropBlanks text = behind at *
  subst whole
  split at read
  · obtain ⟨⟨found, rest⟩, taken, made⟩ := okOfBind read
    obtain ⟨rfl, isDigits, filled, -⟩ := digitsSound taken
    dsimp only at made
    split at made <;> cases made
    exact ⟨_, rfl, blanks, .negative isDigits filled⟩
  · obtain ⟨⟨found, rest⟩, taken, made⟩ := okOfBind read
    obtain ⟨rfl, isDigits, filled, -⟩ := digitsSound taken
    dsimp only at made
    split at made <;> cases made
    exact ⟨_, rfl, blanks, .positive isDigits filled⟩
  · obtain ⟨⟨found, rest⟩, taken, made⟩ := okOfBind read
    obtain ⟨rfl, isDigits, filled, short, -⟩ := digitsSound taken
    cases made
    exact ⟨_, rfl, blanks, .bare isDigits filled short⟩

theorem yearComplete (blanks : IsBlanks front) (spells : Year found year)
    (small : year.natAbs ≤ greatestYear) (stops : Stops rest) :
    Relaxed.year (front ++ (found ++ rest)) = .ok (year, rest) := by
  rw [Relaxed.year, dropBlanksBefore blanks]
  cases spells with
  | @bare digits isDigits filled short =>
      rw [dropBlanksOfDigits isDigits filled]
      have taken := digitsSpec isDigits filled short (.inr stops)
      -- The text begins with a digit, so neither sign is taken.
      obtain ⟨first, more, rfl⟩ := List.exists_cons_of_ne_nil filled
      have notSign := Amount.Numeral.notSignOfIsDigit (isDigitsCons.mp isDigits).1
      split
      · case h_1 signed => exact absurd (List.cons.inj signed).1 notSign.2
      · case h_2 signed => exact absurd (List.cons.inj signed).1 notSign.1
      · rw [taken]
        rfl
  | @negative digits isDigits filled =>
      have taken : Relaxed.digits (digits ++ rest).length (digits ++ rest) = .ok (digits, rest) :=
        digitsSpec isDigits filled (by simp) (.inr stops)
      rw [List.cons_append, dropBlanksOfVisible (by decide)]
      simp only [taken, bind, Except.bind]
      rw [if_pos (by omega)]
  | @positive digits isDigits filled =>
      have taken : Relaxed.digits (digits ++ rest).length (digits ++ rest) = .ok (digits, rest) :=
        digitsSpec isDigits filled (by simp) (.inr stops)
      rw [List.cons_append, dropBlanksOfVisible (by decide)]
      simp only [taken, bind, Except.bind]
      rw [if_pos (by omega)]

theorem shortSound (read : bounded least greatest text = .ok (number, rest)) :
    ∃ found, text = found ++ rest ∧ Short found number ∧ least ≤ number ∧ number ≤ greatest := by
  obtain ⟨front, whole, blanks⟩ := blanksSplit text
  obtain ⟨⟨digits, behind⟩, taken, read⟩ := okOfBind read
  obtain ⟨split, isDigits, filled, short, -⟩ := digitsSound taken
  dsimp only at read
  split at read
  · case isTrue within =>
    cases read
    simp only [Bool.and_eq_true, decide_eq_true_eq] at within
    rw [split, ← List.append_assoc] at whole
    exact ⟨_, whole, .mk blanks isDigits filled short, within⟩
  · cases read

theorem shortComplete (spells : Short found number) (above : least ≤ number)
    (below : number ≤ greatest) (stops : Stops rest) :
    bounded least greatest (found ++ rest) = .ok (number, rest) := by
  obtain ⟨blanks, isDigits, filled, short⟩ := spells
  rw [List.append_assoc, bounded, dropBlanksBefore blanks, dropBlanksOfDigits isDigits filled,
    digitsSpec isDigits filled short (.inr stops)]
  simp [bind, Except.bind, above, below]

theorem markSound (read : separator mark text = .ok rest) :
    ∃ found, text = found ++ rest ∧ Mark mark found := by
  obtain ⟨front, whole, blanks⟩ := blanksSplit text
  rw [separator] at read
  generalize dropBlanks text = behind at *
  subst whole
  split at read
  · cases read
  · split at read
    · case isTrue same =>
      cases read
      obtain rfl := eq_of_beq same
      exact ⟨_, (List.append_assoc front [_] rest).symm, .mk blanks⟩
    · cases read

theorem markComplete (marked : Mark mark found) (visible : isBlank mark = false)
    (rest : List Char) : separator mark (found ++ rest) = .ok rest := by
  obtain ⟨blanks⟩ := marked
  rw [List.append_assoc, separator, dropBlanksBefore blanks]
  simp [dropBlanksOfVisible visible]

theorem dateEndSound (read : dateEnd text = .ok rest) :
    ∃ mark, text = mark :: rest ∧ DateEnd mark := by
  unfold dateEnd at read
  split at read
  · cases read
    exact ⟨_, rfl, .upper⟩
  · cases read
    exact ⟨_, rfl, .lower⟩
  · cases read
    exact ⟨_, rfl, .space⟩
  · cases read
  · cases read

theorem dateEndComplete (ends : DateEnd mark) (rest : List Char) :
    dateEnd (mark :: rest) = .ok rest := by
  cases ends <;> rfl

/-- Nine digits at most count for the nanoseconds. -/
theorem nanosecondsOfDigits (isDigits : IsDigits digits) :
    numberOf (digits.take 9) * 10 ^ (9 - (digits.take 9).length) =
      10 ^ 9 * numberOf digits / 10 ^ digits.length := by
  rcases Nat.le_total digits.length 9 with few | many
  · have split : 10 ^ 9 = 10 ^ (9 - digits.length) * 10 ^ digits.length := by
      rw [← Nat.pow_add, Nat.sub_add_cancel few]
    rw [List.take_of_length_le few, split, Nat.mul_right_comm,
      Nat.mul_div_cancel _ (Nat.pow_pos (by decide)), Nat.mul_comm]
  · have nine : (digits.take 9).length = 9 := List.length_take_of_le many
    have below : numberOf (digits.drop 9) < 10 ^ (digits.drop 9).length :=
      numberOfLt fun _ inside => isDigits _ (List.mem_of_mem_drop inside)
    have length : digits.length = 9 + (digits.drop 9).length := by
      rw [List.length_drop]
      omega
    have value := numberOfAppend (digits.take 9) (digits.drop 9)
    rw [List.take_append_drop] at value
    rw [nine, length, value, Nat.pow_add, Nat.mul_div_mul_left _ _ (by decide),
      Nat.add_comm, Nat.add_mul_div_right _ _ (Nat.pow_pos (by decide)), Nat.div_eq_of_lt below]
    omega

theorem fractionSound (read : nanoseconds text = .ok (nanosecond, rest)) :
    ∃ found, text = found ++ rest ∧ Fraction found nanosecond := by
  unfold nanoseconds at read
  split at read
  · obtain ⟨⟨taken, behind⟩, taking, made⟩ := okOfBind read
    obtain ⟨rfl, takenIsDigits, filled, few, ends⟩ := digitsSound taking
    cases made
    have split := List.takeWhile_append_dropWhile (p := Char.isDigit) (l := behind)
    have moreIsDigits := isDigitsTakeWhile behind
    -- More digits follow only behind the ninth.
    have front : (taken ++ behind.takeWhile Char.isDigit).take 9 = taken := by
      rcases ends with nine | stops
      · rw [← nine, List.take_left]
      · rw [show behind.takeWhile Char.isDigit = [] from takeWhileDigits isDigitsNil stops,
          List.append_nil, List.take_of_length_le few]
    have isDigits : IsDigits (taken ++ behind.takeWhile Char.isDigit) :=
      isDigitsAppend.mpr ⟨takenIsDigits, moreIsDigits⟩
    have value := nanosecondsOfDigits isDigits
    rw [front] at value
    refine ⟨'.' :: (taken ++ behind.takeWhile Char.isDigit), ?_, ?_⟩
    · rw [List.cons_append, List.append_assoc, split]
    · have spelled := Fraction.pointed isDigits (List.append_ne_nil_of_left_ne_nil filled _)
      rw [← value] at spelled
      exact spelled
  · cases read
    exact ⟨[], rfl, .none⟩

theorem fractionComplete (spells : Fraction found nanosecond) (stops : Stops rest)
    (noPoint : rest.head? ≠ some '.') :
    nanoseconds (found ++ rest) = .ok (nanosecond, rest) := by
  cases spells with
  | none =>
      rw [List.nil_append, nanoseconds.eq_def]
      split
      · exact absurd rfl noPoint
      · rfl
  | @pointed digits isDigits filled =>
      have split := List.take_append_drop 9 digits
      have value := nanosecondsOfDigits isDigits
      have frontIsDigits : IsDigits (digits.take 9) := fun _ inside =>
        isDigits _ (List.mem_of_mem_take inside)
      have moreIsDigits : IsDigits (digits.drop 9) := fun _ inside =>
        isDigits _ (List.mem_of_mem_drop inside)
      have ends : (digits.take 9).length = 9 ∨ Stops (digits.drop 9 ++ rest) := by
        rcases Nat.le_total digits.length 9 with few | many
        · rw [List.drop_eq_nil_of_le few]
          exact .inr stops
        · exact .inl (List.length_take_of_le many)
      have taken : Relaxed.digits 9 (digits ++ rest) =
          .ok (digits.take 9, digits.drop 9 ++ rest) := by
        conv_lhs => rw [← split, List.append_assoc]
        exact digitsSpec frontIsDigits (by simpa using filled) (List.length_take_le _ _) ends
      rw [List.cons_append, nanoseconds, taken, ← value]
      simp only [bind, Except.bind, dropWhileDigits moreIsDigits stops]
      rfl

theorem pairSound {first second : Char} (read : pair text = .ok (first, second, rest)) :
    text = first :: second :: rest := by
  unfold pair at read
  split at read
  · cases read
    rfl
  · split at read <;> cases read

theorem hoursSound (read : offsetHours text = .ok (number, rest)) :
    ∃ found, text = found ++ rest ∧ IsDigits found ∧ found.length = 2 ∧
      numberOf found = number := by
  obtain ⟨⟨first, second, behind⟩, taken, made⟩ := okOfBind read
  obtain rfl := pairSound taken
  dsimp only at made
  split at made
  · case isTrue both =>
    cases made
    simp only [Bool.and_eq_true] at both
    refine ⟨[first, second], rfl, ?_, rfl, rfl⟩
    exact isDigitsCons.mpr ⟨both.1, isDigitsCons.mpr ⟨both.2, isDigitsNil⟩⟩
  · cases made

theorem hoursComplete (isDigits : IsDigits found) (two : found.length = 2) (rest : List Char) :
    offsetHours (found ++ rest) = .ok (numberOf found, rest) := by
  obtain ⟨first, second, rfl⟩ := List.length_eq_two.mp two
  obtain ⟨firstIsDigit, others⟩ := isDigitsCons.mp isDigits
  have secondIsDigit := (isDigitsCons.mp others).1
  simp [offsetHours, pair, bind, Except.bind, firstIsDigit, secondIsDigit]

theorem minutesSound (read : offsetMinutes text = .ok (number, rest)) :
    ∃ found, text = found ++ rest ∧ IsDigits found ∧ found.length = 2 ∧
      numberOf found = number ∧ number < 60 := by
  obtain ⟨⟨minutes, behind⟩, taken, made⟩ := okOfBind read
  obtain ⟨found, split, isDigits, two, value⟩ := hoursSound taken
  dsimp only at made
  split at made
  · case isTrue few =>
    cases made
    exact ⟨found, split, isDigits, two, value, few⟩
  · cases made

theorem magnitudeSound (read : offsetMagnitude text = .ok (ahead, rest)) :
    ∃ found, text = found ++ rest ∧ Magnitude found ahead := by
  obtain ⟨⟨hours, behind⟩, takenHours, made⟩ := okOfBind read
  obtain ⟨hoursFound, rfl, hoursAreDigits, hoursAreTwo, rfl⟩ := hoursSound takenHours
  obtain ⟨⟨minutes, others⟩, takenMinutes, made⟩ := okOfBind made
  obtain ⟨minutesFound, split, minutesAreDigits, minutesAreTwo, rfl, few⟩ :=
    minutesSound takenMinutes
  cases made
  have whole := List.takeWhile_append_dropWhile (p := isOffsetSeparator) (l := behind)
  rw [split] at whole
  refine ⟨hoursFound ++ behind.takeWhile isOffsetSeparator ++ minutesFound, ?_, ?_⟩
  · rw [List.append_assoc, List.append_assoc, whole]
  · exact .mk hoursAreDigits hoursAreTwo (List.all_eq_true.mp List.all_takeWhile) minutesAreDigits
      minutesAreTwo few

theorem digitSeparatesNothing (isDigit : mark.isDigit = true) : isOffsetSeparator mark = false := by
  have noColon : mark ≠ ':' := by
    rintro rfl
    exact absurd isDigit (by decide)
  simp [isOffsetSeparator, notBlankOfDigit isDigit, noColon]

theorem magnitudeComplete (spells : Magnitude found ahead) (rest : List Char) :
    offsetMagnitude (found ++ rest) = .ok (ahead, rest) := by
  obtain @⟨hours, separators, minutes, hoursAreDigits, hoursAreTwo, separate, minutesAreDigits,
    minutesAreTwo, few⟩ := spells
  have behindSeparators :
      (separators ++ (minutes ++ rest)).dropWhile isOffsetSeparator = minutes ++ rest := by
    rw [List.dropWhile_append_of_pos separate]
    obtain ⟨first, second, rfl⟩ := List.length_eq_two.mp minutesAreTwo
    exact List.dropWhile_cons_of_neg
      (by simp [digitSeparatesNothing (isDigitsCons.mp minutesAreDigits).1])
  simp only [List.append_assoc, offsetMagnitude, offsetMinutes,
    hoursComplete hoursAreDigits hoursAreTwo, bind, Except.bind, behindSeparators,
    hoursComplete minutesAreDigits minutesAreTwo, few, if_true]

theorem offsetSound (read : offset text = .ok (ahead, rest)) :
    ∃ front found, text = front ++ (found ++ rest) ∧ IsBlanks front ∧ Offset found ahead := by
  obtain ⟨front, whole, blanks⟩ := blanksSplit text
  refine ⟨front, ?_⟩
  rw [offset] at read
  generalize dropBlanks text = behind at *
  subst whole
  split at read
  · cases read
    exact ⟨['Z'], rfl, blanks, .upper⟩
  · cases read
    exact ⟨['z'], rfl, blanks, .lower⟩
  · obtain ⟨found, rfl, magnitude⟩ := magnitudeSound read
    exact ⟨_, rfl, blanks, .ahead magnitude⟩
  · obtain ⟨⟨minutes, others⟩, taken, made⟩ := okOfBind read
    obtain ⟨found, rfl, magnitude⟩ := magnitudeSound taken
    cases made
    exact ⟨_, rfl, blanks, .behind (.inl rfl) magnitude⟩
  · obtain ⟨⟨minutes, others⟩, taken, made⟩ := okOfBind read
    obtain ⟨found, rfl, magnitude⟩ := magnitudeSound taken
    cases made
    exact ⟨_, rfl, blanks, .behind (.inr rfl) magnitude⟩
  · cases read
  · split at read
    · case isTrue named =>
      cases read
      refine ⟨_, ?_, blanks, .named (eq_of_beq named)⟩
      rw [List.take_append_drop]
    · cases read

theorem offsetComplete (blanks : IsBlanks front) (spells : Offset found ahead) (rest : List Char) :
    offset (front ++ (found ++ rest)) = .ok (ahead, rest) := by
  have behindBlanks : dropBlanks (front ++ (found ++ rest)) = found ++ rest := by
    obtain ⟨first, more, rfl, visible, -⟩ := spells.first
    rw [dropBlanksBefore blanks, List.cons_append, dropBlanksOfVisible visible]
  rw [offset, behindBlanks]
  cases spells with
  | upper => rfl
  | lower => rfl
  | named named =>
      obtain ⟨first, more, rfl, upper, named⟩ := List.map_eq_cons_iff.mp named
      obtain ⟨second, more, rfl, secondUpper, named⟩ := List.map_eq_cons_iff.mp named
      obtain ⟨third, more, rfl, thirdUpper, named⟩ := List.map_eq_cons_iff.mp named
      obtain rfl := List.map_eq_nil_iff.mp named
      rcases upperU upper with rfl | rfl <;> simp [secondUpper, thirdUpper]
  | ahead magnitude => exact magnitudeComplete magnitude rest
  | behind minus magnitude =>
      rcases minus with rfl | rfl <;>
        simp only [List.cons_append, magnitudeComplete magnitude rest, bind, Except.bind]

end Relaxed

/-- The lenient reader accepts exactly the texts that denote an instant. -/
theorem readRelaxedIff : readRelaxed text = .ok instant ↔ Denotes text instant := by
  constructor
  · intro read
    obtain ⟨⟨year, _⟩, takesYear, read⟩ := okOfBind read
    obtain ⟨_, takesYearMark, read⟩ := okOfBind read
    obtain ⟨⟨month, _⟩, takesMonth, read⟩ := okOfBind read
    obtain ⟨_, takesMonthMark, read⟩ := okOfBind read
    obtain ⟨⟨day, _⟩, takesDay, read⟩ := okOfBind read
    obtain ⟨_, takesDateEnd, read⟩ := okOfBind read
    obtain ⟨⟨hour, _⟩, takesHour, read⟩ := okOfBind read
    obtain ⟨_, takesHourMark, read⟩ := okOfBind read
    obtain ⟨⟨minute, _⟩, takesMinute, read⟩ := okOfBind read
    obtain ⟨_, takesMinuteMark, read⟩ := okOfBind read
    obtain ⟨⟨second, _⟩, takesSecond, read⟩ := okOfBind read
    obtain ⟨⟨nanosecond, _⟩, takesFraction, read⟩ := okOfBind read
    obtain ⟨⟨ahead, back⟩, takesOffset, formed⟩ := okOfBind read
    clear read
    dsimp only at *
    obtain ⟨front, yearText, rfl, blanks, spellsYear⟩ := Relaxed.yearSound takesYear
    obtain ⟨yearMark, rfl, marksYear⟩ := Relaxed.markSound takesYearMark
    obtain ⟨monthText, rfl, spellsMonth, -⟩ := Relaxed.shortSound takesMonth
    obtain ⟨monthMark, rfl, marksMonth⟩ := Relaxed.markSound takesMonthMark
    obtain ⟨dayText, rfl, spellsDay, -⟩ := Relaxed.shortSound takesDay
    obtain ⟨dateEnd, rfl, endsDate⟩ := Relaxed.dateEndSound takesDateEnd
    obtain ⟨hourText, rfl, spellsHour, -, hourLe⟩ := Relaxed.shortSound takesHour
    obtain ⟨hourMark, rfl, marksHour⟩ := Relaxed.markSound takesHourMark
    obtain ⟨minuteText, rfl, spellsMinute, -, minuteLe⟩ := Relaxed.shortSound takesMinute
    obtain ⟨minuteMark, rfl, marksMinute⟩ := Relaxed.markSound takesMinuteMark
    obtain ⟨secondText, rfl, spellsSecond, -, secondLe⟩ := Relaxed.shortSound takesSecond
    obtain ⟨fraction, rfl, spellsFraction⟩ := Relaxed.fractionSound takesFraction
    obtain ⟨gap, offset, rfl, gapIsBlanks, spellsOffset⟩ := Relaxed.offsetSound takesOffset
    split at formed
    · case isTrue ended =>
      have backIsBlanks : IsBlanks back :=
        List.dropWhile_eq_nil_iff.mp (List.isEmpty_iff.mp ended)
      refine ⟨⟨year, month, day, hour, minute, second, nanosecond, ahead⟩,
        .mk blanks spellsYear marksYear spellsMonth marksMonth spellsDay endsDate spellsHour
          marksHour spellsMinute marksMinute spellsSecond spellsFraction gapIsBlanks spellsOffset
          backIsBlanks, ?_⟩
      exact (instantOfIff hourLe minuteLe secondLe spellsFraction.lt).mp formed
    · cases formed
  · rintro ⟨spelling, @⟨_, front, year, yearMark, month, monthMark, day, hour, hourMark, minute,
      minuteMark, second, fraction, gap, offset, back, dateEnd, blanks, spellsYear, marksYear,
      spellsMonth, marksMonth, spellsDay, endsDate, spellsHour, marksHour, spellsMinute,
      marksMinute, spellsSecond, spellsFraction, gapIsBlanks, spellsOffset, backIsBlanks⟩, isAt⟩
    obtain ⟨date, sameYear, sameMonth, sameDay, -⟩ := isAt.minutes
    obtain ⟨first, last, monthAbove, monthBelow, dayAbove, dayBelow⟩ := dateBounds date
    rw [sameYear, firstYear] at first
    rw [sameYear, lastYear] at last
    rw [sameMonth] at monthAbove monthBelow
    rw [sameDay] at dayAbove dayBelow
    have hourLe := Nat.le_of_lt_succ isAt.hour
    have minuteLe := Nat.le_of_lt_succ isAt.minute
    have secondLe : spelling.second ≤ 60 :=
      isAt.second ▸ Nat.le_of_lt_succ instant.clock.second.isLt
    have yearSmall : spelling.year.natAbs ≤ Relaxed.greatestYear := by
      unfold Relaxed.greatestYear
      omega
    have tailStops : Stops (gap ++ (offset ++ back)) := spellsOffset.stops gapIsBlanks back
    have tailNoPoint : (gap ++ (offset ++ back)).head? ≠ some '.' :=
      spellsOffset.noPoint gapIsBlanks back
    have ended : (dropBlanks back).isEmpty = true :=
      List.isEmpty_iff.mpr (List.dropWhile_eq_nil_iff.mpr backIsBlanks)
    rw [readRelaxed,
      Relaxed.yearComplete blanks spellsYear yearSmall (marksYear.stops (by decide) _)]
    simp only [bind, Except.bind,
      Relaxed.markComplete marksYear (show isBlank '-' = false by decide),
      Relaxed.shortComplete spellsMonth monthAbove monthBelow (marksMonth.stops (by decide) _),
      Relaxed.markComplete marksMonth (show isBlank '-' = false by decide),
      Relaxed.shortComplete spellsDay dayAbove dayBelow (endsDate.stops _),
      Relaxed.dateEndComplete endsDate,
      Relaxed.shortComplete spellsHour (Nat.zero_le _) hourLe (marksHour.stops (by decide) _),
      Relaxed.markComplete marksHour (show isBlank ':' = false by decide),
      Relaxed.shortComplete spellsMinute (Nat.zero_le _) minuteLe (marksMinute.stops (by decide) _),
      Relaxed.markComplete marksMinute (show isBlank ':' = false by decide),
      Relaxed.shortComplete spellsSecond (Nat.zero_le _) secondLe (spellsFraction.stops tailStops),
      Relaxed.fractionComplete spellsFraction tailStops tailNoPoint,
      Relaxed.offsetComplete gapIsBlanks spellsOffset back, ended, if_true]
    exact (instantOfIff hourLe minuteLe secondLe spellsFraction.lt).mpr isAt

/-- A text denotes one instant at most. -/
theorem Denotes.unique {other : Instant} (denotes : Denotes text instant)
    (otherDenotes : Denotes text other) : instant = other :=
  Except.ok.inj ((readRelaxedIff.mpr denotes).symm.trans (readRelaxedIff.mpr otherDenotes))

end FleetPanel.Time
