/-
This file says which texts spell a timestamp and which instant a text denotes.
-/

import FleetPanel.Proofs.Time.Shift

namespace FleetPanel.Time

open Text
open Amount.Numeral (Stops stopsOfMark)

/-- The numbers that are written in a timestamp, and the minutes of its offset. -/
structure Spelling where
  year : Int
  month : Nat
  day : Nat
  hour : Nat
  minute : Nat
  second : Nat
  nanosecond : Nat
  ahead : Int

namespace Spelling

def IsBlanks (text : List Char) : Prop :=
  ∀ character ∈ text, isBlank character = true

/-- Up to four digits, or a sign and any number of digits. -/
inductive Year : List Char → Int → Prop where
  | bare {digits : List Char} (isDigits : IsDigits digits) (filled : digits ≠ [])
      (short : digits.length ≤ 4) : Year digits (numberOf digits)
  | negative {digits : List Char} (isDigits : IsDigits digits) (filled : digits ≠ []) :
      Year ('-' :: digits) (-numberOf digits)
  | positive {digits : List Char} (isDigits : IsDigits digits) (filled : digits ≠ []) :
      Year ('+' :: digits) (numberOf digits)

/-- One or two digits, after blanks. -/
inductive Short : List Char → Nat → Prop where
  | mk {front digits : List Char} (blanks : IsBlanks front) (isDigits : IsDigits digits)
      (filled : digits ≠ []) (short : digits.length ≤ 2) : Short (front ++ digits) (numberOf digits)

/-- A mark, after blanks. -/
inductive Mark (mark : Char) : List Char → Prop where
  | mk {front : List Char} (blanks : IsBlanks front) : Mark mark (front ++ [mark])

/-- What stands between a date and a time. -/
inductive DateEnd : Char → Prop where
  | upper : DateEnd 'T'
  | lower : DateEnd 't'
  | space : DateEnd ' '

/-- A fraction of a second in whole nanoseconds. -/
inductive Fraction : List Char → Nat → Prop where
  | none : Fraction [] 0
  | pointed {digits : List Char} (isDigits : IsDigits digits) (filled : digits ≠ []) :
      Fraction ('.' :: digits) (10 ^ 9 * numberOf digits / 10 ^ digits.length)

/-- Two digits each for the hours and the minutes of an offset, in minutes. -/
inductive Magnitude : List Char → Int → Prop where
  | mk {hours separators minutes : List Char} (hoursAreDigits : IsDigits hours)
      (hoursAreTwo : hours.length = 2)
      (separate : ∀ character ∈ separators, Relaxed.isOffsetSeparator character = true)
      (minutesAreDigits : IsDigits minutes) (minutesAreTwo : minutes.length = 2)
      (few : numberOf minutes < 60) :
      Magnitude (hours ++ separators ++ minutes) (60 * numberOf hours + numberOf minutes)

/-- The minutes by which a local clock runs ahead of UTC. -/
inductive Offset : List Char → Int → Prop where
  | upper : Offset ['Z'] 0
  | lower : Offset ['z'] 0
  | named {name : List Char} (named : name.map Char.toUpper = ['U', 'T', 'C']) : Offset name 0
  | ahead {text : List Char} {minutes : Int} (magnitude : Magnitude text minutes) :
      Offset ('+' :: text) minutes
  | behind {sign : Char} {text : List Char} {minutes : Int} (minus : sign = '-' ∨ sign = '\u2212')
      (magnitude : Magnitude text minutes) : Offset (sign :: text) (-minutes)

/-- A whole timestamp, in the order of its parts. -/
inductive Spells : List Char → Spelling → Prop where
  | mk {spelling : Spelling} {front year yearMark month monthMark day hour hourMark minute
      minuteMark second fraction gap offset back : List Char} {dateEnd : Char}
      (blanks : IsBlanks front) (spellsYear : Year year spelling.year)
      (marksYear : Mark '-' yearMark) (spellsMonth : Short month spelling.month)
      (marksMonth : Mark '-' monthMark) (spellsDay : Short day spelling.day)
      (endsDate : DateEnd dateEnd) (spellsHour : Short hour spelling.hour)
      (marksHour : Mark ':' hourMark) (spellsMinute : Short minute spelling.minute)
      (marksMinute : Mark ':' minuteMark) (spellsSecond : Short second spelling.second)
      (spellsFraction : Fraction fraction spelling.nanosecond) (gapIsBlanks : IsBlanks gap)
      (spellsOffset : Offset offset spelling.ahead) (backIsBlanks : IsBlanks back) :
      Spells (front ++ (year ++ (yearMark ++ (month ++ (monthMark ++ (day ++ (dateEnd ::
        (hour ++ (hourMark ++ (minute ++ (minuteMark ++ (second ++ (fraction ++
          (gap ++ (offset ++ back))))))))))))))) spelling

/-- The local time that is written lies at an instant: in UTC it is so many minutes earlier as the
local clock runs ahead. -/
structure IsAt (spelling : Spelling) (instant : Instant) : Prop where
  hour : spelling.hour < 24
  minute : spelling.minute < 60
  offset : spelling.ahead.natAbs < 1440
  minutes : ∃ date : Date, date.year = spelling.year ∧ date.month = spelling.month ∧
    date.day = spelling.day ∧ instant.minutes =
      1440 * date.number + 60 * (spelling.hour : Int) + spelling.minute - spelling.ahead
  second : instant.clock.second.val = spelling.second
  nanosecond : instant.clock.nanosecond.val = spelling.nanosecond

end Spelling

/-- A text denotes an instant, whichever way it is spelled. -/
def Denotes (text : List Char) (instant : Instant) : Prop :=
  ∃ spelling, Spelling.Spells text spelling ∧ spelling.IsAt instant

open Spelling

variable {text front found rest : List Char} {mark : Char} {nanosecond : Nat} {ahead : Int}
  {instant : Instant}

theorem blankIsNoDigit (blank : isBlank mark = true) : mark.isDigit = false := by
  by_contra isDigit
  have visible := notBlankOfDigit (by simpa using isDigit)
  rw [visible] at blank
  cases blank

/-- What stands behind blanks decides whether digits go on. -/
theorem stopsBehindBlanks (blanks : IsBlanks front) (stops : Stops rest) :
    Stops (front ++ rest) := by
  cases front with
  | nil => exact stops
  | cons blank front => exact stopsOfMark (blankIsNoDigit (blanks blank List.mem_cons_self)) _

theorem Spelling.Mark.stops (marked : Mark mark text) (noDigit : mark.isDigit = false)
    (rest : List Char) : Stops (text ++ rest) := by
  obtain ⟨blanks⟩ := marked
  rw [List.append_assoc]
  exact stopsBehindBlanks blanks (stopsOfMark noDigit _)

theorem upperU {character : Char} (upper : character.toUpper = 'U') :
    character = 'U' ∨ character = 'u' := by
  unfold Char.toUpper at upper
  split at upper
  · right
    have shifted := Char.ext_iff.mp upper
    dsimp only at shifted
    have code : character.val = 'U'.val - ('A'.val - 'a'.val) := by
      rw [← shifted]
      exact (UInt32.add_sub_cancel _ _).symm
    exact Char.ext (code.trans (by decide))
  · exact .inl upper

/-- An offset begins with a character that is no blank, no digit and no point. -/
theorem Spelling.Offset.first (spells : Offset found ahead) :
    ∃ character more, found = character :: more ∧ isBlank character = false ∧
      character.isDigit = false ∧ character ≠ '.' := by
  cases spells with
  | upper => exact ⟨_, _, rfl, by decide⟩
  | lower => exact ⟨_, _, rfl, by decide⟩
  | named named =>
      obtain ⟨first, more, rfl, upper, -⟩ := List.map_eq_cons_iff.mp named
      refine ⟨_, _, rfl, ?_⟩
      rcases upperU upper with rfl | rfl <;> decide
  | ahead _ => exact ⟨_, _, rfl, by decide⟩
  | behind minus _ =>
      refine ⟨_, _, rfl, ?_⟩
      rcases minus with rfl | rfl <;> decide

theorem Spelling.Offset.stops (spells : Offset found ahead) (blanks : IsBlanks front)
    (rest : List Char) : Stops (front ++ (found ++ rest)) := by
  obtain ⟨first, more, rfl, -, noDigit, -⟩ := spells.first
  exact stopsBehindBlanks blanks (stopsOfMark noDigit _)

theorem Spelling.Offset.noPoint (spells : Offset found ahead) (blanks : IsBlanks front)
    (rest : List Char) : (front ++ (found ++ rest)).head? ≠ some '.' := by
  obtain ⟨first, more, rfl, -, -, noPoint⟩ := spells.first
  cases front with
  | nil => exact fun same => noPoint (Option.some.inj same)
  | cons blank front =>
      intro same
      have isBlank := blanks blank List.mem_cons_self
      rw [Option.some.inj same] at isBlank
      exact absurd isBlank (by decide)

theorem Spelling.Fraction.stops (spells : Fraction found nanosecond) (stops : Stops rest) :
    Stops (found ++ rest) := by
  cases spells with
  | none => exact stops
  | pointed _ _ => exact stopsOfMark (by decide) _

theorem Spelling.DateEnd.stops (ends : DateEnd mark) (rest : List Char) : Stops (mark :: rest) := by
  cases ends <;> exact stopsOfMark (by decide) _

theorem Spelling.Fraction.lt (spells : Fraction found nanosecond) : nanosecond < 10 ^ 9 := by
  cases spells with
  | none => decide
  | pointed isDigits _ =>
      rw [Nat.div_lt_iff_lt_mul (Nat.pow_pos (by decide))]
      exact Nat.mul_lt_mul_of_pos_left (numberOfLt isDigits) (by decide)

/-- The parts of a timestamp form the instant that they lie at. -/
theorem instantOfIff {spelling : Spelling} (hour : spelling.hour ≤ 23)
    (minute : spelling.minute ≤ 59) (second : spelling.second ≤ 60)
    (few : spelling.nanosecond < 10 ^ 9) :
    instantOf spelling.year spelling.month spelling.day spelling.hour spelling.minute
        spelling.second spelling.nanosecond spelling.ahead = .ok instant ↔
      spelling.IsAt instant := by
  obtain ⟨clock, made⟩ : ∃ clock, Clock.ofNumbers spelling.hour spelling.minute spelling.second
    spelling.nanosecond = clock := ⟨_, rfl⟩
  have hourSame : clock.hour.val = spelling.hour := made ▸ Nat.mod_eq_of_lt (by omega)
  have minuteSame : clock.minute.val = spelling.minute := made ▸ Nat.mod_eq_of_lt (by omega)
  have secondSame : clock.second.val = spelling.second := made ▸ Nat.mod_eq_of_lt (by omega)
  have nanosecondSame : clock.nanosecond.val = spelling.nanosecond := made ▸ Nat.mod_eq_of_lt few
  rw [instantOf, made]
  constructor
  · intro formed
    split at formed
    · cases formed
    · case isFalse near =>
      split at formed
      · cases formed
      · case h_2 date found =>
        obtain ⟨year, month, day⟩ := Date.ofSome found
        split at formed
        · case h_1 other shifted =>
          cases formed
          obtain ⟨minutes, sameSecond, sameNanosecond⟩ := (ofLocalIff (by omega)).mp shifted
          refine ⟨by omega, by omega, by omega, ⟨date, year, month, day, ?_⟩, ?_, ?_⟩
          · rw [minutes, minutesOf, hourSame, minuteSame]
          · rw [sameSecond, secondSame]
          · rw [sameNanosecond, nanosecondSame]
        · cases formed
  · rintro ⟨-, -, near, ⟨date, year, month, day, minutes⟩, sameSecond, sameNanosecond⟩
    have found : Date.of? spelling.year spelling.month spelling.day = some date := by
      rw [← year, ← month, ← day]
      exact dif_pos date.exists_
    have shifted : Instant.ofLocal? date clock spelling.ahead = some instant := by
      refine (ofLocalIff near).mpr ⟨?_, Fin.ext ?_, Fin.ext ?_⟩
      · rw [minutes, minutesOf, hourSame, minuteSame]
      · rw [sameSecond, secondSame]
      · rw [sameNanosecond, nanosecondSame]
    rw [if_neg (by omega), found]
    simp only [shifted]

end FleetPanel.Time
