/-
This file counts minutes. The instant that a local time denotes lies as many minutes before the
local time as the local clock runs ahead, across days, months and years.
-/

import FleetPanel.Proofs.Time.Calendar

namespace FleetPanel.Time

variable {date : Date} {clock : Clock} {ahead total : Int} {instant other : Instant}

/-- The minutes up to a date and a time of day. -/
def minutesOf (date : Date) (clock : Clock) : Int :=
  1440 * date.number + 60 * (clock.hour.val : Int) + clock.minute.val

def Instant.minutes (instant : Instant) : Int :=
  minutesOf instant.date instant.clock

/-- An instant is known from its minute, its second and its nanosecond. -/
theorem Instant.extOfMinutes (minutes : instant.minutes = other.minutes)
    (second : instant.clock.second = other.clock.second)
    (nanosecond : instant.clock.nanosecond = other.clock.nanosecond) : instant = other := by
  obtain ⟨date, hour, minute, _, _⟩ := instant
  obtain ⟨otherDate, otherHour, otherMinute, _, _⟩ := other
  simp only [Instant.minutes, minutesOf] at minutes
  have hourLt := hour.isLt
  have otherHourLt := otherHour.isLt
  have minuteLt := minute.isLt
  have otherMinuteLt := otherMinute.isLt
  obtain rfl : date = otherDate := Date.numberInjective (by omega)
  obtain rfl : hour = otherHour := Fin.ext (by omega)
  obtain rfl : minute = otherMinute := Fin.ext (by omega)
  cases second
  cases nanosecond
  rfl

/-- The date that so many minutes after the beginning of a date fall on, up to a day before and a
day behind it. -/
theorem shiftedDateIff (date later : Date) (after : -1440 ≤ total) (before : total < 2880) :
    (if total < 0 then date.previous? else if 1440 ≤ total then date.next? else some date) =
        some later ↔ later.number = date.number + total / 1440 := by
  split
  · rw [Date.previousIff]
    omega
  · split
    · rw [Date.nextIff]
      omega
    · constructor
      · rintro ⟨⟩
        omega
      · exact fun same => congrArg some (Date.numberInjective (by omega))

/-- The date moves apart from the time of day, whose second and nanosecond stay. -/
theorem ofLocalShifted (made : 60 * (clock.hour.val : Int) + clock.minute.val - ahead = total) :
    Instant.ofLocal? date clock ahead =
      (if total < 0 then date.previous? else if 1440 ≤ total then date.next? else some date).map
        fun later => ⟨later, { clock with
          hour := Fin.ofNat 24 (total % 1440 / 60).toNat
          minute := Fin.ofNat 60 (total % 1440 % 60).toNat }⟩ := by
  subst made
  simp only [Instant.ofLocal?, bind, Option.bind, pure]
  split
  · cases date.previous? <;> rfl
  · split
    · cases date.next? <;> rfl
    · rfl

/-- A local time denotes an instant if and only if that lies `ahead` minutes before it, at the same
second and nanosecond. -/
theorem ofLocalIff (small : ahead.natAbs < 1440) :
    Instant.ofLocal? date clock ahead = some instant ↔
      instant.minutes = minutesOf date clock - ahead ∧
        instant.clock.second = clock.second ∧ instant.clock.nanosecond = clock.nanosecond := by
  have hourLt := clock.hour.isLt
  have minuteLt := clock.minute.isLt
  obtain ⟨total, made⟩ : ∃ total, 60 * (clock.hour.val : Int) + clock.minute.val - ahead = total :=
    ⟨_, rfl⟩
  have shifted (later : Date) :=
    shiftedDateIff date later (show -1440 ≤ total by omega) (by omega)
  have minutesSame : minutesOf date clock - ahead = 1440 * date.number + total := by
    rw [minutesOf]
    omega
  simp only [minutesSame, ofLocalShifted made, Option.map_eq_some_iff, shifted]
  have hourSame : ((Fin.ofNat 24 (total % 1440 / 60).toNat).val : Int) = total % 1440 / 60 := by
    simp only [Fin.ofNat]
    omega
  have minuteSame : ((Fin.ofNat 60 (total % 1440 % 60).toNat).val : Int) = total % 60 := by
    simp only [Fin.ofNat]
    omega
  constructor
  · rintro ⟨later, numbered, rfl⟩
    refine ⟨?_, rfl, rfl⟩
    simp only [Instant.minutes, minutesOf, hourSame, minuteSame, numbered]
    omega
  · rintro ⟨minutes, second, nanosecond⟩
    have otherHourLt := instant.clock.hour.isLt
    have otherMinuteLt := instant.clock.minute.isLt
    have numbered : instant.date.number = date.number + total / 1440 := by
      rw [Instant.minutes, minutesOf] at minutes
      omega
    refine ⟨instant.date, numbered, Instant.extOfMinutes ?_ second.symm nanosecond.symm⟩
    rw [minutes]
    simp only [Instant.minutes, minutesOf, hourSame, minuteSame, numbered]
    omega

end FleetPanel.Time
