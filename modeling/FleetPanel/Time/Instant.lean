/-
This file holds instants in UTC and the time between them.

A sixtieth second is a leap second. It counts in the time between two instants only when the other
instant stands on the far side of it by the time of day.
-/

import FleetPanel.Time.Date

namespace FleetPanel.Time

/-- A time of day; its second may be the sixtieth, a leap second. -/
structure Clock where
  hour : Fin 24
  minute : Fin 60
  second : Fin 61
  nanosecond : Fin 1000000000
deriving DecidableEq

namespace Clock

/-- The time of day that some numbers make; each starts again from zero at its bound. -/
def ofNumbers (hour minute second nanosecond : Nat) : Clock :=
  ⟨Fin.ofNat 24 hour, Fin.ofNat 60 minute, Fin.ofNat 61 second, Fin.ofNat 1000000000 nanosecond⟩

def isLeap (clock : Clock) : Bool :=
  clock.second == 60

/-- The second of the day; a leap second shares the number of the second before it. -/
def secondOfDay (clock : Clock) : Int :=
  3600 * (clock.hour.val : Int) + 60 * (clock.minute.val : Int) + min (clock.second.val : Int) 59

/-- The nanoseconds since the beginning of `secondOfDay`. -/
def fraction (clock : Clock) : Int :=
  clock.nanosecond.val + (if clock.isLeap then 1000000000 else 0)

/-- The nanoseconds from one time of day to another. -/
def since (later earlier : Clock) : Int :=
  let seconds := later.secondOfDay - earlier.secondOfDay
  let leap :=
    if earlier.secondOfDay < later.secondOfDay && earlier.isLeap then 1
    else if later.secondOfDay < earlier.secondOfDay && later.isLeap then -1
    else 0
  (seconds + leap) * 1000000000 + (later.fraction - earlier.fraction)

end Clock

/-- A date and a time of day in UTC. -/
structure Instant where
  date : Date
  clock : Clock
deriving DecidableEq

namespace Instant

/-- The nanoseconds from one instant to another. -/
def since (later earlier : Instant) : Int :=
  (later.date.number - earlier.date.number) * 86400000000000 + later.clock.since earlier.clock

/-- The instant that a local date and time denote, with the minutes by which the local clock runs
ahead of UTC; `none` outside the span of dates. -/
def ofLocal? (date : Date) (clock : Clock) (ahead : Int) : Option Instant := do
  let minutes := 60 * (clock.hour.val : Int) + clock.minute.val - ahead
  let shifted := minutes % 1440
  let hour := Fin.ofNat 24 (shifted / 60).toNat
  let minute := Fin.ofNat 60 (shifted % 60).toNat
  let date ←
    if minutes < 0 then date.previous?
    else if 1440 ≤ minutes then date.next?
    else some date
  return ⟨date, { clock with hour, minute }⟩

end Instant

end FleetPanel.Time
