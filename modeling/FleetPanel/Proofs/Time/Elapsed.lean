/-
This file gives the time between two instants as a difference on one line of nanoseconds, but for a
second that is missing while the clock shows a time of day up to that of an earlier leap second.
-/

import FleetPanel.Proofs.Time.Calendar

namespace FleetPanel.Time

variable {instant earlier later now : Instant} {clock : Clock}

/-- The parts of an instant, from the greatest to the least. -/
def Instant.parts (instant : Instant) : List Int :=
  [instant.date.year, instant.date.month, instant.date.day, instant.clock.hour.val,
    instant.clock.minute.val, instant.clock.second.val, instant.clock.nanosecond.val]

/-- Instants are in the order of their parts. -/
instance : LE Instant where
  le earlier later := ¬later.parts < earlier.parts

/-- The nanoseconds up to an instant. A leap second shares the nanoseconds of the second before. -/
def Instant.nanoseconds (instant : Instant) : Int :=
  86400000000000 * instant.date.number + 1000000000 * instant.clock.secondOfDay +
    instant.clock.nanosecond.val

theorem clockBounds (clock : Clock) : 0 ≤ clock.secondOfDay ∧ clock.secondOfDay ≤ 86399 ∧
    clock.nanosecond.val < 1000000000 := by
  have hourLt := clock.hour.isLt
  have minuteLt := clock.minute.isLt
  have nanosecondLt := clock.nanosecond.isLt
  rw [Clock.secondOfDay]
  omega

theorem secondLtOfOrdinary (notLeap : clock.isLeap = false) : clock.second.val < 60 := by
  have notSixty : clock.second.val ≠ 60 := fun sixty => by
    have leap : clock.second = 60 := Fin.ext sixty
    simp [Clock.isLeap, leap] at notLeap
  have := clock.second.isLt
  omega

theorem secondOfDayOfOrdinary (notLeap : clock.isLeap = false) :
    clock.secondOfDay =
      3600 * (clock.hour.val : Int) + 60 * clock.minute.val + clock.second.val := by
  have := secondLtOfOrdinary notLeap
  rw [Clock.secondOfDay]
  omega

theorem secondOfDayOfSame (same : earlier.nanoseconds = later.nanoseconds) :
    earlier.clock.secondOfDay = later.clock.secondOfDay := by
  have bounds := clockBounds earlier.clock
  have laterBounds := clockBounds later.clock
  simp only [Instant.nanoseconds] at same
  omega

/-- Instants in order are in order on the line of nanoseconds. -/
theorem nanosecondsMono (notLeap : earlier.clock.isLeap = false)
    (laterNotLeap : later.clock.isLeap = false) (ordered : earlier ≤ later) :
    earlier.nanoseconds ≤ later.nanoseconds := by
  by_contra behind
  refine ordered ?_
  have bounds := clockBounds earlier.clock
  have laterBounds := clockBounds later.clock
  simp only [Instant.nanoseconds] at behind
  simp only [Instant.parts, List.cons_lt_cons_iff, List.not_lt_nil, and_false, or_false]
  rcases lt_trichotomy later.date.number earlier.date.number with before | same | after
  · rw [Date.numberLtIff] at before
    omega
  · have second := secondLtOfOrdinary notLeap
    have laterSecond := secondLtOfOrdinary laterNotLeap
    rw [Date.numberInjective same] at behind ⊢
    rw [secondOfDayOfOrdinary notLeap, secondOfDayOfOrdinary laterNotLeap] at behind
    omega
  · omega

/-- The clock goes from the last second of a day into the first of the next, within a second. -/
structure PassesMidnight (earlier later : Instant) : Prop where
  lastSecond : earlier.clock.secondOfDay = 86399
  nextDay : earlier.date.next? = some later.date
  firstSecond : later.clock.secondOfDay = 0
  sooner : later.clock.nanosecond < earlier.clock.nanosecond

/-- Within a second the time of day falls at midnight only. -/
theorem passesMidnightIff (inOrder : earlier.nanoseconds ≤ later.nanoseconds) :
    PassesMidnight earlier later ↔
      later.clock.secondOfDay < earlier.clock.secondOfDay ∧
        later.nanoseconds < earlier.nanoseconds + 1000000000 := by
  have bounds := clockBounds earlier.clock
  have laterBounds := clockBounds later.clock
  simp only [Instant.nanoseconds] at inOrder ⊢
  constructor
  · rintro ⟨lastSecond, nextDay, firstSecond, sooner⟩
    rw [Date.nextIff] at nextDay
    rw [Fin.lt_def] at sooner
    omega
  · rintro ⟨falls, soon⟩
    refine ⟨by omega, Date.nextIff.2 (by omega), by omega, Fin.lt_def.2 (by omega)⟩

/-- The time since an instant. Since a leap second it is a second short while the clock shows a time
of day up to that second, on the same day and on every other. -/
theorem sinceEq (notLeap : now.clock.isLeap = false) :
    now.since earlier = now.nanoseconds - earlier.nanoseconds -
      if earlier.clock.isLeap = true ∧ now.clock.secondOfDay ≤ earlier.clock.secondOfDay then
        1000000000 else 0 := by
  simp only [Instant.since, Clock.since, Clock.fraction, Instant.nanoseconds, notLeap]
  cases earlier.clock.isLeap with
  | false =>
      simp only [Bool.and_false, Bool.false_eq_true, false_and, if_false]
      omega
  | true =>
      rcases lt_or_ge earlier.clock.secondOfDay now.clock.secondOfDay with passed | ahead
      · have notAhead : ¬now.clock.secondOfDay ≤ earlier.clock.secondOfDay := by omega
        simp only [passed, notAhead, decide_true, Bool.and_true, Bool.false_eq_true, and_false,
          if_true, if_false]
        omega
      · have notPassed : ¬earlier.clock.secondOfDay < now.clock.secondOfDay := by omega
        simp only [ahead, notPassed, decide_false, Bool.false_and, Bool.and_false,
          Bool.false_eq_true, and_self, if_true, if_false]
        omega

end FleetPanel.Time
