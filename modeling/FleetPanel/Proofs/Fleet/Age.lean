/-
This file says exactly when a stale node ceases to be stale without a new heartbeat: at a midnight
after a heartbeat in a leap second, when its age falls back by less than a second.
-/

import FleetPanel.Proofs.Fleet.Written
import FleetPanel.Proofs.Time.Elapsed

namespace FleetPanel.Fleet

open Time

variable {earlier later : Instant}

/-- The clock passes a midnight after a heartbeat in a leap second that is not the last of its
day. -/
structure SlipsBack (heartbeat earlier later : Instant) : Prop where
  leap : heartbeat.clock.isLeap = true
  withinDay : heartbeat.clock.secondOfDay < 86399
  since : heartbeat.date.number ≤ earlier.date.number
  midnight : PassesMidnight earlier later

/-- What the clock counted for a leap second is lost where the time of day falls below it. -/
theorem slipsBackIff (inOrder : earlier.nanoseconds ≤ later.nanoseconds) {heartbeat : Instant} :
    SlipsBack heartbeat earlier later ↔
      heartbeat.clock.isLeap = true ∧ heartbeat.nanoseconds < earlier.nanoseconds ∧
        heartbeat.clock.secondOfDay < earlier.clock.secondOfDay ∧
        later.clock.secondOfDay ≤ heartbeat.clock.secondOfDay ∧
        later.nanoseconds < earlier.nanoseconds + 1000000000 := by
  have midnightIff := passesMidnightIff inOrder
  have heartbeatBounds := clockBounds heartbeat.clock
  have beforeIff (ahead : heartbeat.clock.secondOfDay < earlier.clock.secondOfDay) :
      heartbeat.nanoseconds < earlier.nanoseconds ↔
        heartbeat.date.number ≤ earlier.date.number := by
    have bounds := clockBounds earlier.clock
    simp only [Instant.nanoseconds]
    omega
  constructor
  · rintro ⟨leap, withinDay, since, midnight⟩
    have passed : heartbeat.clock.secondOfDay < earlier.clock.secondOfDay := by
      rwa [midnight.lastSecond]
    refine ⟨leap, (beforeIff passed).2 since, passed, ?_, (midnightIff.1 midnight).2⟩
    rw [midnight.firstSecond]
    exact heartbeatBounds.1
  · rintro ⟨leap, before, passed, ahead, soon⟩
    have midnight := midnightIff.2 ⟨by omega, soon⟩
    exact ⟨leap, midnight.lastSecond ▸ passed, (beforeIff passed).1 before, midnight⟩

/-- The age of a heartbeat falls back exactly there. -/
theorem ageFallsIff (node : Node) (notLeap : earlier.clock.isLeap = false)
    (laterNotLeap : later.clock.isLeap = false)
    (inOrder : earlier.nanoseconds ≤ later.nanoseconds) :
    node.heartbeatAge later < node.heartbeatAge earlier ↔
      SlipsBack node.lastHeartbeatAt earlier later := by
  rw [slipsBackIff inOrder, Node.heartbeatAge, Node.heartbeatAge, sinceEq notLeap,
    sinceEq laterNotLeap]
  cases node.lastHeartbeatAt.clock.isLeap with
  | false =>
      simp only [Bool.false_eq_true, false_and, if_false, iff_false]
      omega
  | true =>
      simp only [true_and]
      split <;> split <;> omega

/-- It falls back by less than a second. -/
theorem ageFallsShort (node : Node) (notLeap : earlier.clock.isLeap = false)
    (laterNotLeap : later.clock.isLeap = false)
    (inOrder : earlier.nanoseconds ≤ later.nanoseconds) :
    node.heartbeatAge earlier < node.heartbeatAge later + 1000000000 := by
  -- A whole second is lost only between two moments, so some time has passed to make up for it.
  have apart (falls : later.clock.secondOfDay < earlier.clock.secondOfDay) :
      earlier.nanoseconds < later.nanoseconds :=
    lt_of_le_of_ne inOrder fun same => falls.ne (secondOfDayOfSame same).symm
  rw [Node.heartbeatAge, Node.heartbeatAge, sinceEq notLeap, sinceEq laterNotLeap]
  cases node.lastHeartbeatAt.clock.isLeap with
  | false =>
      simp only [Bool.false_eq_true, false_and, if_false]
      omega
  | true =>
      simp only [true_and]
      split <;> split <;> omega

/-- While the clock runs on, a node that is stale stays stale, unless the clock passes a midnight
after a heartbeat in a leap second; there its age falls back by less than a second, and it ceases to
be stale if the timeout lies between the two ages. -/
theorem staleStaysUnlessItSlipsBack (node : Node) (earlier later : Instant)
    (notLeap : earlier.clock.isLeap = false) (laterNotLeap : later.clock.isLeap = false)
    (ordered : earlier ≤ later) :
    (node.heartbeatAge later < node.heartbeatAge earlier ↔
      SlipsBack node.lastHeartbeatAt earlier later) ∧
    node.heartbeatAge earlier < node.heartbeatAge later + 1000000000 ∧
    ∀ timeout,
      (node.isStale earlier timeout = true ∧ node.isStale later timeout = false ↔
        SlipsBack node.lastHeartbeatAt earlier later ∧
          node.heartbeatAge later ≤ timeout ∧ timeout < node.heartbeatAge earlier) := by
  have inOrder := nanosecondsMono notLeap laterNotLeap ordered
  have fallsIff := ageFallsIff node notLeap laterNotLeap inOrder
  refine ⟨fallsIff, ageFallsShort node notLeap laterNotLeap inOrder, fun timeout => ?_⟩
  simp only [Node.isStale, decide_eq_true_eq, decide_eq_false_iff_not, not_lt]
  constructor
  · rintro ⟨stale, fresh⟩
    exact ⟨fallsIff.1 (lt_of_le_of_lt fresh stale), fresh, stale⟩
  · rintro ⟨-, fresh, stale⟩
    exact ⟨stale, fresh⟩

/-- A node whose last heartbeat came in a leap second, a minute before midnight. -/
def leapNode : Node :=
  ⟨"n", "n", "r", .online, false, 2, 1,
    ⟨⟨2026, 6, 30, by decide⟩, .ofNumbers 23 58 60 500000000⟩, "1", "", ""⟩

def beforeMidnight : Instant :=
  ⟨⟨2026, 6, 30, by decide⟩, .ofNumbers 23 59 59 900000000⟩

def afterMidnight : Instant :=
  ⟨⟨2026, 7, 1, by decide⟩, .ofNumbers 0 0 0 200000000⟩

theorem minuteOldNodeCeasesToBeStale :
    Node.ofJson leapNode.toJson = .ok leapNode ∧ beforeMidnight ≤ afterMidnight ∧
      leapNode.isStale beforeMidnight 60000000000 = true ∧
      leapNode.isStale afterMidnight 60000000000 = false := by
  have ordered : beforeMidnight ≤ afterMidnight := by
    change ¬afterMidnight.parts < beforeMidnight.parts
    decide
  have slipsBack : SlipsBack leapNode.lastHeartbeatAt beforeMidnight afterMidnight :=
    ⟨by decide, by decide, by decide, by decide, by decide, by decide, by decide⟩
  obtain ⟨-, -, ceases⟩ := staleStaysUnlessItSlipsBack leapNode beforeMidnight afterMidnight
    (by decide) (by decide) ordered
  exact ⟨leapNode.readBack, ordered,
    (ceases 60000000000).2 ⟨slipsBack, by decide, by decide⟩⟩

end FleetPanel.Fleet
