/-
This file shows that a node is served as stale exactly when its last heartbeat is longer ago than
the timeout, however long the timeout and however far the clock.

Every length of time on the way has to fit in a span.
-/

import FleetPanel.Proofs.Api.Served
import FleetPanel.Proofs.Time.Elapsed

namespace FleetPanel.Api

open Exports Fleet Http Time

/-- A length of time that is told apart from longer ones. -/
structure Span where
  nanoseconds : Int
  inRange : -longestTime ≤ nanoseconds ∧ nanoseconds ≤ longestTime
deriving DecidableEq

namespace Span

def of? (nanoseconds : Int) : Option Span :=
  if inRange : -longestTime ≤ nanoseconds ∧ nanoseconds ≤ longestTime then
    some ⟨nanoseconds, inRange⟩
  else none

def zero : Span := ⟨0, by decide⟩

def longest : Span := ⟨longestTime, by decide⟩

def add? (left right : Span) : Option Span :=
  of? (left.nanoseconds + right.nanoseconds)

/-- The span from one instant to another: that between the days, that between the times of day, and
their sum. -/
def between? (later earlier : Instant) : Option Span := do
  let days ← of? ((later.date.number - earlier.date.number) * 86400000000000)
  let clock ← of? (later.clock.since earlier.clock)
  days.add? clock

/-- A number of seconds; the longest span in place of a longer time. -/
def ofSeconds (seconds : Nat) : Span :=
  (of? (seconds * 1000000000)).getD longest

def max (left right : Span) : Span :=
  if left.nanoseconds ≤ right.nanoseconds then right else left

variable {nanoseconds : Int} {later earlier : Instant}

theorem ofRange (inRange : -longestTime ≤ nanoseconds ∧ nanoseconds ≤ longestTime) :
    of? nanoseconds = some ⟨nanoseconds, inRange⟩ :=
  dif_pos inRange

/-- The bounds leave room for the branches in which leap seconds count. -/
theorem timeOfDayBounds (later earlier : Clock) :
    -86403000000000 ≤ later.since earlier ∧ later.since earlier ≤ 86403000000000 := by
  have bounds := clockBounds later
  have earlierBounds := clockBounds earlier
  simp only [Clock.since, Clock.fraction]
  split_ifs <;> omega

theorem daysBounds (later earlier : Date) :
    -191491529 < later.number - earlier.number ∧ later.number - earlier.number < 191491529 := by
  have bounds := later.numberBounds
  have earlierBounds := earlier.numberBounds
  have first : Date.daysBeforeYear firstYear = -95746130 := by decide
  have last : Date.daysBeforeYear (lastYear + 1) = 95745399 := by decide
  omega

/-- Any two instants have a span between them, and it is the whole time between them. -/
theorem betweenSome (later earlier : Instant) :
    ∃ span, between? later earlier = some span ∧ span.nanoseconds = later.since earlier := by
  have clock := timeOfDayBounds later.clock earlier.clock
  have days := daysBounds later.date earlier.date
  have daysRange : -longestTime ≤ (later.date.number - earlier.date.number) * 86400000000000 ∧
      (later.date.number - earlier.date.number) * 86400000000000 ≤ longestTime := by
    rw [longestTime]
    omega
  have clockRange : -longestTime ≤ later.clock.since earlier.clock ∧
      later.clock.since earlier.clock ≤ longestTime := by
    rw [longestTime]
    omega
  have wholeRange : -longestTime ≤ later.since earlier ∧ later.since earlier ≤ longestTime := by
    rw [longestTime, Instant.since]
    omega
  refine ⟨⟨later.since earlier, wholeRange⟩, ?_, rfl⟩
  rw [between?, ofRange daysRange, ofRange clockRange]
  exact ofRange wholeRange

/-- A number of seconds has a span of its own length unless it is longer than the longest. -/
theorem ofSecondsLength (seconds : Nat) :
    (ofSeconds seconds).nanoseconds = staleAfter seconds := by
  rw [ofSeconds, of?, staleAfter]
  split
  · case isTrue inRange => exact (min_eq_left inRange.2).symm
  · case isFalse long =>
      rw [longestTime] at long
      have above : longestTime ≤ seconds * 1000000000 := by
        rw [longestTime]
        omega
      exact (min_eq_right above).symm

theorem maxLength (left right : Span) :
    (left.max right).nanoseconds = Max.max left.nanoseconds right.nanoseconds := by
  rw [Span.max]
  split <;> omega

end Span

/-- A node is stale at an instant when the span since its last heartbeat, or none if that lies
ahead, is longer than that of the timeout. -/
def isStale? (timeout : Nat) (now : Instant) (node : Node) : Option Bool := do
  let elapsed ← Span.between? now node.lastHeartbeatAt
  return (Span.ofSeconds timeout).nanoseconds < (elapsed.max .zero).nanoseconds

/-- The last heartbeat of a node is longer ago than the timeout. -/
def IsOverdue (timeout : Nat) (now : Instant) (node : Node) : Prop :=
  (timeout : Int) * 1000000000 < now.since node.lastHeartbeatAt

instance (timeout : Nat) (now : Instant) (node : Node) : Decidable (IsOverdue timeout now node) :=
  inferInstanceAs (Decidable (_ < _))

variable (timeout : Nat) (now : Instant) (node : Node)

theorem staleEq :
    isStale? timeout now node = some (node.isStale now (staleAfter timeout)) := by
  obtain ⟨elapsed, between, length⟩ := Span.betweenSome now node.lastHeartbeatAt
  rw [isStale?, between, Node.isStale, Node.heartbeatAge, ← length, ← Span.ofSecondsLength]
  change some (decide (_ < (elapsed.max .zero).nanoseconds)) = _
  rw [Span.maxLength]
  rfl

theorem staleIffOverdue :
    node.isStale now (staleAfter timeout) = decide (IsOverdue timeout now node) := by
  obtain ⟨elapsed, -, length⟩ := Span.betweenSome now node.lastHeartbeatAt
  have notLonger := elapsed.inRange.2
  have someTime : 0 ≤ longestTime := by decide
  rw [Node.isStale, Node.heartbeatAge]
  apply decide_eq_decide.mpr
  rw [staleAfter, IsOverdue, ← length]
  omega

/-- A value shows of a node whether it is overdue. -/
def ShowsOverdue (value : Json) : Prop :=
  value.get? "heartbeatStale" = some (.boolean (decide (IsOverdue timeout now node)))

theorem overdueOfView : ShowsOverdue timeout now node (nodeView timeout now node) := by
  rw [ShowsOverdue, memberOfView, ← staleIffOverdue]
  rfl

/-- A request for a node that is listed is answered by its view. -/
theorem fetchedNode (context : Context) (site? : Option Site) {path : String} (query : List Char)
    {snapshot : Snapshot} {encoded : List Char} {id : String} {node : Node}
    (routed : Route.ofPath? path.toList = some (.node encoded)) (named : idOf encoded = .ok id)
    (found : snapshot.findNode? id = some node) :
    fetched context site? path query snapshot =
      .json (nodeView context.timeout (context.clock 0) node) := by
  simp only [fetched, answer, routed]
  change (find encoded _).alone snapshot = _
  simp only [find, named, Reading.see, Reading.alone, found, Option.map_some]

/-- Whatever the timeout and the clock, no span on the way to a verdict is missing, and a node is
served as stale, among all nodes and alone, exactly when it is overdue by what the clock showed as
it was read for the node. -/
theorem servedStaleIffOverdue (context : Context) (snapshot : Snapshot) :
    (∀ now node, isStale? context.timeout now node =
      some (decide (IsOverdue context.timeout now node))) ∧
    (∀ site? query, ∃ items,
      fetched context site? "/api/nodes" query snapshot = .json (.array items) ∧
      items.length = snapshot.nodes.length ∧
      ∀ place node, snapshot.nodes[place]? = some node → ∃ value, items[place]? = some value ∧
        ShowsOverdue context.timeout (context.clock place) node value) ∧
    ∀ site? path query encoded id node,
      Route.ofPath? path.toList = some (.node encoded) → idOf encoded = .ok id →
      snapshot.findNode? id = some node →
      ∃ value, fetched context site? path query snapshot = .json value ∧
        ShowsOverdue context.timeout (context.clock 0) node value := by
  refine ⟨fun now node => ?_, fun site? query => ?_, ?_⟩
  · rw [staleEq, staleIffOverdue]
  · refine ⟨_, fetchedNodes context site? query snapshot, List.length_mapIdx, ?_⟩
    intro place node listed
    exact ⟨_, by rw [viewAt, listed]; rfl, overdueOfView context.timeout _ node⟩
  · intro site? path query encoded id node routed named found
    exact ⟨_, fetchedNode context site? query routed named found,
      overdueOfView context.timeout _ node⟩

def firstInstant : Instant :=
  ⟨⟨-262143, 1, 1, by decide⟩, .ofNumbers 0 0 0 0⟩

def lastInstant : Instant :=
  ⟨⟨262142, 12, 31, by decide⟩, .ofNumbers 23 59 60 999999999⟩

def firstNode : Node :=
  ⟨"n", "n", "r", .online, false, 2, 1, firstInstant, "1", "", ""⟩

/-- From the first instant to the last a node becomes stale for a timeout that is a fraction of a
second shorter, and not for the longest that a word of 64 bits holds. -/
theorem firstNodeServedStale :
    ∃ value longest,
      fetched (.still lastInstant 16544868105600) none "/api/nodes/n" []
        ⟨[firstNode], [], []⟩ = .json value ∧
      value.get? "heartbeatStale" = some (.boolean true) ∧
      fetched (.still lastInstant 18446744073709551615) none "/api/nodes/n" []
        ⟨[firstNode], [], []⟩ = .json longest ∧
      longest.get? "heartbeatStale" = some (.boolean false) := by
  have routed : Route.ofPath? "/api/nodes/n".toList = some (.node ['n']) := by decide +kernel
  have named : idOf ['n'] = .ok "n" := rfl
  have found : Snapshot.findNode? ⟨[firstNode], [], []⟩ "n" = some firstNode := by decide +kernel
  obtain ⟨value, answered, stale⟩ :=
    (servedStaleIffOverdue (.still lastInstant 16544868105600) ⟨[firstNode], [], []⟩).2.2
      none "/api/nodes/n" [] _ _ _ routed named found
  obtain ⟨longest, alsoAnswered, fresh⟩ :=
    (servedStaleIffOverdue (.still lastInstant 18446744073709551615) ⟨[firstNode], [], []⟩).2.2
      none "/api/nodes/n" [] _ _ _ routed named found
  have overdue : decide (IsOverdue 16544868105600 lastInstant firstNode) = true := by
    decide +kernel
  have notOverdue : decide (IsOverdue 18446744073709551615 lastInstant firstNode) = false := by
    decide +kernel
  refine ⟨value, longest, answered, ?_, alsoAnswered, ?_⟩
  · exact stale.trans (congrArg (fun verdict => some (Json.boolean verdict)) overdue)
  · exact fresh.trans (congrArg (fun verdict => some (Json.boolean verdict)) notOverdue)

end FleetPanel.Api
