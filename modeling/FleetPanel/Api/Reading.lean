/-
This file holds computations that look at the current snapshot. Between two looks the snapshot may
have been replaced.
-/

import FleetPanel.Exports.Snapshot

namespace FleetPanel.Api

open Exports

inductive Reading (Result : Type) where
  | done (result : Result)
  | look (next : Snapshot → Reading Result)

namespace Reading

variable {Result : Type}

/-- The result when the snapshot stays the same. -/
def alone (snapshot : Snapshot) : Reading Result → Result
  | done result => result
  | look next => alone snapshot (next snapshot)

/-- What a look finds in the snapshot. -/
def see (find : Snapshot → Result) : Reading Result :=
  look fun snapshot => done (find snapshot)

/-- Changes the result without another look. -/
def map {Other : Type} (change : Result → Other) : Reading Result → Reading Other
  | done result => done (change result)
  | look next => look fun snapshot => (next snapshot).map change

theorem aloneMap {Other : Type} (change : Result → Other) (snapshot : Snapshot)
    (reading : Reading Result) :
    (reading.map change).alone snapshot = change (reading.alone snapshot) := by
  induction reading with
  | done result => rfl
  | look next inductionHypothesis => exact inductionHypothesis snapshot

end Reading

end FleetPanel.Api
