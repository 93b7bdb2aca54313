/-
This file counts the looks of an answer at the snapshot. Only the instances of a node take two.
-/

import FleetPanel.Api.Server

namespace FleetPanel.Api

open Exports Fleet Http

namespace Reading

variable {Result Other : Type}

/-- What is left to do after looks that saw these snapshots; `none` if there are too many. -/
def after? : List Snapshot → Reading Result → Option (Reading Result)
  | [], reading => some reading
  | _ :: _, done _ => none
  | snapshot :: later, look next => after? later (next snapshot)

/-- A computation that looks at most once. -/
def LooksOnce : Reading Result → Prop
  | done _ => True
  | look next => ∀ snapshot, ∃ result, next snapshot = done result

/-- One more look is taken by what is left after those before it. -/
theorem afterAppend (earlier : List Snapshot) (snapshot : Snapshot) (reading : Reading Result) :
    after? (earlier ++ [snapshot]) reading = (after? earlier reading).bind (after? [snapshot]) := by
  induction earlier generalizing reading with
  | nil => rfl
  | cons first earlier inductionHypothesis =>
      cases reading with
      | done result => rfl
      | look next => exact inductionHypothesis (next first)

theorem afterMap (change : Result → Other) (looked : List Snapshot) (reading : Reading Result) :
    after? looked (reading.map change) = (after? looked reading).map (Reading.map change) := by
  induction looked generalizing reading with
  | nil => rfl
  | cons first looked inductionHypothesis =>
      cases reading with
      | done result => rfl
      | look next => exact inductionHypothesis (next first)

/-- Nothing is looked at after the end. -/
theorem endOfDone {looked : List Snapshot} {result : Result} {rest : Reading Result}
    (passed : after? looked (done result) = some rest) : looked = [] ∧ rest = done result := by
  cases looked with
  | nil => exact ⟨rfl, (Option.some.inj passed).symm⟩
  | cons => exact nomatch passed

theorem looksOnceOfSee (find : Snapshot → Result) : (see find).LooksOnce :=
  fun snapshot => ⟨find snapshot, rfl⟩

theorem LooksOnce.map {reading : Reading Result} (once : reading.LooksOnce)
    (change : Result → Other) : (reading.map change).LooksOnce := by
  cases reading with
  | done => trivial
  | look next =>
      intro snapshot
      obtain ⟨result, same⟩ := once snapshot
      exact ⟨change result, congrArg (Reading.map change) same⟩

/-- One look gives the result of a request that is alone on what it saw, and no look that on any
snapshot. -/
theorem LooksOnce.result {reading : Reading Result} (once : reading.LooksOnce)
    {looked : List Snapshot} {result : Result}
    (passed : after? looked reading = some (done result)) :
    (looked = [] ∧ ∀ snapshot, reading.alone snapshot = result) ∨
      ∃ snapshot, looked = [snapshot] ∧ reading.alone snapshot = result := by
  cases reading with
  | done other =>
      obtain ⟨none, same⟩ := endOfDone passed
      obtain rfl := done.inj same
      exact .inl ⟨none, fun _ => rfl⟩
  | look next =>
      cases looked with
      | nil => exact nomatch passed
      | cons snapshot later =>
          obtain ⟨other, same⟩ := once snapshot
          rw [after?, same] at passed
          obtain ⟨none, ended⟩ := endOfDone passed
          obtain rfl := done.inj ended
          refine .inr ⟨snapshot, by rw [none], ?_⟩
          rw [alone, same, alone]

end Reading

theorem looksOnceOfFind (encoded : List Char) (find? : String → Snapshot → Option Json) :
    (find encoded find?).LooksOnce := by
  unfold find
  split
  · trivial
  · exact Reading.looksOnceOfSee _

theorem looksOnceOfInstances (query : List Char) : (instances query).LooksOnce := by
  unfold instances
  split
  · trivial
  · split
    · trivial
    · exact Reading.looksOnceOfSee _

theorem looksOnceOfResource (context : Context) (query : List Char) {route : Route}
    (other : ∀ encoded, route ≠ .nodeInstances encoded) :
    (resource context query route).LooksOnce := by
  cases route with
  | health => trivial
  | socket => trivial
  | node encoded => exact looksOnceOfFind encoded _
  | instance_ encoded => exact looksOnceOfFind encoded _
  | instances => exact looksOnceOfInstances query
  | nodeInstances encoded => exact absurd rfl (other encoded)
  | _ => exact Reading.looksOnceOfSee _

/-- A request whose answer may look twice, and what it answers with. -/
inductive LooksTwice (request : Request) : List Char → Reading Answer → Prop where
  | whole {encoded : List Char} (isGet : request.method = .get)
      (named : Route.ofPath? request.target.path = some (.nodeInstances encoded)) :
      LooksTwice request encoded (nodeInstances encoded)
  | head {encoded : List Char} (isHead : request.method = .head)
      (named : Route.ofPath? request.target.path = some (.nodeInstances encoded)) :
      LooksTwice request encoded ((nodeInstances encoded).map Answer.withoutBody)

theorem looksOnceOfAnswerResource (context : Context) (request : Request) {route : Route}
    (other : ∀ encoded, route ≠ .nodeInstances encoded) :
    (answerResource context request route).LooksOnce := by
  have once := looksOnceOfResource context request.target.query other
  unfold answerResource
  split
  · exact once
  · split
    · trivial
    · exact once.map _
  · trivial
  · trivial

theorem looksOfAnswer (context : Context) (site? : Option Site) (request : Request) :
    (answer context site? request).LooksOnce ∨
      ∃ encoded, LooksTwice request encoded (answer context site? request) := by
  cases named : Route.ofPath? request.target.path with
  | none =>
      simp only [answer, named]
      exact .inl trivial
  | some route =>
      simp only [answer, named]
      by_cases twice : ∃ encoded, route = .nodeInstances encoded
      · obtain ⟨encoded, rfl⟩ := twice
        cases method : request.method with
        | get =>
            simp only [answerResource, method]
            exact .inr ⟨encoded, .whole method named⟩
        | head =>
            simp only [answerResource, method]
            exact .inr ⟨encoded, .head method named⟩
        | options =>
            simp only [answerResource, method]
            exact .inl trivial
        | other name =>
            simp only [answerResource, method]
            exact .inl trivial
      · exact .inl (looksOnceOfAnswerResource context request
          fun encoded same => twice ⟨encoded, same⟩)

end FleetPanel.Api
