/-
This file holds what every run of a panel keeps: the directory, the ground of its files and the
order in which reloads were begun.
-/

import FleetPanel.Proofs.Live.Effect
import Mathlib.Data.List.Induction

namespace FleetPanel.Live.World

open Exports

/-- What a start has and each step keeps holds after a run. -/
theorem runKeeps (Holds : List Action → World → Prop) {first last : World}
    {actions : List Action} (ran : first.run? actions = some last) (start : Holds [] first)
    (step : ∀ done action world next, action ∈ actions → Holds done world →
      world.step? action = some next → Holds (done ++ [action]) next) :
    Holds actions last := by
  induction actions using List.reverseRecOn generalizing last with
  | nil =>
      obtain rfl : first = last := by simpa [run?] using ran
      exact start
  | append_singleton before action inductionHypothesis =>
      rw [runAppend] at ran
      obtain ⟨middle, ranBefore, moved⟩ := Option.bind_eq_some_iff.mp ran
      have holds : Holds before middle := inductionHypothesis ranBefore
        fun done other world next inside =>
          step done other world next (List.mem_append_left _ inside)
      exact step before action middle last (by simp) holds (by simpa [run?] using moved)

/-- What a step keeps is kept by a run. -/
theorem runKeepsState (Holds : World → Prop) {first last : World} {actions : List Action}
    (ran : first.run? actions = some last) (start : Holds first)
    (step : ∀ action world next, Holds world → world.step? action = some next → Holds next) :
    Holds last :=
  runKeeps (fun _ => Holds) ran start
    fun _ action world next _ => step action world next

/-- Each action that begins a reload adds one. -/
theorem lengthOfStep {world next : World} {action : Action}
    (moved : world.step? action = some next) :
    next.reloads.length = world.reloads.length + [action].countP Action.beginsReload := by
  cases effectOfStep moved with
  | @written which => cases which <;> rfl
  | watched ground watch? silent begunNone => simp [begunNone]
  | begun watch? begins => simp [begins, begin]
  | advanced index stood advance =>
      cases advance <;> simp [setReload, notify, Action.beginsReload]
  | connected => rfl
  | told => rfl
  | disconnected => rfl

theorem lengthOfRun {first last : World} {actions : List Action}
    (ran : first.run? actions = some last) :
    last.reloads.length = first.reloads.length + actions.countP Action.beginsReload := by
  refine runKeeps (fun done world => world.reloads.length =
    first.reloads.length + done.countP Action.beginsReload) ran rfl ?_
  intro done action world next _ counted moved
  rw [lengthOfStep moved, counted, List.countP_append, Nat.add_assoc]

theorem runThen {first middle last : World} {before after : List Action}
    (ranBefore : first.run? before = some middle) (ranAfter : middle.run? after = some last) :
    first.run? (before ++ after) = some last := by
  rw [runAppend, ranBefore, Option.bind_some, ranAfter]

/-- A run whose end passes a check. -/
theorem runReaches (first : World) (actions : List Action) (check : World → Bool)
    (checked : (first.run? actions).any check = true) :
    ∃ last, first.run? actions = some last ∧ check last = true :=
  (Option.any_eq_true _ _).mp checked

/-- A listing file with one node. -/
def oneNode : Entry :=
  .ofText "[[\"n\",\"n\",\"r\",0,false,2,1,\"2026-03-01T12:00:00Z\",\"1\"]]"

theorem oneNodeLoads :
    ∃ snapshot, Snapshot.load "d" ⟨oneNode, .absent⟩ = .ok snapshot ∧
      snapshot.counts = (1, 0, 0) := by
  have counted : ((Snapshot.load "d" ⟨oneNode, .absent⟩).map Snapshot.counts).toOption =
      some (1, 0, 0) := by decide +kernel
  cases loads : Snapshot.load "d" ⟨oneNode, .absent⟩ with
  | error fault => simp [loads, Except.map, Except.toOption] at counted
  | ok snapshot => exact ⟨snapshot, rfl, by simpa [loads, Except.map, Except.toOption] using counted⟩

/-- Only a directory holds listing files. -/
def Grounded (world : World) : Prop :=
  world.ground ≠ .directory → ∀ which, world.file which = .absent

theorem entryOfGrounded {world : World} (grounded : world.Grounded) (which : Which) :
    world.entry which = (world.file which).entry := by
  by_cases onGround : world.ground = .directory
  · simp [entry, onGround]
  · simp [entry, onGround, grounded onGround which, File.absent]

theorem groundedOfStep {world next : World} {action : Action} (grounded : world.Grounded)
    (moved : world.step? action = some next) : next.Grounded := by
  intro notGround which
  cases effectOfStep moved with
  | written => exact absurd rfl notGround
  | watched ground watch? silent begunNone raised =>
      rcases raised with rfl | rfl
      · exact grounded notGround which
      · exact absurd rfl notGround
  | begun => exact grounded notGround which
  | advanced index stood advance => cases advance <;> exact grounded notGround which
  | connected => exact grounded notGround which
  | told => exact grounded notGround which
  | disconnected => exact grounded notGround which

theorem directoryOfStep {world next : World} {action : Action}
    (moved : world.step? action = some next) : next.directory? = world.directory? := by
  cases effectOfStep moved with
  | @written which => cases which <;> rfl
  | advanced index stood advance => cases advance <;> rfl
  | _ => rfl

theorem directoryOfRun {first last : World} {actions : List Action}
    (ran : first.run? actions = some last) : last.directory? = first.directory? :=
  runKeepsState (fun world => world.directory? = first.directory?) ran rfl
    fun _ _ _ same moved => (directoryOfStep moved).trans same

theorem pathOfStep {world next : World} {action : Action}
    (moved : world.step? action = some next) : next.path = world.path :=
  congrArg (·.getD "") (directoryOfStep moved)

theorem pathOfRun {first last : World} {actions : List Action}
    (ran : first.run? actions = some last) : last.path = first.path :=
  congrArg (·.getD "") (directoryOfRun ran)

end FleetPanel.Live.World
