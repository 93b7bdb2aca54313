/-
This file shows that the reload lock is held by the reload that it names and by no other.
-/

import FleetPanel.Proofs.Live.Run

namespace FleetPanel.Live.World

open Exports

variable {world next rest : World} {index : Nat} {before after : Reload}

theorem reloadsOfAdvance (advance : Advance world index before rest after) :
    rest.reloads = world.reloads := by
  cases advance <;> rfl

/-- Only the reload that advances comes to another place. -/
theorem reloadOfAdvance (stood : world.reloads[index]? = some before)
    (advance : Advance world index before rest after) (other : Nat) :
    (rest.setReload index after).reloads[other]? =
      if other = index then some after else world.reloads[other]? := by
  obtain ⟨inside, _⟩ := List.getElem?_eq_some_iff.mp stood
  rw [setReload, reloadsOfAdvance advance]
  by_cases same : other = index
  · subst same
    simp [inside]
  · rw [List.getElem?_set_ne (Ne.symm same), if_neg same]

/-- A reload after a step is the one that advanced, or another that stands where it stood. -/
theorem placeOfAdvance (stood : world.reloads[index]? = some before)
    (advance : Advance world index before rest after) {other : Nat} {reload : Reload}
    (stands : (rest.setReload index after).reloads[other]? = some reload) :
    other = index ∧ reload = after ∨ other ≠ index ∧ world.reloads[other]? = some reload := by
  rw [reloadOfAdvance stood advance] at stands
  by_cases same : other = index
  · rw [if_pos same] at stands
    exact .inl ⟨same, (Option.some.inj stands).symm⟩
  · rw [if_neg same] at stands
    exact .inr ⟨same, stands⟩

/-- A new reload stands behind the others. -/
theorem reloadOfBegin (world : World) (other : Nat) :
    world.begin.reloads[other]? =
      if other = world.reloads.length then some world.firstReload else world.reloads[other]? := by
  simp only [begin, List.getElem?_append]
  split
  · case isTrue inside => simp [Nat.ne_of_lt inside]
  · case isFalse outside =>
      by_cases same : other = world.reloads.length
      · simp [same]
      · have beyond : world.reloads.length < other := by omega
        simp [same, List.getElem?_eq_none (Nat.le_of_lt beyond),
          List.getElem?_eq_none (show [world.firstReload].length ≤ other - world.reloads.length by
            simp; omega)]

theorem placeOfBegin {other : Nat} {reload : Reload}
    (stands : world.begin.reloads[other]? = some reload) :
    reload = world.firstReload ∨ world.reloads[other]? = some reload := by
  rw [reloadOfBegin] at stands
  split at stands
  · exact .inl (Option.some.inj stands).symm
  · exact .inr stands

/-- The lock is held by the reload that it names. -/
def Guarded (world : World) : Prop :=
  ∀ index, world.holder? = some index ↔ (world.reloads[index]?).any Reload.holdsLock = true

theorem guardedStart (directory? : Option String) (ground : Ground) :
    (start directory? ground).Guarded := by
  simp [Guarded, start]

theorem firstReloadFree (world : World) : world.firstReload.holdsLock = false := by
  unfold firstReload
  split <;> rfl

theorem guardedOfAdvance (guarded : world.Guarded) (stood : world.reloads[index]? = some before)
    (advance : Advance world index before rest after) : (rest.setReload index after).Guarded := by
  intro other
  have held := guarded index
  simp only [stood, Option.any_some] at held
  rw [reloadOfAdvance stood advance]
  by_cases same : other = index
  · subst same
    cases advance <;> simp_all [setReload, notify, Reload.holdsLock]
  · rw [if_neg same, ← guarded other]
    cases advance <;> simp_all [setReload, notify, Reload.holdsLock, eq_comm]

theorem guardedOfStep {action : Action} (guarded : world.Guarded)
    (moved : world.step? action = some next) : next.Guarded := by
  cases effectOfStep moved with
  | @written which => cases which <;> exact guarded
  | begun =>
      intro other
      change world.holder? = some other ↔ _
      rw [guarded other]
      change _ ↔ (world.begin.reloads[other]?).any Reload.holdsLock = true
      rw [reloadOfBegin]
      split
      · case isTrue same => simp [same, firstReloadFree]
      · rfl
  | advanced index stood advance => exact guardedOfAdvance guarded stood advance
  | watched => exact guarded
  | connected => exact guarded
  | told => exact guarded
  | disconnected => exact guarded

/-- While one reload holds the lock, every other reload is outside of it. -/
theorem outsideOfLock (guarded : world.Guarded) {other : Nat} {reload : Reload}
    (stood : world.reloads[index]? = some before) (holds : before.holdsLock = true)
    (apart : other ≠ index) (stands : world.reloads[other]? = some reload) :
    reload.holdsLock = false := by
  have named := (guarded index).mpr (by simpa [stood] using holds)
  by_contra inside
  have alsoNamed := (guarded other).mpr (by simpa [stands] using inside)
  exact apart (Option.some.inj (alsoNamed.symm.trans named))

end FleetPanel.Live.World
