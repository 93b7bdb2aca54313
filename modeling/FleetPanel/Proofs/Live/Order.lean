/-
This file shows that the editions of the installed snapshots never go back. A reload reads what is
at least as new as the current snapshot, because it holds the lock from before its reads until
after its swap.
-/

import FleetPanel.Proofs.Live.Lock
import Mathlib.Order.Lattice

namespace FleetPanel.Live

open Exports

/-- An edition is older than another if neither file is newer in it. -/
instance : PartialOrder Edition :=
  PartialOrder.lift (fun edition => (edition.nodes, edition.instances)) fun left right same => by
    cases left
    cases right
    simpa using same

/-- What a reload has read so far lies between two editions. -/
def Reload.IsBetween (least most : Edition) : Reload → Prop
  | nodesFound _ edition | nodesRead _ edition => least.nodes ≤ edition ∧ edition ≤ most.nodes
  | instancesFound _ edition _ other => least ≤ ⟨edition, other⟩ ∧ ⟨edition, other⟩ ≤ most
  | loaded _ edition => least ≤ edition ∧ edition ≤ most
  | unbacked | waiting | locked | swapped | leaving | finished => True

theorem Reload.isBetweenOfFree {reload : Reload} (free : reload.holdsLock = false)
    (least most : Edition) : reload.IsBetween least most := by
  cases reload <;> trivial

theorem Reload.isBetweenMono {reload : Reload} {least most later : Edition}
    (between : reload.IsBetween least most) (grown : most ≤ later) :
    reload.IsBetween least later := by
  cases reload with
  | nodesFound | nodesRead => exact ⟨between.1, between.2.trans grown.1⟩
  | instancesFound | loaded => exact ⟨between.1, between.2.trans grown⟩
  | _ => trivial

namespace World

/-- The edition of the files as they are. -/
def newest (world : World) : Edition :=
  ⟨world.nodes.writes, world.instances.writes⟩

/-- The current snapshot is not newer than the files, and what reloads have read lies between. -/
structure Ordered (world : World) : Prop where
  installed : world.edition ≤ world.newest
  read : ∀ (index : Nat) (reload : Reload), world.reloads[index]? = some reload →
    reload.IsBetween world.edition world.newest

variable {world next rest : World} {index : Nat} {before after : Reload} {action : Action}

theorem orderedStart (directory? : Option String) (ground : Ground) :
    (start directory? ground).Ordered :=
  ⟨le_refl _, fun _ _ stood => by simp [start] at stood⟩

theorem isBetweenOfAdvance {least : Edition} (installed : least ≤ world.newest)
    (advance : Advance world index before rest after)
    (between : before.IsBetween least world.newest) : after.IsBetween least world.newest := by
  cases advance with
  | nodesFound => exact ⟨installed.1, le_refl _⟩
  | @nodesRead found edition =>
      cases found with
      | true => exact ⟨installed.1, le_refl _⟩
      | false => exact between
  | instancesFound => exact ⟨⟨between.1, installed.2⟩, ⟨between.2, le_refl _⟩⟩
  | @instancesRead nodes edition other found =>
      cases found with
      | true => exact ⟨⟨between.1.1, installed.2⟩, ⟨between.2.1, le_refl _⟩⟩
      | false => exact between
  | _ => trivial

theorem orderedOfAdvance (guarded : world.Guarded) (ordered : world.Ordered)
    (stood : world.reloads[index]? = some before)
    (advance : Advance world index before rest after) : (rest.setReload index after).Ordered := by
  have between := ordered.read index before stood
  have afterBetween := isBetweenOfAdvance ordered.installed advance between
  have places : ∀ other reload, (rest.setReload index after).reloads[other]? = some reload →
      other = index ∧ reload = after ∨ other ≠ index ∧ world.reloads[other]? = some reload :=
    fun _ _ => placeOfAdvance stood advance
  cases advance with
  | swapped =>
      refine ⟨between.2, fun other reload stands => ?_⟩
      obtain ⟨rfl, rfl⟩ | ⟨apart, stands⟩ := places other reload stands
      · trivial
      · -- The others are outside of the lock, so they have read nothing that is older.
        exact Reload.isBetweenOfFree (outsideOfLock guarded stood rfl apart stands) _ _
  | _ =>
      refine ⟨ordered.installed, fun other reload stands => ?_⟩
      obtain ⟨rfl, rfl⟩ | ⟨apart, stands⟩ := places other reload stands
      · exact afterBetween
      · exact ordered.read other reload stands

theorem firstReloadIsBetween (world : World) (least most : Edition) :
    world.firstReload.IsBetween least most :=
  Reload.isBetweenOfFree (firstReloadFree world) least most

theorem orderedOfStep (guarded : world.Guarded) (ordered : world.Ordered)
    (moved : world.step? action = some next) : next.Ordered := by
  cases effectOfStep moved with
  | @written which entry watch? =>
      have grown : world.newest ≤
          (world.setFile which ((world.file which).write entry)).newest := by
        cases which with
        | nodes => exact ⟨Nat.le_succ _, le_refl _⟩
        | instances => exact ⟨le_refl _, Nat.le_succ _⟩
      cases which <;>
        exact ⟨ordered.installed.trans grown,
          fun index reload stands => Reload.isBetweenMono (ordered.read index reload stands) grown⟩
  | begun =>
      refine ⟨ordered.installed, fun index reload stands => ?_⟩
      rcases placeOfBegin stands with rfl | stands
      · exact firstReloadIsBetween world _ _
      · exact ordered.read index reload stands
  | advanced index stood advance => exact orderedOfAdvance guarded ordered stood advance
  | watched => exact ⟨ordered.installed, ordered.read⟩
  | connected => exact ⟨ordered.installed, ordered.read⟩
  | told => exact ⟨ordered.installed, ordered.read⟩
  | disconnected => exact ⟨ordered.installed, ordered.read⟩

/-- A step installs no older snapshot. -/
theorem editionOfStep (ordered : world.Ordered) (moved : world.step? action = some next) :
    world.edition ≤ next.edition := by
  cases effectOfStep moved with
  | @written which => cases which <;> exact le_refl _
  | advanced index stood advance =>
      have between := ordered.read index _ stood
      cases advance with
      | swapped => exact between.1
      | _ => exact le_refl _
  | watched => exact le_refl _
  | begun => exact le_refl _
  | connected => exact le_refl _
  | told => exact le_refl _
  | disconnected => exact le_refl _

/-- The standing facts about a panel that was started. -/
structure Sound (world : World) : Prop where
  grounded : world.Grounded
  guarded : world.Guarded
  ordered : world.Ordered

theorem soundStart (directory? : Option String) (ground : Ground) :
    (start directory? ground).Sound where
  grounded := fun _ which => by cases which <;> rfl
  guarded := guardedStart directory? ground
  ordered := orderedStart directory? ground

theorem soundOfStep (sound : world.Sound) (moved : world.step? action = some next) :
    next.Sound where
  grounded := groundedOfStep sound.grounded moved
  guarded := guardedOfStep sound.guarded moved
  ordered := orderedOfStep sound.guarded sound.ordered moved

theorem soundOfRun {actions : List Action} (sound : world.Sound)
    (ran : world.run? actions = some next) : next.Sound :=
  runKeepsState Sound ran sound fun _ _ _ sound moved => soundOfStep sound moved

theorem editionOfRun {actions : List Action} (sound : world.Sound)
    (ran : world.run? actions = some next) : world.edition ≤ next.edition := by
  have kept := runKeepsState (fun later => later.Sound ∧ world.edition ≤ later.edition) ran
    ⟨sound, le_refl _⟩ fun _ _ _ held moved =>
      ⟨soundOfStep held.1 moved, held.2.trans (editionOfStep held.1.ordered moved)⟩
  exact kept.2

end World

end FleetPanel.Live
