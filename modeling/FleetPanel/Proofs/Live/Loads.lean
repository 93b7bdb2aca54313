/-
This file shows that a reload is all or nothing. Where the reloads of a run come one after another,
the panel holds between them what the last successful one has loaded, and it has notified once for
each successful one.
-/

import FleetPanel.Proofs.Live.Overlap

namespace FleetPanel.Live

open Exports Fleet

/-- The listing files after an action. -/
def filesAfter (files : Directory) : Action → Directory
  | .write .nodes entry => { files with nodes := entry }
  | .write .instances entry => { files with instances := entry }
  | _ => files

/-- What one action loads: a reload loads the files as they are, or nothing if it fails. -/
def loadsOf (path : String) (files : Directory) (action : Action) : List Snapshot :=
  if action.beginsReload then (Snapshot.load path files).toOption.toList else []

/-- What the successful reloads among some actions load, in their order. -/
def loads (path : String) (files : Directory) : List Action → List Snapshot
  | [] => []
  | action :: rest => loadsOf path files action ++ loads path (filesAfter files action) rest

/-- An action that begins a reload or changes a file. -/
def Action.disturbs : Action → Bool
  | .write _ _ | .take | .begin => true
  | _ => false

theorem Action.disturbsOfBegins {action : Action} (begins : action.beginsReload = true) :
    action.disturbs = true := by
  cases action with
  | take | begin => rfl
  | _ => exact nomatch begins

theorem loadsAppend (path : String) (files : Directory) (before after : List Action) :
    loads path files (before ++ after) =
      loads path files before ++ loads path (before.foldl filesAfter files) after := by
  induction before generalizing files with
  | nil => rfl
  | cons action rest inductionHypothesis =>
      rw [List.cons_append, loads, loads, inductionHypothesis, List.append_assoc]
      rfl

theorem loadsOfQuiet (path : String) (files : Directory) {actions : List Action}
    (quiet : ∀ action ∈ actions, action.beginsReload = false) : loads path files actions = [] := by
  induction actions generalizing files with
  | nil => rfl
  | cons action rest inductionHypothesis =>
      obtain ⟨first, others⟩ := List.forall_mem_cons.mp quiet
      rw [loads, loadsOf, first, inductionHypothesis _ others]
      rfl

namespace World

/-- Each reload of a run is over before the next one is begun and before a file is changed. -/
def isOneByOne (world : World) : List Action → Bool
  | [] => true
  | action :: rest =>
      (!action.disturbs || world.reloads.all Reload.isFinished) &&
        (world.step? action).all (isOneByOne · rest)

/-- The panel holds the last of some snapshots, and it has notified once for each of them. -/
def Shows (past : List Snapshot) (world : World) : Prop :=
  world.snapshot = past.getLast?.getD .empty ∧ world.notified = past.length

/-- The last of some snapshots is still to come, if the files load. -/
def Awaits (past : List Snapshot) (world : World) : Prop :=
  ∃ earlier, past = earlier ++ (Snapshot.load world.path world.contents).toOption.toList ∧
    world.Shows earlier

end World

/-- How far the reload under way has brought the last of some snapshots. -/
def Reload.Brings (past : List Snapshot) (world : World) : Reload → Prop
  | unbacked => False
  | waiting | locked => world.Awaits past
  | nodesFound found _ => world.Awaits past ∧ found = (world.entry .nodes).isPresent
  | nodesRead nodes _ =>
      world.Awaits past ∧ loadNodes world.path (world.entry .nodes) = .ok nodes
  | instancesFound nodes _ found _ =>
      world.Awaits past ∧ loadNodes world.path (world.entry .nodes) = .ok nodes ∧
        found = (world.entry .instances).isPresent
  | loaded snapshot _ => ∃ earlier, past = earlier ++ [snapshot] ∧ world.Shows earlier
  | swapped => ∃ earlier, past = earlier ++ [world.snapshot] ∧ world.notified = earlier.length
  | leaving | finished => world.Shows past

namespace World

variable {world next rest first middle last : World} {index : Nat} {before after reload : Reload}
  {action : Action} {actions later : List Action} {past : List Snapshot}

theorem showsOfFailed {fault : LoadFault} (awaits : world.Awaits past)
    (failed : Snapshot.load world.path world.contents = .error fault) : world.Shows past := by
  obtain ⟨earlier, rfl, shows⟩ := awaits
  simpa [failed, Except.toOption] using shows

/-- A reload that moves brings the snapshot on its way, or it fails and leaves all as it was. -/
theorem bringsOfAdvance (advance : Advance world index before rest after)
    (brings : before.Brings past world) : after.Brings past (rest.setReload index after) := by
  cases advance with
  | announced => exact brings.elim
  | locked => exact brings
  | nodesFound => exact ⟨brings, rfl⟩
  | nodesRead read =>
      obtain ⟨awaits, rfl⟩ := brings
      exact ⟨awaits, read⟩
  | nodesFailed failed =>
      obtain ⟨awaits, rfl⟩ := brings
      exact showsOfFailed awaits (loadFailsOfNodes failed)
  | instancesFound => exact ⟨brings.1, brings.2, rfl⟩
  | instancesRead read =>
      obtain ⟨⟨earlier, rfl, shows⟩, nodesLoad, rfl⟩ := brings
      have loaded : Snapshot.load world.path world.contents = .ok _ :=
        loadOfListings nodesLoad read
      exact ⟨earlier, by rw [loaded]; rfl, shows⟩
  | instancesFailed failed =>
      obtain ⟨awaits, nodesLoad, rfl⟩ := brings
      exact showsOfFailed awaits (loadFailsOfInstances nodesLoad failed)
  | swapped =>
      obtain ⟨earlier, rfl, shows⟩ := brings
      exact ⟨earlier, rfl, shows.2⟩
  | notified =>
      obtain ⟨earlier, rfl, notified⟩ := brings
      exact ⟨by simp [setReload, notify], by simp [setReload, notify, notified]⟩
  | left => exact brings

/-- Of the reloads at most one is under way, and it brings the last of some snapshots. -/
def Tracks (past : List Snapshot) (world : World) : Prop :=
  ((∀ reload ∈ world.reloads, reload.isFinished = true) ∧ world.Shows past) ∨
    ∃ (index : Nat) (reload : Reload), world.reloads[index]? = some reload ∧
      reload.Brings past world ∧ ∀ (other : Nat) (reload : Reload), other ≠ index →
        world.reloads[other]? = some reload → reload.isFinished = true

theorem showsOfTracks (tracks : world.Tracks past)
    (finished : ∀ reload ∈ world.reloads, reload.isFinished = true) : world.Shows past := by
  obtain ⟨_, shows⟩ | ⟨index, reload, stands, brings, _⟩ := tracks
  · exact shows
  · have settled := finished reload (List.mem_of_getElem? stands)
    cases reload with
    | finished => exact brings
    | _ => exact nomatch settled

theorem goesOnOfAdvance (advance : Advance world index before rest after) :
    before.isFinished = false := by
  cases advance <;> rfl

theorem tracksOfAdvance (stood : world.reloads[index]? = some before)
    (advance : Advance world index before rest after) (tracks : world.Tracks past) :
    (rest.setReload index after).Tracks past := by
  have goesOn := goesOnOfAdvance advance
  obtain ⟨finished, _⟩ | ⟨mover, reload, stands, brings, others⟩ := tracks
  · exact absurd (finished before (List.mem_of_getElem? stood)) (by simp [goesOn])
  · obtain rfl : index = mover := by
      by_contra apart
      exact absurd (others index before apart stood) (by simp [goesOn])
    obtain rfl := Option.some.inj (stood.symm.trans stands)
    refine .inr ⟨index, after, by rw [reloadOfAdvance stood advance, if_pos rfl],
      bringsOfAdvance advance brings, fun other reload apart stands => ?_⟩
    rw [reloadOfAdvance stood advance, if_neg apart] at stands
    exact others other reload apart stands

theorem contentsOfStep (sound : world.Sound) (moved : world.step? action = some next) :
    next.contents = filesAfter world.contents action := by
  have files := fileOfStep moved
  have entries := entryOfGrounded (soundOfStep sound moved).grounded
  cases action with
  | write which entry =>
      cases which <;>
        simp [contents, entries, files, entryOfGrounded sound.grounded, filesAfter,
          Action.written?, File.write]
  | _ => exact contentsOfQuietStep sound moved fun _ => rfl

theorem contentsOfRun (sound : first.Sound) (ran : first.run? actions = some last) :
    last.contents = actions.foldl filesAfter first.contents := by
  have kept := runKeeps (fun done world => world.Sound ∧
    world.contents = done.foldl filesAfter first.contents) ran ⟨sound, rfl⟩
    fun done action world next _ held moved =>
      ⟨soundOfStep held.1 moved, by
        rw [contentsOfStep held.1 moved, held.2, List.foldl_append]
        rfl⟩
  exact kept.2

/-- A step of another task changes nothing that a reload brings. -/
theorem tracksOfSame (contents : next.contents = world.contents) (path : next.path = world.path)
    (snapshot : next.snapshot = world.snapshot) (notified : next.notified = world.notified)
    (reloads : next.reloads = world.reloads) (tracks : world.Tracks past) : next.Tracks past := by
  have shows : ∀ past, world.Shows past → next.Shows past :=
    fun past shown => ⟨snapshot.trans shown.1, notified.trans shown.2⟩
  have awaits : world.Awaits past → next.Awaits past := by
    rintro ⟨earlier, split, shown⟩
    exact ⟨earlier, by rw [contents, path, split], shows earlier shown⟩
  have nodes : next.entry .nodes = world.entry .nodes := congrArg Directory.nodes contents
  have instances : next.entry .instances = world.entry .instances :=
    congrArg Directory.instances contents
  rw [Tracks, reloads]
  refine tracks.imp (.imp_right (shows past)) ?_
  rintro ⟨index, reload, stands, brings, others⟩
  refine ⟨index, reload, stands, ?_, others⟩
  cases reload with
  | unbacked => exact brings
  | waiting | locked => exact awaits brings
  | nodesFound => exact ⟨awaits brings.1, nodes ▸ brings.2⟩
  | nodesRead => exact ⟨awaits brings.1, by rw [nodes, path]; exact brings.2⟩
  | instancesFound =>
      exact ⟨awaits brings.1, by rw [nodes, path]; exact brings.2.1, instances ▸ brings.2.2⟩
  | loaded => exact brings.imp fun earlier => .imp_right (shows earlier)
  | swapped =>
      obtain ⟨earlier, split, counted⟩ := brings
      exact ⟨earlier, snapshot ▸ split, notified.trans counted⟩
  | leaving | finished => exact shows past brings

theorem tracksOfStep (sound : world.Sound) (backed : world.directory?.isSome)
    (tracks : world.Tracks past) (moved : world.step? action = some next)
    (calm : action.disturbs = true → ∀ reload ∈ world.reloads, reload.isFinished = true) :
    next.Tracks (past ++ loadsOf world.path world.contents action) := by
  have unbegun : action.beginsReload = false →
      past ++ loadsOf world.path world.contents action = past := by
    intro begunNone
    simp [loadsOf, begunNone]
  cases effectOfStep moved with
  | @written which =>
      rw [unbegun rfl]
      have shown := showsOfTracks tracks (calm rfl)
      cases which <;> exact .inl ⟨calm rfl, shown⟩
  | watched ground watch? silent begunNone =>
      rw [unbegun begunNone]
      exact tracksOfSame (contentsOfQuietStep sound moved silent) rfl rfl rfl rfl tracks
  | begun watch? begins =>
      have finished := calm (Action.disturbsOfBegins begins)
      have shown := showsOfTracks tracks finished
      have contents := contentsOfQuietStep sound moved (Action.silentOfBegins begins)
      have stands := reloadOfBegin world
      refine .inr ⟨world.reloads.length, .waiting, ?_, ⟨past, ?_, shown⟩,
        fun other reload apart found => ?_⟩
      · rw [stands, if_pos rfl, firstReload, if_pos backed]
      · rw [contents, loadsOf, if_pos begins]
        rfl
      · rw [stands, if_neg apart] at found
        exact finished reload (List.mem_of_getElem? found)
  | advanced index stood advance =>
      rw [unbegun rfl]
      exact tracksOfAdvance stood advance tracks
  | connected =>
      rw [unbegun rfl]
      exact tracksOfSame rfl rfl rfl rfl rfl tracks
  | told =>
      rw [unbegun rfl]
      exact tracksOfSame rfl rfl rfl rfl rfl tracks
  | disconnected =>
      rw [unbegun rfl]
      exact tracksOfSame rfl rfl rfl rfl rfl tracks

theorem calmOfOneByOne (oneByOne : first.isOneByOne (action :: actions) = true)
    (moved : first.step? action = some next) :
    (action.disturbs = true → ∀ reload ∈ first.reloads, reload.isFinished = true) ∧
      next.isOneByOne actions = true := by
  simp only [isOneByOne, moved, Option.all_some, Bool.and_eq_true, Bool.or_eq_true,
    Bool.not_eq_true', List.all_eq_true] at oneByOne
  refine ⟨fun disturbs => ?_, oneByOne.2⟩
  rcases oneByOne.1 with quiet | finished
  · exact absurd disturbs (by simp [quiet])
  · exact finished

theorem oneByOneAppend (ran : first.run? actions = some middle) :
    first.isOneByOne (actions ++ later) =
      (first.isOneByOne actions && middle.isOneByOne later) := by
  induction actions generalizing first with
  | nil =>
      obtain rfl : first = middle := by simpa [run?] using ran
      rfl
  | cons action rest inductionHypothesis =>
      obtain ⟨next, moved, ran⟩ := Option.bind_eq_some_iff.mp ran
      simp only [List.cons_append, isOneByOne, moved, Option.all_some, inductionHypothesis ran,
        Bool.and_assoc]

/-- What the reloads of a run load is added to what was there. -/
theorem tracksOfRun (sound : first.Sound) (backed : first.directory?.isSome)
    (tracks : first.Tracks past) (oneByOne : first.isOneByOne actions = true)
    (ran : first.run? actions = some last) :
    last.Tracks (past ++ loads first.path first.contents actions) := by
  induction actions generalizing first past with
  | nil =>
      obtain rfl : first = last := by simpa [run?] using ran
      simpa [loads] using tracks
  | cons action rest inductionHypothesis =>
      obtain ⟨next, moved, ran⟩ := Option.bind_eq_some_iff.mp ran
      obtain ⟨calm, oneByOne⟩ := calmOfOneByOne oneByOne moved
      have stepped := tracksOfStep sound backed tracks moved calm
      have ended := inductionHypothesis (soundOfStep sound moved)
        (directoryOfStep moved ▸ backed) stepped oneByOne ran
      rwa [pathOfStep moved, contentsOfStep sound moved, List.append_assoc] at ended

theorem tracksStart (directory? : Option String) (ground : Ground) :
    (start directory? ground).Tracks [] :=
  .inl ⟨by simp [start], rfl, rfl⟩

theorem contentsStart (directory? : Option String) (ground : Ground) :
    (start directory? ground).contents = .empty := by
  cases ground <;> rfl

end World

end FleetPanel.Live
