/-
This file shows that a watch loses no change of the listing files. An event that finds the wish for
a reload already there is dropped, and still some reload reads the files after it.
-/

import FleetPanel.Proofs.Live.Overlap

namespace FleetPanel.Live

open Exports

/-- A reload that has begun to read. -/
def Reload.hasRead : Reload → Bool
  | unbacked | waiting | locked => false
  | _ => true

namespace World

variable {world next last : World} {action : Action} {actions : List Action}

/-- The task of the watch is in a reload that has not begun to read. -/
def isAboutToRead (world : World) (watch : Watch) : Bool :=
  watch.reload?.any fun index => (world.reloads[index]?).any Reload.isUnread

/-- What a step does to the watch. -/
inductive Watching (world : World) : Action → Option Watch → Option Watch → Prop where
  | opened {before? : Option Watch} (named : world.directory?.isSome) :
      Watching world .openWatch before? (some .begin)
  | delivered (watch : Watch) :
      Watching world .deliver (some watch)
        (some { watch with inFlight := watch.inFlight - 1, isAsked := true })
  | taken (watch : Watch) :
      Watching world .take (some watch)
        (some { watch with isAsked := false, reload? := some world.reloads.length })
  | kept {action : Action} (watch : Watch) (isOpen : Bool) (inFlight : Nat) :
      Watching world action (some watch) (some { watch with isOpen, inFlight })
  | unwatched {action : Action} : Watching world action none none

theorem watchingOfSame {before? after? : Option Watch} (same : after? = before?) :
    Watching world action before? after? := by
  subst same
  cases after? with
  | none => exact .unwatched
  | some watch => exact .kept watch watch.isOpen watch.inFlight

theorem watchingOfStep (moved : world.step? action = some next) :
    Watching world action world.watch? next.watch? := by
  cases action with
  | write which entry =>
      simp only [step?, write?] at moved
      split at moved
      · simp at moved
      · have heard : next.watch? = world.watch?.map fun watch =>
            if watch.isOpen then { watch with inFlight := watch.inFlight + 1 } else watch := by
          cases which <;> rw [← Option.some.inj moved]
        rw [heard]
        cases world.watch? with
        | none => exact .unwatched
        | some watch =>
            rw [Option.map_some]
            split
            · exact .kept watch watch.isOpen (watch.inFlight + 1)
            · exact .kept watch watch.isOpen watch.inFlight
  | openWatch =>
      simp only [step?, openWatch?] at moved
      split at moved
      · simp at moved
      · case isFalse able =>
          obtain rfl := Option.some.inj moved
          refine .opened ?_
          cases named : world.directory? <;> simp_all
  | closeWatch =>
      obtain ⟨watch, found, rfl⟩ := Option.map_eq_some_iff.mp moved
      rw [found]
      exact .kept watch false 0
  | deliver =>
      obtain ⟨watch, found, moved⟩ := Option.bind_eq_some_iff.mp moved
      split at moved
      · obtain rfl := Option.some.inj moved
        rw [found]
        exact .delivered watch
      · simp at moved
  | take =>
      obtain ⟨watch, found, moved⟩ := Option.bind_eq_some_iff.mp moved
      split at moved
      · obtain rfl := Option.some.inj moved
        rw [found]
        exact .taken watch
      · simp at moved
  | begin =>
      obtain rfl := Option.some.inj moved
      exact watchingOfSame rfl
  | advance index =>
      obtain ⟨before, rest, after, _, advance, rfl⟩ := advanceOfStep moved
      exact watchingOfSame (by cases advance <;> rfl)
  | connect =>
      obtain rfl := Option.some.inj moved
      exact watchingOfSame rfl
  | tell index =>
      obtain ⟨before, after, _, _, rfl⟩ := tellingOfStep moved
      exact watchingOfSame rfl
  | disconnect index =>
      simp only [step?, disconnect?] at moved
      split at moved
      · obtain rfl := Option.some.inj moved
        exact watchingOfSame rfl
      · simp at moved

/-- Only a panel with a directory has a watch, and then every reload reads the files. -/
structure Backed (world : World) : Prop where
  watched : world.watch?.isSome → world.directory?.isSome
  reloads : world.directory?.isSome → ∀ reload ∈ world.reloads, reload ≠ .unbacked

theorem backedStart (directory? : Option String) (ground : Ground) :
    (start directory? ground).Backed :=
  ⟨nofun, fun _ => by simp [start]⟩

theorem backedOfStep (backed : world.Backed) (moved : world.step? action = some next) :
    next.Backed := by
  constructor
  · rw [directoryOfStep moved]
    have watching := watchingOfStep moved
    have watched := backed.watched
    generalize world.watch? = before? at watching watched
    generalize next.watch? = after? at watching
    cases watching with
    | opened named => exact fun _ => named
    | unwatched => exact nofun
    | _ => exact fun _ => watched rfl
  · rw [directoryOfStep moved]
    intro named
    have kept := backed.reloads named
    cases effectOfStep moved with
    | @written which => cases which <;> exact kept
    | begun =>
        intro reload inside
        rcases List.mem_append.mp inside with inside | inside
        · exact kept reload inside
        · obtain rfl := List.mem_singleton.mp inside
          simp [firstReload, named]
    | @advanced index before after rest stood advance =>
        intro reload inside
        rw [setReload, reloadsOfAdvance advance] at inside
        rcases List.mem_or_eq_of_mem_set inside with inside | rfl
        · exact kept reload inside
        · cases advance <;> simp
    | watched => exact kept
    | connected => exact kept
    | told => exact kept
    | disconnected => exact kept

/-- A reload is asked for, or the task of the watch was last in one that was begun behind the first
`count` reloads. -/
def Pending (count : Nat) (world : World) : Prop :=
  ∃ watch, world.watch? = some watch ∧
    (watch.isAsked = true ∨
      ∃ index, watch.reload? = some index ∧ count ≤ index ∧ index < world.reloads.length)

theorem pendingOfDelivery (count : Nat) (moved : world.step? .deliver = some next) :
    Pending count next := by
  obtain ⟨watch, _, moved⟩ := Option.bind_eq_some_iff.mp moved
  split at moved
  · obtain rfl := Option.some.inj moved
    exact ⟨_, rfl, .inl rfl⟩
  · simp at moved

theorem pendingOfStep {count : Nat} (within : count ≤ world.reloads.length)
    (pending : Pending count world) (moved : world.step? action = some next)
    (notOpened : action ≠ .openWatch) : Pending count next := by
  obtain ⟨watch, found, reason⟩ := pending
  have watching := watchingOfStep moved
  have grown := lengthOfStep moved
  rw [found] at watching
  generalize later : next.watch? = later? at watching
  cases watching with
  | opened => exact absurd rfl notOpened
  | delivered => exact ⟨_, later, .inl rfl⟩
  | taken =>
      refine ⟨_, later, .inr ⟨world.reloads.length, rfl, within, ?_⟩⟩
      rw [grown]
      exact Nat.lt_succ_self _
  | kept =>
      refine ⟨_, later, reason.imp id ?_⟩
      rintro ⟨index, named, behind, inside⟩
      exact ⟨index, named, behind, by omega⟩

theorem pendingOfRun {heard : World} (pending : Pending heard.reloads.length heard)
    (ran : heard.run? actions = some last) (notOpened : .openWatch ∉ actions) :
    Pending heard.reloads.length last := by
  have kept := runKeeps
    (fun _ later => heard.reloads.length ≤ later.reloads.length ∧
      Pending heard.reloads.length later) ran ⟨Nat.le_refl _, pending⟩ ?_
  · exact kept.2
  · intro _ action later next inside ⟨within, pending⟩ moved
    refine ⟨?_, pendingOfStep within pending moved fun opened => notOpened (opened ▸ inside)⟩
    rw [lengthOfStep moved]
    exact Nat.le_add_right_of_le within

theorem backedOfRun {directory? : Option String} {ground : Ground}
    (ran : (start directory? ground).run? actions = some world) : world.Backed :=
  runKeepsState Backed ran (backedStart directory? ground)
    fun _ _ _ backed moved => backedOfStep backed moved

/-- As long as a watch is not opened anew, after each of its events either a reload is asked for, or
the task of the watch is about to read, or there is a reload all reads of which come after the
event. So if the files were not written since, nothing is asked for and no reload is under way, the
snapshot is what they load as. -/
theorem watchLosesNoChange {directory? : Option String} {ground : Ground} {heard : World}
    {earlier later : List Action}
    (delivered : (start directory? ground).run? (earlier ++ [.deliver]) = some heard)
    (ran : heard.run? later = some last) (sameWatch : .openWatch ∉ later) :
    ∃ watch, last.watch? = some watch ∧
      (watch.isAsked = true ∨ last.isAboutToRead watch = true ∨
        ∃ (index : Nat) (reload : Reload),
          (heard.reloads[index]?).all Reload.isUnread = true ∧
            last.reloads[index]? = some reload ∧ reload.hasRead = true) ∧
      ((∀ which entry, .write which entry ∉ later) → watch.isAsked = false →
        (∀ reload ∈ last.reloads, reload.isFinished = true) →
        ∀ snapshot, Snapshot.load last.path last.contents = .ok snapshot →
          last.snapshot = snapshot) := by
  have asked : Pending heard.reloads.length heard := by
    rw [runAppend] at delivered
    obtain ⟨watched, _, moved⟩ := Option.bind_eq_some_iff.mp delivered
    exact pendingOfDelivery _ (by simpa [run?] using moved)
  obtain ⟨watch, found, reason⟩ := pendingOfRun asked ran sameWatch
  have backed := backedOfRun (runThen delivered ran)
  have named : last.directory?.isSome = true := backed.watched (by rw [found]; rfl)
  refine ⟨watch, found, ?_, ?_⟩
  · obtain asked | ⟨index, taken, behind, inside⟩ := reason
    · exact .inl asked
    · right
      have stands := List.getElem?_eq_getElem inside
      have apart := backed.reloads named _ (List.getElem_mem inside)
      cases unread : (last.reloads[index]).isUnread with
      | true => exact .inl (by simp [isAboutToRead, taken, stands, unread])
      | false =>
          refine .inr ⟨index, _, by simp [List.getElem?_eq_none behind], stands, ?_⟩
          revert apart unread
          cases last.reloads[index] <;> simp [Reload.isUnread, Reload.hasRead]
  · intro noWrite notAsked finished snapshot loads
    obtain asked | ⟨index, _, behind, inside⟩ := reason
    · exact absurd asked (by simp [notAsked])
    · have namedBefore : heard.directory?.isSome = true := directoryOfRun ran ▸ named
      exact snapshotOfLateReload delivered namedBefore ran (silentOfNoWrite noWrite)
        (by simp [List.getElem?_eq_none behind]) (List.getElem?_eq_getElem inside)
        (finished _ (List.getElem_mem inside)) loads

/-- Of two events, the second finds the wish of the first and is dropped. -/
theorem watchLosesNotOneNode :
    ∃ heard last watch snapshot,
      (start (some "d") .directory).run?
        ([.openWatch, .write .nodes oneNode, .write .nodes oneNode, .deliver] ++ [.deliver]) =
          some heard ∧
      heard.run? ([.take] ++ List.replicate 8 (.advance 0)) = some last ∧
      last.watch? = some watch ∧ watch.isAsked = false ∧
      Snapshot.load last.path last.contents = .ok snapshot ∧ last.snapshot = snapshot ∧
      last.snapshot.counts = (1, 0, 0) := by
  obtain ⟨last, ran, checked⟩ := runReaches (start (some "d") .directory)
    (([.openWatch, .write .nodes oneNode, .write .nodes oneNode, .deliver] ++ [.deliver]) ++
      ([.take] ++ List.replicate 8 (.advance 0)))
    (fun last => last.path == "d" && last.contents == ⟨oneNode, .absent⟩ &&
      (last.watch?).all (fun watch => !watch.isAsked) && last.reloads.all Reload.isFinished)
    (by decide +kernel)
  simp only [Bool.and_eq_true, beq_iff_eq, List.all_eq_true] at checked
  obtain ⟨⟨⟨path, contents⟩, unasked⟩, finished⟩ := checked
  rw [runAppend] at ran
  obtain ⟨heard, delivered, ran⟩ := Option.bind_eq_some_iff.mp ran
  obtain ⟨snapshot, loads, counts⟩ := oneNodeLoads
  rw [← contents, ← path] at loads
  obtain ⟨watch, found, _, installs⟩ := watchLosesNoChange delivered ran (by simp)
  have notAsked : watch.isAsked = false := by simpa [found] using unasked
  have installed := installs (by simp) notAsked finished snapshot loads
  exact ⟨heard, last, watch, snapshot, delivered, ran, found, notAsked, loads, installed,
    installed ▸ counts⟩

end World

end FleetPanel.Live
