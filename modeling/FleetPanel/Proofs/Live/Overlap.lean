/-
This file shows that overlapping reloads never go back in time, and that a reload begun after the
last write leaves a snapshot of the files as they are.
-/

import FleetPanel.Proofs.Exports.Listing
import FleetPanel.Proofs.Live.History

namespace FleetPanel.Live

open Exports Fleet

/-- A reload that has not begun to read. -/
def Reload.isUnread : Reload → Bool
  | waiting | locked => true
  | _ => false

/-- A reload has read nothing but the files as they are, and what it installed is of them. -/
def Reload.IsCurrent (world : World) : Reload → Prop
  | unbacked => False
  | waiting | locked => True
  | nodesFound found edition =>
      found = (world.entry .nodes).isPresent ∧ edition = world.newest.nodes
  | nodesRead _ edition => edition = world.newest.nodes
  | instancesFound _ edition found other =>
      edition = world.newest.nodes ∧ found = (world.entry .instances).isPresent ∧
        other = world.newest.instances
  | loaded _ edition => edition = world.newest
  | swapped | leaving | finished => world.edition = world.newest

namespace World

variable {world next rest last : World} {index : Nat} {before after : Reload} {action : Action}
  {actions : List Action} {snapshot : Snapshot}

/-- If there is a reload at `index`, it is current. -/
def ReadsNewest (index : Nat) (world : World) : Prop :=
  ∀ reload, world.reloads[index]? = some reload → reload.IsCurrent world

/-- A step without a write leaves the files as they are. -/
theorem fileOfQuietStep (moved : world.step? action = some next)
    (silent : ∀ which, action.written? which = none) (which : Which) :
    next.file which = world.file which := by
  rw [fileOfStep moved, silent]
  rfl

theorem entryOfQuietStep (sound : world.Sound) (moved : world.step? action = some next)
    (silent : ∀ which, action.written? which = none) (which : Which) :
    next.entry which = world.entry which := by
  rw [entryOfGrounded sound.grounded, entryOfGrounded (soundOfStep sound moved).grounded,
    fileOfQuietStep moved silent]

theorem newestOfQuietStep (moved : world.step? action = some next)
    (silent : ∀ which, action.written? which = none) : next.newest = world.newest := by
  change (⟨(next.file .nodes).writes, (next.file .instances).writes⟩ : Edition) = world.newest
  rw [fileOfQuietStep moved silent, fileOfQuietStep moved silent]
  rfl

/-- A reload that does not move stays current in a step without a write. -/
theorem isCurrentOfQuietStep {reload : Reload} (sound : world.Sound)
    (moved : world.step? action = some next) (silent : ∀ which, action.written? which = none)
    (current : reload.IsCurrent world) : reload.IsCurrent next := by
  have newest := newestOfQuietStep moved silent
  have entries := entryOfQuietStep sound moved silent
  have installed : world.edition = world.newest → next.edition = next.newest := by
    intro isNewest
    apply le_antisymm (soundOfStep sound moved).ordered.installed
    rw [newest, ← isNewest]
    exact editionOfStep sound.ordered moved
  cases reload with
  | nodesFound => exact ⟨entries .nodes ▸ current.1, newest ▸ current.2⟩
  | nodesRead => exact current.trans (congrArg Edition.nodes newest.symm)
  | instancesFound =>
      exact ⟨newest ▸ current.1, entries .instances ▸ current.2.1, newest ▸ current.2.2⟩
  | loaded => exact current.trans newest.symm
  | unbacked => exact current
  | waiting | locked => trivial
  | swapped | leaving | finished => exact installed current

/-- A reload that moves stays current, for files that load do not fail it. -/
theorem isCurrentOfAdvance (loads : Snapshot.load world.path world.contents = .ok snapshot)
    (advance : Advance world index before rest after) (current : before.IsCurrent world) :
    after.IsCurrent (rest.setReload index after) := by
  obtain ⟨nodes, instances, nodesLoad, instancesLoad, _⟩ := listingsOfSnapshot loads
  cases advance with
  | announced => exact current.elim
  | locked => trivial
  | nodesFound => exact ⟨rfl, rfl⟩
  | @nodesRead found edition =>
      cases found with
      | true => rfl
      | false => exact current.2
  | nodesFailed failed =>
      rw [current.1] at failed
      exact nomatch failed.symm.trans nodesLoad
  | instancesFound => exact ⟨current, rfl, rfl⟩
  | @instancesRead nodes edition other found =>
      obtain ⟨rfl, _, other⟩ := current
      cases found with
      | true => rfl
      | false => exact congrArg _ other
  | instancesFailed failed =>
      rw [current.2.1] at failed
      exact nomatch failed.symm.trans instancesLoad
  | swapped => exact current
  | notified => exact current
  | left => exact current

theorem readsNewestOfStep (sound : world.Sound) (backed : world.directory?.isSome)
    (loads : Snapshot.load world.path world.contents = .ok snapshot)
    (silent : ∀ which, action.written? which = none) (reads : world.ReadsNewest index)
    (moved : world.step? action = some next) : next.ReadsNewest index := by
  intro reload stands
  have unmoved : world.reloads[index]? = some reload → reload.IsCurrent next :=
    fun stood => isCurrentOfQuietStep sound moved silent (reads reload stood)
  cases effectOfStep moved with
  | @written which => cases which <;> exact unmoved stands
  | begun =>
      rcases placeOfBegin stands with rfl | stands
      · rw [firstReload, if_pos backed]
        trivial
      · exact unmoved stands
  | @advanced mover before after rest stood advance =>
      obtain ⟨rfl, rfl⟩ | ⟨_, stands⟩ := placeOfAdvance stood advance stands
      · exact isCurrentOfAdvance loads advance (reads before stood)
      · exact unmoved stands
  | watched => exact unmoved stands
  | connected => exact unmoved stands
  | told => exact unmoved stands
  | disconnected => exact unmoved stands

theorem readsNewestOfUnread (unread : (world.reloads[index]?).all Reload.isUnread = true) :
    world.ReadsNewest index := by
  intro reload stands
  rw [stands] at unread
  cases reload <;> trivial

theorem contentsOfQuietStep (sound : world.Sound) (moved : world.step? action = some next)
    (silent : ∀ which, action.written? which = none) : next.contents = world.contents := by
  rw [contents, entryOfQuietStep sound moved silent, entryOfQuietStep sound moved silent]
  rfl

theorem contentsOfQuietRun (sound : world.Sound)
    (silent : ∀ action ∈ actions, ∀ which, action.written? which = none)
    (ran : world.run? actions = some last) : last.contents = world.contents := by
  have kept := runKeeps (fun _ later => later.Sound ∧ later.contents = world.contents) ran
    ⟨sound, rfl⟩ fun _ action _ _ inside held moved =>
      ⟨soundOfStep held.1 moved,
        (contentsOfQuietStep held.1 moved (silent action inside)).trans held.2⟩
  exact kept.2

theorem readsNewestOfQuietRun (sound : world.Sound) (backed : world.directory?.isSome)
    (silent : ∀ action ∈ actions, ∀ which, action.written? which = none)
    (ran : world.run? actions = some last)
    (loads : Snapshot.load world.path world.contents = .ok snapshot)
    (reads : world.ReadsNewest index) : last.ReadsNewest index := by
  have kept := runKeeps
    (fun _ later => later.Sound ∧ later.directory? = world.directory? ∧
      later.contents = world.contents ∧ later.ReadsNewest index) ran
    ⟨sound, rfl, rfl, reads⟩ ?_
  · exact kept.2.2.2
  · intro _ action later next inside ⟨sound, directory, contents, reads⟩ moved
    have path : later.path = world.path := congrArg (·.getD "") directory
    have laterLoads : Snapshot.load later.path later.contents = .ok snapshot := by
      rw [path, contents, loads]
    exact ⟨soundOfStep sound moved, (directoryOfStep moved).trans directory,
      (contentsOfQuietStep sound moved (silent action inside)).trans contents,
      readsNewestOfStep sound (directory ▸ backed) laterLoads (silent action inside) reads moved⟩

/-- A snapshot of the newest edition is what the files load as. -/
theorem loadOfNewest (recorded : Recorded actions world) (isNewest : world.edition = world.newest) :
    Snapshot.load world.path world.contents = .ok world.snapshot := by
  obtain ⟨nodes, instances, nodesVersion, instancesVersion, loads⟩ := recorded.snapshot
  rw [isNewest] at nodesVersion instancesVersion
  obtain rfl := Option.some.inj (nodesVersion.symm.trans (recorded.present .nodes))
  obtain rfl := Option.some.inj (instancesVersion.symm.trans (recorded.present .instances))
  exact loads

/-- A reload that had not begun to read at the last write has, once it is over, left a snapshot of
the files as they are. -/
theorem snapshotOfLateReload {directory? : Option String} {ground : Ground}
    {earlier later : List Action} {reload : Reload}
    (started : (start directory? ground).run? earlier = some world)
    (backed : world.directory?.isSome) (ran : world.run? later = some last)
    (silent : ∀ action ∈ later, ∀ which, action.written? which = none)
    (unread : (world.reloads[index]?).all Reload.isUnread = true)
    (stands : last.reloads[index]? = some reload) (finished : reload.isFinished = true)
    (loads : Snapshot.load last.path last.contents = .ok snapshot) : last.snapshot = snapshot := by
  have sound := soundOfRun (soundStart directory? ground) started
  have path := pathOfRun ran
  have firstLoads : Snapshot.load world.path world.contents = .ok snapshot := by
    rw [← path, ← contentsOfQuietRun sound silent ran, loads]
  have current := readsNewestOfQuietRun sound backed silent ran firstLoads
    (readsNewestOfUnread unread) reload stands
  have isNewest : last.edition = last.newest := by
    cases reload with
    | finished => exact current
    | _ => exact nomatch finished
  have installed := loadOfNewest (recordedOfRun (runThen started ran)) isNewest
  exact Except.ok.inj (installed.symm.trans loads)

theorem silentOfNoWrite (noWrite : ∀ which entry, .write which entry ∉ actions) :
    ∀ action ∈ actions, ∀ which, action.written? which = none := by
  intro action inside which
  cases action with
  | write other entry => exact absurd inside (noWrite other entry)
  | _ => rfl

/-- Whatever the order in which reloads and writes take their steps, no file goes back in the
snapshots that are installed, each of which is what the versions of its edition load as; and once
all reloads are over, one of which was begun after the last write, the snapshot is what the files
load as. -/
theorem overlappingReloadsGoForward {directory : String} {ground : Ground}
    {earlier later : List Action}
    (started : (start (some directory) ground).run? earlier = some world)
    (ran : world.run? later = some last) :
    (world.edition.nodes ≤ last.edition.nodes ∧
      world.edition.instances ≤ last.edition.instances ∧
      LoadedFrom directory (earlier ++ later) last.edition last.snapshot) ∧
    ((∀ which entry, .write which entry ∉ later) →
      (∃ action ∈ later, action.beginsReload = true) →
      (∀ reload ∈ last.reloads, reload.isFinished = true) →
      ∀ snapshot, Snapshot.load directory last.contents = .ok snapshot →
        last.snapshot = snapshot) := by
  have sound := soundOfRun (soundStart (some directory) ground) started
  have wholeRun := runThen started ran
  have path : last.path = directory := pathOfRun wholeRun
  constructor
  · have forward := editionOfRun sound ran
    exact ⟨forward.1, forward.2, path ▸ (recordedOfRun wholeRun).snapshot⟩
  · intro noWrite begun finished snapshot loads
    -- The first reload that is begun later stands behind those that are there.
    have grown : world.reloads.length < last.reloads.length := by
      rw [lengthOfRun ran]
      have := List.countP_pos_iff.mpr begun
      omega
    have backed : world.directory?.isSome = true := by
      rw [directoryOfRun started]
      rfl
    exact snapshotOfLateReload started backed ran (silentOfNoWrite noWrite) (by simp)
      (List.getElem?_eq_getElem grown) (finished _ (List.getElem_mem grown)) (path ▸ loads)

/-- A reload that had looked for the nodes before they were written does not have the last word. -/
theorem overlappingReloadsEndOnOneNode :
    ∃ world last snapshot,
      (start (some "d") .directory).run?
        [.begin, .advance 0, .advance 0, .write .nodes oneNode] = some world ∧
      world.run? ([.begin] ++ List.replicate 6 (.advance 0) ++ List.replicate 8 (.advance 1)) =
        some last ∧
      world.edition.nodes ≤ last.edition.nodes ∧
      Snapshot.load "d" last.contents = .ok snapshot ∧ last.snapshot = snapshot ∧
      last.snapshot.counts = (1, 0, 0) := by
  obtain ⟨last, ran, checked⟩ := runReaches (start (some "d") .directory)
    ([.begin, .advance 0, .advance 0, .write .nodes oneNode] ++
      ([.begin] ++ List.replicate 6 (.advance 0) ++ List.replicate 8 (.advance 1)))
    (fun last => last.contents == ⟨oneNode, .absent⟩ && last.reloads.all Reload.isFinished)
    (by decide +kernel)
  simp only [Bool.and_eq_true, beq_iff_eq, List.all_eq_true] at checked
  obtain ⟨contents, finished⟩ := checked
  rw [runAppend] at ran
  obtain ⟨world, started, ran⟩ := Option.bind_eq_some_iff.mp ran
  obtain ⟨snapshot, loads, counts⟩ := oneNodeLoads
  rw [← contents] at loads
  obtain ⟨⟨forward, _⟩, installs⟩ := overlappingReloadsGoForward started ran
  have installed := installs (by simp) ⟨.begin, by simp, rfl⟩ finished snapshot loads
  exact ⟨world, last, snapshot, started, ran, forward, loads, installed, installed ▸ counts⟩

end World

end FleetPanel.Live
