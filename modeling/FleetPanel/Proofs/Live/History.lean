/-
This file shows that a snapshot was read from the versions of the listing files that its edition
names.
-/

import FleetPanel.Proofs.Live.Order

namespace FleetPanel.Live

open Exports Fleet

/-- The versions that a listing file went through, the first of which is no file. -/
def versions (which : Which) (actions : List Action) : List Entry :=
  .absent :: actions.filterMap (Action.written? which)

/-- A snapshot is what the versions that an edition names load as. -/
def LoadedFrom (path : String) (actions : List Action) (edition : Edition) (snapshot : Snapshot) :
    Prop :=
  ∃ nodes instances, (versions .nodes actions)[edition.nodes]? = some nodes ∧
    (versions .instances actions)[edition.instances]? = some instances ∧
    Snapshot.load path ⟨nodes, instances⟩ = .ok snapshot

/-- A listing of nodes is what a version of the file loads as. -/
def NodesFrom (path : String) (actions : List Action) (edition : Nat) (nodes : Listing Node) :
    Prop :=
  ∃ entry, (versions .nodes actions)[edition]? = some entry ∧ loadNodes path entry = .ok nodes

/-- A look for a file that found nothing was at a version that shows no file. -/
def FoundFrom (which : Which) (actions : List Action) (found : Bool) (edition : Nat) : Prop :=
  found = false → ∃ entry, (versions which actions)[edition]? = some entry ∧
    entry.isPresent = false

/-- What a reload has read so far is from the versions that it names. -/
def Reload.IsFrom (path : String) (actions : List Action) : Reload → Prop
  | nodesFound found edition => FoundFrom .nodes actions found edition
  | nodesRead nodes edition => NodesFrom path actions edition nodes
  | instancesFound nodes edition found other =>
      NodesFrom path actions edition nodes ∧ FoundFrom .instances actions found other
  | loaded snapshot edition => LoadedFrom path actions edition snapshot
  | unbacked | waiting | locked | swapped | leaving | finished => True

theorem versionsAppend (which : Which) (actions : List Action) (action : Action) :
    versions which (actions ++ [action]) =
      versions which actions ++ (action.written? which).toList := by
  cases wrote : action.written? which <;> simp [versions, List.filterMap_append, wrote]

/-- Later actions change no earlier version. -/
theorem versionKept {which : Which} {actions : List Action} {edition : Nat} {entry : Entry}
    (version : (versions which actions)[edition]? = some entry) (action : Action) :
    (versions which (actions ++ [action]))[edition]? = some entry := by
  obtain ⟨inside, _⟩ := List.getElem?_eq_some_iff.mp version
  rw [versionsAppend, List.getElem?_append_left inside, version]

theorem FoundFrom.kept {which : Which} {actions : List Action} {found : Bool} {edition : Nat}
    (foundFrom : FoundFrom which actions found edition) (action : Action) :
    FoundFrom which (actions ++ [action]) found edition := by
  intro missing
  obtain ⟨entry, version, unseen⟩ := foundFrom missing
  exact ⟨entry, versionKept version action, unseen⟩

theorem LoadedFrom.kept {path : String} {actions : List Action} {edition : Edition}
    {snapshot : Snapshot} (loaded : LoadedFrom path actions edition snapshot) (action : Action) :
    LoadedFrom path (actions ++ [action]) edition snapshot := by
  obtain ⟨nodes, instances, nodesVersion, instancesVersion, loads⟩ := loaded
  exact ⟨nodes, instances, versionKept nodesVersion action, versionKept instancesVersion action,
    loads⟩

theorem NodesFrom.kept {path : String} {actions : List Action} {edition : Nat}
    {nodes : Listing Node} (read : NodesFrom path actions edition nodes) (action : Action) :
    NodesFrom path (actions ++ [action]) edition nodes := by
  obtain ⟨entry, version, loads⟩ := read
  exact ⟨entry, versionKept version action, loads⟩

theorem Reload.IsFrom.kept {path : String} {actions : List Action} {reload : Reload}
    (isFrom : reload.IsFrom path actions) (action : Action) :
    reload.IsFrom path (actions ++ [action]) := by
  cases reload with
  | nodesFound => exact FoundFrom.kept isFrom action
  | nodesRead => exact NodesFrom.kept isFrom action
  | instancesFound => exact ⟨isFrom.1.kept action, isFrom.2.kept action⟩
  | loaded => exact LoadedFrom.kept isFrom action
  | _ => trivial

/-- What was read after a look is what a file loads as: the file that was read if one was found, and
else any version that shows none. -/
theorem loadOfReadFound {Record : Type} {format : Format Record} {path : String} {found : Bool}
    {entry seen : Entry} {listing : Listing Record}
    (read : Listing.readFound format path found entry = .ok listing)
    (same : found = true → seen = entry) (unseen : found = false → seen.isPresent = false) :
    Listing.load format path seen = .ok listing := by
  cases found with
  | false => rwa [Listing.load, unseen rfl]
  | true =>
      obtain rfl := same rfl
      cases seen with
      | absent | hidden => exact nomatch read
      | directory | locked | octets => exact read

theorem loadOfListings {path : String} {directory : Directory} {nodes : Listing Node}
    {instances : Listing Instance} (nodesLoad : loadNodes path directory.nodes = .ok nodes)
    (instancesLoad : loadInstances path directory.instances = .ok instances) :
    Snapshot.load path directory = .ok (.ofListings nodes instances) := by
  simp [Snapshot.load, nodesLoad, instancesLoad, bind, Except.bind, pure, Except.pure]

namespace World

variable {world next rest : World} {index : Nat} {before after : Reload} {action : Action}
  {actions : List Action}

/-- The actions so far tell how each file came about, and what snapshots and reloads are from. -/
structure Recorded (actions : List Action) (world : World) : Prop where
  length : ∀ which, (versions which actions).length = (world.file which).writes + 1
  present : ∀ which,
    (versions which actions)[(world.file which).writes]? = some (world.entry which)
  snapshot : LoadedFrom world.path actions world.edition world.snapshot
  reloads : ∀ (index : Nat) (reload : Reload), world.reloads[index]? = some reload →
    reload.IsFrom world.path actions

theorem recordedStart (directory? : Option String) (ground : Ground) :
    Recorded [] (start directory? ground) where
  length := fun which => by cases which <;> rfl
  present := fun which => by
    rw [entryOfGrounded (soundStart directory? ground).grounded]
    cases which <;> rfl
  snapshot := ⟨.absent, .absent, rfl, rfl, rfl⟩
  reloads := fun _ _ stood => by simp [start] at stood

/-- A step writes what its action says and nothing else. -/
theorem fileOfStep (moved : world.step? action = some next) (which : Which) :
    next.file which =
      ((action.written? which).map (world.file which).write).getD (world.file which) := by
  cases effectOfStep moved with
  | @written other => cases other <;> cases which <;> rfl
  | watched ground watch? silent => rw [silent]; rfl
  | begun watch? begins => rw [Action.silentOfBegins begins]; rfl
  | advanced index stood advance => cases advance <;> cases which <;> rfl
  | connected => rfl
  | told => rfl
  | disconnected => rfl

theorem filesRecordedOfStep (sound : world.Sound) (recorded : Recorded actions world)
    (moved : world.step? action = some next) (which : Which) :
    (versions which (actions ++ [action])).length = (next.file which).writes + 1 ∧
      (versions which (actions ++ [action]))[(next.file which).writes]? =
        some (next.entry which) := by
  have length := recorded.length which
  have present := recorded.present which
  rw [entryOfGrounded sound.grounded] at present
  rw [entryOfGrounded (groundedOfStep sound.grounded moved), versionsAppend, fileOfStep moved]
  cases action.written? which with
  | none => simpa using ⟨length, present⟩
  | some entry =>
      simp only [Option.toList_some, Option.map_some, Option.getD_some, File.write,
        List.length_append, List.length_singleton, length]
      refine ⟨trivial, ?_⟩
      rw [← length, List.getElem?_concat_length]

theorem isFromOfAdvance (recorded : Recorded actions world)
    (stood : world.reloads[index]? = some before)
    (advance : Advance world index before rest after) : after.IsFrom world.path actions := by
  have isFrom := recorded.reloads index before stood
  have looked : ∀ which,
      FoundFrom which actions (world.entry which).isPresent (world.file which).writes :=
    fun which missing => ⟨world.entry which, recorded.present which, missing⟩
  -- A file that was not found is read as the version that was looked at, any other as it is now.
  have version : ∀ (which : Which) (found : Bool) (edition : Nat),
      FoundFrom which actions found edition →
      ∃ seen, (versions which actions)[if found then (world.file which).writes else edition]? =
          some seen ∧
        (found = true → seen = world.entry which) ∧ (found = false → seen.isPresent = false) := by
    intro which found edition foundFrom
    cases found with
    | true => exact ⟨_, recorded.present which, fun _ => rfl, nofun⟩
    | false =>
        obtain ⟨seen, stands, unseen⟩ := foundFrom rfl
        exact ⟨seen, stands, nofun, fun _ => unseen⟩
  cases advance with
  | nodesFound => exact looked .nodes
  | nodesRead read =>
      obtain ⟨seen, stands, same, unseen⟩ := version .nodes _ _ isFrom
      exact ⟨seen, stands, loadOfReadFound read same unseen⟩
  | instancesFound => exact ⟨isFrom, looked .instances⟩
  | instancesRead read =>
      obtain ⟨⟨nodes, nodesVersion, nodesLoad⟩, foundFrom⟩ := isFrom
      obtain ⟨seen, stands, same, unseen⟩ := version .instances _ _ foundFrom
      exact ⟨nodes, seen, nodesVersion, stands,
        loadOfListings nodesLoad (loadOfReadFound read same unseen)⟩
  | _ => trivial

theorem recordedOfStep (sound : world.Sound) (recorded : Recorded actions world)
    (moved : world.step? action = some next) : Recorded (actions ++ [action]) next := by
  have files := filesRecordedOfStep sound recorded moved
  have path := pathOfStep moved
  suffices LoadedFrom world.path actions next.edition next.snapshot ∧
      ∀ (index : Nat) (reload : Reload), next.reloads[index]? = some reload →
        reload.IsFrom world.path actions by
    refine ⟨fun which => (files which).1, fun which => (files which).2, ?_, ?_⟩
    · rw [path]
      exact this.1.kept action
    · intro index reload stands
      rw [path]
      exact (this.2 index reload stands).kept action
  cases effectOfStep moved with
  | @written which => cases which <;> exact ⟨recorded.snapshot, recorded.reloads⟩
  | begun =>
      refine ⟨recorded.snapshot, fun index reload stands => ?_⟩
      rcases placeOfBegin stands with rfl | stands
      · unfold firstReload
        split <;> trivial
      · exact recorded.reloads index reload stands
  | @advanced index before after rest stood advance =>
      have isFrom := isFromOfAdvance recorded stood advance
      refine ⟨?_, fun other reload stands => ?_⟩
      · have loaded := recorded.reloads index before stood
        cases advance with
        | swapped => exact loaded
        | _ => exact recorded.snapshot
      · obtain ⟨rfl, rfl⟩ | ⟨_, stands⟩ := placeOfAdvance stood advance stands
        · exact isFrom
        · exact recorded.reloads other reload stands
  | watched => exact ⟨recorded.snapshot, recorded.reloads⟩
  | connected => exact ⟨recorded.snapshot, recorded.reloads⟩
  | told => exact ⟨recorded.snapshot, recorded.reloads⟩
  | disconnected => exact ⟨recorded.snapshot, recorded.reloads⟩

theorem recordedOfRun {directory? : Option String} {ground : Ground}
    (ran : (start directory? ground).run? actions = some world) : Recorded actions world := by
  have kept := runKeeps (fun actions world => world.Sound ∧ Recorded actions world) ran
    ⟨soundStart directory? ground, recordedStart directory? ground⟩
    fun _ _ _ _ _ held moved =>
      ⟨soundOfStep held.1 moved, recordedOfStep held.1 held.2 moved⟩
  exact kept.2

end World

end FleetPanel.Live
