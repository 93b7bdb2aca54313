/-
This file says what a record promises beyond its shape, and shows that the records of a snapshot are
those of the elements of its files that can be read and keep their promises.
-/

import FleetPanel.Proofs.Exports.Listing

namespace FleetPanel.Fleet

/-- A node uses no more slots than it has. -/
def Node.KeepsPromise (node : Node) : Prop :=
  node.usedSlots ≤ node.capacitySlots

/-- The node of an instance keeps its promise, and an instance with a failure reason has failed. -/
def Instance.KeepsPromises (inst : Instance) : Prop :=
  inst.node.KeepsPromise ∧ (inst.failureReason?.isSome = true → inst.state = .failed)

variable {node : Node} {inst : Instance}

theorem Node.violationNone : node.violation? = none ↔ node.KeepsPromise := by
  simp [violation?, KeepsPromise]

theorem Instance.violationNone : inst.violation? = none ↔ inst.KeepsPromises := by
  cases failed : inst.failureReason?.isSome <;>
    simp [violation?, KeepsPromises, Node.violationNone, failed]

/-- Nothing is cut off where the free slots are counted. -/
theorem Node.KeepsPromise.slots (kept : node.KeepsPromise) :
    node.freeSlots + node.usedSlots.toNat = node.capacitySlots.toNat :=
  Nat.sub_add_cancel (UInt32.le_iff_toNat_le.mp kept)

theorem Instance.inactiveOfFailed (failed : inst.state = .failed) : inst.isActive = false := by
  rw [isActive, failed]
  rfl

end FleetPanel.Fleet

namespace FleetPanel.Exports

open Fleet

/-- The elements of a file that could be loaded. Where no file is seen there are none. -/
def Entry.HasElements (entry : Entry) (elements : List Json) : Prop :=
  entry.Holds elements ∨ entry.isPresent = false ∧ elements = []

variable {Record : Type} {format : Format Record} {path : String}

theorem Format.recordSpec {element : Json} {record : Record} :
    format.record? element = some record ↔
      format.ofJson element = .ok record ∧ format.violation? record = none := by
  unfold record?
  cases format.ofJson element with
  | error fault => simp
  | ok other =>
      simp only [Option.isNone_iff_eq_none, Option.ite_none_right_eq_some, Option.some.injEq,
        Except.ok.injEq]
      constructor
      · rintro ⟨kept, rfl⟩
        exact ⟨rfl, kept⟩
      · rintro ⟨rfl, kept⟩
        exact ⟨kept, rfl⟩

/-- What was loaded are the elements of the file. -/
theorem elementsOfLoad {entry : Entry} {listing : Listing Record}
    (loads : Listing.load format path entry = .ok listing) :
    ∃ elements, entry.HasElements elements ∧
      listing = Listing.ofElements format path 0 elements := by
  cases present : entry.isPresent with
  | false =>
      simp only [Listing.load, Listing.readFound, present, Bool.false_eq_true, ↓reduceIte] at loads
      exact ⟨[], .inr ⟨present, rfl⟩, (Except.ok.inj loads).symm⟩
  | true =>
    simp only [Listing.load, Listing.readFound, present, ↓reduceIte, Listing.read] at loads
    cases isText : entry.read with
    | error fault => simp [isText, Except.mapError, bind, Except.bind] at loads
    | ok text =>
        cases isJson : Json.ofCharacters text with
        | error fault => simp [isText, isJson, Except.mapError, bind, Except.bind] at loads
        | ok value =>
            simp only [isText, isJson, Except.mapError, bind, Except.bind] at loads
            cases value with
            | array elements =>
                exact ⟨elements, .inl ⟨text, isText, isJson⟩, (Except.ok.inj loads).symm⟩
            | _ => cases loads

/-- The records of a listing are those of the elements that can be read and break no promise. -/
theorem recordOfElements (elements : List Json) (record : Record) :
    record ∈ (Listing.ofElements format path 0 elements).records ↔
      ∃ element ∈ elements, format.ofJson element = .ok record ∧
        format.violation? record = none := by
  rw [(Listing.accountsOfElements format path elements).records, List.mem_filterMap]
  simp only [Format.recordSpec]

/-- A snapshot has the nodes and the instances that can be read from the elements of its files and
keep their promises, and no others. -/
theorem recordsOfSnapshot {directory : Directory} {snapshot : Snapshot}
    (loads : Snapshot.load path directory = .ok snapshot) :
    ∃ nodes instances, directory.nodes.HasElements nodes ∧
      directory.instances.HasElements instances ∧
      (∀ node, node ∈ snapshot.nodes ↔
        ∃ element ∈ nodes, Node.ofJson element = .ok node ∧ node.KeepsPromise) ∧
      ∀ inst, inst ∈ snapshot.instances ↔
        ∃ element ∈ instances, Instance.ofJson element = .ok inst ∧ inst.KeepsPromises := by
  obtain ⟨nodes, instances, nodesLoad, instancesLoad, rfl⟩ := listingsOfSnapshot loads
  obtain ⟨nodeElements, nodesHave, rfl⟩ := elementsOfLoad nodesLoad
  obtain ⟨instanceElements, instancesHave, rfl⟩ := elementsOfLoad instancesLoad
  refine ⟨nodeElements, instanceElements, nodesHave, instancesHave, fun node => ?_,
    fun inst => ?_⟩
  · exact (recordOfElements nodeElements node).trans (by simp [Format.node, Node.violationNone])
  · exact (recordOfElements instanceElements inst).trans
      (by simp [Format.inst, Instance.violationNone])

namespace Snapshot

/-- The records keep their promises. No slots are cut off of a node, neither of one that is listed
nor of one that an instance carries, and an instance with a failure reason has failed and is not
active. -/
structure KeepsPromises (snapshot : Snapshot) : Prop where
  nodes : ∀ node ∈ snapshot.nodes ++ snapshot.instances.map Instance.node,
    node.KeepsPromise ∧ node.freeSlots + node.usedSlots.toNat = node.capacitySlots.toNat
  instances : ∀ inst ∈ snapshot.instances, inst.failureReason?.isSome = true →
    inst.state = .failed ∧ inst.isActive = false

/-- Some files have nothing that can be read and keeps its promises but is not in the snapshot. -/
structure HasAll (files : Directory) (snapshot : Snapshot) : Prop where
  nodes : ∃ elements, files.nodes.HasElements elements ∧
    ∀ element ∈ elements, ∀ node, Node.ofJson element = .ok node → node.KeepsPromise →
      node ∈ snapshot.nodes
  instances : ∃ elements, files.instances.HasElements elements ∧
    ∀ element ∈ elements, ∀ inst, Instance.ofJson element = .ok inst → inst.KeepsPromises →
      inst ∈ snapshot.instances

variable {files : Directory} {snapshot : Snapshot}

theorem keepsPromisesOfLoad (loads : load path files = .ok snapshot) : snapshot.KeepsPromises := by
  obtain ⟨_, _, _, _, nodes, instances⟩ := recordsOfSnapshot loads
  have kept : ∀ inst ∈ snapshot.instances, inst.KeepsPromises := by
    intro inst inside
    obtain ⟨_, _, _, kept⟩ := (instances inst).mp inside
    exact kept
  refine ⟨fun node inside => ?_, fun inst inside failure => ?_⟩
  · suffices node.KeepsPromise from ⟨this, this.slots⟩
    rcases List.mem_append.mp inside with listed | carried
    · obtain ⟨_, _, _, kept⟩ := (nodes node).mp listed
      exact kept
    · obtain ⟨inst, among, rfl⟩ := List.mem_map.mp carried
      exact (kept inst among).1
  · have failed := (kept inst inside).2 failure
    exact ⟨failed, Instance.inactiveOfFailed failed⟩

theorem hasAllOfLoad (loads : load path files = .ok snapshot) : snapshot.HasAll files := by
  obtain ⟨nodes, instances, nodesHave, instancesHave, nodesSpec, instancesSpec⟩ :=
    recordsOfSnapshot loads
  exact ⟨⟨nodes, nodesHave, fun element inside node read kept =>
      (nodesSpec node).mpr ⟨element, inside, read, kept⟩⟩,
    ⟨instances, instancesHave, fun element inside inst read kept =>
      (instancesSpec inst).mpr ⟨element, inside, read, kept⟩⟩⟩

end Snapshot

end FleetPanel.Exports
