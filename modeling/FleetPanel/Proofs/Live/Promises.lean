/-
This file shows that after every run the panel holds no record that breaks a promise, and no fewer
records than the files that it last loaded have.
-/

import FleetPanel.Proofs.Api.Served
import FleetPanel.Proofs.Exports.Promises
import FleetPanel.Proofs.Live.History

namespace FleetPanel.Live

open Exports Fleet

/-- A value shows as free slots of a node those that it has and does not use. -/
def ShowsFreeSlots (node : Node) (value : Json) : Prop :=
  value.get? "freeSlots" = some (.integer (node.capacitySlots.toNat - node.usedSlots.toNat))

theorem freeSlotsOfView (timeout : Nat) (now : Time.Instant) {node : Node}
    (kept : node.KeepsPromise) : ShowsFreeSlots node (Api.nodeView timeout now node) := by
  have free : (node.freeSlots : ℤ) = node.capacitySlots.toNat - node.usedSlots.toNat := by
    have slots := kept.slots
    omega
  rw [ShowsFreeSlots, (Api.showsNodeOfView timeout now node).freeSlots, free]

/-- What is answered to a request for one node is the view of a node that is listed. -/
theorem viewOfNode {context : Api.Context} {query encoded : List Char} {snapshot : Snapshot}
    {value : Json}
    (reply : (Api.resource context query (.node encoded)).alone snapshot = .json value) :
    ∃ node ∈ snapshot.nodes, value = Api.nodeView context.timeout (context.clock 0) node := by
  simp only [Api.resource, Api.find] at reply
  cases named : Api.idOf encoded with
  | error fault =>
      rw [named] at reply
      unfold Api.idOf at named
      split at named
      · cases named
      · cases named
        cases reply
  | ok id =>
      simp only [named, Api.Reading.see, Api.Reading.alone] at reply
      cases found : snapshot.findNode? id with
      | none =>
          rw [found] at reply
          cases reply
      | some node =>
          rw [found] at reply
          cases reply
          exact ⟨node, List.mem_of_find?_eq_some found, rfl⟩

namespace World

/-- After every run the records of the panel keep their promises, the free slots of each node are
served as they are, and no record is missing that the versions of the files that were loaded last
have. -/
theorem servedKeepPromises {directory? : Option String} {ground : Ground} {actions : List Action}
    {world : World} (ran : (start directory? ground).run? actions = some world) :
    world.snapshot.KeepsPromises ∧
    (∀ context site? query, ∃ items,
      Api.fetched context site? "/api/nodes" query world.snapshot = .json (.array items) ∧
      List.Forall₂ ShowsFreeSlots world.snapshot.nodes items) ∧
    (∀ context query encoded value,
      (Api.resource context query (.node encoded)).alone world.snapshot = .json value →
      ∃ node ∈ world.snapshot.nodes, ShowsFreeSlots node value) ∧
    ∃ nodes instances, (versions .nodes actions)[world.edition.nodes]? = some nodes ∧
      (versions .instances actions)[world.edition.instances]? = some instances ∧
      world.snapshot.HasAll ⟨nodes, instances⟩ := by
  obtain ⟨nodes, instances, nodesVersion, instancesVersion, loads⟩ :=
    (recordedOfRun ran).snapshot
  have kept := Snapshot.keepsPromisesOfLoad loads
  have shown : ∀ timeout now, ∀ node ∈ world.snapshot.nodes,
      ShowsFreeSlots node (Api.nodeView timeout now node) := fun timeout now node listed =>
    freeSlotsOfView timeout now (kept.nodes node (List.mem_append_left _ listed)).1
  refine ⟨kept, fun context site? query => ?_, fun context query encoded value reply => ?_, nodes,
    instances, nodesVersion, instancesVersion, Snapshot.hasAllOfLoad loads⟩
  · exact ⟨_, Api.fetchedNodes context site? query world.snapshot,
      Api.viewsShow context (shown context.timeout)⟩
  · obtain ⟨node, listed, rfl⟩ := viewOfNode reply
    exact ⟨node, listed, shown _ _ node listed⟩

/-- A listing file with two nodes, the second of which uses more slots than it has. -/
def overfullNode : Entry :=
  .ofText <|
    "[[\"n\",\"n\",\"r\",0,false,2,1,\"2026-03-01T12:00:00Z\",\"1\"]," ++
      "[\"m\",\"m\",\"r\",0,false,2,3,\"2026-03-01T12:00:00Z\",\"1\"]]"

/-- A reload sets the overfull node aside, and what it shows keeps its promises. -/
theorem servedWithoutOverfull :
    ∃ world, (start (some "d") .directory).run?
        ([.write .nodes overfullNode, .begin] ++ List.replicate 8 (.advance 0)) = some world ∧
      world.snapshot.counts = (1, 0, 1) ∧ world.snapshot.KeepsPromises := by
  obtain ⟨world, ran, counts⟩ := runReaches (start (some "d") .directory)
    ([.write .nodes overfullNode, .begin] ++ List.replicate 8 (.advance 0))
    (fun world => world.snapshot.counts == (1, 0, 1)) (by decide +kernel)
  exact ⟨world, ran, beq_iff_eq.mp counts, (servedKeepPromises ran).1⟩

end World

end FleetPanel.Live
