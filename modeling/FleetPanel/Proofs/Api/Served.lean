/-
This file shows that what the panel serves of nodes and instances is read back as the records that
it holds.
-/

import FleetPanel.Api.Server
import FleetPanel.Proofs.Fleet.Written
import Mathlib.Data.List.Forall2

namespace FleetPanel.Api

open Exports Fleet Http

/-- What a client that reads a path gets while the snapshot stays the same. -/
def fetched (context : Context) (site? : Option Site) (path : String) (query : List Char)
    (snapshot : Snapshot) : Answer :=
  (answer context site? ⟨.get, ⟨path.toList, query⟩⟩).alone snapshot

/-- The reply is an array whose text is read back as it is, and its items are read as the records,
in their order. -/
def Serves {Record : Type} (ofJson : Json → Decoded Record) (records : List Record)
    (reply : Answer) : Prop :=
  ∃ items, reply = .json (.array items) ∧
    Json.ofText (Json.array items).compact = .ok (.array items) ∧
    items.map ofJson = records.map .ok

/-- A value shows a node, whatever the clock showed: it is read as the node, and beside the node it
tells the free slots and whether the heartbeat is stale. -/
structure ShowsNode (node : Node) (value : Json) : Prop where
  readBack : Node.ofJson value = .ok node
  freeSlots : value.get? "freeSlots" = some (.integer node.freeSlots)
  heartbeatStale : ∃ stale, value.get? "heartbeatStale" = some (.boolean stale)

variable (context : Context) (site? : Option Site) (query : List Char) (snapshot : Snapshot)
  (timeout : Nat) (now : Time.Instant)

/-- Items that are read back as the records one by one serve them. -/
theorem servesOfReadBack {Record : Type} {ofJson : Json → Decoded Record} {records : List Record}
    {items : List Json}
    (readBack : List.Forall₂ (fun record item => ofJson item = .ok record) records items)
    (exact : ∀ item ∈ items, Json.Exact 126 item) :
    Serves ofJson records (.json (.array items)) := by
  refine ⟨items, rfl, Json.readCompact (.array exact), ?_⟩
  clear exact
  induction readBack with
  | nil => rfl
  | cons read _ inductionHypothesis => simp [read, inductionHypothesis]

/-- Records that are written one by one are served if each is read back. -/
theorem servesOfWritten {Record : Type} {ofJson : Json → Decoded Record} {write : Record → Json}
    (readBack : ∀ record, ofJson (write record) = .ok record)
    (exact : ∀ record, Json.Exact 126 (write record)) (records : List Record) :
    Serves ofJson records (.json (.array (records.map write))) := by
  refine servesOfReadBack ?_ fun item inside => ?_
  · rw [List.forall₂_map_right_iff]
    exact List.forall₂_same.mpr fun record _ => readBack record
  · obtain ⟨record, _, rfl⟩ := List.mem_map.mp inside
    exact exact record

/-- The members that are shown beside those of a node have keys of their own. -/
theorem distinctOfView (node : Node) (free stale : Json) :
    ((node.members ++ [("freeSlots", free), ("heartbeatStale", stale)]).map Prod.fst).Nodup := by
  change (Node.keys ++ ["freeSlots", "heartbeatStale"]).Nodup
  decide

theorem memberOfView (node : Node) (key : String) : (nodeView timeout now node).get? key =
    Json.member? (node.members ++ [("freeSlots", .integer node.freeSlots),
      ("heartbeatStale", .boolean (node.isStale now (staleAfter timeout)))]) key := by
  obtain ⟨sorted, made, same⟩ := Json.objectOfMembers (distinctOfView node
    (.integer node.freeSlots) (.boolean (node.isStale now (staleAfter timeout))))
  rw [nodeView, made, Json.get?, same]

theorem showsNodeOfView (node : Node) : ShowsNode node (nodeView timeout now node) where
  readBack := readRecordOfRow (distinctOfView node _ _) (Node.checkOfMembers node _)
  freeSlots := memberOfView timeout now node "freeSlots"
  heartbeatStale := ⟨_, memberOfView timeout now node "heartbeatStale"⟩

theorem exactView (node : Node) (depth : Nat) :
    Json.Exact (depth + 1) (nodeView timeout now node) := by
  have free : Json.FitsInteger node.freeSlots := by
    have few := node.capacitySlots.toNat_lt_size
    rw [UInt32.size] at few
    rw [Node.freeSlots]
    constructor <;> omega
  refine Json.exactOfMembers (List.forall_mem_append.mpr ⟨Node.exactMembers node depth, ?_⟩)
  simp only [List.forall_mem_cons]
  exact ⟨.integer _ free, .boolean _ _, List.forall_mem_nil _⟩

theorem viewAt (nodes : List Node) (place : Nat) : (nodeViews context nodes)[place]? =
    nodes[place]?.map (nodeView context.timeout (context.clock place)) :=
  List.getElem?_mapIdx

/-- What holds of every view of a node holds of the nodes and their views. -/
theorem viewsShow {Shows : Node → Json → Prop} {nodes : List Node}
    (shown : ∀ now, ∀ node ∈ nodes, Shows node (nodeView context.timeout now node)) :
    List.Forall₂ Shows nodes (nodeViews context nodes) := by
  refine List.forall₂_iff_get.mpr ⟨List.length_mapIdx.symm, fun place inside _ => ?_⟩
  simpa [nodeViews] using shown (context.clock place) _ (List.getElem_mem inside)

theorem viewsOfStill (nodes : List Node) :
    nodeViews (.still now timeout) nodes = nodes.map (nodeView timeout now) :=
  List.ext_getElem? fun place => by rw [viewAt, List.getElem?_map]; rfl

theorem fetchedNodes : fetched context site? "/api/nodes" query snapshot =
    .json (.array (nodeViews context snapshot.nodes)) := by
  have routed : Route.ofPath? "/api/nodes".toList = some .nodes := by decide +kernel
  simp only [fetched, answer, routed]
  rfl

theorem fetchedOfQuery : fetched context site? "/api/instances" query snapshot =
    (instances query).alone snapshot := by
  have routed : Route.ofPath? "/api/instances".toList = some .instances := by decide +kernel
  simp only [fetched, answer, routed]
  rfl

theorem fetchedInstances :
    (fetched context site? "/api/instances" query snapshot).status = 400 ∨
      ∃ selection : Selection, fetched context site? "/api/instances" query snapshot =
        .json (.array ((snapshot.instances.filter selection.accepts).map Instance.toJson)) := by
  rw [fetchedOfQuery, instances]
  split
  · exact .inl rfl
  · split
    · exact .inl rfl
    · case h_2 selection _ => exact .inr ⟨selection, rfl⟩

/-- A query without wishes selects every instance. -/
theorem fetchedAllInstances : fetched context site? "/api/instances" [] snapshot =
    .json (.array (snapshot.instances.map Instance.toJson)) := by
  have every : (Selection.mk none none false).accepts = fun _ => true := rfl
  rw [fetchedOfQuery]
  change Answer.json
    (.array ((snapshot.instances.filter (Selection.mk none none false).accepts).map _)) = _
  rw [every, List.filter_true]

/-- Every record is read back from what it is written as, and so is all that is served of nodes and
instances, also when it was sent as a text. A node is served with two members more. -/
theorem recordsReadBack :
    (∀ node : Node, Node.ofJson node.toJson = .ok node ∧
      Json.ofText node.toJson.compact = .ok node.toJson) ∧
    (∀ inst : Instance, Instance.ofJson inst.toJson = .ok inst ∧
      Json.ofText inst.toJson.compact = .ok inst.toJson) ∧
    ∀ context site? snapshot,
      (∀ query, Serves Node.ofJson snapshot.nodes
          (fetched context site? "/api/nodes" query snapshot) ∧
        ∃ items, fetched context site? "/api/nodes" query snapshot = .json (.array items) ∧
          List.Forall₂ ShowsNode snapshot.nodes items) ∧
      Serves Instance.ofJson snapshot.instances
        (fetched context site? "/api/instances" [] snapshot) ∧
      ∀ query, (fetched context site? "/api/instances" query snapshot).status = 400 ∨
        ∃ selection : Selection,
          Serves Instance.ofJson (snapshot.instances.filter selection.accepts)
            (fetched context site? "/api/instances" query snapshot) := by
  have instances := servesOfWritten Instance.readBack fun inst => inst.exactJson 124
  refine ⟨fun node => ⟨node.readBack, Json.readCompact (node.exactJson 126)⟩,
    fun inst => ⟨inst.readBack, Json.readCompact (inst.exactJson 125)⟩,
    fun context site? snapshot => ⟨fun query => ?_, ?_, fun query => ?_⟩⟩
  · rw [fetchedNodes]
    have shown : List.Forall₂ ShowsNode snapshot.nodes (nodeViews context snapshot.nodes) :=
      viewsShow context fun now node _ => showsNodeOfView context.timeout now node
    refine ⟨servesOfReadBack (shown.imp fun _ _ shows => shows.readBack) ?_, _, rfl, shown⟩
    intro item inside
    obtain ⟨place, _, rfl⟩ := List.mem_mapIdx.mp inside
    exact exactView context.timeout _ _ 125
  · rw [fetchedAllInstances]
    exact instances _
  · rcases fetchedInstances context site? query snapshot with fault | ⟨selection, reply⟩
    · exact .inl fault
    · exact .inr ⟨selection, reply ▸ instances _⟩

end FleetPanel.Api
