/-
This file shows that a record is found by its id exactly if it is listed: what a request for an id
is answered with is read off the listings, however the id is escaped.
-/

import FleetPanel.Proofs.Api.Inquiry
import FleetPanel.Proofs.Api.Served
import FleetPanel.Proofs.Http.Segments
import FleetPanel.Proofs.Table.Alike

namespace FleetPanel.Api

open Exports Fleet Http

/-- A served record has an id. -/
def hasId (id : String) (record : Json) : Bool :=
  (record.get? "id").bind Json.string? == some id

/-- A served instance holds a node with an id. -/
def isOnNode (id : String) (inst : Json) : Bool :=
  (inst.get? "node").any (hasId id)

/-- The answer that shows the first record with an id, if there is one. -/
def firstWithId (id : String) (records : List Json) : Answer :=
  match records.find? (hasId id) with
  | some record => .json record
  | none => .notFound

variable (context : Context) (site? : Option Site) (snapshot : Snapshot)

/-- The answer to a client that gets a target while the snapshot stays the same. -/
def got (target : String) : Answer :=
  (answer context site? ⟨.get, .ofText target⟩).alone snapshot

theorem hasIdOfView (timeout : Nat) (now : Time.Instant) (id : String) (node : Node) :
    hasId id (nodeView timeout now node) = (node.id == id) := by
  rw [hasId, memberOfView]
  rfl

theorem hasIdOfNode (id : String) (node : Node) : hasId id node.toJson = (node.id == id) := by
  rw [hasId, ← Json.row, node.rowOfJson]
  rfl

theorem hasIdOfInstance (id : String) (inst : Instance) :
    hasId id inst.toJson = (inst.id == id) := by
  rw [hasId, ← Json.row, inst.rowOfJson]
  rfl

theorem isOnNodeOfInstance (id : String) (inst : Instance) :
    isOnNode id inst.toJson = (inst.node.id == id) := by
  rw [isOnNode, ← Json.row, inst.rowOfJson]
  exact hasIdOfNode id inst.node

/-- What is found among some things is shown as the first of all that are shown. -/
theorem firstWithIdOfMap {Record : Type} {view : Record → Json} {name : Record → String}
    {id : String} (shown : ∀ record, hasId id (view record) = (name record == id))
    (records : List Record) :
    firstWithId id (records.map view) =
      match (records.find? (name · == id)).map view with
      | some value => .json value
      | none => .notFound := by
  have same : hasId id ∘ view = (name · == id) := funext shown
  rw [firstWithId, List.find?_map, same]

theorem listedOnNode (id : String) :
    (snapshot.instances.map Instance.toJson).filter (isOnNode id) = listedFor id snapshot := by
  have same : isOnNode id ∘ Instance.toJson = fun inst => inst.node.id == id :=
    funext (isOnNodeOfInstance id)
  rw [List.filter_map, same, listedFor]

/-- A part of a target's path: it is not empty, and nothing ends in it. -/
def IsPart (part : List Char) : Prop :=
  part ≠ [] ∧ ∀ mark ∈ segmentEnds, mark ∉ part

/-- A resource is got by its path. -/
theorem gotAt {route : Route} (parts : ∀ part ∈ route.parts, IsPart part) :
    got context site? snapshot (String.ofList (pathOf route.parts)) =
      (resource context [] route).alone snapshot := by
  have isAt : route.IsAt (pathOf route.parts) := ⟨rfl, fun part inside => (parts part inside).1,
    fun part inside => (parts part inside).2 '/' (by decide)⟩
  have rooted : (pathOf route.parts).head? = some '/' := by
    cases route <;> rfl
  have without : ∀ mark ∈ segmentEnds, mark ≠ '/' → mark ∉ pathOf route.parts := by
    intro mark isEnd notSlash inside
    obtain ⟨part, held, inside⟩ := List.mem_flatMap.mp inside
    rcases List.mem_cons.mp inside with same | inside
    · exact notSlash same
    · exact (parts part held).2 mark isEnd inside
  rw [got, targetOfPath rooted (without '?' (by decide) (by decide))
    (without '#' (by decide) (by decide))]
  simp only [answer, Route.ofPathIff.mpr isAt, answerResource]

variable {id : String} {segment : List Char}

theorem idOfSegment (spelled : SpelledSegment segment id.toList) : idOf segment = .ok id := by
  rw [idOf, decodedSegment spelled]
  exact congrArg Except.ok String.ofList_toList

theorem findAlone (spelled : SpelledSegment segment id.toList)
    (find? : String → Snapshot → Option Json) :
    (find segment find?).alone snapshot =
      match find? id snapshot with
      | some value => .json value
      | none => .notFound := by
  rw [find, idOfSegment spelled]
  rfl

theorem isPartSegment (filled : id ≠ "") (spelled : SpelledSegment segment id.toList) :
    IsPart segment := by
  have notEmpty : id.toList ≠ [] := by simpa using filled
  exact ⟨segmentFilled spelled notEmpty, fun mark isEnd => noEndInSegment spelled isEnd⟩

/-- Records are looked up by their ids in the listings, whichever way the id is spelled. A node and
an instance are the first that are listed with the id, and the instances of a listed node are those
that are listed with it. What is not listed is not found, even if an instance holds a node with the
id. -/
theorem lookupsAgreeWithListings (now : Time.Instant) (timeout : Nat) (filled : id ≠ "")
    (spelled : SpelledSegment segment id.toList) :
    let context := Context.still now timeout
    let nodes := nodeViews context snapshot.nodes
    let instances := snapshot.instances.map Instance.toJson
    let path := String.ofList segment
    got context site? snapshot "/api/nodes" = .json (.array nodes) ∧
      got context site? snapshot "/api/instances" = .json (.array instances) ∧
      got context site? snapshot ("/api/nodes/" ++ path) = firstWithId id nodes ∧
      got context site? snapshot ("/api/nodes/" ++ path ++ "/instances") =
        (if nodes.any (hasId id) then .json (.array (instances.filter (isOnNode id)))
          else .notFound) ∧
      got context site? snapshot ("/api/instances/" ++ path) = firstWithId id instances := by
  intro context nodes instances path
  have views : nodes = snapshot.nodes.map (nodeView timeout now) :=
    viewsOfStill timeout now snapshot.nodes
  let known := [segment, "api".toList, "nodes".toList, "instances".toList]
  have areParts : ∀ part ∈ known, IsPart part :=
    List.forall_mem_cons.mpr ⟨isPartSegment filled spelled, by simp [IsPart, segmentEnds]⟩
  have gotBy (target : String) (route : Route) (same : target = String.ofList (pathOf route.parts))
      (inside : route.parts ⊆ known) :
      got context site? snapshot target = (resource context [] route).alone snapshot :=
    same ▸ gotAt context site? snapshot fun part held => areParts part (inside held)
  have nodesGot := gotBy "/api/nodes" .nodes rfl (by simp [known, Route.parts])
  have instancesGot := gotBy "/api/instances" .instances rfl (by simp [known, Route.parts])
  have nodeGot := gotBy ("/api/nodes/" ++ path) (.node segment)
    (by simp [path, pathOf, Route.parts, ← String.toList_inj]) (by simp [known, Route.parts])
  have onNodeGot := gotBy ("/api/nodes/" ++ path ++ "/instances") (.nodeInstances segment)
    (by simp [path, pathOf, Route.parts, ← String.toList_inj]) (by simp [known, Route.parts])
  have instanceGot := gotBy ("/api/instances/" ++ path) (.instance_ segment)
    (by simp [path, pathOf, Route.parts, ← String.toList_inj]) (by simp [known, Route.parts])
  refine ⟨nodesGot, ?_, ?_, ?_, ?_⟩
  · rw [instancesGot, ← fetchedAllInstances context site? snapshot, fetchedOfQuery]
    rfl
  · rw [nodeGot, views, firstWithIdOfMap (hasIdOfView timeout now id)]
    exact findAlone snapshot spelled _
  · have listed : nodes.any (hasId id) = (snapshot.findNode? id).isSome := by
      rw [views, List.any_map, Snapshot.findNode?, List.isSome_find?]
      exact congrArg (snapshot.nodes.any ·) (funext (hasIdOfView timeout now id))
    rw [onNodeGot, listed, listedOnNode]
    exact nodeInstancesAlone (idOfSegment spelled) snapshot
  · rw [instanceGot, firstWithIdOfMap (hasIdOfInstance id)]
    exact findAlone snapshot spelled _

def twin (id name : String) : Node :=
  ⟨id, name, "r", .online, false, 2, 1, ⟨⟨2026, 8, 9, by decide⟩, .ofNumbers 12 0 0 0⟩, "1", "", ""⟩

def guest (id : String) (node : Node) : Instance :=
  ⟨id, "i", "i", .running, "u", node, "r", "", false, "", "", node.lastHeartbeatAt,
    node.lastHeartbeatAt, none, none, none⟩

/-- Of two nodes with an id that has a slash in it the first is found, with its instances. A node
that only an instance holds is not found. -/
theorem firstTwinFound :
    let snapshot : Snapshot := ⟨[twin "a/ü" "first", twin "a/ü" "second"],
      [guest "i" (twin "a/ü" "second"), guest "k" (twin "b" "stray")], []⟩
    let now := (twin "a/ü" "first").lastHeartbeatAt
    let context := Context.still now 60
    SpelledSegment "a%2F%c3%BC".toList "a/ü".toList ∧ SpelledSegment "b".toList "b".toList ∧
      got context none snapshot "/api/nodes/a%2F%c3%BC" =
        .json (nodeView 60 now (twin "a/ü" "first")) ∧
      got context none snapshot "/api/nodes/a%2F%c3%BC/instances" =
        .json (.array [(guest "i" (twin "a/ü" "second")).toJson]) ∧
      got context none snapshot "/api/nodes/b/instances" = .notFound := by
  intro snapshot now context
  have octets : String.utf8EncodeChar 'ü' =
      [.ofNat (16 * 12 + 3), .ofNat (16 * 11 + 12)] := by decide
  have umlaut : Escaped "%c3%BC".toList (String.utf8EncodeChar 'ü') :=
    octets ▸ .cons rfl rfl (.cons rfl rfl .nil)
  have octet : String.utf8EncodeChar '/' = [.ofNat (16 * 2 + 15)] := by decide
  have slash : Escaped "%2F".toList (String.utf8EncodeChar '/') := octet ▸ .cons rfl rfl .nil
  have spelled : SpelledSegment "a%2F%c3%BC".toList "a/ü".toList :=
    .plain (by decide) (by decide) (.escapes slash (.escapes umlaut .nil))
  have plain : SpelledSegment "b".toList "b".toList := .plain (by decide) (by decide) .nil
  obtain ⟨-, -, node, onNode, -⟩ :=
    lookupsAgreeWithListings none snapshot now 60 (by decide) spelled
  obtain ⟨-, -, -, onStray, -⟩ := lookupsAgreeWithListings none snapshot now 60 (by decide) plain
  have target : "/api/nodes/" ++ String.ofList "a%2F%c3%BC".toList = "/api/nodes/a%2F%c3%BC" ∧
      "/api/nodes/a%2F%c3%BC" ++ "/instances" = "/api/nodes/a%2F%c3%BC/instances" ∧
      "/api/nodes/" ++ String.ofList "b".toList ++ "/instances" = "/api/nodes/b/instances" := by
    decide
  rw [target.1] at node onNode
  rw [target.2.1] at onNode
  rw [target.2.2] at onStray
  have listed : (nodeViews context snapshot.nodes).any (hasId "a/ü") = true := by
    decide +kernel
  have unlisted : ¬ (nodeViews context snapshot.nodes).any (hasId "b") = true := by
    decide +kernel
  rw [viewsOfStill, firstWithIdOfMap (hasIdOfView 60 now "a/ü")] at node
  rw [if_pos listed, listedOnNode] at onNode
  rw [if_neg unlisted] at onStray
  exact ⟨spelled, plain, node, onNode, onStray⟩

end FleetPanel.Api
