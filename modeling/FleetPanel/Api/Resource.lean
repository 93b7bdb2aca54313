/-
This file answers requests for the resources of the panel.
-/

import FleetPanel.Api.Filter
import FleetPanel.Api.Reading
import FleetPanel.Http.Answer
import FleetPanel.Http.Query
import FleetPanel.Http.Route
import FleetPanel.Table.Rows
import FleetPanel.Table.View

namespace FleetPanel.Api

open Exports Fleet Http

/-- The longest time between two instants that is told apart from longer ones, in nanoseconds. -/
def longestTime : Int := 9223372036854775807 * 1000000

/-- A number of seconds in nanoseconds, or the longest time if it is longer. -/
def staleAfter (timeout : Nat) : Int :=
  min (timeout * 1000000000) longestTime

/-- What a request is answered by: what the clock shows each time that it is read for the answer,
and the seconds after which a node without a heartbeat is stale. -/
structure Context where
  clock : Nat → Time.Instant
  timeout : Nat

/-- A clock that stands still while a request is answered. -/
def Context.still (now : Time.Instant) (timeout : Nat) : Context :=
  ⟨fun _ => now, timeout⟩

/-- A node as it is served, with the clock read for it once. -/
def nodeView (timeout : Nat) (now : Time.Instant) (node : Node) : Json :=
  Json.ofMembers <| node.members ++
    [("freeSlots", .integer node.freeSlots),
      ("heartbeatStale", .boolean (node.isStale now (staleAfter timeout)))]

/-- Nodes as they are served together. The clock is read for each of them. -/
def nodeViews (context : Context) (nodes : List Node) : List Json :=
  nodes.mapIdx fun place node => nodeView context.timeout (context.clock place) node

def health : Json :=
  Json.ofMembers [("status", .string "ok")]

/-- The id of a path, or the answer to one that is no text. -/
def idOf (encoded : List Char) : Except Answer String :=
  match decoded? encoded with
  | some id => .ok (String.ofList id)
  | none => .error (.text 400 "Invalid URL: Invalid UTF-8 in `id`")

/-- Looks for something with an id. -/
def find (encoded : List Char) (find? : String → Snapshot → Option Json) : Reading Answer :=
  match idOf encoded with
  | .error answer => .done answer
  | .ok id =>
      .see fun snapshot =>
        match find? id snapshot with
        | some value => .json value
        | none => .notFound

/-- The instances of a node. First the node is looked for, and then its instances. -/
def nodeInstances (encoded : List Char) : Reading Answer :=
  match idOf encoded with
  | .error answer => .done answer
  | .ok id =>
      .look fun snapshot =>
        match snapshot.findNode? id with
        | none => .done .notFound
        | some _ =>
            .see fun snapshot =>
              let instances := snapshot.instances.filter fun inst => inst.node.id == id
              .json (.array (instances.map Instance.toJson))

/-- The instances that a query selects. -/
def instances (query : List Char) : Reading Answer :=
  match Filter.ofPairs (formPairs query) with
  | .error fault => .done (.text 400 fault.message)
  | .ok filter =>
      match Selection.ofFilter? filter with
      | none => .done (.plain 400)
      | some selection =>
          .see fun snapshot =>
            .json (.array ((snapshot.instances.filter selection.accepts).map Instance.toJson))

/-- What is told to a request that does not open a socket. -/
def noSocket : Answer :=
  .text 400 "Connection header did not include 'upgrade'"

/-- What a resource holds. -/
def resource (context : Context) (query : List Char) : Route → Reading Answer
  | .health => .done (.json health)
  | .nodes => .see fun snapshot => .json (.array (nodeViews context snapshot.nodes))
  | .node id => find id fun id snapshot =>
      (snapshot.findNode? id).map (nodeView context.timeout (context.clock 0))
  | .nodeInstances id => nodeInstances id
  | .instances => instances query
  | .instance_ id => find id fun id snapshot => (snapshot.findInstance? id).map Instance.toJson
  | .instanceTable => .see fun snapshot =>
      .json (Table.View.render Table.instanceColumns (snapshot.instances.map Instance.row)).toJson
  | .nodeTable => .see fun snapshot =>
      .json (Table.View.render Table.nodeColumns (snapshot.nodes.map Node.row)).toJson
  | .rejected => .see fun snapshot =>
      .json (.array (snapshot.rejected.map Rejected.toJson))
  | .socket => .done noSocket

end FleetPanel.Api
