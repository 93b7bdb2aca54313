/-
This file holds nodes, the machines of a fleet: how they are read, checked, written and shown to be
alive.
-/

import FleetPanel.Fleet.Field
import FleetPanel.Time.Text

namespace FleetPanel.Fleet

/-- A promise that a record has to keep beyond its shape. -/
inductive Violation where
  | slotsExceedCapacity (node : String) (used capacity : UInt32)
  | unexpectedFailureReason (instance_ : String) (state : InstanceState)
deriving DecidableEq, Repr

def Violation.message : Violation → String
  | slotsExceedCapacity node used capacity =>
      let used := used.toNat
      let capacity := capacity.toNat
      s!"Node '{node}' uses {used} slots but only has {capacity}"
  | unexpectedFailureReason instance_ state =>
      let state := state.name
      s!"Instance '{instance_}' has a failure reason but is {state}"

structure Node where
  id : String
  name : String
  region : String
  status : NodeStatus
  devMode : Bool
  capacitySlots : UInt32
  usedSlots : UInt32
  lastHeartbeatAt : Time.Instant
  nodeVersion : String
  tags : String
  baseUrl : String
deriving DecidableEq

namespace Node

def keys : List String :=
  ["id", "name", "region", "status", "devMode", "capacitySlots", "usedSlots", "lastHeartbeatAt",
    "nodeVersion", "tags", "baseUrl"]

open Checked in
/-- A node of the fields that a row holds. -/
def check (row : Row) : Checked Node :=
  formed mk
    |>.apply (required row "id" readText)
    |>.apply (required row "name" readText)
    |>.apply (required row "region" readText)
    |>.apply (required row "status" (readEnumerated .nodeStatus NodeStatus.set))
    |>.apply (required row "devMode" readTruth)
    |>.apply (required row "capacitySlots" readCount)
    |>.apply (required row "usedSlots" readCount)
    |>.apply (required row "lastHeartbeatAt" readTimestamp)
    |>.apply (required row "nodeVersion" readText)
    |>.apply (optionalText row "tags")
    |>.apply (optionalText row "baseUrl")

def ofJson : Json → Decoded Node :=
  readRecord .node keys check

/-- The members of a node's object. -/
def members (node : Node) : List (String × Json) :=
  [("id", .string node.id),
    ("name", .string node.name),
    ("region", .string node.region),
    ("status", .string node.status.name),
    ("devMode", .boolean node.devMode),
    ("capacitySlots", .integer node.capacitySlots.toNat),
    ("usedSlots", .integer node.usedSlots.toNat),
    ("lastHeartbeatAt", .string (node.lastHeartbeatAt.text .letter)),
    ("nodeVersion", .string node.nodeVersion),
    ("tags", .string node.tags),
    ("baseUrl", .string node.baseUrl)]

def toJson (node : Node) : Json :=
  Json.ofMembers node.members

/-- A node uses no more slots than it has. -/
def violation? (node : Node) : Option Violation :=
  if node.capacitySlots < node.usedSlots then
    some (.slotsExceedCapacity node.id node.usedSlots node.capacitySlots)
  else none

def freeSlots (node : Node) : Nat :=
  node.capacitySlots.toNat - node.usedSlots.toNat

def isOnline (node : Node) : Bool :=
  node.status == .online

/-- The nanoseconds since the last heartbeat. A clock that runs behind the node gives zero. -/
def heartbeatAge (node : Node) (now : Time.Instant) : Int :=
  max (now.since node.lastHeartbeatAt) 0

/-- The last heartbeat is longer ago than the timeout, in nanoseconds. -/
def isStale (node : Node) (now : Time.Instant) (timeout : Int) : Bool :=
  timeout < node.heartbeatAge now

end Node

end FleetPanel.Fleet
