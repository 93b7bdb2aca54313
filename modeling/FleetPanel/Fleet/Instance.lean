/-
This file holds instances, the workloads that nodes run. An instance carries a copy of its node as
it was when the record was written.
-/

import FleetPanel.Fleet.Node

namespace FleetPanel.Fleet

structure Instance where
  id : String
  name : String
  displayName : String
  state : InstanceState
  requestedByUserId : String
  node : Node
  region : String
  tags : String
  devModeAllowed : Bool
  portsJson : String
  variablesJson : String
  createdAt : Time.Instant
  updatedAt : Time.Instant
  startedAt? : Option Time.Instant
  stoppedAt? : Option Time.Instant
  failureReason? : Option String
deriving DecidableEq

namespace Instance

def keys : List String :=
  ["id", "name", "displayName", "state", "requestedByUserId", "node", "region", "tags",
    "devModeAllowed", "portsJson", "variablesJson", "createdAt", "updatedAt", "startedAt",
    "stoppedAt", "failureReason"]

open Checked in
/-- An instance of the fields that a row holds. -/
def check (row : Row) : Checked Instance :=
  formed mk
    |>.apply (required row "id" readText)
    |>.apply (required row "name" readText)
    |>.apply (required row "displayName" readText)
    |>.apply (required row "state" (readEnumerated .instanceState InstanceState.set))
    |>.apply (required row "requestedByUserId" readText)
    |>.apply (required row "node" Node.ofJson)
    |>.apply (required row "region" readText)
    |>.apply (optionalText row "tags")
    |>.apply (required row "devModeAllowed" readTruth)
    |>.apply (required row "portsJson" readText)
    |>.apply (required row "variablesJson" readText)
    |>.apply (required row "createdAt" readTimestamp)
    |>.apply (required row "updatedAt" readTimestamp)
    |>.apply (optional row "startedAt" readTimestamp)
    |>.apply (optional row "stoppedAt" readTimestamp)
    |>.apply (optional row "failureReason" readText)

def ofJson : Json → Decoded Instance :=
  readRecord .instance_ keys check

/-- A member that is left out when there is no value. -/
def optionalMember (key : String) (value? : Option String) : List (String × Json) :=
  (value?.map fun value => (key, Json.string value)).toList

/-- The members of an instance's object. -/
def members (inst : Instance) : List (String × Json) :=
  [("id", .string inst.id),
    ("name", .string inst.name),
    ("displayName", .string inst.displayName),
    ("state", .string inst.state.name),
    ("requestedByUserId", .string inst.requestedByUserId),
    ("node", inst.node.toJson),
    ("region", .string inst.region),
    ("tags", .string inst.tags),
    ("devModeAllowed", .boolean inst.devModeAllowed),
    ("portsJson", .string inst.portsJson),
    ("variablesJson", .string inst.variablesJson),
    ("createdAt", .string (inst.createdAt.text .letter)),
    ("updatedAt", .string (inst.updatedAt.text .letter))] ++
  optionalMember "startedAt" (inst.startedAt?.map (·.text .letter)) ++
  optionalMember "stoppedAt" (inst.stoppedAt?.map (·.text .letter)) ++
  optionalMember "failureReason" inst.failureReason?

def toJson (inst : Instance) : Json :=
  Json.ofMembers inst.members

/-- The node keeps its promise, and only a failed instance has a failure reason. -/
def violation? (inst : Instance) : Option Violation :=
  inst.node.violation? <|>
    if inst.failureReason?.isSome && inst.state != .failed then
      some (.unexpectedFailureReason inst.id inst.state)
    else none

def isActive (inst : Instance) : Bool :=
  !inst.state.isTerminal

end Instance

end FleetPanel.Fleet
