/-
This file shows nodes, instances and JSON values as rows of a table.
-/

import FleetPanel.Fleet.Instance

namespace FleetPanel

/-- A JSON value as a row. Only objects hold something. -/
def Json.row (value : Json) : Row :=
  value.get?

namespace Fleet

/-- An instant as rows show it. -/
def instantValue (instant : Time.Instant) : Json :=
  .string (instant.text .digits)

def Node.row (node : Node) : Row
  | "id" => some (.string node.id)
  | "name" => some (.string node.name)
  | "region" => some (.string node.region)
  | "status" => some (.string node.status.name)
  | "devMode" => some (.boolean node.devMode)
  | "capacitySlots" => some (.integer node.capacitySlots.toNat)
  | "usedSlots" => some (.integer node.usedSlots.toNat)
  | "lastHeartbeatAt" => some (instantValue node.lastHeartbeatAt)
  | "nodeVersion" => some (.string node.nodeVersion)
  | "tags" => some (.string node.tags)
  | "baseUrl" => some (.string node.baseUrl)
  | _ => none

/-- The row of an instance shows its node by name. -/
def Instance.row (inst : Instance) : Row
  | "id" => some (.string inst.id)
  | "name" => some (.string inst.name)
  | "displayName" => some (.string inst.displayName)
  | "state" => some (.string inst.state.name)
  | "requestedByUserId" => some (.string inst.requestedByUserId)
  | "node" => some (.string inst.node.name)
  | "region" => some (.string inst.region)
  | "tags" => some (.string inst.tags)
  | "devModeAllowed" => some (.boolean inst.devModeAllowed)
  | "portsJson" => some (.string inst.portsJson)
  | "variablesJson" => some (.string inst.variablesJson)
  | "createdAt" => some (instantValue inst.createdAt)
  | "updatedAt" => some (instantValue inst.updatedAt)
  | "startedAt" => inst.startedAt?.map instantValue
  | "stoppedAt" => inst.stoppedAt?.map instantValue
  | "failureReason" => inst.failureReason?.map .string
  | _ => none

end Fleet

end FleetPanel
