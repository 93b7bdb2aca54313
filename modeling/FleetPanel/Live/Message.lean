/-
This file holds the messages that sockets send to their clients.
-/

import FleetPanel.Json.Compact
import FleetPanel.Live.World

namespace FleetPanel.Live

namespace Counts

/-- What a message tells, in the order in which it is written. -/
def members (counts : Counts) : List (String × Json) :=
  let (nodes, instances, rejected) := counts
  [("nodes", .integer nodes), ("instances", .integer instances), ("rejected", .integer rejected)]

/-- The message that tells a client the counts of the current snapshot. -/
def message (counts : Counts) : Json :=
  .ofMembers [("type", .string "snapshot_updated"), ("data", .ofMembers counts.members)]

/-- The text of a message as it is sent. -/
def text (counts : Counts) : String :=
  (Json.object [("type", .string "snapshot_updated"), ("data", .object counts.members)]).compact

end Counts

/-- The texts that a client was sent. -/
def Socket.texts (socket : Socket) : List String :=
  socket.sent.map Counts.text

end FleetPanel.Live
