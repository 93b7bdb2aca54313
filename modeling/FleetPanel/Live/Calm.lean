/-
This file lets the tasks of a panel run until they wait, while nothing else happens.
-/

import FleetPanel.Live.Step

namespace FleetPanel.Live.World

/-- Repeats a step as long as there is one, up to a number of times. -/
def exhaust (step? : World → Option World) : Nat → World → World
  | 0, world => world
  | rounds + 1, world =>
      match step? world with
      | some next => exhaust step? rounds next
      | none => world

/-- No reload takes more steps than this. -/
def longestReload : Nat := 8

/-- Runs a reload to its end. -/
def finish (world : World) (index : Nat) : World :=
  world.exhaust (·.advance? index) longestReload

/-- Runs a socket until it waits for a notification. For each one it takes three steps. -/
def settleSocket (world : World) (index : Nat) : World :=
  match world.sockets[index]? with
  | none => world
  | some socket =>
      world.exhaust (·.tell? index) (3 * (world.notified - socket.next) + 3)

def settleSockets (world : World) : World :=
  (List.range world.sockets.length).foldl settleSocket world

/-- Reloads as often as is asked for at once, one after another. -/
def reload (world : World) (times : Nat) : World :=
  let first := world.reloads.length
  let begun := Nat.repeat begin times world
  ((List.range times).foldl (fun world offset => world.finish (first + offset)) begun).settleSockets

/-- Delivers the events on their way and lets the watch reload. -/
def settleWatch (world : World) : World :=
  let delivered :=
    match world.watch? with
    | some watch => world.exhaust deliver? watch.inFlight
    | none => world
  match delivered.take? with
  | some taken => (taken.finish delivered.reloads.length).settleSockets
  | none => delivered

end FleetPanel.Live.World
