/-
This file holds the steps of a running panel. A step is one action of one task; a task that has to
wait, or that is not there, has no step.
-/

import FleetPanel.Live.World

namespace FleetPanel.Live

open Exports

inductive Action where
  | write (which : Which) (entry : Entry)
  | openWatch
  | closeWatch
  | deliver
  | take
  | begin
  | advance (reload : Nat)
  | connect
  | tell (socket : Nat)
  | disconnect (socket : Nat)
deriving DecidableEq, Repr

namespace World

/-- Another program replaces a listing file, and the watch will hear of it. -/
def write? (world : World) (which : Which) (entry : Entry) : Option World :=
  if world.ground = .plainFile then none
  else
    let heard := world.watch?.map fun watch =>
      if watch.isOpen then { watch with inFlight := watch.inFlight + 1 } else watch
    let world := { world with ground := .directory, watch? := heard }
    match which with
    | .nodes => some { world with nodes := world.nodes.write entry }
    | .instances => some { world with instances := world.instances.write entry }

/-- Opens a watch over the data directory, which is made if it is missing. -/
def openWatch? (world : World) : Option World :=
  if world.directory?.isNone || world.ground = .plainFile then none
  else some { world with ground := .directory, watch? := some .begin }

/-- No event reaches a closed watch. -/
def closeWatch? (world : World) : Option World :=
  world.watch?.map fun watch =>
    { world with watch? := some { watch with isOpen := false, inFlight := 0 } }

/-- An event of the data directory reaches the watch. -/
def deliver? (world : World) : Option World :=
  world.watch?.bind fun watch =>
    if watch.isOpen then
      some { world with
        watch? := some { watch with inFlight := watch.inFlight - 1, isAsked := true } }
    else none

/-- A new reload. Without a directory there is nothing to read; only the notification is left. -/
def firstReload (world : World) : Reload :=
  if world.directory?.isSome then .waiting else .unbacked

def begin (world : World) : World :=
  { world with reloads := world.reloads ++ [world.firstReload] }

/-- The task of a watch is in no reload. -/
def isIdle (world : World) (watch : Watch) : Bool :=
  watch.reload?.all fun index => (world.reloads[index]?).all Reload.isFinished

/-- The task of the watch takes the wish for a reload and begins one. -/
def take? (world : World) : Option World :=
  world.watch?.bind fun watch =>
    if watch.isAsked && world.isIdle watch then
      some { world.begin with
        watch? := some { watch with isAsked := false, reload? := some world.reloads.length } }
    else none

def notify (world : World) : World :=
  { world with notified := world.notified + 1 }

/-- The next step of a reload. -/
def advance? (world : World) (index : Nat) : Option World :=
  match world.reloads[index]? with
  | none | some .finished => none
  | some .unbacked => some (world.notify.setReload index .finished)
  | some .waiting =>
      if world.holder?.isSome then none
      else some ({ world with holder? := some index }.setReload index .locked)
  | some .locked =>
      some (world.setReload index
        (.nodesFound (world.entry .nodes).isPresent world.nodes.writes))
  | some (.nodesFound found edition) =>
      let edition := if found then world.nodes.writes else edition
      match Listing.readFound .node (nodesPath world.path) found (world.entry .nodes) with
      | .ok nodes => some (world.setReload index (.nodesRead nodes edition))
      | .error _ => some (world.setReload index .leaving)
  | some (.nodesRead nodes edition) =>
      some (world.setReload index
        (.instancesFound nodes edition (world.entry .instances).isPresent world.instances.writes))
  | some (.instancesFound nodes edition found other) =>
      let other := if found then world.instances.writes else other
      match Listing.readFound .inst (instancesPath world.path) found (world.entry .instances) with
      | .ok instances =>
          some (world.setReload index (.loaded (.ofListings nodes instances) ⟨edition, other⟩))
      | .error _ => some (world.setReload index .leaving)
  | some (.loaded snapshot edition) =>
      some ({ world with snapshot, edition }.setReload index .swapped)
  | some .swapped => some (world.notify.setReload index .leaving)
  | some .leaving => some ({ world with holder? := none }.setReload index .finished)

/-- A client opens a socket. It hears of every notification from now on. -/
def connect (world : World) : World :=
  { world with sockets := world.sockets ++ [⟨.reading, world.notified, []⟩] }

/-- The number of notifications that are kept for a socket that is behind. -/
def retained : Nat := 16

/-- The next step of a socket's task. A socket that is too far behind ends. -/
def tell? (world : World) (index : Nat) : Option World :=
  world.sockets[index]?.bind fun socket =>
    match socket.teller with
    | .reading =>
        some (world.setSocket index { socket with teller := .sending world.snapshot.counts })
    | .sending counts =>
        some (world.setSocket index
          { socket with teller := .waiting, sent := socket.sent ++ [counts] })
    | .waiting =>
        if socket.next = world.notified then none
        else if retained < world.notified - socket.next then
          some (world.setSocket index { socket with teller := .ended })
        else
          some (world.setSocket index { socket with teller := .reading, next := socket.next + 1 })
    | .ended => none

/-- A client closes its socket. -/
def disconnect? (world : World) (index : Nat) : Option World :=
  if index < world.sockets.length then
    some { world with sockets := world.sockets.eraseIdx index }
  else none

def step? (world : World) : Action → Option World
  | .write which entry => world.write? which entry
  | .openWatch => world.openWatch?
  | .closeWatch => world.closeWatch?
  | .deliver => world.deliver?
  | .take => world.take?
  | .begin => some world.begin
  | .advance reload => world.advance? reload
  | .connect => some world.connect
  | .tell socket => world.tell? socket
  | .disconnect socket => world.disconnect? socket

/-- The state after some actions, if each of them has a step. -/
def run? (world : World) (actions : List Action) : Option World :=
  actions.foldlM step? world

/-- The states that a panel can come into. -/
inductive Reachable (first : World) : World → Prop where
  | start : Reachable first first
  | step {world next : World} (action : Action) (before : Reachable first world)
      (moved : world.step? action = some next) : Reachable first next

theorem runAppend (world : World) (before after : List Action) :
    world.run? (before ++ after) = (world.run? before).bind (·.run? after) := by
  simp [run?, List.foldlM_append, bind]

theorem reachableOfRun {first world next : World} {actions : List Action}
    (before : Reachable first world) (ran : world.run? actions = some next) :
    Reachable first next := by
  induction actions generalizing world with
  | nil =>
      obtain rfl : world = next := by simpa [run?] using ran
      exact before
  | cons action rest inductionHypothesis =>
      obtain ⟨middle, moved, rest⟩ := Option.bind_eq_some_iff.mp ran
      exact inductionHypothesis (.step action before moved) rest

end World

end FleetPanel.Live
