/-
This file holds the state of a running panel: the listing files, the current snapshot, the reloads
under way, the watch over the files and the open sockets.

Each task is kept as the place that it has reached, so that its steps can be mixed with those of all
other tasks in any order.
-/

import FleetPanel.Exports.Snapshot

namespace FleetPanel.Live

open Exports Fleet

/-- One of the two listing files. -/
inductive Which where
  | nodes
  | instances
deriving DecidableEq, Repr

/-- A listing file and the number of writes that it has seen. -/
structure File where
  entry : Entry
  writes : Nat
deriving DecidableEq, Repr

namespace File

def absent : File := ⟨.absent, 0⟩

def write (file : File) (entry : Entry) : File :=
  ⟨entry, file.writes + 1⟩

end File

/-- What stands at the path of the data directory. -/
inductive Ground where
  | missing
  | directory
  | plainFile
deriving DecidableEq, Repr

/-- The state of the two files that a snapshot was read from, as numbers of writes. -/
structure Edition where
  nodes : Nat
  instances : Nat
deriving DecidableEq, Repr

/-- How far a reload has come. It looks for each file before it reads it, and a failed read skips to
the end. -/
inductive Reload where
  | unbacked
  | waiting
  | locked
  | nodesFound (found : Bool) (edition : Nat)
  | nodesRead (nodes : Listing Node) (edition : Nat)
  | instancesFound (nodes : Listing Node) (edition : Nat) (found : Bool) (other : Nat)
  | loaded (snapshot : Snapshot) (edition : Edition)
  | swapped
  | leaving
  | finished

namespace Reload

/-- A reload that holds the lock. -/
def holdsLock : Reload → Bool
  | unbacked | waiting | finished => false
  | _ => true

def isFinished : Reload → Bool
  | finished => true
  | _ => false

end Reload

/-- A watch over the data directory. An event on its way asks for a reload when it arrives. One task
takes the wish and reloads; a wish that is already there is not doubled. -/
structure Watch where
  isOpen : Bool
  inFlight : Nat
  isAsked : Bool
  reload? : Option Nat
deriving DecidableEq, Repr

def Watch.begin : Watch := ⟨true, 0, false, none⟩

/-- The numbers of nodes, instances and rejected elements. -/
abbrev Counts := Nat × Nat × Nat

/-- How far the task of a socket has come in telling its client the counts. -/
inductive Teller where
  | reading
  | sending (counts : Counts)
  | waiting
  | ended
deriving DecidableEq, Repr

/-- A socket with the number of the notification that it takes next and the counts that it has sent,
in their order. -/
structure Socket where
  teller : Teller
  next : Nat
  sent : List Counts
deriving DecidableEq, Repr

structure World where
  directory? : Option String
  ground : Ground
  nodes : File
  instances : File
  snapshot : Snapshot
  edition : Edition
  notified : Nat
  holder? : Option Nat
  reloads : List Reload
  watch? : Option Watch
  sockets : List Socket

namespace World

/-- A panel that was just started on a directory, or on none. -/
def start (directory? : Option String) (ground : Ground) : World where
  directory?
  ground
  nodes := .absent
  instances := .absent
  snapshot := .empty
  edition := ⟨0, 0⟩
  notified := 0
  holder? := none
  reloads := []
  watch? := none
  sockets := []

/-- The directory's path. Only a panel with a directory makes use of it. -/
def path (world : World) : String :=
  world.directory?.getD ""

def file (world : World) : Which → File
  | .nodes => world.nodes
  | .instances => world.instances

/-- What a reader finds at a listing file. -/
def entry (world : World) (which : Which) : Entry :=
  if world.ground = .directory then (world.file which).entry else .absent

/-- What a reader finds at both listing files. -/
def contents (world : World) : Directory :=
  ⟨world.entry .nodes, world.entry .instances⟩

def setReload (world : World) (index : Nat) (reload : Reload) : World :=
  { world with reloads := world.reloads.set index reload }

def setSocket (world : World) (index : Nat) (socket : Socket) : World :=
  { world with sockets := world.sockets.set index socket }

end World

end FleetPanel.Live
