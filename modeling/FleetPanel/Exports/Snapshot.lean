/-
This file loads both listings of a directory as one snapshot.
-/

import FleetPanel.Exports.Listing
import FleetPanel.Path

namespace FleetPanel.Exports

open Fleet

/-- What stands at the two listing files of a directory. -/
structure Directory where
  nodes : Entry
  instances : Entry
deriving DecidableEq, Repr

def Directory.empty : Directory := ⟨.absent, .absent⟩

def nodesPath (directory : String) : String :=
  Path.join directory "nodes.json"

def instancesPath (directory : String) : String :=
  Path.join directory "instances.json"

def loadNodes (path : String) (nodes : Entry) : Except LoadFault (Listing Node) :=
  Listing.load .node (nodesPath path) nodes

def loadInstances (path : String) (instances : Entry) : Except LoadFault (Listing Instance) :=
  Listing.load .inst (instancesPath path) instances

structure Snapshot where
  nodes : List Node
  instances : List Instance
  rejected : List Rejected

namespace Snapshot

def empty : Snapshot := ⟨[], [], []⟩

def ofListings (nodes : Listing Node) (instances : Listing Instance) : Snapshot :=
  ⟨nodes.records, instances.records, nodes.rejected ++ instances.rejected⟩

/-- Both listings of a directory; either of them fails the whole. -/
def load (path : String) (directory : Directory) : Except LoadFault Snapshot := do
  let nodes ← loadNodes path directory.nodes
  let instances ← loadInstances path directory.instances
  return ofListings nodes instances

/-- The number of nodes, of instances and of rejected elements. -/
def counts (snapshot : Snapshot) : Nat × Nat × Nat :=
  (snapshot.nodes.length, snapshot.instances.length, snapshot.rejected.length)

def findNode? (snapshot : Snapshot) (id : String) : Option Node :=
  snapshot.nodes.find? (·.id == id)

def findInstance? (snapshot : Snapshot) (id : String) : Option Instance :=
  snapshot.instances.find? (·.id == id)

end Snapshot

end FleetPanel.Exports
