/-
This file names the resources of the panel by their paths.
-/

import FleetPanel.Http.Target

namespace FleetPanel.Http

/-- The resources of the panel. An id is still encoded. -/
inductive Route where
  | health
  | nodes
  | node (id : List Char)
  | nodeInstances (id : List Char)
  | instances
  | instance_ (id : List Char)
  | instanceTable
  | nodeTable
  | rejected
  | socket
deriving DecidableEq, Repr

namespace Route

/-- The words of a path, before each of which a slash stands. -/
def words? : List Char → Option (List String)
  | '/' :: path => some ((splitOn '/' path).map String.ofList)
  | _ => none

/-- The resource at some words. No word stands for an empty id. -/
def ofWords? : List String → Option Route
  | ["api", "health"] => some health
  | ["api", "nodes"] => some nodes
  | ["api", "nodes", id] => if id.isEmpty then none else some (node id.toList)
  | ["api", "nodes", id, "instances"] =>
      if id.isEmpty then none else some (nodeInstances id.toList)
  | ["api", "instances"] => some instances
  | ["api", "instances", id] => if id.isEmpty then none else some (instance_ id.toList)
  | ["api", "tables", "instances"] => some instanceTable
  | ["api", "tables", "nodes"] => some nodeTable
  | ["api", "rejected"] => some rejected
  | ["ws"] => some socket
  | _ => none

/-- The resource at a path as it was sent. -/
def ofPath? (path : List Char) : Option Route :=
  (words? path).bind ofWords?

end Route

end FleetPanel.Http
