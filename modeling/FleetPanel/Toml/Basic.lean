/-
This file holds TOML documents as trees of tables, and says where a key may still be added.

A table remembers how it came to be. One that a header defined is complete except through its own
header, one that dotted keys made may grow by dotted keys only, and one that a longer header merely
passed through may still be defined by a header of its own.
-/

import FleetPanel.Binary64.Basic

namespace FleetPanel.Toml

inductive Origin where
  | header
  | passage
  | dotted
deriving DecidableEq, Repr

/-- What a key stands for. No setting holds a date or a time, so a moment does not tell which one it
is. -/
inductive Item where
  | text (value : String)
  | integer (value : Int)
  | float (value : Binary64)
  | truth (value : Bool)
  | moment
  | array (items : List Item)
  | closedTable (members : List (String × Item))
  | table (origin : Origin) (members : List (String × Item))
  | tables (elements : List (List (String × Item)))
deriving Repr

structure Table where
  origin : Origin
  members : List (String × Item)

namespace Table

/-- The table of a whole document before its first line. -/
def root : Table := ⟨.header, []⟩

def get? (table : Table) (key : String) : Option Item :=
  table.members.lookup key

/-- Puts an item under a key, in place of one that was there. -/
def set (table : Table) (key : String) (item : Item) : Table :=
  { table with members :=
      table.members.filter (fun member => member.1 != key) ++ [(key, item)] }

/-- Changes the table at the end of a path. Tables that are missing on the way are made; of an array
of tables the last one is meant. Dotted keys do not enter a table that a header defined. -/
def change? (isDotted : Bool) (action : Table → Option Table) :
    List String → Table → Option Table
  | [], table => action table
  | key :: path, table =>
      match table.get? key with
      | none => do
          let start := ⟨if isDotted then .dotted else .passage, []⟩
          let inner ← change? isDotted action path start
          return table.set key (.table inner.origin inner.members)
      | some (.table origin members) => do
          if isDotted && origin == .header then none
          let inner ← change? isDotted action path ⟨origin, members⟩
          return table.set key (.table inner.origin inner.members)
      | some (.tables elements) => do
          let inner ← change? isDotted action path ⟨.header, ← elements.getLast?⟩
          return table.set key (.tables (elements.dropLast ++ [inner.members]))
      | some _ => none

/-- Adds an item under a key that is still free. -/
def add? (key : String) (item : Item) (table : Table) : Option Table :=
  match table.get? key with
  | none => some (table.set key item)
  | some _ => none

/-- Adds an item under a dotted key, given as the keys before the last and the last. -/
def addDotted? (path : List String) (key : String) (item : Item) (table : Table) : Option Table :=
  change? true (fun inner =>
    if path.isEmpty || inner.origin == .dotted then inner.add? key item else none) path table

/-- Defines a table by a header. -/
def define? (key : String) (parent : Table) : Option Table :=
  match parent.get? key with
  | none => some (parent.set key (.table .header []))
  | some (.table .passage members) => some (parent.set key (.table .header members))
  | some _ => none

/-- Begins the next element of an array of tables. -/
def extend? (key : String) (parent : Table) : Option Table :=
  match parent.get? key with
  | none => some (parent.set key (.tables [[]]))
  | some (.tables elements) => some (parent.set key (.tables (elements ++ [[]])))
  | some _ => none

end Table

end FleetPanel.Toml
