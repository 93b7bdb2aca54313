/-
This file reads the settings of a configuration file.
-/

import FleetPanel.Toml.Reader

namespace FleetPanel.Config

/-- The settings that a file gives. -/
structure Settings where
  bindAddress? : Option String
  dataDirectory? : Option String
  staticDirectory? : Option String
  timeout? : Option Nat
deriving DecidableEq, Repr

namespace Settings

def empty : Settings := ⟨none, none, none, none⟩

/-- A setting that is a text if it is there. -/
def text? (table : Toml.Table) (key : String) : Option (Option String) :=
  match table.get? key with
  | none => some none
  | some (.text value) => some (some value)
  | some _ => none

/-- A setting that is a number of seconds if it is there. -/
def seconds? (table : Toml.Table) (key : String) : Option (Option Nat) :=
  match table.get? key with
  | none => some none
  | some (.integer value) => if 0 ≤ value then some (some value.toNat) else none
  | some _ => none

/-- The settings of a table. Other keys do not matter. -/
def ofTable? (table : Toml.Table) : Option Settings := do
  let bindAddress? ← text? table "bind_addr"
  let dataDirectory? ← text? table "data_dir"
  let staticDirectory? ← text? table "static_dir"
  let timeout? ← seconds? table "heartbeat_timeout_secs"
  return ⟨bindAddress?, dataDirectory?, staticDirectory?, timeout?⟩

def ofCharacters? (text : List Char) : Option Settings :=
  (Toml.ofCharacters? text).bind ofTable?

end Settings

end FleetPanel.Config
