/-
This file resolves the configuration. The environment comes before the file, and the file before the
defaults.
-/

import FleetPanel.Address.Reader
import FleetPanel.Config.Seconds
import FleetPanel.Config.Settings
import FleetPanel.Config.Surroundings
import FleetPanel.Exports.File

namespace FleetPanel

structure Config where
  bindAddress : Address.SocketAddress
  dataDirectory : RawText
  staticDirectory? : Option RawText
  timeout : Nat
deriving DecidableEq, Repr

namespace Config

inductive Fault where
  | unreadable (path : RawText) (fault : Exports.ReadFault)
  | unparsable (path : RawText)
  | badAddress (text : String)
  | badTimeout (text : String) (fault : SecondsFault)
deriving DecidableEq, Repr

namespace Fault

def message : Fault → String
  | unreadable path _ => s!"failed to read config: {path.shown}"
  | unparsable path => s!"failed to parse config: {path.shown}"
  | badAddress text => s!"invalid bind_addr: {text}"
  | badTimeout text _ => s!"invalid KODAMA_HEARTBEAT_TIMEOUT_SECS: {text}"

/-- What lies behind a fault. The wording for a file that is no TOML is left open. -/
def cause? : Fault → Option String
  | unreadable _ fault => some fault.message
  | unparsable _ => none
  | badAddress _ => some "invalid socket address syntax"
  | badTimeout _ fault => some fault.message

end Fault

def defaultBindAddress : String := "127.0.0.1:3100"

/-- The seconds after which a node without a heartbeat counts as stale. -/
def defaultTimeout : Nat := 90

/-- The settings of the file at a path. Where no file is seen there are no settings. -/
def settingsAt (path : RawText) (entry : Exports.Entry) : Except Fault Settings := do
  if !entry.isPresent then return .empty
  let text ← entry.read.mapError (.unreadable path)
  match Settings.ofCharacters? text with
  | some settings => return settings
  | none => .error (.unparsable path)

def bindAddressOf (surroundings : Surroundings) (settings : Settings) :
    Except Fault Address.SocketAddress :=
  let text :=
    (surroundings.get? "KODAMA_BIND_ADDR" <|> settings.bindAddress?).getD defaultBindAddress
  match Address.SocketAddress.ofText? text with
  | some address => .ok address
  | none => .error (.badAddress text)

def timeoutOf (surroundings : Surroundings) (settings : Settings) : Except Fault Nat :=
  match surroundings.get? "KODAMA_HEARTBEAT_TIMEOUT_SECS" with
  | some text => (readSeconds text).mapError (.badTimeout text)
  | none => .ok (settings.timeout?.getD defaultTimeout)

/-- The configuration of some settings. The address is checked before the timeout. -/
def resolve (surroundings : Surroundings) (settings : Settings) : Except Fault Config := do
  let bindAddress ← bindAddressOf surroundings settings
  let timeout ← timeoutOf surroundings settings
  return {
    bindAddress
    dataDirectory :=
      ((surroundings.get? "KODAMA_DATA_DIR" <|> settings.dataDirectory?).map .ofText).getD
        surroundings.dataDirectory
    staticDirectory? :=
      (surroundings.get? "KODAMA_STATIC_DIR" <|> settings.staticDirectory?).map .ofText
    timeout }

/-- The configuration of the file at a path, or at the usual path if none is given. -/
def load (surroundings : Surroundings) (entryAt : RawText → Exports.Entry)
    (path? : Option RawText) : Except Fault Config := do
  let settings ←
    match path? <|> surroundings.settingsPath? with
    | some path => settingsAt path (entryAt path)
    | none => .ok .empty
  resolve surroundings settings

end Config

end FleetPanel
