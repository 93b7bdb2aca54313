/-
This file is the command line of the panel. It answers the requests on its standard input, one on
each line as a method and a target, and follows the listing files meanwhile.
-/

import FleetPanel.Config.Options
import FleetPanel.Json.Compact
import FleetPanel.Live.Session
import Std.Time.Date.PlainDate
import Std.Time.DateTime.Timestamp

namespace FleetPanel.CommandLine

open Exports Live

/-- Ends the program with a message. -/
def stop {Result : Type} (message : String) : IO Result :=
  throw (.userError message)

/-- A place by its path. -/
def placeAt (path : String) : IO.FS.DirEntry := ⟨".", path⟩

/-- What stands at a path. -/
def entryAt (path : String) : IO Entry := do
  try
    discard (placeAt path).path.metadata
  catch
    | .noFileOrDirectory .. => return .absent
    | error => return .hidden (toString error)
  try
    return .octets (← IO.FS.readBinFile path).toList
  catch
    | .noFileOrDirectory .. => return .absent
    | .inappropriateType .. => return .directory
    | error => return .locked (toString error)

def presentInstant : IO Time.Instant := do
  let elapsed := (← Std.Time.Timestamp.now).toNanosecondsSinceUnixEpoch.val
  let day := Std.Time.PlainDate.ofEpochDay (.ofInt (elapsed / 86400000000000))
  let seconds := (elapsed / 1000000000).toNat
  match Time.Date.of? day.year.toInt day.month.toNat day.day.toNat with
  | none => stop "the clock is outside the calendar"
  | some date =>
      return ⟨date, .ofNumbers (seconds / 3600) (seconds / 60) (seconds % 60) elapsed.toNat⟩

def environmentNames : List String :=
  ["HOME", "XDG_CONFIG_HOME", "XDG_DATA_HOME", "KODAMA_BIND_ADDR", "KODAMA_DATA_DIR",
    "KODAMA_STATIC_DIR", "KODAMA_HEARTBEAT_TIMEOUT_SECS"]

def surroundings : IO Config.Surroundings := do
  let found ← environmentNames.filterMapM fun key => do
    return (← IO.getEnv key).map fun value => (key, RawText.ofText value)
  return ⟨(found.lookup ·), none⟩

/-- The text of a path. A path that is no text cannot be opened here. -/
def opened (path : RawText) : IO String :=
  match path.text? with
  | some text => return text
  | none => stop s!"not a text: {path.shown}"

def configured (options : Config.Options) : IO Config := do
  let surroundings ← surroundings
  let path? := options.settingsPath? <|> surroundings.settingsPath?
  let entry ←
    match path? with
    | some path => entryAt (← opened path)
    | none => pure .absent
  match Config.load surroundings (fun _ => entry) path? with
  | .ok config => return options.override config
  | .error fault => stop fault.message

/-- Makes the data directory if it is missing. -/
def ground (path : String) : IO Ground := do
  try
    IO.FS.createDirAll path
    return .directory
  catch _ => return .plainFile

def take (session : Session) (step : Step) : IO (Outcome × Session) :=
  match session.step step with
  | .ok moved => return moved
  | .error .unsendable => stop "the answer cannot be sent"

/-- Tells the session of a listing file that changed. -/
def follow (path : String) (session : Session) (which : Which) : IO Session := do
  let entry ← entryAt <| match which with
    | .nodes => nodesPath path
    | .instances => instancesPath path
  if session.world.entry which = entry then return session
  return (← take session (.write which entry)).2

/-- The files and the directories below a place, each with the names on its way there. -/
partial def siteBelow (place : IO.FS.DirEntry) (way : List String) : IO Http.Site := do
  if ← place.path.isDir then
    let entries ← place.path.readDir
    let inside ← entries.toList.mapM fun entry => siteBelow entry (way ++ [entry.fileName])
    return ⟨inside.flatMap (·.files), way :: inside.flatMap (·.directories)⟩
  return ⟨[(way, (← IO.FS.readBinFile place.path).toList)], []⟩

def siteAt (path : RawText) : IO (Option Http.Site) := do
  let place := placeAt (← opened path)
  if ← place.path.isDir then return some (← siteBelow place [])
  return none

def bodyText (answer : Http.Answer) : String :=
  match answer.body with
  | .empty => ""
  | .json value => value.compact
  | .text content => content
  | .octets content => String.ofList (Text.Utf8.decodeLossy content)

def requestOf (line : String) : Http.Request :=
  let (method, target) := line.trimAscii.toString.toList.span (· != ' ')
  ⟨.ofName (String.ofList method), .ofText (String.ofList (target.drop 1))⟩

/-- The clock, read as often as an answer can ask for it: once for each node, or for one. -/
def clock (session : Session) : IO (Nat → Time.Instant) := do
  let last ← presentInstant
  let readings ← session.world.snapshot.nodes.mapM fun _ => presentInstant
  return (readings.getD · last)

partial def serve (path : String) (session : Session) : IO Unit := do
  let line ← (← IO.getStdin).getLine
  if line.isEmpty then return
  let session ← follow path session .nodes
  let session ← follow path session .instances
  let session := { session with context := { session.context with clock := ← clock session } }
  let answer := session.answer (requestOf line)
  IO.println s!"{answer.status} {bodyText answer}"
  serve path session

def run (arguments : List String) : IO Unit := do
  match Config.Options.none.ofArguments arguments with
  | .error fault => stop s!"{fault.message}\n{Config.Options.usage}"
  | .ok options =>
      let config ← configured options
      let path ← opened config.dataDirectory
      let site? ← (config.staticDirectory?.map siteAt).getD (pure none)
      let world := World.start (some path) (← ground path)
      let session := Session.begin world (.still (← presentInstant) config.timeout) site?
      let (outcome, session) ← take session .watch
      match outcome with
      | .unwatchable path => stop (unwatchableMessage path)
      | _ =>
          IO.eprintln s!"answering for http://{config.bindAddress.text}"
          serve path (← take session (.reload 1)).2

end FleetPanel.CommandLine

def main (arguments : List String) : IO Unit :=
  FleetPanel.CommandLine.run arguments
