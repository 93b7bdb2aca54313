/-
This file says which settings a file holds, and what is wrong with a file that holds none. What is
wrong with the file is told by a load, whatever the variables of the panel are.
-/

import FleetPanel.Config.Load
import FleetPanel.Proofs.Text.Decoded

namespace FleetPanel.Config

open Exports Text

/-- The settings that a table gives: each is what its own key stands for, if there is something. -/
structure Gives (table : Toml.Table) (settings : Settings) : Prop where
  bindAddress : table.get? "bind_addr" = settings.bindAddress?.map .text
  dataDirectory : table.get? "data_dir" = settings.dataDirectory?.map .text
  staticDirectory : table.get? "static_dir" = settings.staticDirectory?.map .text
  timeout : table.get? "heartbeat_timeout_secs" =
    settings.timeout?.map fun seconds => .integer seconds

/-- A key of the panel stands for something of another kind. -/
inductive Mistyped (table : Toml.Table) : Prop where
  | text {key : String} {item : Toml.Item}
      (known : key ∈ ["bind_addr", "data_dir", "static_dir"]) (given : table.get? key = some item)
      (other : ∀ text, item ≠ .text text)
  | seconds {item : Toml.Item} (given : table.get? "heartbeat_timeout_secs" = some item)
      (other : ∀ seconds : Nat, item ≠ .integer seconds)

/-- What a file holds: no file holds no settings, and a document those of its table. -/
inductive Holds : Entry → Settings → Prop where
  | absent : Holds .absent .empty
  | document {content : List UInt8} {text : List Char} {table : Toml.Table} {settings : Settings}
      (spelled : content = Utf8.encode text) (parsed : Toml.ofCharacters? text = some table)
      (gives : Gives table settings) : Holds (.octets content) settings

/-- What is wrong with a file that is seen: it cannot be read, is no text or no document, or has a
setting of another kind. -/
inductive Spoils (path : RawText) : Entry → Fault → Prop where
  | directory : Spoils path .directory (.unreadable path .isDirectory)
  | locked (reason : String) :
      Spoils path (.locked reason) (.unreadable path (.refused reason))
  | notUtf8 {content : List UInt8} (broken : ∀ text, content ≠ Utf8.encode text) :
      Spoils path (.octets content) (.unreadable path .notUtf8)
  | notToml {content : List UInt8} {text : List Char}
      (spelled : content = Utf8.encode text) (broken : Toml.ofCharacters? text = none) :
      Spoils path (.octets content) (.unparsable path)
  | mistyped {content : List UInt8} {text : List Char} {table : Toml.Table}
      (spelled : content = Utf8.encode text) (parsed : Toml.ofCharacters? text = some table)
      (mistyped : Mistyped table) : Spoils path (.octets content) (.unparsable path)

/-- The variables that belong to the panel. -/
def ownVariables : List String :=
  ["KODAMA_BIND_ADDR", "KODAMA_DATA_DIR", "KODAMA_STATIC_DIR", "KODAMA_HEARTBEAT_TIMEOUT_SECS"]

/-- Surroundings that differ in the variables of the panel at most. -/
structure SamePlace (surroundings others : Surroundings) : Prop where
  accountHome : surroundings.accountHome? = others.accountHome?
  elsewhere : ∀ name, name ∉ ownVariables → surroundings.set? name = others.set? name

/-- What comes of the file: the settings at the path that is given or else usual, or what is
wrong with the file there. Without a path there are no settings, and none if the path leads to a
place that cannot be looked at: a file there counts as missing. -/
inductive FileStage (surroundings : Surroundings) (entryAt : RawText → Entry)
    (path? : Option RawText) : Except Fault Settings → Prop where
  | unnamed (none : (path? <|> surroundings.settingsPath?) = none) :
      FileStage surroundings entryAt path? (.ok .empty)
  | unseen {path : RawText} {reason : String}
      (named : (path? <|> surroundings.settingsPath?) = some path)
      (unseen : entryAt path = .hidden reason) :
      FileStage surroundings entryAt path? (.ok .empty)
  | holds {path : RawText} {settings : Settings}
      (named : (path? <|> surroundings.settingsPath?) = some path)
      (holds : Holds (entryAt path) settings) :
      FileStage surroundings entryAt path? (.ok settings)
  | spoils {path : RawText} {fault : Fault}
      (named : (path? <|> surroundings.settingsPath?) = some path)
      (spoils : Spoils path (entryAt path) fault) :
      FileStage surroundings entryAt path? (.error fault)

variable {table : Toml.Table} {settings : Settings} {key : String} {path : RawText} {entry : Entry}
  {fault : Fault} {surroundings others : Surroundings} {entryAt : RawText → Entry}
  {path? : Option RawText}

theorem textIff {setting? : Option String} : Settings.text? table key = some setting? ↔
    table.get? key = setting?.map .text := by
  unfold Settings.text?
  cases table.get? key with
  | none => cases setting? <;> simp
  | some item => cases item <;> cases setting? <;> simp

theorem secondsIff {setting? : Option Nat} : Settings.seconds? table key = some setting? ↔
    table.get? key = setting?.map fun seconds => .integer seconds := by
  unfold Settings.seconds?
  cases table.get? key with
  | none => cases setting? <;> simp
  | some item =>
      cases item with
      | integer value =>
          cases setting? with
          | none => simp
          | some seconds =>
              simp
              omega
      | _ => cases setting? <;> simp

/-- The settings that are read from a table are those that it gives. -/
theorem ofTableIff : Settings.ofTable? table = some settings ↔ Gives table settings := by
  simp only [Settings.ofTable?, Option.bind_eq_bind, Option.bind_eq_some_iff, textIff, secondsIff,
    Option.pure_def, Option.some.injEq]
  constructor
  · rintro ⟨bindAddress?, bindAddress, dataDirectory?, dataDirectory, staticDirectory?,
      staticDirectory, timeout?, timeout, rfl⟩
    exact ⟨bindAddress, dataDirectory, staticDirectory, timeout⟩
  · rintro ⟨bindAddress, dataDirectory, staticDirectory, timeout⟩
    exact ⟨_, bindAddress, _, dataDirectory, _, staticDirectory, _, timeout, rfl⟩

theorem mistypedText (known : key ∈ ["bind_addr", "data_dir", "static_dir"])
    (none : Settings.text? table key = none) : Mistyped table := by
  unfold Settings.text? at none
  cases given : table.get? key with
  | none => simp [given] at none
  | some item =>
      cases item with
      | text value => simp [given] at none
      | _ => exact .text known given nofun

theorem mistypedSeconds (none : Settings.seconds? table "heartbeat_timeout_secs" = none) :
    Mistyped table := by
  unfold Settings.seconds? at none
  cases given : table.get? "heartbeat_timeout_secs" with
  | none => simp [given] at none
  | some item =>
      cases item with
      | integer value =>
          refine .seconds given fun seconds same => ?_
          obtain rfl := Toml.Item.integer.inj same
          simp [given] at none
      | _ => exact .seconds given nofun

theorem mistypedOrGives (table : Toml.Table) :
    Mistyped table ∨ ∃ settings, Gives table settings := by
  cases bindAddress : Settings.text? table "bind_addr" with
  | none => exact .inl (mistypedText (by decide) bindAddress)
  | some bindAddress? =>
  cases dataDirectory : Settings.text? table "data_dir" with
  | none => exact .inl (mistypedText (by decide) dataDirectory)
  | some dataDirectory? =>
  cases staticDirectory : Settings.text? table "static_dir" with
  | none => exact .inl (mistypedText (by decide) staticDirectory)
  | some staticDirectory? =>
  cases timeout : Settings.seconds? table "heartbeat_timeout_secs" with
  | none => exact .inl (mistypedSeconds timeout)
  | some timeout? =>
  exact .inr ⟨⟨bindAddress?, dataDirectory?, staticDirectory?, timeout?⟩, textIff.mp bindAddress,
    textIff.mp dataDirectory, textIff.mp staticDirectory, secondsIff.mp timeout⟩

/-- A table with something of another kind gives no settings. -/
theorem Mistyped.notGives (mistyped : Mistyped table) : ¬ Gives table settings := by
  intro gives
  cases mistyped with
  | @text key item known given other =>
      have setting : ∃ setting? : Option String, table.get? key = setting?.map .text := by
        simp only [List.mem_cons, List.not_mem_nil, or_false] at known
        rcases known with rfl | rfl | rfl
        · exact ⟨_, gives.bindAddress⟩
        · exact ⟨_, gives.dataDirectory⟩
        · exact ⟨_, gives.staticDirectory⟩
      obtain ⟨setting?, same⟩ := setting
      obtain ⟨text, -, isText⟩ := Option.map_eq_some_iff.mp (same.symm.trans given)
      exact other text isText.symm
  | seconds given other =>
      obtain ⟨seconds, -, isSeconds⟩ :=
        Option.map_eq_some_iff.mp (gives.timeout.symm.trans given)
      exact other seconds isSeconds.symm

theorem settingsAtText (path : RawText) (text : List Char) :
    settingsAt path (.octets (Utf8.encode text)) =
      match (Toml.ofCharacters? text).bind Settings.ofTable? with
      | some settings => .ok settings
      | none => .error (.unparsable path) := by
  simp only [settingsAt, Entry.isPresent, Entry.read, Utf8.decodeEncoded]
  rfl

theorem settingsAtOfHolds (path : RawText) (holds : Holds entry settings) :
    settingsAt path entry = .ok settings := by
  cases holds with
  | absent => rfl
  | document spelled parsed gives =>
      rw [spelled, settingsAtText, parsed, Option.bind_some, ofTableIff.mpr gives]

theorem settingsAtOfSpoils (spoils : Spoils path entry fault) :
    settingsAt path entry = .error fault := by
  cases spoils with
  | directory | locked => rfl
  | notUtf8 broken =>
      have none : Utf8.decode? _ = none :=
        Option.eq_none_iff_forall_ne_some.mpr fun text read =>
          broken text (Utf8.decodeIff.mp read)
      simp only [settingsAt, Entry.isPresent, Entry.read, none]
      rfl
  | notToml spelled broken => rw [spelled, settingsAtText, broken, Option.bind_none]
  | mistyped spelled parsed mistyped =>
      have none : Settings.ofTable? _ = none :=
        Option.eq_none_iff_forall_ne_some.mpr fun settings read =>
          mistyped.notGives (ofTableIff.mp read)
      rw [spelled, settingsAtText, parsed, Option.bind_some, none]

/-- A file is not seen, or there is something wrong with it, or it holds settings. -/
theorem hiddenOrSpoilsOrHolds (path : RawText) (entry : Entry) :
    (∃ reason, entry = .hidden reason) ∨ (∃ fault, Spoils path entry fault) ∨
      ∃ settings, Holds entry settings := by
  cases entry with
  | absent => exact .inr (.inr ⟨_, .absent⟩)
  | hidden reason => exact .inl ⟨reason, rfl⟩
  | directory => exact .inr (.inl ⟨_, .directory⟩)
  | locked reason => exact .inr (.inl ⟨_, .locked reason⟩)
  | octets content =>
      right
      by_cases spelled : ∃ text, content = Utf8.encode text
      · obtain ⟨text, spelled⟩ := spelled
        cases parsed : Toml.ofCharacters? text with
        | none => exact .inl ⟨_, .notToml spelled parsed⟩
        | some table =>
            rcases mistypedOrGives table with mistyped | ⟨settings, gives⟩
            · exact .inl ⟨_, .mistyped spelled parsed mistyped⟩
            · exact .inr ⟨settings, .document spelled parsed gives⟩
      · exact .inl ⟨_, .notUtf8 fun text same => spelled ⟨text, same⟩⟩

theorem SamePlace.directory (place : SamePlace surroundings others) {key : String}
    (free : key ∉ ownVariables) (inHome : String) :
    surroundings.directory? key inHome = others.directory? key inHome := by
  have home := place.elsewhere "HOME" (by decide)
  simp only [Surroundings.directory?, Surroundings.home?, place.accountHome, home,
    place.elsewhere key free]

theorem SamePlace.settingsPath (place : SamePlace surroundings others) :
    surroundings.settingsPath? = others.settingsPath? := by
  rw [Surroundings.settingsPath?, place.directory (by decide), Surroundings.settingsPath?]

theorem SamePlace.dataDirectory (place : SamePlace surroundings others) :
    surroundings.dataDirectory = others.dataDirectory := by
  rw [Surroundings.dataDirectory, place.directory (by decide), Surroundings.dataDirectory]

/-- The same comes of the file in the same place. -/
theorem FileStage.elsewhere {outcome : Except Fault Settings}
    (place : SamePlace surroundings others)
    (stage : FileStage surroundings entryAt path? outcome) :
    FileStage others entryAt path? outcome := by
  cases stage with
  | unnamed none => exact .unnamed (place.settingsPath ▸ none)
  | unseen named unseen => exact .unseen (place.settingsPath ▸ named) unseen
  | holds named holds => exact .holds (place.settingsPath ▸ named) holds
  | spoils named spoils => exact .spoils (place.settingsPath ▸ named) spoils

theorem someFileStage (surroundings : Surroundings) (entryAt : RawText → Entry)
    (path? : Option RawText) : ∃ outcome, FileStage surroundings entryAt path? outcome := by
  cases named : path? <|> surroundings.settingsPath? with
  | none => exact ⟨_, .unnamed named⟩
  | some path =>
      rcases hiddenOrSpoilsOrHolds path (entryAt path) with
        ⟨reason, unseen⟩ | ⟨fault, spoils⟩ | ⟨settings, holds⟩
      · exact ⟨_, .unseen named unseen⟩
      · exact ⟨_, .spoils named spoils⟩
      · exact ⟨_, .holds named holds⟩

/-- What is wrong with the file is told, whatever the surroundings are. -/
theorem loadOfSpoiled (stage : FileStage surroundings entryAt path? (.error fault)) :
    load surroundings entryAt path? = .error fault := by
  cases stage with
  | spoils named spoils =>
      rw [load, named]
      simp only [settingsAtOfSpoils spoils]
      rfl

theorem loadOfSettings (stage : FileStage surroundings entryAt path? (.ok settings)) :
    load surroundings entryAt path? = resolve surroundings settings := by
  cases stage with
  | unnamed none =>
      rw [load, none]
      rfl
  | unseen named unseen =>
      rw [load, named]
      simp only [unseen]
      rfl
  | holds named holds =>
      rw [load, named]
      simp only [settingsAtOfHolds _ holds]
      rfl

end FleetPanel.Config
