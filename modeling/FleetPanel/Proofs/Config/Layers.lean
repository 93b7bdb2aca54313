/-
This file shows that the layers of the configuration do not interfere. Each result comes from its
own variable, its own key of the file or its own default, and what is wrong is told in a fixed
order: the file, then the address, then the timeout.
-/

import FleetPanel.Proofs.Config.Files
import FleetPanel.Proofs.Config.Seconds

namespace FleetPanel.Config

open Exports

/-- A result in layers: what a variable means if it is set, else what the file gives, else the
default. -/
inductive Layered {Value : Type} (Means : String → Value → Prop) (set? : Option String)
    (file? : Option Value) (fallback : Value) : Value → Prop where
  | environment {text : String} {value : Value} (set : set? = some text)
      (meant : Means text value) : Layered Means set? file? fallback value
  | file {value : Value} (unset : set? = none) (given : file? = some value) :
      Layered Means set? file? fallback value
  | fallback (unset : set? = none) (missing : file? = none) :
      Layered Means set? file? fallback fallback

/-- The text of the address: the variable's if it is set, else the file's, else the default. -/
def IsBindText (surroundings : Surroundings) (settings : Settings) (text : String) : Prop :=
  Layered Eq (surroundings.get? "KODAMA_BIND_ADDR") settings.bindAddress? defaultBindAddress text

/-- A configuration in which each result has layers of its own. -/
structure IsLayered (surroundings : Surroundings) (settings : Settings) (config : Config) :
    Prop where
  bindAddress : ∃ text, IsBindText surroundings settings text ∧
    Address.SocketAddress.ofText? text = some config.bindAddress
  dataDirectory : Layered (fun text directory => .ofText text = directory)
    (surroundings.get? "KODAMA_DATA_DIR") (settings.dataDirectory?.map .ofText)
    surroundings.dataDirectory config.dataDirectory
  staticDirectory : Layered (fun text directory? => some (.ofText text) = directory?)
    (surroundings.get? "KODAMA_STATIC_DIR")
    (settings.staticDirectory?.map fun text => some (.ofText text)) none config.staticDirectory?
  timeout : Layered SpellsSeconds (surroundings.get? "KODAMA_HEARTBEAT_TIMEOUT_SECS")
    settings.timeout? defaultTimeout config.timeout

/-- What is wrong with settings: the text of the address is none, or else the timeout is set and
spells no number of seconds. -/
inductive IsRefused (surroundings : Surroundings) (settings : Settings) : Fault → Prop where
  | address {text : String} (bindText : IsBindText surroundings settings text)
      (refused : Address.SocketAddress.ofText? text = none) :
      IsRefused surroundings settings (.badAddress text)
  | timeout {text raw : String} {address : Address.SocketAddress} {reason : SecondsFault}
      (bindText : IsBindText surroundings settings text)
      (read : Address.SocketAddress.ofText? text = some address)
      (set : surroundings.get? "KODAMA_HEARTBEAT_TIMEOUT_SECS" = some raw)
      (refused : ∀ seconds, ¬ SpellsSeconds raw seconds)
      (told : readSeconds raw = .error reason) :
      IsRefused surroundings settings (.badTimeout raw reason)

variable {surroundings others : Surroundings} {settings otherSettings : Settings} {config : Config}
  {text : String} {seconds : Nat} {address : Address.SocketAddress} {fault : Fault}

section Layers

variable {Value : Type} {Means : String → Value → Prop} {set? : Option String}
  {file? otherFile? : Option Value} {fallback value other : Value}

/-- A variable that is set hides the file and the default. -/
theorem layeredSetIff : Layered Means (some text) file? fallback value ↔ Means text value := by
  constructor
  · intro layered
    cases layered with
    | environment set meant => exact Option.some.inj set ▸ meant
    | file unset _ => cases unset
    | fallback unset _ => cases unset
  · exact .environment rfl

theorem layeredUnsetIff :
    Layered Means none file? fallback value ↔ file?.getD fallback = value := by
  constructor
  · intro layered
    cases layered with
    | environment set _ => cases set
    | file _ given => rw [given, Option.getD_some]
    | fallback _ missing => rw [missing, Option.getD_none]
  · rintro rfl
    cases file? with
    | some value => exact .file rfl rfl
    | none => exact .fallback rfl rfl

/-- There is one result only, if each text means one value. -/
theorem Layered.unique
    (single : ∀ text value other, Means text value → Means text other → value = other)
    (layered : Layered Means set? file? fallback value)
    (others : Layered Means set? otherFile? fallback other)
    (same : set? = none → file? = otherFile?) : value = other := by
  cases set? with
  | some text => exact single text _ _ (layeredSetIff.mp layered) (layeredSetIff.mp others)
  | none =>
      rw [layeredUnsetIff] at layered others
      rw [← layered, ← others, same rfl]

/-- Where a text means the same in the variable and in the file, it is looked up first. -/
theorem layeredMapIff {meaning : String → Value} {file? : Option String} :
    Layered (fun text value => meaning text = value) set? (file?.map meaning) fallback value ↔
      ((set? <|> file?).map meaning).getD fallback = value := by
  cases set? with
  | some text => exact layeredSetIff
  | none => exact layeredUnsetIff

theorem layeredOptionIff {meaning : String → Value} {file? : Option String}
    {value? : Option Value} : Layered (fun text value? => some (meaning text) = value?) set?
      (file?.map fun text => some (meaning text)) none value? ↔
        (set? <|> file?).map meaning = value? := by
  rw [layeredMapIff]
  cases set? <|> file? <;> rfl

theorem layeredTextIff {file? : Option String} {fallback value : String} :
    Layered Eq set? file? fallback value ↔ (set? <|> file?).getD fallback = value := by
  cases set? with
  | some text => exact layeredSetIff
  | none => exact layeredUnsetIff

end Layers

/-- A variable counts if it is set to the octets of a text. -/
theorem getIff {name : String} : surroundings.get? name = some text ↔
    surroundings.set? name = some (.ofText text) := by
  simp only [Surroundings.get?, Option.bind_eq_some_iff, RawText.textIff, exists_eq_right]

theorem someBindText (surroundings : Surroundings) (settings : Settings) :
    ∃ text, IsBindText surroundings settings text :=
  ⟨_, layeredTextIff.mpr rfl⟩

theorem bindAddressOfText (bindText : IsBindText surroundings settings text) :
    bindAddressOf surroundings settings =
      ((Address.SocketAddress.ofText? text).map .ok).getD (.error (.badAddress text)) := by
  unfold bindAddressOf
  rw [layeredTextIff.mp bindText]
  cases read : Address.SocketAddress.ofText? text <;> simp [read]

theorem timeoutOfIff : timeoutOf surroundings settings = .ok seconds ↔
    Layered SpellsSeconds (surroundings.get? "KODAMA_HEARTBEAT_TIMEOUT_SECS") settings.timeout?
      defaultTimeout seconds := by
  unfold timeoutOf
  cases surroundings.get? "KODAMA_HEARTBEAT_TIMEOUT_SECS" with
  | some text =>
      rw [layeredSetIff, ← readSecondsIff]
      cases read : readSeconds text <;> simp [Except.mapError, read]
  | none => rw [layeredUnsetIff, Except.ok.injEq]

theorem timeoutRefusedIff : timeoutOf surroundings settings = .error fault ↔
    ∃ raw reason, surroundings.get? "KODAMA_HEARTBEAT_TIMEOUT_SECS" = some raw ∧
      readSeconds raw = .error reason ∧ fault = .badTimeout raw reason := by
  unfold timeoutOf
  cases surroundings.get? "KODAMA_HEARTBEAT_TIMEOUT_SECS" with
  | none => simp
  | some raw => cases read : readSeconds raw <;> simp [Except.mapError, read, eq_comm]

/-- An address that cannot be read is told, whatever the timeout is. -/
theorem resolveRefused (bindText : IsBindText surroundings settings text)
    (refused : Address.SocketAddress.ofText? text = none) :
    resolve surroundings settings = .error (.badAddress text) := by
  rw [resolve, bindAddressOfText bindText, refused]
  rfl

/-- With an address only the timeout can fail. -/
theorem resolveRead (bindText : IsBindText surroundings settings text)
    (read : Address.SocketAddress.ofText? text = some address) :
    resolve surroundings settings = (timeoutOf surroundings settings).map fun timeout => {
      bindAddress := address
      dataDirectory :=
        ((surroundings.get? "KODAMA_DATA_DIR" <|> settings.dataDirectory?).map .ofText).getD
          surroundings.dataDirectory
      staticDirectory? :=
        (surroundings.get? "KODAMA_STATIC_DIR" <|> settings.staticDirectory?).map .ofText
      timeout } := by
  rw [resolve, bindAddressOfText bindText, read]
  rfl

/-- A configuration is what each of its results is in layers of its own. -/
theorem resolveIff : resolve surroundings settings = .ok config ↔
    IsLayered surroundings settings config := by
  constructor
  · intro resolved
    obtain ⟨text, bindText⟩ := someBindText surroundings settings
    cases read : Address.SocketAddress.ofText? text with
    | none =>
        rw [resolveRefused bindText read] at resolved
        cases resolved
    | some address =>
        rw [resolveRead bindText read] at resolved
        cases timeout : timeoutOf surroundings settings with
        | error fault =>
            rw [timeout] at resolved
            cases resolved
        | ok seconds =>
            rw [timeout] at resolved
            obtain rfl := Except.ok.inj resolved
            exact ⟨⟨text, bindText, read⟩, layeredMapIff.mpr rfl, layeredOptionIff.mpr rfl,
              timeoutOfIff.mp timeout⟩
  · rintro ⟨⟨text, bindText, read⟩, dataDirectory, staticDirectory, timeout⟩
    rw [resolveRead bindText read, timeoutOfIff.mpr timeout, layeredMapIff.mp dataDirectory,
      layeredOptionIff.mp staticDirectory]
    rfl

/-- The address is told before the timeout, and nothing else can be wrong. -/
theorem resolveErrorIff : resolve surroundings settings = .error fault ↔
    IsRefused surroundings settings fault := by
  constructor
  · intro failed
    obtain ⟨text, bindText⟩ := someBindText surroundings settings
    cases read : Address.SocketAddress.ofText? text with
    | none =>
        rw [resolveRefused bindText read] at failed
        obtain rfl := Except.error.inj failed
        exact .address bindText read
    | some address =>
        rw [resolveRead bindText read] at failed
        cases timeout : timeoutOf surroundings settings with
        | ok seconds =>
            rw [timeout] at failed
            cases failed
        | error other =>
            rw [timeout] at failed
            obtain rfl := Except.error.inj failed
            obtain ⟨raw, reason, set, told, rfl⟩ := timeoutRefusedIff.mp timeout
            refine .timeout bindText read set (fun seconds spells => ?_) told
            exact absurd (told.symm.trans (readSecondsIff.mpr spells)) nofun
  · intro refused
    cases refused with
    | address bindText refused => exact resolveRefused bindText refused
    | timeout bindText read set _ told =>
        rw [resolveRead bindText read, timeoutRefusedIff.mpr ⟨_, _, set, told, rfl⟩]
        rfl

/-- Settings are refused for a text of the address or for a timeout that is set. -/
theorem resolveFails : (∃ fault, resolve surroundings settings = .error fault) ↔
    (∃ text, IsBindText surroundings settings text ∧ Address.SocketAddress.ofText? text = none) ∨
      ∃ raw, surroundings.get? "KODAMA_HEARTBEAT_TIMEOUT_SECS" = some raw ∧
        ∀ seconds, ¬ SpellsSeconds raw seconds := by
  simp only [resolveErrorIff]
  constructor
  · rintro ⟨fault, refused⟩
    cases refused with
    | address bindText refused => exact .inl ⟨_, bindText, refused⟩
    | timeout _ _ set refused _ => exact .inr ⟨_, set, refused⟩
  · rintro (⟨text, bindText, refused⟩ | ⟨raw, set, refused⟩)
    · exact ⟨_, .address bindText refused⟩
    · obtain ⟨text, bindText⟩ := someBindText surroundings settings
      cases read : Address.SocketAddress.ofText? text with
      | none => exact ⟨_, .address bindText read⟩
      | some address =>
          obtain ⟨reason, told⟩ := readSecondsFails refused
          exact ⟨_, .timeout bindText read set refused told⟩

/-- Two assignments agree on a result if its variable is the same, and its key, too, unless the
variable is set. -/
def AgreeOn (name key : String) (surroundings others : Surroundings)
    (table otherTable : Toml.Table) : Prop :=
  surroundings.get? name = others.get? name ∧
    (surroundings.get? name = none → table.get? key = otherTable.get? key)

section Independence

variable {table otherTable : Toml.Table} {other : Config} {name key : String}

/-- Two results in layers are the same if the assignments agree on them. -/
theorem Layered.same {Value : Type} {Means : String → Value → Prop}
    {file? otherFile? : Option Value} {fallback value otherValue : Value}
    (single : ∀ text value other, Means text value → Means text other → value = other)
    (agree : AgreeOn name key surroundings others table otherTable)
    (sameFile : table.get? key = otherTable.get? key → file? = otherFile?)
    (layered : Layered Means (surroundings.get? name) file? fallback value)
    (othersLayered : Layered Means (others.get? name) otherFile? fallback otherValue) :
    value = otherValue := by
  obtain ⟨sameVariable, sameKey⟩ := agree
  rw [← sameVariable] at othersLayered
  exact layered.unique single othersLayered fun unset => sameFile (sameKey unset)

/-- A key stands for one setting. -/
theorem sameSetting {Value : Type} {Item : Value → Toml.Item}
    {setting? otherSetting? : Option Value} (injective : Function.Injective Item)
    (given : table.get? key = setting?.map Item)
    (otherGiven : otherTable.get? key = otherSetting?.map Item)
    (same : table.get? key = otherTable.get? key) : setting? = otherSetting? :=
  Option.map_injective injective (given.symm.trans (same.trans otherGiven))

/-- Each result depends on its own variable and its own key only. -/
theorem resultsIndependent (place : SamePlace surroundings others)
    (gives : Gives table settings) (otherGives : Gives otherTable otherSettings)
    (layered : IsLayered surroundings settings config)
    (othersLayered : IsLayered others otherSettings other) :
    (AgreeOn "KODAMA_BIND_ADDR" "bind_addr" surroundings others table otherTable →
        config.bindAddress = other.bindAddress) ∧
      (AgreeOn "KODAMA_DATA_DIR" "data_dir" surroundings others table otherTable →
        config.dataDirectory = other.dataDirectory) ∧
      (AgreeOn "KODAMA_STATIC_DIR" "static_dir" surroundings others table otherTable →
        config.staticDirectory? = other.staticDirectory?) ∧
      (AgreeOn "KODAMA_HEARTBEAT_TIMEOUT_SECS" "heartbeat_timeout_secs" surroundings others table
          otherTable → config.timeout = other.timeout) := by
  have textSingle {Value : Type} (meaning : String → Value) : ∀ text value other,
      meaning text = value → meaning text = other → value = other :=
    fun _ _ _ same again => same.symm.trans again
  have textInjective : Function.Injective Toml.Item.text := fun _ _ => Toml.Item.text.inj
  have secondsInjective : Function.Injective fun seconds : Nat => Toml.Item.integer seconds :=
    fun _ _ same => Int.ofNat.inj (Toml.Item.integer.inj same)
  refine ⟨fun agree => ?_, fun agree => ?_, fun agree => ?_, fun agree => ?_⟩
  · obtain ⟨text, bindText, read⟩ := layered.bindAddress
    obtain ⟨otherText, otherBindText, otherRead⟩ := othersLayered.bindAddress
    obtain rfl := bindText.same (textSingle id) agree
      (sameSetting textInjective gives.bindAddress otherGives.bindAddress) otherBindText
    exact Option.some.inj (read.symm.trans otherRead)
  · have otherDirectory := othersLayered.dataDirectory
    rw [← place.dataDirectory] at otherDirectory
    refine layered.dataDirectory.same (textSingle _) agree (fun same => ?_) otherDirectory
    rw [sameSetting textInjective gives.dataDirectory otherGives.dataDirectory same]
  · refine layered.staticDirectory.same (textSingle _) agree (fun same => ?_)
      othersLayered.staticDirectory
    rw [sameSetting textInjective gives.staticDirectory otherGives.staticDirectory same]
  · exact layered.timeout.same (fun _ _ _ spells again => spells.unique again) agree
      (sameSetting secondsInjective gives.timeout otherGives.timeout) othersLayered.timeout

end Independence

/-- The layers of the configuration do not interfere. A variable counts if it is set to the octets
of a text. What is wrong with the file is told whatever the variables of the panel are; else the
address, if the text that counts is none; else the timeout, if its variable counts and spells no
number of 64 bits. Nothing else can fail. Each result of a configuration is that of its own variable
if it counts, else that of its own key, else its default, and no other variable and no other key
matters. -/
theorem layersDoNotInterfere (place : SamePlace surroundings others) (entryAt : RawText → Entry)
    (path? : Option RawText) :
    (∀ name text, surroundings.get? name = some text ↔
      surroundings.set? name = some (.ofText text)) ∧
    (∃ outcome, FileStage surroundings entryAt path? outcome) ∧
    (∀ fault, FileStage surroundings entryAt path? (.error fault) →
      load surroundings entryAt path? = .error fault ∧
        load others entryAt path? = .error fault) ∧
    (∀ settings, FileStage surroundings entryAt path? (.ok settings) →
      load surroundings entryAt path? = resolve surroundings settings ∧
        load others entryAt path? = resolve others settings) ∧
    (∀ settings, (∃ fault, resolve surroundings settings = .error fault) ↔
      (∃ text, IsBindText surroundings settings text ∧
        Address.SocketAddress.ofText? text = none) ∨
      ∃ raw, surroundings.get? "KODAMA_HEARTBEAT_TIMEOUT_SECS" = some raw ∧
        ∀ seconds, ¬ SpellsSeconds raw seconds) ∧
    (∀ settings fault, resolve surroundings settings = .error fault ↔
      IsRefused surroundings settings fault) ∧
    (∀ settings config, resolve surroundings settings = .ok config ↔
      IsLayered surroundings settings config) ∧
    ∀ table otherTable settings otherSettings config other,
      Gives table settings → Gives otherTable otherSettings →
      resolve surroundings settings = .ok config → resolve others otherSettings = .ok other →
        (AgreeOn "KODAMA_BIND_ADDR" "bind_addr" surroundings others table otherTable →
          config.bindAddress = other.bindAddress) ∧
        (AgreeOn "KODAMA_DATA_DIR" "data_dir" surroundings others table otherTable →
          config.dataDirectory = other.dataDirectory) ∧
        (AgreeOn "KODAMA_STATIC_DIR" "static_dir" surroundings others table otherTable →
          config.staticDirectory? = other.staticDirectory?) ∧
        (AgreeOn "KODAMA_HEARTBEAT_TIMEOUT_SECS" "heartbeat_timeout_secs" surroundings others table
          otherTable → config.timeout = other.timeout) := by
  refine ⟨fun _ _ => getIff, someFileStage surroundings entryAt path?, ?_, ?_,
    fun _ => resolveFails, fun _ _ => resolveErrorIff, fun _ _ => resolveIff, ?_⟩
  · intro fault stage
    exact ⟨loadOfSpoiled stage, loadOfSpoiled (stage.elsewhere place)⟩
  · intro settings stage
    exact ⟨loadOfSettings stage, loadOfSettings (stage.elsewhere place)⟩
  · intro table otherTable settings otherSettings config other gives otherGives resolved again
    exact resultsIndependent place gives otherGives (resolveIff.mp resolved) (resolveIff.mp again)

/-- Surroundings in which at most the address and the timeout are set. -/
def bareSurroundings (address? timeout? : Option RawText) : Surroundings where
  set? name :=
    if name = "KODAMA_BIND_ADDR" then address?
    else if name = "KODAMA_HEARTBEAT_TIMEOUT_SECS" then timeout?
    else none
  accountHome? := some (.ofText "/home/panel")

theorem samePlaceBare (address? timeout? otherAddress? otherTimeout? : Option RawText) :
    SamePlace (bareSurroundings address? timeout?)
      (bareSurroundings otherAddress? otherTimeout?) where
  accountHome := rfl
  elsewhere name foreign := by
    have apart {own : String} (known : own ∈ ownVariables) : name ≠ own := by
      rintro rfl
      exact foreign known
    simp only [bareSurroundings, if_neg (apart (show "KODAMA_BIND_ADDR" ∈ _ by decide)),
      if_neg (apart (show "KODAMA_HEARTBEAT_TIMEOUT_SECS" ∈ _ by decide))]

/-- A variable masks an address of the file that is none. Nothing masks a file that cannot be read,
is no text or has a number where a text belongs. But a timeout that is set to no text is passed over
without a word, and so is a file that cannot be looked at. -/
theorem variableMasksFile :
    let masked := bareSurroundings (some (.ofText "127.0.0.1:9000")) none
    let bare := bareSurroundings none none
    let broken := bareSurroundings none (some ⟨[0xFF]⟩)
    let home := RawText.ofText "/home/panel/.local/share/kodama"
    let path := RawText.ofText "panel.toml"
    let document := Entry.ofText "bind_addr = \"nowhere\"\nheartbeat_timeout_secs = 30\n"
    let reason := "Permission denied (os error 13)"
    let loadWith surroundings entry := load surroundings (fun _ => entry) (some path)
    SamePlace masked bare ∧ SamePlace broken bare ∧
      loadWith masked document = .ok ⟨.v4 ⟨127, 0, 0, 1⟩ 9000, home, none, 30⟩ ∧
      loadWith bare document = .error (.badAddress "nowhere") ∧
      loadWith masked (.ofText "bind_addr = 9000\n") = .error (.unparsable path) ∧
      loadWith masked (.octets [0xFF]) = .error (.unreadable path .notUtf8) ∧
      loadWith masked (.locked reason) = .error (.unreadable path (.refused reason)) ∧
      loadWith broken .absent = .ok ⟨.v4 ⟨127, 0, 0, 1⟩ 3100, home, none, 90⟩ ∧
      loadWith bare (.hidden reason) = .ok ⟨.v4 ⟨127, 0, 0, 1⟩ 3100, home, none, 90⟩ := by
  intro masked bare broken home path document reason loadWith
  have maskedPlace : SamePlace masked bare := samePlaceBare ..
  have brokenPlace : SamePlace broken bare := samePlaceBare ..
  have masks (entry : Entry) :=
    layersDoNotInterfere maskedPlace (fun _ => entry) (some path)
  have passesOver (entry : Entry) :=
    layersDoNotInterfere brokenPlace (fun _ => entry) (some path)
  have spoiled {entry : Entry} {fault : Fault} (spoils : Spoils path entry fault) :
      loadWith masked entry = .error fault := by
    obtain ⟨-, -, spoiled, -⟩ := masks entry
    exact (spoiled fault (.spoils rfl spoils)).1
  obtain ⟨table, parsed, read⟩ := Option.bind_eq_some_iff.mp
    (show (Toml.ofCharacters?
      "bind_addr = \"nowhere\"\nheartbeat_timeout_secs = 30\n".toList).bind Settings.ofTable? =
        some ⟨some "nowhere", none, none, some 30⟩ by decide)
  have holds : Holds document ⟨some "nowhere", none, none, some 30⟩ :=
    .document rfl parsed (ofTableIff.mp read)
  refine ⟨maskedPlace, brokenPlace, ?_, ?_, ?_, ?_, spoiled (.locked reason), ?_, ?_⟩
  · obtain ⟨-, -, -, loaded, -, -, resolved, -⟩ := masks document
    exact (loaded _ (.holds rfl holds)).1.trans ((resolved _ _).mpr
      ⟨⟨_, .environment rfl rfl, by decide⟩, .fallback rfl rfl, .fallback rfl rfl, .file rfl rfl⟩)
  · obtain ⟨-, -, -, loaded, -⟩ := masks document
    exact (loaded _ (.holds rfl holds)).2.trans (by decide)
  · have mistyped : Mistyped ⟨.header, [("bind_addr", .integer 9000)]⟩ := by
      refine .text (show "bind_addr" ∈ _ by decide) rfl ?_
      exact fun text same => nomatch same
    exact spoiled (.mistyped rfl rfl mistyped)
  · refine spoiled (.notUtf8 fun text spelled => ?_)
    have broken : Text.Utf8.decode? [0xFF] = none := by decide
    exact nomatch broken.symm.trans (Text.Utf8.decodeIff.mpr spelled)
  · obtain ⟨-, -, -, loaded, -, -, resolved, -⟩ := passesOver .absent
    exact (loaded _ (.holds rfl .absent)).1.trans ((resolved _ _).mpr
      ⟨⟨_, .fallback rfl rfl, by decide⟩, .fallback rfl rfl, .fallback rfl rfl,
        .fallback rfl rfl⟩)
  · obtain ⟨-, -, -, loaded, -⟩ := passesOver (.hidden reason)
    exact (loaded _ (.unseen rfl rfl)).2.trans (by decide)

end FleetPanel.Config
