/-
This file says what the fields of a record hold, in either form of the record, and that a row forms
a node or an instance exactly if it holds all of its fields.
-/

import FleetPanel.Proofs.Fleet.Names
import FleetPanel.Proofs.Time.Lenient

namespace FleetPanel.Fleet

open Checked

variable {Value Part : Type} {row : Row} {key : String}

/-- The fields of a record: the members of an object, or the items of an array in the order of the
keys. -/
def fieldsOf (keys : List String) : Json → Row
  | .object members => Json.member? members
  | .array items => Json.member? (keys.zip items)
  | _ => fun _ => none

/-- An array has room for its items only if there are no more of them than keys. -/
def Fits (keys : List String) : Json → Prop
  | .object _ => True
  | .array items => items.length ≤ keys.length
  | _ => False

theorem readRecordIff {shape : Shape} {keys : List String} {check : Row → Checked Value}
    {json : Json} {value : Value} : readRecord shape keys check json = .ok value ↔
      Fits keys json ∧ check (fieldsOf keys json) = formed value := by
  cases json with
  | object members =>
      cases made : check (Json.member? members) <;> simp [readRecord, Fits, fieldsOf, made]
  | array items =>
      cases made : check (Json.member? (keys.zip items)) with
      | formed part =>
          by_cases few : items.length ≤ keys.length <;> simp [readRecord, Fits, fieldsOf, made, few]
      | broken first rest => simp [readRecord, fieldsOf, made]
  | _ => simp [readRecord, Fits]

theorem formedOfRecord {shape : Shape} {keys : List String} {check : Row → Checked Value}
    {json : Json} {value : Value} (read : readRecord shape keys check json = .ok value) :
    check (fieldsOf keys json) = formed value :=
  (readRecordIff.mp read).2

/-- A value is formed if and only if all its parts are. -/
theorem applyFormed {form : Checked (Part → Value)} {part : Checked Part} {value : Value} :
    form.apply part = formed value ↔
      ∃ make made, value = make made ∧ part = formed made ∧ form = formed make := by
  cases form <;> cases part <;> simp [Checked.apply, eq_comm]

theorem requiredIff {read : Json → Decoded Part} {part : Part} :
    required row key read = formed part ↔ ∃ value, row key = some value ∧ read value = .ok part := by
  cases held : row key with
  | none => simp [required, held]
  | some value => cases reads : read value <;> simp [required, held, reads]

/-- A text that denotes an instant. -/
def IsTimestamp (value : Json) (instant : Time.Instant) : Prop :=
  ∃ text, value = .string text ∧ Time.Denotes text.toList instant

theorem readTextIff {value : Json} {text : String} :
    readText value = .ok text ↔ value = .string text := by
  cases value <;> simp [readText]

theorem readTruthIff {value : Json} {truth : Bool} :
    readTruth value = .ok truth ↔ value = .boolean truth := by
  cases value <;> simp [readTruth]

theorem readCountIff {value : Json} {count : UInt32} :
    readCount value = .ok count ↔ value = .integer count.toNat := by
  constructor
  · intro reads
    cases value with
    | integer number =>
        simp only [readCount] at reads
        split at reads
        · case isTrue fits =>
          have few : number.toNat < UInt32.size := by omega
          cases reads
          rw [UInt32.toNat_ofNat_of_lt' few, Int.toNat_of_nonneg fits.1]
        · cases reads
    | _ => cases reads
  · rintro rfl
    exact readCountToNat count

theorem readTimestampIff {value : Json} {instant : Time.Instant} :
    readTimestamp value = .ok instant ↔ IsTimestamp value instant := by
  cases value with
  | string text =>
      have denotes : Time.readRelaxed text.toList = .ok instant ↔ Time.Denotes text.toList instant :=
        Time.readRelaxedIff
      simp only [IsTimestamp, Json.string.injEq, exists_eq_left', ← denotes, readTimestamp]
      cases Time.readRelaxed text.toList <;> simp [Except.mapError]
  | _ => simp [readTimestamp, IsTimestamp]

theorem textIff {text : String} :
    required row key readText = formed text ↔ row key = some (.string text) := by
  simp [requiredIff, readTextIff]

theorem truthIff {truth : Bool} :
    required row key readTruth = formed truth ↔ row key = some (.boolean truth) := by
  simp [requiredIff, readTruthIff]

theorem countIff {count : UInt32} :
    required row key readCount = formed count ↔ row key = some (.integer count.toNat) := by
  simp [requiredIff, readCountIff]

theorem timestampIff {instant : Time.Instant} :
    required row key readTimestamp = formed instant ↔
      ∃ value, row key = some value ∧ IsTimestamp value instant := by
  simp [requiredIff, readTimestampIff]

/-- A field that holds one of two values for a member of a closed set, its name or its number. -/
def HoldsMember (row : Row) (key name : String) (ordinal : UInt8) : Prop :=
  row key = some (.string name) ∨ row key = some (.integer ordinal.toNat)

theorem memberIff {kind : Kind} {set : Enumeration Value} [DecidableEq Value]
    {ordinal : Value → UInt8} {encoded : Value → String} (agree : Agree kind set ordinal encoded)
    {value : Value} : required row key (readEnumerated kind set) = formed value ↔
      HoldsMember row key (set.name value) (ordinal value) := by
  simp [requiredIff, agree.decodes, and_or_left, exists_or, HoldsMember]

/-- A field that may be missing or null, either of which stands for no value. -/
inductive HoldsOptional (row : Row) (key : String) (means : Json → Part → Prop) :
    Option Part → Prop where
  | missing (absent : row key = none) : HoldsOptional row key means none
  | null (isNull : row key = some .null) : HoldsOptional row key means none
  | value {value : Json} {part : Part} (held : row key = some value) (meant : means value part) :
      HoldsOptional row key means (some part)

theorem readNullableValue {read : Json → Decoded Part} {value : Json} (filled : value ≠ .null) :
    readNullable read value = (read value).map some := by
  cases value <;> simp_all [readNullable]

theorem optionalIff {read : Json → Decoded Part} {means : Json → Part → Prop}
    (reads : ∀ {value part}, read value = .ok part ↔ means value part)
    (filled : ∀ part, ¬ means .null part) {part? : Option Part} :
    Checked.optional row key read = formed part? ↔ HoldsOptional row key means part? := by
  constructor
  · intro made
    cases held : row key with
    | none =>
        simp only [Checked.optional, held, formed.injEq] at made
        exact made ▸ .missing held
    | some value =>
        by_cases isNull : value = .null
        · subst isNull
          simp only [Checked.optional, held, readNullable, formed.injEq] at made
          exact made ▸ .null held
        · simp only [Checked.optional, held, readNullableValue isNull] at made
          cases meant : read value with
          | error fault => simp [meant, Except.map] at made
          | ok part =>
              simp only [meant, Except.map, formed.injEq] at made
              exact made ▸ .value held (reads.mp meant)
  · intro holds
    cases holds with
    | missing absent => simp only [Checked.optional, absent]
    | null isNull => simp only [Checked.optional, isNull, readNullable]
    | @value value part held meant =>
        have notNull : value ≠ .null := fun isNull => filled part (isNull ▸ meant)
        simp only [Checked.optional, held, readNullableValue notNull, reads.mpr meant, Except.map]

/-- A text that may be left out, in which case it is empty. -/
def HoldsTextOrNone (row : Row) (key text : String) : Prop :=
  ∃ text?, HoldsOptional row key (fun value text => value = .string text) text? ∧
    text = text?.getD ""

theorem optionalTextIff {text : String} :
    optionalText row key = formed text ↔ HoldsTextOrNone row key text := by
  have held (text? : Option String) : Checked.optional row key readText = formed text? ↔
      HoldsOptional row key (fun value text => value = .string text) text? :=
    optionalIff readTextIff (by simp)
  simp [optionalText, applyFormed, HoldsTextOrNone, held, and_comm]

/-- A row holds the fields of a node. -/
structure Node.IsRecordedIn (node : Node) (row : Row) : Prop where
  id : row "id" = some (.string node.id)
  name : row "name" = some (.string node.name)
  region : row "region" = some (.string node.region)
  status : HoldsMember row "status" node.status.name node.status.ordinal
  devMode : row "devMode" = some (.boolean node.devMode)
  capacitySlots : row "capacitySlots" = some (.integer node.capacitySlots.toNat)
  usedSlots : row "usedSlots" = some (.integer node.usedSlots.toNat)
  lastHeartbeatAt : ∃ value, row "lastHeartbeatAt" = some value ∧
    IsTimestamp value node.lastHeartbeatAt
  nodeVersion : row "nodeVersion" = some (.string node.nodeVersion)
  tags : HoldsTextOrNone row "tags" node.tags
  baseUrl : HoldsTextOrNone row "baseUrl" node.baseUrl

theorem Node.recordedIff {node : Node} : check row = formed node ↔ node.IsRecordedIn row := by
  constructor
  · intro made
    obtain ⟨_, _, rfl, baseUrl, made⟩ := applyFormed.mp made
    obtain ⟨_, _, rfl, tags, made⟩ := applyFormed.mp made
    obtain ⟨_, _, rfl, nodeVersion, made⟩ := applyFormed.mp made
    obtain ⟨_, _, rfl, lastHeartbeatAt, made⟩ := applyFormed.mp made
    obtain ⟨_, _, rfl, usedSlots, made⟩ := applyFormed.mp made
    obtain ⟨_, _, rfl, capacitySlots, made⟩ := applyFormed.mp made
    obtain ⟨_, _, rfl, devMode, made⟩ := applyFormed.mp made
    obtain ⟨_, _, rfl, status, made⟩ := applyFormed.mp made
    obtain ⟨_, _, rfl, region, made⟩ := applyFormed.mp made
    obtain ⟨_, _, rfl, name, made⟩ := applyFormed.mp made
    obtain ⟨_, _, rfl, id, made⟩ := applyFormed.mp made
    cases made
    exact ⟨textIff.mp id, textIff.mp name, textIff.mp region, (memberIff NodeStatus.agree).mp status,
      truthIff.mp devMode, countIff.mp capacitySlots, countIff.mp usedSlots,
      timestampIff.mp lastHeartbeatAt, textIff.mp nodeVersion, optionalTextIff.mp tags,
      optionalTextIff.mp baseUrl⟩
  · intro recorded
    simp only [check]
    rw [textIff.mpr recorded.id, textIff.mpr recorded.name, textIff.mpr recorded.region,
      (memberIff NodeStatus.agree).mpr recorded.status, truthIff.mpr recorded.devMode,
      countIff.mpr recorded.capacitySlots, countIff.mpr recorded.usedSlots,
      timestampIff.mpr recorded.lastHeartbeatAt, textIff.mpr recorded.nodeVersion,
      optionalTextIff.mpr recorded.tags, optionalTextIff.mpr recorded.baseUrl]
    rfl

/-- A row holds the fields of an instance. -/
structure Instance.IsRecordedIn (inst : Instance) (row : Row) : Prop where
  id : row "id" = some (.string inst.id)
  name : row "name" = some (.string inst.name)
  displayName : row "displayName" = some (.string inst.displayName)
  state : HoldsMember row "state" inst.state.name inst.state.ordinal
  requestedByUserId : row "requestedByUserId" = some (.string inst.requestedByUserId)
  node : ∃ value, row "node" = some value ∧ Node.ofJson value = .ok inst.node
  region : row "region" = some (.string inst.region)
  tags : HoldsTextOrNone row "tags" inst.tags
  devModeAllowed : row "devModeAllowed" = some (.boolean inst.devModeAllowed)
  portsJson : row "portsJson" = some (.string inst.portsJson)
  variablesJson : row "variablesJson" = some (.string inst.variablesJson)
  createdAt : ∃ value, row "createdAt" = some value ∧ IsTimestamp value inst.createdAt
  updatedAt : ∃ value, row "updatedAt" = some value ∧ IsTimestamp value inst.updatedAt
  startedAt : HoldsOptional row "startedAt" IsTimestamp inst.startedAt?
  stoppedAt : HoldsOptional row "stoppedAt" IsTimestamp inst.stoppedAt?
  failureReason : HoldsOptional row "failureReason" (fun value text => value = .string text)
    inst.failureReason?

theorem Instance.recordedIff {inst : Instance} : check row = formed inst ↔ inst.IsRecordedIn row := by
  have moment {key : String} {instant? : Option Time.Instant} :
      Checked.optional row key readTimestamp = formed instant? ↔
        HoldsOptional row key IsTimestamp instant? :=
    optionalIff readTimestampIff (by simp [IsTimestamp])
  have reason {text? : Option String} :
      Checked.optional row "failureReason" readText = formed text? ↔
        HoldsOptional row "failureReason" (fun value text => value = .string text) text? :=
    optionalIff readTextIff (by simp)
  constructor
  · intro made
    obtain ⟨_, _, rfl, failureReason, made⟩ := applyFormed.mp made
    obtain ⟨_, _, rfl, stoppedAt, made⟩ := applyFormed.mp made
    obtain ⟨_, _, rfl, startedAt, made⟩ := applyFormed.mp made
    obtain ⟨_, _, rfl, updatedAt, made⟩ := applyFormed.mp made
    obtain ⟨_, _, rfl, createdAt, made⟩ := applyFormed.mp made
    obtain ⟨_, _, rfl, variablesJson, made⟩ := applyFormed.mp made
    obtain ⟨_, _, rfl, portsJson, made⟩ := applyFormed.mp made
    obtain ⟨_, _, rfl, devModeAllowed, made⟩ := applyFormed.mp made
    obtain ⟨_, _, rfl, tags, made⟩ := applyFormed.mp made
    obtain ⟨_, _, rfl, region, made⟩ := applyFormed.mp made
    obtain ⟨_, _, rfl, node, made⟩ := applyFormed.mp made
    obtain ⟨_, _, rfl, requestedByUserId, made⟩ := applyFormed.mp made
    obtain ⟨_, _, rfl, state, made⟩ := applyFormed.mp made
    obtain ⟨_, _, rfl, displayName, made⟩ := applyFormed.mp made
    obtain ⟨_, _, rfl, name, made⟩ := applyFormed.mp made
    obtain ⟨_, _, rfl, id, made⟩ := applyFormed.mp made
    cases made
    exact ⟨textIff.mp id, textIff.mp name, textIff.mp displayName,
      (memberIff InstanceState.agree).mp state, textIff.mp requestedByUserId, requiredIff.mp node,
      textIff.mp region, optionalTextIff.mp tags, truthIff.mp devModeAllowed, textIff.mp portsJson,
      textIff.mp variablesJson, timestampIff.mp createdAt, timestampIff.mp updatedAt,
      moment.mp startedAt, moment.mp stoppedAt, reason.mp failureReason⟩
  · intro recorded
    simp only [check]
    rw [textIff.mpr recorded.id, textIff.mpr recorded.name, textIff.mpr recorded.displayName,
      (memberIff InstanceState.agree).mpr recorded.state, textIff.mpr recorded.requestedByUserId,
      requiredIff.mpr recorded.node, textIff.mpr recorded.region,
      optionalTextIff.mpr recorded.tags, truthIff.mpr recorded.devModeAllowed,
      textIff.mpr recorded.portsJson, textIff.mpr recorded.variablesJson,
      timestampIff.mpr recorded.createdAt, timestampIff.mpr recorded.updatedAt,
      moment.mpr recorded.startedAt, moment.mpr recorded.stoppedAt,
      reason.mpr recorded.failureReason]
    rfl

/-- A field that holds a timestamp holds a text that denotes it. -/
theorem timestampOfFormed {instant : Time.Instant}
    (made : required row key readTimestamp = formed instant) :
    ∃ text, row key = some (.string text) ∧ Time.Denotes text.toList instant := by
  obtain ⟨_, held, text, rfl, denotes⟩ := timestampIff.mp made
  exact ⟨text, held, denotes⟩

/-- The last heartbeat of a node is read from its own field. -/
theorem Node.heartbeatOfCheck {node : Node} (made : check row = formed node) :
    required row "lastHeartbeatAt" readTimestamp = formed node.lastHeartbeatAt :=
  timestampIff.mpr (recordedIff.mp made).lastHeartbeatAt

/-- The creation time of an instance is read from its own field. -/
theorem Instance.creationOfCheck {inst : Instance} (made : check row = formed inst) :
    required row "createdAt" readTimestamp = formed inst.createdAt :=
  timestampIff.mpr (recordedIff.mp made).createdAt

end FleetPanel.Fleet
