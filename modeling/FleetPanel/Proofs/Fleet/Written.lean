/-
This file shows that nodes and instances are read back from what they are written as, and that the
text of what they are written as is read back too.
-/

import FleetPanel.Fleet.Instance
import FleetPanel.Proofs.Json.Compact
import FleetPanel.Proofs.Time.Written

namespace FleetPanel.Fleet

open Checked

variable {Value Part : Type} {row : Row}

theorem requiredFormed (key : String) {read : Json → Decoded Part} {value : Json} {part : Part}
    (held : row key = some value) (reads : read value = .ok part) :
    required row key read = formed part := by
  simp only [required, held, reads]

theorem textFormed (key : String) {text : String} (held : row key = some (.string text)) :
    required row key readText = formed text :=
  requiredFormed key held rfl

theorem truthFormed (key : String) {value : Bool} (held : row key = some (.boolean value)) :
    required row key readTruth = formed value :=
  requiredFormed key held rfl

/-- An optional field holds what its value is written as, and is missing when there is none. -/
theorem optionalFormed (key : String) {read : Json → Decoded Part} {write : Part → Json}
    {part? : Option Part} (held : row key = part?.map write)
    (filled : ∀ part, write part ≠ .null) (reads : ∀ part, read (write part) = .ok part) :
    Checked.optional row key read = formed part? := by
  cases part? with
  | none => simp only [Checked.optional, held, Option.map_none]
  | some part =>
      have nullable : readNullable read (write part) = .ok (some part) := by
        have filled := filled part
        have reads := reads part
        cases written : write part <;> simp_all [readNullable, Except.map]
      simp only [Checked.optional, held, Option.map_some, nullable]

theorem nullableTextFormed (key : String) {text? : Option String}
    (held : row key = text?.map .string) :
    Checked.optional row key readText = formed text? :=
  optionalFormed key held (fun _ => by simp) fun _ => rfl

theorem optionalTextFormed (key : String) {text : String} (held : row key = some (.string text)) :
    optionalText row key = formed text := by
  have present : Checked.optional row key readText = formed (some text) :=
    nullableTextFormed key held
  rw [optionalText, present]
  rfl

theorem readEnumeratedName (kind : Kind) {set : Enumeration Value} (lawful : set.Lawful)
    (value : Value) : readEnumerated kind set (.string (set.name value)) = .ok value := by
  simp [readEnumerated, Enumeration.ofNameName lawful]

theorem readCountToNat (count : UInt32) : readCount (.integer count.toNat) = .ok count := by
  have few : ((count.toNat : ℕ) : ℤ) < UInt32.size := by exact_mod_cast count.toNat_lt_size
  simp only [readCount, Int.toNat_natCast, UInt32.ofNat_toNat]
  rw [if_pos ⟨Int.natCast_nonneg _, few⟩]

theorem readTimestampText (instant : Time.Instant) :
    readTimestamp (.string (instant.text .letter)) = .ok instant := by
  simp [readTimestamp, Time.readRelaxedText, Except.mapError]

theorem timestampFormed (key : String) {instant : Time.Instant}
    (held : row key = some (.string (instant.text .letter))) :
    required row key readTimestamp = formed instant :=
  requiredFormed key held (readTimestampText instant)

theorem nullableTimestampFormed (key : String) {instant? : Option Time.Instant}
    (held : row key = instant?.map fun instant => .string (instant.text .letter)) :
    Checked.optional row key readTimestamp = formed instant? :=
  optionalFormed key held (fun _ => by simp) readTimestampText

theorem fitsCount (count : UInt32) : Json.FitsInteger count.toNat := by
  have few := count.toNat_lt_size
  rw [UInt32.size] at few
  constructor <;> omega

/-- An object is the record that its row forms. -/
theorem readRecordOfRow {shape : Shape} {keys : List String} {check : Row → Checked Value}
    {members : List (String × Json)} {value : Value}
    (distinct : (members.map Prod.fst).Nodup)
    (forms : check (Json.member? members) = formed value) :
    readRecord shape keys check (Json.ofMembers members) = .ok value := by
  obtain ⟨sorted, made, same⟩ := Json.objectOfMembers distinct
  simp only [made, readRecord, same, forms]

namespace Node

/-- A row that holds what a node is written as forms the node, whatever else it holds. -/
theorem checkOfMembers (node : Node) (others : List (String × Json)) :
    check (Json.member? (node.members ++ others)) = formed node := by
  have status := readEnumeratedName .nodeStatus NodeStatus.setLawful node.status
  have capacity := readCountToNat node.capacitySlots
  have used := readCountToNat node.usedSlots
  simp only [check]
  rw [textFormed "id" rfl, textFormed "name" rfl, textFormed "region" rfl,
    requiredFormed "status" rfl status, truthFormed "devMode" rfl,
    requiredFormed "capacitySlots" rfl capacity, requiredFormed "usedSlots" rfl used,
    timestampFormed "lastHeartbeatAt" rfl, textFormed "nodeVersion" rfl,
    optionalTextFormed "tags" rfl, optionalTextFormed "baseUrl" rfl]
  rfl

theorem keysOfMembers (node : Node) : node.members.map Prod.fst = keys := rfl

theorem distinctKeys : keys.Nodup := by
  decide

theorem readBack (node : Node) : ofJson node.toJson = .ok node := by
  refine readRecordOfRow (keysOfMembers node ▸ distinctKeys) ?_
  simpa using checkOfMembers node []

/-- The members of a node are texts, truths and counts. -/
theorem exactMembers (node : Node) (depth : Nat) :
    ∀ member ∈ node.members, Json.Exact depth member.2 := by
  simp only [members, List.forall_mem_cons]
  exact ⟨.string _ _, .string _ _, .string _ _, .string _ _, .boolean _ _,
    .integer _ (fitsCount _), .integer _ (fitsCount _), .string _ _, .string _ _, .string _ _,
    .string _ _, List.forall_mem_nil _⟩

theorem exactJson (node : Node) (depth : Nat) : Json.Exact (depth + 1) node.toJson :=
  Json.exactOfMembers (exactMembers node depth)

end Node

namespace Instance

theorem optionalKeys (key : String) (value? : Option String) :
    ((optionalMember key value?).map Prod.fst).Sublist [key] := by
  cases value? <;> simp [optionalMember]

theorem keysOfMembers (inst : Instance) : (inst.members.map Prod.fst).Sublist keys := by
  simp only [members, List.map_append]
  exact (((List.Sublist.refl _).append (optionalKeys _ _)).append (optionalKeys _ _)).append
    (optionalKeys _ _)

theorem distinctKeys : keys.Nodup := by
  decide

/-- The members that may be left out hold the optional fields. -/
theorem memberOptional (inst : Instance) :
    Json.member? inst.members "startedAt" =
        inst.startedAt?.map (fun instant => .string (instant.text .letter)) ∧
      Json.member? inst.members "stoppedAt" =
        inst.stoppedAt?.map (fun instant => .string (instant.text .letter)) ∧
      Json.member? inst.members "failureReason" = inst.failureReason?.map .string := by
  obtain ⟨_, _, _, _, _, _, _, _, _, _, _, _, _, startedAt?, stoppedAt?, failureReason?⟩ := inst
  cases startedAt? <;> cases stoppedAt? <;> cases failureReason? <;> exact ⟨rfl, rfl, rfl⟩

/-- The row of what an instance is written as forms the instance. -/
theorem checkOfMembers (inst : Instance) : check (Json.member? inst.members) = formed inst := by
  have state := readEnumeratedName .instanceState InstanceState.setLawful inst.state
  have node := Node.readBack inst.node
  obtain ⟨started, stopped, failure⟩ := memberOptional inst
  simp only [check]
  rw [textFormed "id" rfl, textFormed "name" rfl, textFormed "displayName" rfl,
    requiredFormed "state" rfl state, textFormed "requestedByUserId" rfl,
    requiredFormed "node" rfl node, textFormed "region" rfl, optionalTextFormed "tags" rfl,
    truthFormed "devModeAllowed" rfl, textFormed "portsJson" rfl, textFormed "variablesJson" rfl,
    timestampFormed "createdAt" rfl, timestampFormed "updatedAt" rfl,
    nullableTimestampFormed "startedAt" started, nullableTimestampFormed "stoppedAt" stopped,
    nullableTextFormed "failureReason" failure]
  rfl

theorem readBack (inst : Instance) : ofJson inst.toJson = .ok inst :=
  readRecordOfRow (distinctKeys.sublist (keysOfMembers inst)) (checkOfMembers inst)

theorem exactOptional (key : String) (value? : Option String) (depth : Nat) :
    ∀ member ∈ optionalMember key value?, Json.Exact depth member.2 := by
  intro member inside
  obtain ⟨value, _, rfl⟩ := by simpa [optionalMember] using inside
  exact .string depth value

/-- The members of an instance are texts and a truth, and its node is an object of such. -/
theorem exactJson (inst : Instance) (depth : Nat) : Json.Exact (depth + 2) inst.toJson := by
  refine Json.exactOfMembers ?_
  simp only [members, List.forall_mem_append, List.forall_mem_cons]
  exact ⟨⟨⟨⟨.string _ _, .string _ _, .string _ _, .string _ _, .string _ _,
    Node.exactJson inst.node depth, .string _ _, .string _ _, .boolean _ _, .string _ _,
    .string _ _, .string _ _, .string _ _, List.forall_mem_nil _⟩, exactOptional _ _ _⟩,
    exactOptional _ _ _⟩, exactOptional _ _ _⟩

end Instance

end FleetPanel.Fleet
