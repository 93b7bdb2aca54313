/-
This file shows which objects are nodes and instances: those that hold all fields of a record, each
of its kind. What an object holds under any other key changes neither the record nor the fault.
-/

import FleetPanel.Proofs.Fleet.Fields
import FleetPanel.Proofs.Json.Integers

namespace FleetPanel.Fleet

open Checked

variable {Value : Type} {left right : Row}

theorem readObjectIff {shape : Shape} {keys : List String} {check : Row → Checked Value}
    {members : List (String × Json)} {value : Value} :
    readRecord shape keys check (.object members) = .ok value ↔
      check (Json.member? members) = formed value := by
  simp [readRecordIff, Fits, fieldsOf]

/-- A count in a text is a number that is written with digits alone. -/
theorem readCountText (numeral : Json.Numeral) (count : UInt32) :
    (∃ value, Json.ofCharacters numeral.text = .ok value ∧ readCount value = .ok count) ↔
      numeral.negative = false ∧ numeral.fraction = [] ∧ numeral.exponent? = none ∧
        Text.numberOf numeral.whole = count.toNat := by
  have reads : (Json.ofCharacters numeral.text).toOption = numeral.value? := by
    simpa [Json.Reading.within] using
      Json.ofCharactersSpec (.number numeral) Json.spacesNil Json.spacesNil
  rw [← Json.Numeral.countIff, ← reads]
  cases Json.ofCharacters numeral.text <;> simp [readCountIff, Except.toOption]

/-- Two rows hold the same under some keys. -/
def SameUnder (keys : List String) (left right : Row) : Prop :=
  ∀ key ∈ keys, left key = right key

/-- What is put under another key does not matter. -/
theorem sameOfInsert {keys : List String} {key : String} (value : Json)
    (members : List (String × Json)) (outside : key ∉ keys) :
    SameUnder keys (Json.member? members) (Json.member? (Json.insert key value members)) := by
  intro other inside
  have apart : other ≠ key := fun same => outside (same ▸ inside)
  exact (Json.memberInsertOther value members apart).symm

theorem Node.checkOfSame (same : SameUnder keys left right) : check left = check right := by
  simp only [SameUnder, keys, List.forall_mem_cons] at same
  obtain ⟨id, name, region, status, devMode, capacitySlots, usedSlots, lastHeartbeatAt, nodeVersion,
    tags, baseUrl, -⟩ := same
  simp only [check, required, Checked.optional, optionalText, id, name, region, status, devMode,
    capacitySlots, usedSlots, lastHeartbeatAt, nodeVersion, tags, baseUrl]

theorem Node.ofJsonOfSame {members others : List (String × Json)}
    (same : SameUnder keys (Json.member? members) (Json.member? others)) :
    ofJson (.object members) = ofJson (.object others) := by
  simp only [ofJson, readRecord, checkOfSame same]

/-- Two values are the same node, or objects that hold the same under the keys of a node. -/
inductive SameNode : Option Json → Option Json → Prop where
  | same (value? : Option Json) : SameNode value? value?
  | objects {members others : List (String × Json)}
      (same : SameUnder Node.keys (Json.member? members) (Json.member? others)) :
      SameNode (some (.object members)) (some (.object others))

theorem requiredOfSameNode (same : SameNode (left "node") (right "node")) :
    required left "node" Node.ofJson = required right "node" Node.ofJson := by
  simp only [required]
  generalize left "node" = first at same
  generalize right "node" = second at same
  cases same with
  | same => rfl
  | objects same => simp only [Node.ofJsonOfSame same]

/-- Two rows hold the same instance, whatever else they and the nodes in them hold. -/
structure SameInstance (left right : Row) : Prop where
  fields : SameUnder (Instance.keys.erase "node") left right
  node : SameNode (left "node") (right "node")

theorem Instance.checkOfSame (fields : SameUnder (keys.erase "node") left right)
    (node : required left "node" Node.ofJson = required right "node" Node.ofJson) :
    check left = check right := by
  have erased : keys.erase "node" = ["id", "name", "displayName", "state", "requestedByUserId",
    "region", "tags", "devModeAllowed", "portsJson", "variablesJson", "createdAt", "updatedAt",
    "startedAt", "stoppedAt", "failureReason"] := rfl
  simp only [SameUnder, erased, List.forall_mem_cons] at fields
  obtain ⟨id, name, displayName, state, requestedByUserId, region, tags, devModeAllowed, portsJson,
    variablesJson, createdAt, updatedAt, startedAt, stoppedAt, failureReason, -⟩ := fields
  rw [check, node]
  simp only [check, required, Checked.optional, optionalText, id, name, displayName, state,
    requestedByUserId, region, tags, devModeAllowed, portsJson, variablesJson, createdAt, updatedAt,
    startedAt, stoppedAt, failureReason]

/-- An object is read as a node or an instance exactly if it holds the fields of that record, where
a count is written with digits alone. Objects that differ under other keys only, also in the node of
an instance, are read alike or fail alike. -/
theorem objectsAreTheirFields :
    (∀ members node, Node.ofJson (.object members) = .ok node ↔
      node.IsRecordedIn (Json.member? members)) ∧
    (∀ members inst, Instance.ofJson (.object members) = .ok inst ↔
      inst.IsRecordedIn (Json.member? members)) ∧
    (∀ (numeral : Json.Numeral) count,
      (∃ value, Json.ofCharacters numeral.text = .ok value ∧ readCount value = .ok count) ↔
        numeral.negative = false ∧ numeral.fraction = [] ∧ numeral.exponent? = none ∧
          Text.numberOf numeral.whole = count.toNat) ∧
    (∀ members others, SameUnder Node.keys (Json.member? members) (Json.member? others) →
      Node.ofJson (.object members) = Node.ofJson (.object others)) ∧
    ∀ members others, SameInstance (Json.member? members) (Json.member? others) →
      Instance.ofJson (.object members) = Instance.ofJson (.object others) := by
  refine ⟨fun members node => ?_, fun members inst => ?_, readCountText,
    fun members others same => Node.ofJsonOfSame same, fun members others same => ?_⟩
  · exact readObjectIff.trans Node.recordedIff
  · exact readObjectIff.trans Instance.recordedIff
  · have alike := Instance.checkOfSame same.fields (requiredOfSameNode same.node)
    simp only [Instance.ofJson, readRecord, alike]

/-- The members of a node without those that may be left out. -/
def bareNode : List (String × Json) :=
  [("capacitySlots", .integer 2), ("devMode", .boolean false), ("id", .string "n"),
    ("lastHeartbeatAt", .string "2026-03-01T12:00:00Z"), ("name", .string "n"),
    ("nodeVersion", .string "1"), ("region", .string "r"), ("status", .integer 0),
    ("usedSlots", .integer 1)]

/-- The members of an instance on that node, without those that may be left out. -/
def bareInstance : List (String × Json) :=
  [("createdAt", .string "2026-03-01T12:00:00Z"), ("devModeAllowed", .boolean false),
    ("displayName", .string "i"), ("id", .string "i"), ("name", .string "i"),
    ("node", .object bareNode), ("portsJson", .string ""), ("region", .string "r"),
    ("requestedByUserId", .string "u"), ("state", .string "RUNNING"),
    ("updatedAt", .string "2026-03-01T12:00:00Z"), ("variablesJson", .string "")]

/-- The members of the node with one that no node has. -/
def zonedNode : List (String × Json) :=
  Json.insert "zone" (.integer 7) bareNode

/-- The members of the instance with one that no instance has, on the node with a zone. -/
def zonedInstance : List (String × Json) :=
  Json.insert "zone" .null (Json.insert "node" (.object zonedNode) bareInstance)

theorem okOfSome {Value : Type} {read : Decoded Value} {value : Value}
    (some : read.toOption = some value) : read = .ok value := by
  cases read with
  | ok made => exact congrArg Except.ok (Option.some.inj some)
  | error fault => cases some

/-- A zone in an instance and in its node changes nothing. -/
theorem zonesChangeNothing : ∃ node inst,
    Node.ofJson (.object bareNode) = .ok node ∧ Node.ofJson (.object zonedNode) = .ok node ∧
    Instance.ofJson (.object bareInstance) = .ok inst ∧
    Instance.ofJson (.object zonedInstance) = .ok inst := by
  have sameNode : SameUnder Node.keys (Json.member? bareNode) (Json.member? zonedNode) :=
    sameOfInsert (.integer 7) bareNode (by decide)
  have sameInstance : SameInstance (Json.member? bareInstance) (Json.member? zonedInstance) := by
    refine ⟨fun key inside => ?_, ?_⟩
    · have notNode := sameOfInsert (.object zonedNode) bareInstance
        (by decide : "node" ∉ Instance.keys.erase "node")
      have notZone := sameOfInsert .null (Json.insert "node" (.object zonedNode) bareInstance)
        (by decide : "zone" ∉ Instance.keys.erase "node")
      exact (notNode key inside).trans (notZone key inside)
    · exact .objects sameNode
  have nodeReads : (Node.ofJson (.object bareNode)).toOption.isSome = true := by decide +kernel
  have reads : (Instance.ofJson (.object bareInstance)).toOption.isSome = true := by decide +kernel
  obtain ⟨node, nodeRead⟩ := Option.isSome_iff_exists.mp nodeReads
  obtain ⟨inst, read⟩ := Option.isSome_iff_exists.mp reads
  have nodesAlike := objectsAreTheirFields.2.2.2.1 _ _ sameNode
  have alike := objectsAreTheirFields.2.2.2.2 _ _ sameInstance
  exact ⟨node, inst, okOfSome nodeRead, nodesAlike ▸ okOfSome nodeRead, okOfSome read,
    alike ▸ okOfSome read⟩

end FleetPanel.Fleet
