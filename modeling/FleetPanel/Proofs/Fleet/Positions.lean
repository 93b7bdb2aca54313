/-
This file compares the two forms of a record. An array stands for the object that holds its items
under the keys in their order, provided that it reaches the last key that cannot be left out and has
no more items than there are keys. The node of an instance has either form of its own.
-/

import FleetPanel.Proofs.Fleet.Records

namespace FleetPanel.Fleet

open Checked

variable {items parts : List Json}

section Forms

variable {Value : Type} {keys : List String}

/-- The object that holds items under keys in their order. -/
def keyed (keys : List String) (items : List Json) : Json :=
  Json.ofMembers (keys.zip items)

theorem readKeyedIff {shape : Shape} {check : Row → Checked Value} {value : Value}
    (distinct : keys.Nodup) : readRecord shape keys check (keyed keys items) = .ok value ↔
      check (Json.member? (keys.zip items)) = formed value := by
  obtain ⟨_, made, same⟩ := Json.objectOfMembers (distinct.sublist (Json.keysOfZip keys items))
  rw [keyed, made, readObjectIff, same]

/-- An array is the record of its keyed form if it has no items beyond the keys. -/
theorem readArrayIff {shape : Shape} {check : Row → Checked Value} {value : Value}
    (distinct : keys.Nodup) : readRecord shape keys check (.array items) = .ok value ↔
      items.length ≤ keys.length ∧ readRecord shape keys check (keyed keys items) = .ok value := by
  rw [readKeyedIff distinct]
  exact readRecordIff

theorem reachedOfHeld {key : String} {value : Json}
    (held : Json.member? (keys.zip items) key = some value) : keys.idxOf key < items.length := by
  rw [Json.memberOfZip] at held
  split at held
  · exact (List.getElem?_eq_some_iff.mp held).1
  · cases held

theorem missingBeyond {key : String} (beyond : items.length ≤ keys.idxOf key) :
    Json.member? (keys.zip items) key = none := by
  rw [Json.memberOfZip, List.getElem?_eq_none beyond, ite_self]

theorem noneOfMissing {Part : Type} {row : Row} {key : String} {means : Json → Part → Prop}
    {part? : Option Part} (missing : row key = none) (holds : HoldsOptional row key means part?) :
    part? = none := by
  cases holds with
  | missing absent => rfl
  | null isNull => rfl
  | value held meant => cases missing.symm.trans held

end Forms

/-- An array is a node if it ends between the version and the address of the node. -/
theorem Node.ofArrayIff {node : Node} : ofJson (.array items) = .ok node ↔
    (9 ≤ items.length ∧ items.length ≤ 11) ∧ ofJson (keyed Node.keys items) = .ok node := by
  refine (readArrayIff distinctKeys).trans ⟨fun ⟨few, read⟩ => ?_, fun ⟨⟨_, few⟩, read⟩ => ?_⟩
  · have recorded := recordedIff.mp ((readKeyedIff distinctKeys).mp read)
    have reached : 8 < items.length := reachedOfHeld recorded.nodeVersion
    exact ⟨⟨reached, few⟩, read⟩
  · exact ⟨few, read⟩

section Instances

variable {left right : Row} {inst : Instance}

/-- An array is an instance if it ends between the last change and the reason of a failure. -/
theorem Instance.ofArrayIff : ofJson (.array items) = .ok inst ↔
    (13 ≤ items.length ∧ items.length ≤ 16) ∧ ofJson (keyed Instance.keys items) = .ok inst := by
  refine (readArrayIff distinctKeys).trans ⟨fun ⟨few, read⟩ => ?_, fun ⟨⟨_, few⟩, read⟩ => ?_⟩
  · obtain ⟨_, held, -⟩ := (recordedIff.mp ((readKeyedIff distinctKeys).mp read)).updatedAt
    have reached : 12 < items.length := reachedOfHeld held
    exact ⟨⟨reached, few⟩, read⟩
  · exact ⟨few, read⟩

/-- The moments and the reason that an array does not reach are none. -/
theorem Instance.noneBeyond (read : ofJson (.array items) = .ok inst) :
    (items.length ≤ 13 → inst.startedAt? = none) ∧ (items.length ≤ 14 → inst.stoppedAt? = none) ∧
      (items.length ≤ 15 → inst.failureReason? = none) := by
  have recorded := recordedIff.mp (formedOfRecord read)
  exact ⟨fun ends => noneOfMissing (missingBeyond ends) recorded.startedAt,
    fun ends => noneOfMissing (missingBeyond ends) recorded.stoppedAt,
    fun ends => noneOfMissing (missingBeyond ends) recorded.failureReason⟩

/-- A row that differs in its node alone records the instance with that node. -/
theorem Instance.recordedOfNode (fields : SameUnder (keys.erase "node") left right)
    (recorded : inst.IsRecordedIn left)
    (node : ∃ value, right "node" = some value ∧ Node.ofJson value = .ok inst.node) :
    inst.IsRecordedIn right := by
  have alike : required left "node" Node.ofJson = required right "node" Node.ofJson :=
    (requiredIff.mpr recorded.node).trans (requiredIff.mpr node).symm
  exact recordedIff.mp (checkOfSame fields alike ▸ recordedIff.mpr recorded)

/-- A row with its node in an array records what it records with the keyed form of the node. -/
theorem Instance.recordedOnKeyedNode (fields : SameUnder (keys.erase "node") left right)
    (inArray : left "node" = some (.array parts))
    (inObject : right "node" = some (keyed Node.keys parts)) :
    inst.IsRecordedIn left ↔
      (9 ≤ parts.length ∧ parts.length ≤ 11) ∧ inst.IsRecordedIn right := by
  constructor
  · intro recorded
    obtain ⟨_, held, read⟩ := recorded.node
    cases inArray.symm.trans held
    obtain ⟨lengths, read⟩ := Node.ofArrayIff.mp read
    exact ⟨lengths, recordedOfNode fields recorded ⟨_, inObject, read⟩⟩
  · rintro ⟨lengths, recorded⟩
    obtain ⟨_, held, read⟩ := recorded.node
    cases inObject.symm.trans held
    have back : SameUnder (keys.erase "node") right left :=
      fun key inside => (fields key inside).symm
    exact recordedOfNode back recorded ⟨_, inArray, Node.ofArrayIff.mpr ⟨lengths, read⟩⟩

/-- The place of the node in the array of an instance. -/
theorem Instance.nodeOfZip (items : List Json) :
    Json.member? (keys.zip items) "node" = items[5]? :=
  Json.memberOfZip keys items "node"

/-- Another item in the place of the node leaves the other fields as they are. -/
theorem Instance.sameOfSet (items : List Json) (value : Json) :
    SameUnder (keys.erase "node") (Json.member? (keys.zip items))
      (Json.member? (keys.zip (items.set 5 value))) := by
  intro key inside
  have elsewhere : ∀ key ∈ keys.erase "node", 5 ≠ keys.idxOf key := by decide
  simp only [Json.memberOfZip, List.getElem?_set_ne (elsewhere key inside)]

theorem Instance.ofArrayOnArrayIff (inside : items[5]? = some (.array parts)) :
    ofJson (.array items) = .ok inst ↔
      (13 ≤ items.length ∧ items.length ≤ 16) ∧ (9 ≤ parts.length ∧ parts.length ≤ 11) ∧
        ofJson (keyed Instance.keys (items.set 5 (keyed Node.keys parts))) = .ok inst := by
  have reaches : 5 < items.length := (List.getElem?_eq_some_iff.mp inside).1
  have inArray := (nodeOfZip items).trans inside
  have inObject := (nodeOfZip (items.set 5 (keyed Node.keys parts))).trans
    (List.getElem?_set_self reaches)
  rw [ofArrayIff, ofJson, readKeyedIff distinctKeys, readKeyedIff distinctKeys, recordedIff,
    recordedIff, recordedOnKeyedNode (sameOfSet items _) inArray inObject]

theorem Instance.ofObjectOnArrayIff {members : List (String × Json)}
    (inside : Json.member? members "node" = some (.array parts)) :
    ofJson (.object members) = .ok inst ↔ (9 ≤ parts.length ∧ parts.length ≤ 11) ∧
      ofJson (.object (Json.insert "node" (keyed Node.keys parts) members)) = .ok inst := by
  have fields := sameOfInsert (keyed Node.keys parts) members
    (by decide : "node" ∉ keys.erase "node")
  have inObject := Json.memberInsertSame "node" (keyed Node.keys parts) members
  rw [ofJson, readObjectIff, readObjectIff, recordedIff, recordedIff,
    recordedOnKeyedNode fields inside inObject]

end Instances

theorem faultOfNone {Value : Type} {read : Decoded Value} (none : ∀ value, read ≠ .ok value) :
    ∃ fault, read = .error fault := by
  cases read with
  | ok value => exact absurd rfl (none value)
  | error fault => exact ⟨fault, rfl⟩

/-- An array of the right length is read as the object of its items is, also where the node of an
instance is an array. An array of any other length is read as nothing. -/
theorem arraysAreKeyed :
    (∀ items node, Node.ofJson (.array items) = .ok node ↔
      (9 ≤ items.length ∧ items.length ≤ 11) ∧ Node.ofJson (keyed Node.keys items) = .ok node) ∧
    (∀ items inst, Instance.ofJson (.array items) = .ok inst ↔
      (13 ≤ items.length ∧ items.length ≤ 16) ∧
        Instance.ofJson (keyed Instance.keys items) = .ok inst) ∧
    (∀ items inst, Instance.ofJson (.array items) = .ok inst →
      (items.length ≤ 13 → inst.startedAt? = none) ∧
        (items.length ≤ 14 → inst.stoppedAt? = none) ∧
        (items.length ≤ 15 → inst.failureReason? = none)) ∧
    (∀ (items parts : List Json) inst, items[5]? = some (.array parts) →
      (Instance.ofJson (.array items) = .ok inst ↔
        (13 ≤ items.length ∧ items.length ≤ 16) ∧ (9 ≤ parts.length ∧ parts.length ≤ 11) ∧
          Instance.ofJson (keyed Instance.keys (items.set 5 (keyed Node.keys parts))) = .ok inst)) ∧
    (∀ members parts inst, Json.member? members "node" = some (.array parts) →
      (Instance.ofJson (.object members) = .ok inst ↔
        (9 ≤ parts.length ∧ parts.length ≤ 11) ∧
          Instance.ofJson (.object (Json.insert "node" (keyed Node.keys parts) members)) =
            .ok inst)) ∧
    (∀ items : List Json, ¬ (9 ≤ items.length ∧ items.length ≤ 11) →
      ∃ fault, Node.ofJson (.array items) = .error fault) ∧
    ∀ items : List Json, ¬ (13 ≤ items.length ∧ items.length ≤ 16) →
      ∃ fault, Instance.ofJson (.array items) = .error fault := by
  refine ⟨fun _ _ => Node.ofArrayIff, fun _ _ => Instance.ofArrayIff,
    fun _ _ read => Instance.noneBeyond read, fun _ _ _ inside => Instance.ofArrayOnArrayIff inside,
    fun _ _ _ inside => Instance.ofObjectOnArrayIff inside, fun items other => ?_,
    fun items other => ?_⟩
  · exact faultOfNone fun node read => other (Node.ofArrayIff.mp read).1
  · exact faultOfNone fun inst read => other (Instance.ofArrayIff.mp read).1

/-- The items of a node without those that may be left out. -/
def listedNode : List Json :=
  [.string "n", .string "n", .string "r", .integer 0, .boolean false, .integer 2, .integer 1,
    .string "2026-03-01T12:00:00Z", .string "1"]

/-- The items of an instance on that node, without those at its end that may be left out. -/
def listedInstance : List Json :=
  [.string "i", .string "i", .string "i", .string "RUNNING", .string "u", .array listedNode,
    .string "r", .null, .boolean false, .string "", .string "", .string "2026-03-01T12:00:00Z",
    .string "2026-03-01T12:00:00Z"]

/-- The members of an instance on that node. -/
def memberedInstance : List (String × Json) :=
  Json.insert "node" (.array listedNode) bareInstance

/-- The shortest array of an instance, the object of its items and an object with the node in an
array are one instance, which never started. No array without items is a record. -/
theorem shortestArrays : ∃ inst,
    Instance.ofJson (.array listedInstance) = .ok inst ∧ inst.startedAt? = none ∧
    Instance.ofJson
      (keyed Instance.keys (listedInstance.set 5 (keyed Node.keys listedNode))) = .ok inst ∧
    Instance.ofJson
      (.object (Json.insert "node" (keyed Node.keys listedNode) memberedInstance)) = .ok inst ∧
    (∃ fault, Node.ofJson (.array []) = .error fault) ∧
    ∃ fault, Instance.ofJson (.array []) = .error fault := by
  obtain ⟨-, -, beyond, onArray, inObject, noNode, noInstance⟩ := arraysAreKeyed
  have reads : (Instance.ofJson (.array listedInstance)).toOption.isSome = true := by
    decide +kernel
  have alike : (Instance.ofJson (.object memberedInstance)).toOption =
      (Instance.ofJson (.array listedInstance)).toOption := by decide +kernel
  have held : Json.member? memberedInstance "node" = some (.array listedNode) :=
    Json.memberInsertSame "node" (.array listedNode) bareInstance
  obtain ⟨inst, read⟩ := Option.isSome_iff_exists.mp reads
  have listed := okOfSome read
  have membered := okOfSome (alike.trans read)
  have keyedListed := (onArray listedInstance listedNode inst rfl).mp listed
  have keyedMembered := (inObject memberedInstance listedNode inst held).mp membered
  exact ⟨inst, listed, (beyond listedInstance inst listed).1 (by decide), keyedListed.2.2,
    keyedMembered.2, noNode [] (by decide), noInstance [] (by decide)⟩

end FleetPanel.Fleet
