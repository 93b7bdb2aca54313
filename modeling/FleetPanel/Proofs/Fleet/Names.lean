/-
This file shows that a value of a closed set is read from its name and from its number and from
nothing else, and that all that is known of the values of a set agrees.
-/

import FleetPanel.Proofs.Fleet.Written

namespace FleetPanel.Fleet

variable {Value : Type} {value : Value} {set : Enumeration Value}

namespace Enumeration

theorem ofNameIff (lawful : set.Lawful) {name : String} :
    set.ofName? name = some value ↔ name = set.name value :=
  ⟨fun found => (nameOfName found).symm, fun same => same ▸ ofNameName lawful value⟩

theorem distinctValues (lawful : set.Lawful) : set.all.Nodup :=
  .of_map _ lawful.distinct

theorem ofTagIff [DecidableEq Value] (lawful : set.Lawful) {tag : UInt8} :
    set.ofTag? tag = some value ↔ tag.toNat = set.all.idxOf value := by
  constructor
  · intro found
    obtain ⟨inside, rfl⟩ := List.getElem?_eq_some_iff.mp found
    exact ((distinctValues lawful).idxOf_getElem tag.toNat inside).symm
  · intro same
    have inside : set.all.idxOf value < set.all.length :=
      List.idxOf_lt_length_of_mem (lawful.complete value)
    rw [ofTag?, same, List.getElem?_eq_getElem inside, List.getElem_idxOf]

theorem narrowIff {number : Nat} {tag : UInt8} :
    narrow? number = some tag ↔ number = tag.toNat := by
  unfold narrow?
  split
  · case isTrue few =>
      rw [Option.some.injEq, ← UInt8.toNat_inj, UInt8.toNat_ofNat_of_lt' few]
  · case isFalse many =>
      refine ⟨nofun, fun same => absurd tag.toNat_lt_size ?_⟩
      rwa [← same]

/-- A number stands for the value whose place it is. -/
theorem narrowedIff [DecidableEq Value] (lawful : set.Lawful) {number : Nat} :
    (narrow? number).bind set.ofTag? = some value ↔ number = set.all.idxOf value := by
  simp only [Option.bind_eq_some_iff, narrowIff, ofTagIff lawful]
  constructor
  · rintro ⟨tag, rfl, same⟩
    exact same
  · rintro rfl
    have inside : set.all.idxOf value < set.all.length :=
      List.idxOf_lt_length_of_mem (lawful.complete value)
    have small := UInt8.toNat_ofNat_of_lt' (lt_of_lt_of_le inside lawful.few)
    exact ⟨_, small.symm, small⟩

end Enumeration

theorem readEnumeratedIff [DecidableEq Value] (kind : Kind) (lawful : set.Lawful) {json : Json} :
    readEnumerated kind set json = .ok value ↔
      json = .string (set.name value) ∨ json = .integer (set.all.idxOf value) := by
  cases json with
  | string name =>
      have named : set.ofName? name = some value ↔ name = set.name value :=
        Enumeration.ofNameIff lawful
      cases found : set.ofName? name <;> simp_all [readEnumerated]
  | integer tag =>
      have tagged : (Enumeration.narrow? tag.toNat).bind set.ofTag? = some value ↔
          tag.toNat = set.all.idxOf value := Enumeration.narrowedIff lawful
      by_cases below : tag < 0
      · have apart : tag ≠ set.all.idxOf value := by omega
        simp [readEnumerated, below, apart]
      · have same : tag.toNat = set.all.idxOf value ↔ tag = set.all.idxOf value := by omega
        simp only [readEnumerated, if_neg below, Json.integer.injEq, reduceCtorEq, false_or,
          ← same, ← tagged]
        cases (Enumeration.narrow? tag.toNat).bind set.ofTag? <;> simp
  | _ => simp [readEnumerated]

/-- A number that is no value's place is told as it is, however large. -/
theorem readUnknownTag [DecidableEq Value] (kind : Kind) (lawful : set.Lawful) {number : Nat}
    (beyond : set.all.length ≤ number) : readEnumerated kind set (.integer number) =
      .error (.enumeration (.unknownTag kind number)) := by
  have none : (Enumeration.narrow? number).bind set.ofTag? = none := by
    refine Option.eq_none_iff_forall_ne_some.mpr fun value found => ?_
    have inside : set.all.idxOf value < set.all.length :=
      List.idxOf_lt_length_of_mem (lawful.complete value)
    rw [(Enumeration.narrowedIff lawful).mp found] at beyond
    omega
  have positive : ¬ (number : Int) < 0 := by omega
  rw [readEnumerated, if_neg positive, Int.toNat_natCast, none]
  rfl

/-- The names, the numbers, the places and the written forms of a set's values belong together. -/
structure Agree (kind : Kind) (set : Enumeration Value) [DecidableEq Value]
    (ordinal : Value → UInt8) (encoded : Value → String) : Prop where
  decodes : ∀ json value, readEnumerated kind set json = .ok value ↔
    json = .string (set.name value) ∨ json = .integer (ordinal value).toNat
  refuses : ∀ json, (∃ fault, readEnumerated kind set json = .error fault) ↔
    ∀ value, json ≠ .string (set.name value) ∧ json ≠ .integer (ordinal value).toNat
  ofName : ∀ name value, set.ofName? name = some value ↔ name = set.name value
  ofOctet : ∀ (octet : UInt8) value, set.ofTag? octet = some value ↔ octet = ordinal value
  narrows : ∀ (number : Nat) value, readEnumerated kind set (.integer number) = .ok value ↔
    number < UInt8.size ∧ set.ofTag? (.ofNat number) = some value
  tells : ∀ number : Nat, set.all.length ≤ number →
    readEnumerated kind set (.integer number) = .error (.enumeration (.unknownTag kind number))
  place : ∀ value, set.all.idxOf value = (ordinal value).toNat
  written : ∀ value, encoded value = set.name value
  capital : ∀ value, (set.name value).toList.all Char.isUpper = true

/-- It is enough that every value has its place for its number, and that the tables spell alike. -/
theorem agreeOf [DecidableEq Value] (kind : Kind) {ordinal : Value → UInt8}
    {encoded : Value → String} (lawful : set.Lawful)
    (place : ∀ value, set.all.idxOf value = (ordinal value).toNat)
    (written : ∀ value, encoded value = set.name value)
    (capital : ∀ value, (set.name value).toList.all Char.isUpper = true) :
    Agree kind set ordinal encoded := by
  have decodes (json : Json) (value : Value) : readEnumerated kind set json = .ok value ↔
      json = .string (set.name value) ∨ json = .integer (ordinal value).toNat := by
    rw [readEnumeratedIff kind lawful, place]
  have ofOctet (octet : UInt8) (value : Value) :
      set.ofTag? octet = some value ↔ octet = ordinal value := by
    rw [Enumeration.ofTagIff lawful, place, UInt8.toNat_inj]
  refine ⟨decodes, fun json => ?_, fun _ _ => Enumeration.ofNameIff lawful, ofOctet,
    fun number value => ?_, fun _ => readUnknownTag kind lawful, place, written, capital⟩
  · simp only [← not_or, ← decodes]
    cases readEnumerated kind set json <;> simp
  · have few := (ordinal value).toNat_lt_size
    rw [decodes, ofOctet]
    constructor
    · rintro (isName | isNumber)
      · exact nomatch isName
      · obtain rfl : number = (ordinal value).toNat := by
          simpa using isNumber
        exact ⟨few, UInt8.ofNat_toNat⟩
    · rintro ⟨small, same⟩
      rw [← same, UInt8.toNat_ofNat_of_lt' small]
      exact .inr rfl

theorem NodeStatus.agree :
    Agree .nodeStatus NodeStatus.set NodeStatus.ordinal NodeStatus.encoded :=
  agreeOf _ NodeStatus.setLawful (fun status => by cases status <;> rfl)
    (fun status => by cases status <;> decide) fun status => by cases status <;> decide

theorem InstanceState.agree :
    Agree .instanceState InstanceState.set InstanceState.ordinal InstanceState.encoded :=
  agreeOf _ InstanceState.setLawful (fun state => by cases state <;> rfl)
    (fun state => by cases state <;> decide) fun state => by cases state <;> decide

/-- A status and a state are each read from exactly their name and their number, whatever a value
holds, and nodes and instances are written with the names that they are read from. -/
theorem closedSetsAgree :
    Agree .nodeStatus NodeStatus.set NodeStatus.ordinal NodeStatus.encoded ∧
    Agree .instanceState InstanceState.set InstanceState.ordinal InstanceState.encoded ∧
    (∀ node : Node, node.toJson.get? "status" = some (.string node.status.encoded)) ∧
    ∀ inst : Instance, inst.toJson.get? "state" = some (.string inst.state.encoded) := by
  refine ⟨NodeStatus.agree, InstanceState.agree, fun node => ?_, fun inst => ?_⟩
  · obtain ⟨_, made, same⟩ := Json.objectOfMembers (Node.keysOfMembers node ▸ Node.distinctKeys)
    rw [Node.toJson, made, Json.get?, same, NodeStatus.agree.written]
    rfl
  · obtain ⟨_, made, same⟩ :=
      Json.objectOfMembers (Instance.distinctKeys.sublist (Instance.keysOfMembers inst))
    rw [Instance.toJson, made, Json.get?, same, InstanceState.agree.written]
    rfl

end FleetPanel.Fleet
