/-
This file reads the fields of a record. Every field is read on its own, so that the faults of all of
them are known; the form of the record decides which fault is told.
-/

import FleetPanel.Fleet.Fault

namespace FleetPanel.Fleet

abbrev Decoded (Value : Type) := Except DecodeFault Value

def readText : Json → Decoded String
  | .string value => .ok value
  | other => .error (.wrongShape other .text)

def readTruth : Json → Decoded Bool
  | .boolean value => .ok value
  | other => .error (.wrongShape other .truth)

/-- A count is written as an integer of 32 bits. -/
def readCount : Json → Decoded UInt32
  | .integer value =>
      if 0 ≤ value ∧ value < UInt32.size then .ok (.ofNat value.toNat)
      else .error (.outOfRange value)
  | other => .error (.wrongShape other .count)

def readTimestamp : Json → Decoded Time.Instant
  | .string value => (Time.readRelaxed value.toList).mapError .timestamp
  | other => .error (.wrongShape other .timestamp)

/-- A value of a closed set is written as its name or its tag. A number that is too large for a tag
is told as it is. -/
def readEnumerated {Value : Type} (kind : Kind) (set : Enumeration Value) : Json → Decoded Value
  | .string name =>
      ((set.ofName? name).map .ok).getD (.error (.enumeration (.unknownName kind name)))
  | .integer tag =>
      if tag < 0 then .error .neitherNameNorTag
      else (((Enumeration.narrow? tag.toNat).bind set.ofTag?).map .ok).getD
        (.error (.enumeration (.unknownTag kind tag.toNat)))
  | _ => .error .neitherNameNorTag

/-- Null stands for no value. -/
def readNullable {Value : Type} (read : Json → Decoded Value) : Json → Decoded (Option Value)
  | .null => .ok none
  | value => (read value).map some

/-- A field without a value; no fault means that the field is missing. -/
structure Gap where
  key : String
  fault? : Option DecodeFault
deriving Repr

/-- A value, or the gaps that keep it from being formed, in the order of the fields. -/
inductive Checked (Value : Type) where
  | formed (value : Value)
  | broken (first : Gap) (rest : List Gap)

namespace Checked

variable {Value Part : Type}

/-- Supplies one more part of a value. -/
def apply : Checked (Part → Value) → Checked Part → Checked Value
  | formed form, formed part => formed (form part)
  | formed _, broken first rest => broken first rest
  | broken first rest, formed _ => broken first rest
  | broken first rest, broken next others => broken first (rest ++ next :: others)

/-- A field that has to be there. -/
def required (row : Row) (key : String) (read : Json → Decoded Part) : Checked Part :=
  match row key with
  | none => broken ⟨key, none⟩ []
  | some value =>
      match read value with
      | .ok part => formed part
      | .error fault => broken ⟨key, some fault⟩ []

/-- A field that may be missing or null, either of which stands for no value. -/
def optional (row : Row) (key : String) (read : Json → Decoded Part) : Checked (Option Part) :=
  match row key with
  | none => formed none
  | some value =>
      match readNullable read value with
      | .ok part => formed part
      | .error fault => broken ⟨key, some fault⟩ []

/-- An optional text, empty when there is none. -/
def optionalText (row : Row) (key : String) : Checked String :=
  (formed (·.getD "")).apply (optional row key readText)

end Checked

/-- The fault of the least key that has one. -/
def leastFault? (gaps : List Gap) : Option (String × DecodeFault) :=
  gaps.foldr (fun gap least? =>
    match gap.fault?, least? with
    | none, least? => least?
    | some fault, none => some (gap.key, fault)
    | some fault, some least =>
        if least.1 < gap.key then some least else some (gap.key, fault)) none

/-- In an object a bad value counts before a missing one, and of bad values the one with the least
key. -/
def keyedFault (first : Gap) (rest : List Gap) : DecodeFault :=
  match leastFault? (first :: rest) with
  | some (_, fault) => fault
  | none => .missingField first.key

/-- In an array the first gap counts, and a missing value tells how many there were. -/
def positionalFault (shape : Shape) (keys : List String) (first : Gap) : DecodeFault :=
  first.fault?.getD (.tooShort (keys.idxOf first.key) shape keys.length)

/-- Reads a record from an object by its keys or from an array in the order of the fields. -/
def readRecord {Value : Type} (shape : Shape) (keys : List String) (check : Row → Checked Value) :
    Json → Decoded Value
  | .object members =>
      match check (Json.member? members) with
      | .formed value => .ok value
      | .broken first rest => .error (keyedFault first rest)
  | .array items =>
      match check (Json.member? (keys.zip items)) with
      | .formed value =>
          if items.length ≤ keys.length then .ok value else .error (.tooLong items.length)
      | .broken first _ => .error (positionalFault shape keys first)
  | other => .error (.wrongShape other shape)

end FleetPanel.Fleet
