/-
This file reads listings, JSON arrays of records. A record that cannot be used is set aside with a
reason, and the records around it are kept.
-/

import FleetPanel.Exports.File
import FleetPanel.Fleet.Instance
import FleetPanel.Json.Reader

namespace FleetPanel.Exports

open Fleet

/-- Why an element of a listing is no record. -/
inductive Reason where
  | undecodable (fault : DecodeFault)
  | violates (violation : Violation)
deriving Repr

def Reason.message : Reason → String
  | undecodable fault => fault.message
  | violates violation => violation.message

/-- An element that was set aside, with its place in the listing and the id that it gives itself. -/
structure Rejected where
  file : String
  index : Nat
  id? : Option String
  reason : Reason
deriving Repr

def Rejected.toJson (rejected : Rejected) : Json :=
  Json.ofMembers
    [("file", .string rejected.file),
      ("index", .integer rejected.index),
      ("id", (rejected.id?.map .string).getD .null),
      ("reason", .string rejected.reason.message)]

/-- How a kind of record is read and checked. -/
structure Format (Record : Type) where
  ofJson : Json → Decoded Record
  violation? : Record → Option Violation

namespace Format

def node : Format Node := ⟨Node.ofJson, Node.violation?⟩

def inst : Format Instance := ⟨Instance.ofJson, Instance.violation?⟩

variable {Record : Type}

/-- A record that can be read and keeps its promises. -/
def accept (format : Format Record) (element : Json) : Except Reason Record :=
  match format.ofJson element with
  | .error fault => .error (.undecodable fault)
  | .ok record =>
      match format.violation? record with
      | some violation => .error (.violates violation)
      | none => .ok record

end Format

structure Listing (Record : Type) where
  records : List Record
  rejected : List Rejected

namespace Listing

variable {Record : Type}

def empty : Listing Record := ⟨[], []⟩

/-- The id that an element gives itself. -/
def idOf? (element : Json) : Option String :=
  (element.get? "id").bind Json.string?

/-- The listing of some elements, the first of which stands at `index`. -/
def ofElements (format : Format Record) (file : String) (index : Nat) :
    List Json → Listing Record
  | [] => empty
  | element :: rest =>
      let others := ofElements format file (index + 1) rest
      match format.accept element with
      | .ok record => { others with records := record :: others.records }
      | .error reason =>
          { others with rejected := ⟨file, index, idOf? element, reason⟩ :: others.rejected }

end Listing

/-- Why a listing as a whole cannot be read. -/
inductive LoadFault where
  | unreadable (path : String) (fault : ReadFault)
  | notJson (path : String) (error : Json.SyntaxError)
  | notArray (path : String)
deriving DecidableEq, Repr

def LoadFault.message : LoadFault → String
  | unreadable path fault =>
      let reason := fault.message
      s!"Failed to read {path}: {reason}"
  | notJson path error =>
      let reason := error.message
      s!"Failed to parse {path}: {reason}"
  | notArray path => s!"Expected a JSON array of records in {path}"

/-- The listing in a file. -/
def Listing.read {Record : Type} (format : Format Record) (path : String) (entry : Entry) :
    Except LoadFault (Listing Record) := do
  let text ← entry.read.mapError (.unreadable path)
  match ← (Json.ofCharacters text).mapError (.notJson path) with
  | .array elements => return .ofElements format path 0 elements
  | _ => .error (.notArray path)

/-- The listing in a file, or an empty one if the file was not found. -/
def Listing.readFound {Record : Type} (format : Format Record) (path : String) (found : Bool)
    (entry : Entry) : Except LoadFault (Listing Record) :=
  if found then Listing.read format path entry else .ok .empty

/-- The listing at a path where nothing changes meanwhile. -/
def Listing.load {Record : Type} (format : Format Record) (path : String) (entry : Entry) :
    Except LoadFault (Listing Record) :=
  Listing.readFound format path entry.isPresent entry

end FleetPanel.Exports
