/-
This file shows that each element of a listing is decided on its own: a listing of two arrays one
after the other is the one listing after the other, and every element is a record or is set aside
with its place, its own id and its own reason.
-/

import FleetPanel.Exports.Snapshot
import Mathlib.Data.List.Basic

namespace FleetPanel.Exports

open Fleet

/-- A file that holds a JSON array of some elements. -/
def Entry.Holds (entry : Entry) (elements : List Json) : Prop :=
  ∃ text, entry.read = .ok text ∧ Json.ofCharacters text = .ok (.array elements)

/-- A rejected element whose place is counted from further in front. -/
def Rejected.moved (offset : Nat) (rejected : Rejected) : Rejected :=
  { rejected with index := rejected.index + offset }

namespace Format

variable {Record : Type} {format : Format Record} {element : Json}

/-- The record of an element, if it can be read and keeps its promises. -/
def record? (format : Format Record) (element : Json) : Option Record :=
  match format.ofJson element with
  | .ok record => if (format.violation? record).isNone then some record else none
  | .error _ => none

/-- An element is no record for this reason: it cannot be read, or what is read breaks a promise. -/
def Refuses (format : Format Record) (element : Json) (reason : String) : Prop :=
  (∃ fault, format.ofJson element = .error fault ∧ reason = fault.message) ∨
    ∃ record violation, format.ofJson element = .ok record ∧
      format.violation? record = some violation ∧ reason = violation.message

theorem acceptSpec (format : Format Record) (element : Json) :
    (∃ record, format.accept element = .ok record ∧ format.record? element = some record) ∨
      ∃ reason, format.accept element = .error reason ∧ format.record? element = none ∧
        format.Refuses element reason.message := by
  unfold accept record? Refuses
  cases format.ofJson element with
  | error fault => exact .inr ⟨_, rfl, rfl, .inl ⟨fault, rfl, rfl⟩⟩
  | ok record =>
      cases kept : format.violation? record with
      | none => exact .inl ⟨record, by simp [kept], by simp [kept]⟩
      | some violation =>
          exact .inr ⟨.violates violation, by simp [kept], by simp [kept],
            .inr ⟨record, violation, rfl, kept, rfl⟩⟩

end Format

namespace Listing

variable {Record : Type} {format : Format Record} {file : String} {elements : List Json}

theorem ofElementsMoved (format : Format Record) (file : String) (index offset : Nat)
    (elements : List Json) :
    ofElements format file (index + offset) elements =
      ⟨(ofElements format file index elements).records,
        (ofElements format file index elements).rejected.map (·.moved offset)⟩ := by
  induction elements generalizing index with
  | nil => rfl
  | cons element rest inductionHypothesis =>
      have others := inductionHypothesis (index + 1)
      rw [Nat.add_right_comm] at others
      simp only [ofElements, others]
      split <;> rfl

theorem ofElementsAppend (format : Format Record) (file : String) (index : Nat)
    (left right : List Json) :
    ofElements format file index (left ++ right) =
      ⟨(ofElements format file index left).records ++
          (ofElements format file (index + left.length) right).records,
        (ofElements format file index left).rejected ++
          (ofElements format file (index + left.length) right).rejected⟩ := by
  induction left generalizing index with
  | nil => rfl
  | cons element rest inductionHypothesis =>
      have others := inductionHypothesis (index + 1)
      rw [show index + 1 + rest.length = index + (element :: rest).length by simp; omega] at others
      simp only [List.cons_append, ofElements, others]
      split <;> rfl

/-- What a listing tells of the elements of a file. -/
structure Accounts (format : Format Record) (file : String) (elements : List Json)
    (listing : Listing Record) : Prop where
  records : listing.records = elements.filterMap format.record?
  count : listing.records.length + listing.rejected.length = elements.length
  ascending : listing.rejected.Pairwise fun left right => left.index < right.index
  named : ∀ index, (∃ rejected ∈ listing.rejected, rejected.index = index) ↔
    ∃ element, elements[index]? = some element ∧ format.record? element = none
  each : ∀ rejected ∈ listing.rejected, rejected.file = file ∧
    ∃ element, elements[rejected.index]? = some element ∧
      format.Refuses element rejected.reason.message ∧
      ∀ id, rejected.id? = some id ↔
        ∃ members, element = .object members ∧ Json.member? members "id" = some (.string id)

/-- The id that an element gives itself is the text under its key. -/
theorem idOfSpec (element : Json) (id : String) : idOf? element = some id ↔
    ∃ members, element = .object members ∧ Json.member? members "id" = some (.string id) := by
  cases element with
  | object members =>
      cases found : Json.member? members "id" with
      | none => simp [idOf?, Json.get?, found]
      | some value => cases value <;> simp [idOf?, Json.get?, found, Json.string?]
  | _ => simp [idOf?, Json.get?]

theorem accountsNil : Accounts format file [] empty where
  records := rfl
  count := rfl
  ascending := .nil
  named := by simp [empty]
  each := nofun

variable {listing : Listing Record} {element : Json}

/-- What the moved rejections say of the elements behind the first one. -/
theorem movedSpec (others : Accounts format file elements listing) (element : Json)
    {rejected : Rejected} (inside : rejected ∈ listing.rejected.map (·.moved 1)) :
    0 < rejected.index ∧ rejected.file = file ∧
      ∃ own, (element :: elements)[rejected.index]? = some own ∧
        format.Refuses own rejected.reason.message ∧
        ∀ id, rejected.id? = some id ↔
          ∃ members, own = .object members ∧ Json.member? members "id" = some (.string id) := by
  obtain ⟨before, listed, rfl⟩ := List.mem_map.mp inside
  exact ⟨Nat.succ_pos _, others.each before listed⟩

theorem movedNamed (others : Accounts format file elements listing) (index : Nat) :
    (∃ rejected ∈ listing.rejected.map (·.moved 1), rejected.index = index + 1) ↔
      ∃ element, elements[index]? = some element ∧ format.record? element = none := by
  rw [← others.named index]
  simp [Rejected.moved]

theorem movedAscending (others : Accounts format file elements listing) :
    (listing.rejected.map (·.moved 1)).Pairwise fun left right => left.index < right.index :=
  List.pairwise_map.mpr (others.ascending.imp Nat.succ_lt_succ)

theorem accountsOfRecord {record : Record} (others : Accounts format file elements listing)
    (kept : format.record? element = some record) :
    Accounts format file (element :: elements)
      ⟨record :: listing.records, listing.rejected.map (·.moved 1)⟩ where
  records := by rw [List.filterMap_cons_some kept, others.records]
  count := by simp [← others.count, Nat.add_right_comm]
  ascending := movedAscending others
  named := fun index => by
    cases index with
    | zero =>
        refine iff_of_false ?_ (by simp [kept])
        rintro ⟨rejected, inside, first⟩
        exact absurd first (Nat.ne_of_gt (movedSpec others element inside).1)
    | succ index => exact movedNamed others index
  each := fun _ inside => (movedSpec others element inside).2

theorem accountsOfRejected {reason : Reason} (others : Accounts format file elements listing)
    (none : format.record? element = none) (refused : format.Refuses element reason.message) :
    Accounts format file (element :: elements)
      ⟨listing.records, ⟨file, 0, idOf? element, reason⟩ :: listing.rejected.map (·.moved 1)⟩ where
  records := by rw [List.filterMap_cons_none none, others.records]
  count := by simp [← others.count, Nat.add_assoc]
  ascending := List.pairwise_cons.mpr
    ⟨fun _ inside => (movedSpec others element inside).1, movedAscending others⟩
  named := fun index => by
    cases index with
    | zero => exact iff_of_true ⟨_, List.mem_cons_self, rfl⟩ ⟨element, rfl, none⟩
    | succ index =>
        refine Iff.trans ?_ (movedNamed others index)
        simp
  each := fun rejected inside => by
    rcases List.mem_cons.mp inside with rfl | inside
    · exact ⟨rfl, element, rfl, refused, idOfSpec element⟩
    · exact (movedSpec others element inside).2

/-- The listing of some elements tells of each of them. -/
theorem accountsOfElements (format : Format Record) (file : String) (elements : List Json) :
    Accounts format file elements (ofElements format file 0 elements) := by
  induction elements with
  | nil => exact accountsNil
  | cons element rest others =>
      rw [ofElements, ofElementsMoved]
      rcases format.acceptSpec element with ⟨record, accepted, kept⟩ | ⟨reason, refused, none, why⟩
      · rw [accepted]
        exact accountsOfRecord others kept
      · rw [refused]
        exact accountsOfRejected others none why

/-- A file that holds an array is loaded as the listing of its elements. -/
theorem loadOfHolds {entry : Entry} (format : Format Record) (path : String)
    (holds : entry.Holds elements) :
    load format path entry = .ok (ofElements format path 0 elements) := by
  obtain ⟨text, isText, isArray⟩ := holds
  have found : entry.isPresent = true := by
    cases entry with
    | octets => rfl
    | _ => exact nomatch isText
  simp [load, readFound, found, read, isText, isArray, bind, Except.bind, Except.mapError, pure,
    Except.pure]

end Listing

theorem listingsOfSnapshot {path : String} {directory : Directory} {snapshot : Snapshot}
    (loads : Snapshot.load path directory = .ok snapshot) :
    ∃ nodes instances, loadNodes path directory.nodes = .ok nodes ∧
      loadInstances path directory.instances = .ok instances ∧
      snapshot = .ofListings nodes instances := by
  simp only [Snapshot.load, bind, Except.bind] at loads
  split at loads
  · simp at loads
  · case h_2 nodes nodesLoad =>
      split at loads
      · simp at loads
      · case h_2 instances instancesLoad =>
          exact ⟨nodes, instances, nodesLoad, instancesLoad, (Except.ok.inj loads).symm⟩

theorem loadFailsOfNodes {path : String} {files : Directory} {fault : LoadFault}
    (failed : loadNodes path files.nodes = .error fault) :
    Snapshot.load path files = .error fault := by
  rw [Snapshot.load, failed]
  rfl

theorem loadFailsOfInstances {path : String} {files : Directory} {nodes : Listing Node}
    {fault : LoadFault} (nodesLoad : loadNodes path files.nodes = .ok nodes)
    (failed : loadInstances path files.instances = .error fault) :
    Snapshot.load path files = .error fault := by
  rw [Snapshot.load, nodesLoad]
  simp only [bind, Except.bind, failed]

/-- Of two arrays one after the other the listings stand so too, the places of the second
counted from the end of the first; each element is accounted for once, on its own; and a snapshot
names the rejected nodes before the rejected instances. -/
theorem recordsStandAlone {Record : Type} (format : Format Record) (path : String)
    {left right whole : Entry} {before behind : List Json} (holdsLeft : left.Holds before)
    (holdsRight : right.Holds behind) (holdsWhole : whole.Holds (before ++ behind)) :
    (∃ first second both, Listing.load format path left = .ok first ∧
      Listing.load format path right = .ok second ∧ Listing.load format path whole = .ok both ∧
      both.records = first.records ++ second.records ∧
      both.rejected = first.rejected ++ second.rejected.map (·.moved before.length) ∧
      Listing.Accounts format path (before ++ behind) both) ∧
    ∀ directory snapshot, Snapshot.load path directory = .ok snapshot →
      ∃ nodes instances, loadNodes path directory.nodes = .ok nodes ∧
        loadInstances path directory.instances = .ok instances ∧
        snapshot.nodes = nodes.records ∧ snapshot.instances = instances.records ∧
        snapshot.rejected = nodes.rejected ++ instances.rejected := by
  constructor
  · refine ⟨_, _, _, Listing.loadOfHolds format path holdsLeft,
      Listing.loadOfHolds format path holdsRight, Listing.loadOfHolds format path holdsWhole,
      ?_, ?_, Listing.accountsOfElements format path _⟩ <;>
      rw [Listing.ofElementsAppend, Listing.ofElementsMoved]
  · intro directory snapshot loads
    obtain ⟨nodes, instances, nodesLoad, instancesLoad, rfl⟩ := listingsOfSnapshot loads
    exact ⟨nodes, instances, nodesLoad, instancesLoad, rfl, rfl, rfl⟩

/-- A row that a node can be read from. -/
def nodeRow : Json :=
  .array [.string "n", .string "n", .string "r", .integer 0, .boolean false, .integer 2, .integer 1,
    .string "2026-03-01T12:00:00Z", .string "1"]

def numberAndStub : List Json :=
  [.integer 5, .object [("id", .string "a")]]

def oneRowText : String :=
  "[[\"n\",\"n\",\"r\",0,false,2,1,\"2026-03-01T12:00:00Z\",\"1\"]]"

def numberAndStubText : String :=
  "[5, \x7b\"id\": \"a\"\x7d]"

def rowThenOthersText : String :=
  "[[\"n\",\"n\",\"r\",0,false,2,1,\"2026-03-01T12:00:00Z\",\"1\"], 5, \x7b\"id\": \"a\"\x7d]"

theorem oneRowHolds : (Entry.ofText oneRowText).Holds [nodeRow] :=
  ⟨oneRowText.toList, by decide +kernel, by
    rw [oneRowText, String.toList_ofList]
    rfl⟩

theorem numberAndStubHold : (Entry.ofText numberAndStubText).Holds numberAndStub :=
  ⟨numberAndStubText.toList, by decide +kernel, by
    rw [numberAndStubText, String.toList_ofList]
    rfl⟩

theorem rowThenOthersHold : (Entry.ofText rowThenOthersText).Holds ([nodeRow] ++ numberAndStub) :=
  ⟨rowThenOthersText.toList, by decide +kernel, by
    rw [rowThenOthersText, String.toList_ofList]
    rfl⟩

/-- A row of a node stands alone in front of two elements that are none, whose places move up. -/
theorem rowStandsAlone :
    ∃ first second both, loadNodes "d" (.ofText oneRowText) = .ok first ∧
      loadNodes "d" (.ofText numberAndStubText) = .ok second ∧
      loadNodes "d" (.ofText rowThenOthersText) = .ok both ∧
      both.records = first.records ++ second.records ∧
      both.rejected = first.rejected ++ second.rejected.map (·.moved 1) ∧
      Listing.Accounts .node (nodesPath "d") ([nodeRow] ++ numberAndStub) both :=
  (recordsStandAlone .node (nodesPath "d") oneRowHolds numberAndStubHold rowThenOthersHold).1

end FleetPanel.Exports
