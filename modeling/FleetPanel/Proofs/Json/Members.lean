/-
This file looks up the members of an object that was made of members with distinct keys.
-/

import FleetPanel.Json.Basic
import Mathlib.Data.List.Nodup

namespace FleetPanel.Json

variable {members start : List (String × Json)} {key : String} {value : Json}

theorem memberNone (outside : key ∉ members.map Prod.fst) : member? members key = none := by
  refine List.lookup_eq_none_iff.mpr fun member inside => ?_
  have apart : key ≠ member.1 := fun same => outside (same ▸ List.mem_map_of_mem inside)
  simpa using apart

/-- Members with distinct keys are all found, before what was there. -/
theorem memberOfInserted (distinct : (members.map Prod.fst).Nodup) (key : String) :
    member? (members.foldl (fun sorted member => insert member.1 member.2 sorted) start) key =
      (member? members key).or (member? start key) := by
  induction members generalizing start with
  | nil => rfl
  | cons first rest inductionHypothesis =>
      obtain ⟨name, value⟩ := first
      obtain ⟨outside, restDistinct⟩ := List.nodup_cons.mp distinct
      rw [List.foldl_cons, inductionHypothesis restDistinct]
      by_cases same : key = name
      · subst same
        rw [memberInsertSame, memberNone outside]
        simp [member?]
      · have apart : (key == name) = false := by simpa using same
        rw [memberInsertOther value start same]
        simp [member?, List.lookup_cons, apart]

/-- An object holds what each of its distinct keys was given. -/
theorem objectOfMembers (distinct : (members.map Prod.fst).Nodup) :
    ∃ sorted, ofMembers members = object sorted ∧ member? sorted = member? members := by
  refine ⟨_, rfl, funext fun key => ?_⟩
  rw [memberOfInserted distinct]
  simp [member?]

theorem getOfMembers (distinct : (members.map Prod.fst).Nodup) (key : String) :
    (ofMembers members).get? key = member? members key := by
  obtain ⟨sorted, made, same⟩ := objectOfMembers distinct
  rw [made, get?, same]

/-- Where keys and items stand side by side, each key holds the item of its place. -/
theorem memberOfZip (keys : List String) (items : List Json) (key : String) :
    member? (keys.zip items) key = if key ∈ keys then items[keys.idxOf key]? else none := by
  induction keys generalizing items with
  | nil => rfl
  | cons first others inductionHypothesis =>
      cases items with
      | nil => simp [member?]
      | cons item rest =>
          by_cases same : key = first
          · subst same
            simp [member?]
          · have apart : (key == first) = false := by simpa using same
            have other := inductionHypothesis rest
            simp only [member?] at other
            simp [member?, List.lookup_cons, apart, other, same, Ne.symm same]

theorem keysOfZip (keys : List String) (items : List Json) :
    ((keys.zip items).map Prod.fst).Sublist keys := by
  induction keys generalizing items with
  | nil => exact .slnil
  | cons first others inductionHypothesis =>
      cases items with
      | nil => simp
      | cons item rest => simpa using inductionHypothesis rest

theorem insertBehind (value : Json) (before : ∀ member ∈ members, member.1 < key) :
    insert key value members = members ++ [(key, value)] := by
  induction members with
  | nil => rfl
  | cons first rest inductionHypothesis =>
      obtain ⟨other, kept⟩ := first
      obtain ⟨below, others⟩ := List.forall_mem_cons.mp before
      have notBefore : ¬ key < other := String.not_lt.mpr (Std.le_of_lt below)
      have apart : key ≠ other := (Std.ne_of_lt below).symm
      rw [insert, if_neg notBefore, if_neg apart, inductionHypothesis others]
      rfl

/-- Members in the order of their keys stay as they are. -/
theorem ofMembersSorted (sorted : Sorted members) : ofMembers members = object members := by
  have behind : ∀ start : List (String × Json), Sorted (start ++ members) →
      members.foldl (fun sorted member => insert member.1 member.2 sorted) start =
        start ++ members := by
    clear sorted
    induction members with
    | nil => exact fun start _ => (List.append_nil start).symm
    | cons first rest inductionHypothesis =>
        intro start sorted
        have before : ∀ member ∈ start, member.1 < first.1 := fun member inside =>
          (List.pairwise_append.mp sorted).2.2 member inside first List.mem_cons_self
        rw [List.foldl_cons, insertBehind first.2 before, inductionHypothesis]
        · simp
        · simpa using sorted
  rw [ofMembers, behind [] sorted]
  rfl

theorem memOfInserted {member : String × Json}
    (inside : member ∈ members.foldl (fun sorted member => insert member.1 member.2 sorted) start) :
    member ∈ members ∨ member ∈ start := by
  induction members generalizing start with
  | nil => exact .inr inside
  | cons first rest inductionHypothesis =>
      rcases inductionHypothesis inside with later | earlier
      · exact .inl (List.mem_cons_of_mem first later)
      · rcases memOfInsert earlier with rfl | before
        · exact .inl List.mem_cons_self
        · exact .inr before

end FleetPanel.Json
