/-
This file holds JSON values. A number is an integer when it is written as one and fits 64 bits, and
a binary64 number otherwise. The members of an object are kept in the order of their keys, one for
each key.
-/

import FleetPanel.Binary64.Nearest

namespace FleetPanel

inductive Json where
  | null
  | boolean (value : Bool)
  | integer (value : Int)
  | float (value : Binary64)
  | string (value : String)
  | array (items : List Json)
  | object (members : List (String × Json))
deriving Repr, Inhabited

namespace Json

/-- Puts a member in its place; a member with the same key is replaced. -/
def insert (key : String) (value : Json) : List (String × Json) → List (String × Json)
  | [] => [(key, value)]
  | (other, kept) :: rest =>
      if key < other then (key, value) :: (other, kept) :: rest
      else if key = other then (key, value) :: rest
      else (other, kept) :: insert key value rest

/-- The object of some members; of two with one key the later one counts. -/
def ofMembers (members : List (String × Json)) : Json :=
  object (members.foldl (fun sorted member => insert member.1 member.2 sorted) [])

def member? (members : List (String × Json)) (key : String) : Option Json :=
  members.lookup key

/-- The member of a value under a key, if the value is an object that has one. -/
def get? (value : Json) (key : String) : Option Json :=
  match value with
  | object members => member? members key
  | _ => none

def string? : Json → Option String
  | string value => some value
  | _ => none

/-- The keys ascend, so no key stands twice. -/
def Sorted (members : List (String × Json)) : Prop :=
  members.Pairwise fun left right => left.1 < right.1

theorem memberInsertSame (key : String) (value : Json) (members : List (String × Json)) :
    member? (insert key value members) key = some value := by
  induction members with
  | nil => simp [insert, member?]
  | cons first rest inductionHypothesis =>
      obtain ⟨other, kept⟩ := first
      by_cases before : key < other
      · simp [insert, member?, before]
      · by_cases same : key = other
        · simp [insert, member?, same]
        · have apart : (key == other) = false := by simpa using same
          simpa [insert, before, same, member?, List.lookup_cons, apart] using inductionHypothesis

theorem memberInsertOther {key other : String} (value : Json) (members : List (String × Json))
    (apart : other ≠ key) :
    member? (insert key value members) other = member? members other := by
  have unequal : (other == key) = false := by simpa using apart
  induction members with
  | nil => simp [insert, member?, apart]
  | cons first rest inductionHypothesis =>
      obtain ⟨name, kept⟩ := first
      by_cases before : key < name
      · simp [insert, member?, before, List.lookup_cons, unequal]
      · by_cases same : key = name
        · subst same
          simp [insert, member?, List.lookup_cons, unequal]
        · simp only [member?] at inductionHypothesis
          simp only [insert, before, same, member?, List.lookup_cons, ↓reduceIte]
          rw [inductionHypothesis]

theorem memOfInsert {key : String} {value : Json} {members : List (String × Json)}
    {member : String × Json} (inside : member ∈ insert key value members) :
    member = (key, value) ∨ member ∈ members := by
  induction members with
  | nil => simpa [insert] using inside
  | cons first rest inductionHypothesis =>
      obtain ⟨other, kept⟩ := first
      grind [insert]

theorem sortedInsert (key : String) (value : Json) {members : List (String × Json)}
    (sorted : Sorted members) : Sorted (insert key value members) := by
  induction members with
  | nil => simp [insert, Sorted]
  | cons first rest inductionHypothesis =>
      obtain ⟨other, kept⟩ := first
      obtain ⟨above, sortedRest⟩ := List.pairwise_cons.mp sorted
      by_cases before : key < other
      · simp only [insert, before, ↓reduceIte]
        refine List.pairwise_cons.mpr ⟨?_, sorted⟩
        intro member inside
        rcases List.mem_cons.mp inside with rfl | inside
        · exact before
        · exact String.lt_trans before (above member inside)
      · by_cases same : key = other
        · subst same
          simp only [insert, before, ↓reduceIte]
          exact List.pairwise_cons.mpr ⟨above, sortedRest⟩
        · simp only [insert, before, same, ↓reduceIte]
          refine List.pairwise_cons.mpr ⟨?_, inductionHypothesis sortedRest⟩
          intro member inside
          rcases memOfInsert inside with rfl | inside
          · exact Std.lt_of_le_of_ne (String.not_lt.mp before) (Ne.symm same)
          · exact above member inside

theorem sortedOfMembers (members : List (String × Json)) :
    ∃ sorted, ofMembers members = object sorted ∧ Sorted sorted := by
  refine ⟨_, rfl, ?_⟩
  have inserted : ∀ start : List (String × Json), Sorted start →
      Sorted (members.foldl (fun sorted member => insert member.1 member.2 sorted) start) := by
    induction members with
    | nil => exact fun _ sorted => sorted
    | cons first rest inductionHypothesis =>
        exact fun start sorted => inductionHypothesis _ (sortedInsert first.1 first.2 sorted)
  exact inserted [] List.Pairwise.nil

end Json

/-- What a record holds under each key. -/
abbrev Row := String → Option Json

end FleetPanel
