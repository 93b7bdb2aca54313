/-
This file holds closed sets of named values. The tag of a value is its place in the list of the set.
-/

namespace FleetPanel.Fleet

/-- A word in capitals, with an underscore before each capital that it had behind its first
letter. -/
def capitals (word : String) : String :=
  match word.toList with
  | [] => ""
  | first :: rest =>
      String.ofList (first.toUpper :: rest.flatMap fun letter =>
        if letter.isUpper then ['_', letter] else [letter.toUpper])

structure Enumeration (Value : Type) where
  all : List Value
  name : Value → String

namespace Enumeration

variable {Value : Type}

def names (set : Enumeration Value) : List String :=
  set.all.map set.name

def ofName? (set : Enumeration Value) (name : String) : Option Value :=
  set.all.find? fun value => set.name value == name

def ofTag? (set : Enumeration Value) (tag : UInt8) : Option Value :=
  set.all[tag.toNat]?

/-- The tag that a number is, if it is no larger than a tag can be. -/
def narrow? (number : Nat) : Option UInt8 :=
  if number < UInt8.size then some (.ofNat number) else none

/-- The list holds every value, no name is used twice, and there are no more values than tags. -/
structure Lawful (set : Enumeration Value) : Prop where
  complete : ∀ value, value ∈ set.all
  distinct : set.names.Nodup
  few : set.all.length ≤ UInt8.size

theorem nameOfName {set : Enumeration Value} {name : String} {value : Value}
    (found : set.ofName? name = some value) : set.name value = name := by
  simpa using List.find?_some found

theorem nameInjective {set : Enumeration Value} (lawful : set.Lawful) {first second : Value}
    (same : set.name first = set.name second) : first = second := by
  obtain ⟨all, name⟩ := set
  obtain ⟨complete, distinct, _⟩ := lawful
  have firstInside : first ∈ all := complete first
  have secondInside : second ∈ all := complete second
  change (all.map name).Nodup at distinct
  clear complete
  induction all <;> grind

theorem ofNameName {set : Enumeration Value} (lawful : set.Lawful) (value : Value) :
    set.ofName? (set.name value) = some value := by
  cases found : set.ofName? (set.name value) with
  | none => simpa using List.find?_eq_none.mp found value (lawful.complete value)
  | some other => rw [nameInjective lawful (nameOfName found)]

end Enumeration

end FleetPanel.Fleet
