/-
This file writes the resources of the panel as paths and shows that a path names the resource that
it is the path of. Every other path names none.
-/

import FleetPanel.Http.Route
import FleetPanel.Proofs.Http.Form

namespace FleetPanel.Http

/-- The path of some parts: a slash stands before each of them. -/
def pathOf (parts : List (List Char)) : List Char :=
  parts.flatMap ('/' :: ·)

namespace Route

/-- The parts of a resource's path. -/
def parts : Route → List (List Char)
  | health => ["api".toList, "health".toList]
  | nodes => ["api".toList, "nodes".toList]
  | node id => ["api".toList, "nodes".toList, id]
  | nodeInstances id => ["api".toList, "nodes".toList, id, "instances".toList]
  | instances => ["api".toList, "instances".toList]
  | instance_ id => ["api".toList, "instances".toList, id]
  | instanceTable => ["api".toList, "tables".toList, "instances".toList]
  | nodeTable => ["api".toList, "tables".toList, "nodes".toList]
  | rejected => ["api".toList, "rejected".toList]
  | socket => ["ws".toList]

/-- A resource is at a path if the path has its parts, none of which is empty or holds a slash. -/
structure IsAt (route : Route) (path : List Char) : Prop where
  written : path = pathOf route.parts
  filled : ∀ part ∈ route.parts, part ≠ []
  single : ∀ part ∈ route.parts, '/' ∉ part

end Route

/-- A path at which there is a resource of the panel. -/
def IsResource (path : List Char) : Prop :=
  ∃ route : Route, route.IsAt path

variable {mark : Char} {path : List Char} {parts : List (List Char)} {words : List String}
  {route : Route}

/-- The parts between the marks, each behind a mark, make up the text behind a mark. -/
theorem joinSplitOn (mark : Char) (text : List Char) :
    (splitOn mark text).flatMap (mark :: ·) = mark :: text := by
  induction text with
  | nil => rfl
  | cons first others inductionHypothesis =>
      by_cases same : first = mark
      · subst same
        simp [splitOn, inductionHypothesis]
      · have apart : (first == mark) = false := by simpa using same
        cases split : splitOn mark others with
        | nil => exact absurd split (splitOnNotNil mark others)
        | cons part rest =>
            rw [split, List.flatMap_cons, List.cons_append] at inductionHypothesis
            have behind := List.tail_eq_of_cons_eq inductionHypothesis
            simp [splitOn, apart, split, behind]

theorem intercalateCons (mark : Char) (part : List Char) (parts : List (List Char)) :
    [mark].intercalate (part :: parts) = part ++ parts.flatMap (mark :: ·) := by
  induction parts generalizing part with
  | nil => simp [List.intercalate]
  | cons next rest inductionHypothesis =>
      rw [List.intercalate_cons_cons, inductionHypothesis]
      simp

namespace Route

/-- The words of a path are the parts of which it is made. -/
theorem wordsIff : words? path = some words ↔
    words ≠ [] ∧ (∀ word ∈ words, '/' ∉ word.toList) ∧
      path = pathOf (words.map String.toList) := by
  constructor
  · intro found
    cases path with
    | nil => cases found
    | cons first rest =>
        obtain ⟨rfl, rfl⟩ : first = '/' ∧ (splitOn '/' rest).map String.ofList = words := by
          unfold words? at found
          split at found
          · case h_1 same =>
            obtain ⟨rfl, rfl⟩ := List.cons.inj same
            exact ⟨rfl, Option.some.inj found⟩
          · cases found
        refine ⟨by simpa using splitOnNotNil '/' rest, ?_, ?_⟩
        · intro word inside
          obtain ⟨part, split, rfl⟩ := List.mem_map.mp inside
          simpa using notMemSplitOn split
        · have same : String.toList ∘ String.ofList = id := funext fun part => String.toList_ofList
          rw [List.map_map, same, List.map_id, pathOf, joinSplitOn]
  · rintro ⟨filled, single, rfl⟩
    cases words with
    | nil => exact absurd rfl filled
    | cons word others =>
        have parts : ∀ part ∈ word.toList :: others.map String.toList, '/' ∉ part := by
          intro part inside
          rw [← List.map_cons] at inside
          obtain ⟨other, held, rfl⟩ := List.mem_map.mp inside
          exact single other held
        have same : String.ofList ∘ String.toList = id := funext fun text => String.ofList_toList
        rw [List.map_cons, pathOf, List.flatMap_cons, List.cons_append, words?, ← intercalateCons,
          splitOnIntercalate (List.cons_ne_nil _ _) parts, ← List.map_cons, List.map_map, same,
          List.map_id]

/-- An id that is not empty names a resource. -/
theorem ofIdIff {id : String} {resource : List Char → Route} :
    (if id.isEmpty then none else some (resource id.toList)) = some route ↔
      id.toList ≠ [] ∧ resource id.toList = route := by
  by_cases empty : id = "" <;> simp [empty, String.isEmpty_iff]

/-- The words of a resource are the parts of its path, none of which is empty. -/
theorem ofWordsIff : ofWords? words = some route ↔
    (∀ part ∈ route.parts, part ≠ []) ∧ words = route.parts.map String.ofList := by
  constructor
  · intro found
    unfold ofWords? at found
    split at found
    case h_3 id | h_4 id | h_6 id =>
      obtain ⟨filled, rfl⟩ := ofIdIff.mp found
      simp [parts, filled]
    case h_11 => cases found
    all_goals
      cases found
      exact ⟨by decide, by decide⟩
  · rintro ⟨filled, rfl⟩
    cases route <;> simp_all [parts, ofWords?]

/-- A path names the resource that is at it. -/
theorem ofPathIff : ofPath? path = some route ↔ route.IsAt path := by
  have textsOf (parts : List (List Char)) :
      (parts.map String.ofList).map String.toList = parts := by
    simp [Function.comp_def]
  rw [ofPath?, Option.bind_eq_some_iff]
  constructor
  · rintro ⟨words, found, named⟩
    obtain ⟨filled, rfl⟩ := ofWordsIff.mp named
    obtain ⟨-, single, written⟩ := wordsIff.mp found
    rw [textsOf] at written
    refine ⟨written, filled, fun part inside => ?_⟩
    have noSlash := single _ (List.mem_map_of_mem inside)
    rwa [String.toList_ofList] at noSlash
  · rintro ⟨rfl, filled, single⟩
    refine ⟨route.parts.map String.ofList, wordsIff.mpr ⟨?_, ?_, by rw [textsOf]⟩,
      ofWordsIff.mpr ⟨filled, rfl⟩⟩
    · cases route <;> simp [parts]
    · intro word inside
      obtain ⟨part, held, rfl⟩ := List.mem_map.mp inside
      rw [String.toList_ofList]
      exact single part held

theorem ofPathNone : ofPath? path = none ↔ ¬ IsResource path := by
  rw [Option.eq_none_iff_forall_ne_some, IsResource, not_exists]
  exact forall_congr' fun route => not_congr ofPathIff

end Route

end FleetPanel.Http
