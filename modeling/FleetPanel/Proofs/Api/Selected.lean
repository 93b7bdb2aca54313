/-
This file shows which instances a query selects: those that meet every wish of it. How the wishes
are spelled, how they are ordered and what stands between them does not matter.
-/

import FleetPanel.Proofs.Api.Served
import FleetPanel.Proofs.Fleet.Names
import FleetPanel.Proofs.Http.Form

namespace FleetPanel.Api

open Exports Fleet Http

/-- The keys that name a wish. -/
def wishKeys : List String := ["state", "region", "active"]

/-- No wish is given twice. -/
def Once (pairs : List (String × String)) : Prop :=
  ((pairs.map Prod.fst).filter (· ∈ wishKeys)).Nodup
deriving Decidable

/-- The pairs that ask for something. Not to ask for activity is to ask for nothing. -/
def wishes (pairs : List (String × String)) : List (String × String) :=
  pairs.filter fun pair => pair.1 ∈ wishKeys ∧ pair ≠ ("active", "false")

/-- A wish for activity that is neither true nor false. -/
def Misjudged (pair : String × String) : Prop :=
  pair.1 = "active" ∧ pair.2 ≠ "true" ∧ pair.2 ≠ "false"
deriving Decidable

/-- A wish for a state that there is not. -/
def Unknown (pair : String × String) : Prop :=
  pair.1 = "state" ∧ pair.2 ∉ InstanceState.set.names
deriving Decidable

/-- An instance meets a pair of a query. Only wishes ask for anything. -/
def Meets (inst : Instance) (pair : String × String) : Prop :=
  (pair.1 = "state" → inst.state.name = pair.2) ∧ (pair.1 = "region" → inst.region = pair.2) ∧
    (pair = ("active", "true") → inst.state ≠ .destroyed ∧ inst.state ≠ .failed)
deriving Decidable

/-- The answer to a query for instances, by its pairs. -/
def selected (pairs : List (String × String)) (snapshot : Snapshot) : Answer :=
  if ∃ pair ∈ pairs, Misjudged pair then .text 400 (QueryFault.notTruth "active").message
  else if ∃ pair ∈ pairs, Unknown pair then .plain 400
  else
    let instances := snapshot.instances.filter fun inst => ∀ pair ∈ pairs, Meets inst pair
    .json (.array (instances.map Instance.toJson))

variable {pairs others : List (String × String)} {filter : Filter}

/-- A filter holds the wishes of some pairs, each of which it could hold. -/
structure Collected (filter : Filter) (pairs : List (String × String)) : Prop where
  state : ∀ name, filter.state? = some name ↔ ("state", name) ∈ pairs
  region : ∀ region, filter.region? = some region ↔ ("region", region) ∈ pairs
  active : ∀ truth, filter.active? = some truth ↔ ("active", toString truth) ∈ pairs
  judged : ∀ pair ∈ pairs, ¬ Misjudged pair

theorem truthIff {value : String} {truth : Bool} :
    Filter.truth? value = some truth ↔ value = toString truth := by
  unfold Filter.truth?
  split <;> cases truth <;> simp_all [toString]

theorem untruthIff {value : String} :
    Filter.truth? value = none ↔ value ≠ "true" ∧ value ≠ "false" := by
  unfold Filter.truth?
  split <;> simp_all

theorem noneOfFresh {Value : Type} {part? : Option Value} {held : Value → Prop}
    (means : ∀ value, part? = some value ↔ held value) (fresh : ∀ value, ¬ held value) :
    part? = none :=
  Option.eq_none_iff_forall_ne_some.mpr fun value same => fresh value ((means value).mp same)

theorem judgedAppend {last : String × String} (judged : ∀ pair ∈ pairs, ¬ Misjudged pair)
    (lastJudged : ¬ Misjudged last) : ∀ pair ∈ pairs ++ [last], ¬ Misjudged pair :=
  List.forall_mem_append.mpr ⟨judged, List.forall_mem_singleton.mpr lastJudged⟩

/-- One pair more is collected, unless it asks for an activity that is no truth. -/
theorem collectedAdd (key value : String) (collected : Collected filter pairs)
    (fresh : key ∈ wishKeys → ∀ other, (key, other) ∉ pairs) :
    (Misjudged (key, value) ∧ filter.add key value = .error (.notTruth "active")) ∨
      ∃ next, filter.add key value = .ok next ∧ Collected next (pairs ++ [(key, value)]) := by
  unfold Filter.add
  split
  · have fresh := fresh (by decide)
    have none := noneOfFresh collected.state fresh
    refine .inr ⟨{ filter with state? := some value }, by simp [none], ?_⟩
    exact {
      state := fun name => by simp [fresh, eq_comm]
      region := by simpa using collected.region
      active := by simpa using collected.active
      judged := judgedAppend collected.judged (by simp [Misjudged]) }
  · have fresh := fresh (by decide)
    have none := noneOfFresh collected.region fresh
    refine .inr ⟨{ filter with region? := some value }, by simp [none], ?_⟩
    exact {
      state := by simpa using collected.state
      region := fun region => by simp [fresh, eq_comm]
      active := by simpa using collected.active
      judged := judgedAppend collected.judged (by simp [Misjudged]) }
  · have fresh := fresh (by decide)
    have none := noneOfFresh collected.active fun truth => fresh (toString truth)
    cases judged : Filter.truth? value with
    | none => exact .inl ⟨⟨rfl, untruthIff.mp judged⟩, by simp [none]⟩
    | some truth =>
        have means := truthIff.mp judged
        refine .inr ⟨{ filter with active? := some truth }, by simp [none], ?_⟩
        exact {
          state := by simpa using collected.state
          region := by simpa using collected.region
          active := fun other => by
            have same : Filter.truth? value = some other ↔ value = toString other := truthIff
            simp_all [eq_comm]
          judged := judgedAppend collected.judged fun misjudged => by
            have untruth := untruthIff.mpr misjudged.2
            simp [judged] at untruth }
  · case h_4 notState notRegion notActive =>
    refine .inr ⟨filter, rfl, ?_⟩
    exact {
      state := by simpa [Ne.symm notState] using collected.state
      region := by simpa [Ne.symm notRegion] using collected.region
      active := by simpa [Ne.symm notActive] using collected.active
      judged := judgedAppend collected.judged fun misjudged => notActive misjudged.1 }

/-- The pairs of a query are all collected, unless one asks for an activity that is no truth. -/
theorem ofPairsSpec (once : Once pairs) :
    ((∃ pair ∈ pairs, Misjudged pair) ∧
      Filter.ofPairs pairs = .error (.notTruth "active")) ∨
    ∃ filter, Filter.ofPairs pairs = .ok filter ∧ Collected filter pairs := by
  induction pairs using List.reverseRecOn with
  | nil => exact .inr ⟨.empty, rfl, by constructor <;> simp [Filter.empty]⟩
  | append_singleton before last inductionHypothesis =>
      have added : Filter.ofPairs (before ++ [last]) =
          Filter.ofPairs before >>= fun filter => filter.add last.1 last.2 := by
        simp [Filter.ofPairs, List.foldlM_append]
      simp only [Once, List.map_append, List.filter_append] at once
      obtain ⟨onceBefore, -, apart⟩ := List.nodup_append.mp once
      rcases inductionHypothesis onceBefore with ⟨⟨pair, inside, misjudged⟩, fault⟩ |
        ⟨filter, made, collected⟩
      · refine .inl ⟨⟨pair, List.mem_append_left _ inside, misjudged⟩, ?_⟩
        rw [added, fault]
        rfl
      · have fresh : last.1 ∈ wishKeys → ∀ other, (last.1, other) ∉ before := by
          intro isWish other inside
          have earlier : last.1 ∈ before.map Prod.fst := List.mem_map.mpr ⟨_, inside, rfl⟩
          exact apart last.1 (List.mem_filter.mpr ⟨earlier, by simpa using isWish⟩) last.1
            (by simp [isWish]) rfl
        rw [added, made]
        rcases collectedAdd last.1 last.2 collected fresh with ⟨misjudged, fault⟩ |
          ⟨next, made, collected⟩
        · exact .inl ⟨⟨last, by simp, misjudged⟩, fault⟩
        · exact .inr ⟨next, made, collected⟩

theorem meetsAllIff {inst : Instance} : (∀ pair ∈ pairs, Meets inst pair) ↔
    (∀ name, ("state", name) ∈ pairs → inst.state.name = name) ∧
      (∀ region, ("region", region) ∈ pairs → inst.region = region) ∧
      (("active", "true") ∈ pairs → inst.state ≠ .destroyed ∧ inst.state ≠ .failed) := by
  constructor
  · intro meets
    exact ⟨fun name inside => (meets _ inside).1 rfl, fun region inside => (meets _ inside).2.1 rfl,
      fun inside => (meets _ inside).2.2 rfl⟩
  · rintro ⟨state, region, active⟩ ⟨key, value⟩ inside
    refine ⟨?_, ?_, ?_⟩
    · rintro rfl
      exact state value inside
    · rintro rfl
      exact region value inside
    · intro same
      exact active (same ▸ inside)

theorem acceptsIff {selection : Selection} {inst : Instance} : selection.accepts inst = true ↔
    (∀ state, selection.state? = some state → inst.state = state) ∧
      (∀ region, selection.region? = some region → inst.region = region) ∧
      (selection.onlyActive = true → inst.state ≠ .destroyed ∧ inst.state ≠ .failed) := by
  have active : (!selection.onlyActive || inst.isActive) = true ↔
      (selection.onlyActive = true → inst.state ≠ .destroyed ∧ inst.state ≠ .failed) := by
    cases selection.onlyActive <;> simp [Instance.isActive, InstanceState.isTerminal]
  simp only [Selection.accepts, Bool.and_eq_true, Option.all_eq_true, beq_iff_eq, active, and_assoc]

theorem unnamedIff {name : String} :
    InstanceState.set.ofName? name = none ↔ name ∉ InstanceState.set.names := by
  simp [Enumeration.ofName?, Enumeration.names]

/-- An instance is accepted if it meets all that was collected. -/
theorem acceptsCollected (collected : Collected filter pairs) (state? : Option InstanceState)
    (named : filter.state? = state?.map InstanceState.name) (inst : Instance) :
    (Selection.mk state? filter.region? (filter.active?.getD false)).accepts inst = true ↔
      ∀ pair ∈ pairs, Meets inst pair := by
  have active : filter.active?.getD false = true ↔ ("active", "true") ∈ pairs := by
    have given : filter.active? = some true ↔ ("active", "true") ∈ pairs := collected.active true
    rw [← given]
    cases filter.active? <;> simp
  rw [acceptsIff, meetsAllIff]
  refine and_congr ?_ (and_congr ?_ ?_)
  · simp only [← collected.state, named, Option.map_eq_some_iff]
    constructor
    · rintro same _ ⟨state, held, rfl⟩
      exact congrArg InstanceState.name (same state held)
    · intro same state held
      exact Enumeration.nameInjective InstanceState.setLawful (same _ ⟨state, held, rfl⟩)
  · simp only [collected.region]
  · simp only [active]

/-- A filter selects what meets all of its pairs, unless one of them names no state. -/
theorem selectionSpec (collected : Collected filter pairs) :
    ((∃ pair ∈ pairs, Unknown pair) ∧ Selection.ofFilter? filter = none) ∨
    (¬ ∃ pair ∈ pairs, Unknown pair) ∧ ∃ selection, Selection.ofFilter? filter = some selection ∧
      ∀ inst, selection.accepts inst = true ↔ ∀ pair ∈ pairs, Meets inst pair := by
  have held {pair : String × String} (inside : pair ∈ pairs) (unknown : Unknown pair) :
      filter.state? = some pair.2 := (collected.state pair.2).mpr (unknown.1 ▸ inside)
  cases wanted : filter.state? with
  | none =>
      refine .inr ⟨?_, ⟨none, filter.region?, filter.active?.getD false⟩,
        by simp [Selection.ofFilter?, wanted], acceptsCollected collected none wanted⟩
      rintro ⟨pair, inside, unknown⟩
      cases wanted.symm.trans (held inside unknown)
  | some name =>
      have given := (collected.state name).mp wanted
      cases found : InstanceState.set.ofName? name with
      | none =>
          refine .inl ⟨⟨_, given, rfl, unnamedIff.mp found⟩, ?_⟩
          simp [Selection.ofFilter?, wanted, found]
      | some state =>
          have same : name = state.name :=
            (Enumeration.ofNameIff InstanceState.setLawful).mp found
          refine .inr ⟨?_, ⟨some state, filter.region?, filter.active?.getD false⟩,
            by simp [Selection.ofFilter?, wanted, found],
            acceptsCollected collected (some state) (wanted.trans (congrArg some same))⟩
          rintro ⟨pair, inside, unknown⟩
          cases wanted.symm.trans (held inside unknown)
          cases found.symm.trans (unnamedIff.mpr unknown.2)

variable (context : Context) (site? : Option Site) (snapshot : Snapshot)

/-- What is fetched depends on the pairs of the query alone. -/
theorem fetchedSelected {query : List Char} (once : Once (formPairs query)) :
    fetched context site? "/api/instances" query snapshot =
      selected (formPairs query) snapshot := by
  rw [fetchedOfQuery, instances, selected]
  rcases ofPairsSpec once with ⟨misjudged, fault⟩ | ⟨filter, made, collected⟩
  · rw [fault, if_pos misjudged]
    rfl
  · have judged : ¬ ∃ pair ∈ formPairs query, Misjudged pair := by
      rintro ⟨pair, inside, misjudged⟩
      exact collected.judged pair inside misjudged
    rw [made, if_neg judged]
    rcases selectionSpec collected with ⟨unknown, none⟩ | ⟨known, selection, found, accepts⟩
    · simp only [none, if_pos unknown]
      rfl
    · have alike : selection.accepts =
          fun inst => decide (∀ pair ∈ formPairs query, Meets inst pair) := by
        funext inst
        rw [Bool.eq_iff_iff, accepts, decide_eq_true_iff]
      simp only [found, if_neg known, ← alike]
      rfl

/-- A property of nothing but pairs that ask for something. -/
def OfWishes (property : String × String → Prop) : Prop :=
  ∀ pair, property pair → pair.1 ∈ wishKeys ∧ pair ≠ ("active", "false")

/-- What asks for nothing can be left out. -/
theorem existsWish {property : String × String → Prop} (ofWishes : OfWishes property) :
    (∃ pair ∈ pairs, property pair) ↔ ∃ pair ∈ wishes pairs, property pair := by
  constructor
  · rintro ⟨pair, inside, has⟩
    exact ⟨pair, List.mem_filter.mpr ⟨inside, by simpa using ofWishes pair has⟩, has⟩
  · rintro ⟨pair, inside, has⟩
    exact ⟨pair, (List.mem_filter.mp inside).1, has⟩

theorem existsOfSame {property : String × String → Prop} (ofWishes : OfWishes property)
    (same : (wishes pairs).Perm (wishes others)) :
    (∃ pair ∈ pairs, property pair) ↔ ∃ pair ∈ others, property pair := by
  refine (existsWish ofWishes).trans (Iff.trans ?_ (existsWish ofWishes).symm)
  simp only [same.mem_iff]

theorem misjudgedOfWishes : OfWishes Misjudged := by
  rintro ⟨_, value⟩ ⟨rfl, -, notFalse⟩
  exact ⟨by simp [wishKeys], by simpa using notFalse⟩

theorem unknownOfWishes : OfWishes Unknown := by
  rintro ⟨_, value⟩ ⟨rfl, -⟩
  exact ⟨by simp [wishKeys], by simp⟩

theorem unmetOfWishes (inst : Instance) : OfWishes fun pair => ¬ Meets inst pair := by
  rintro ⟨key, value⟩ unmet
  refine ⟨?_, ?_⟩
  · by_contra outside
    simp only [wishKeys, List.mem_cons, List.not_mem_nil, or_false, not_or] at outside
    obtain ⟨notState, notRegion, notActive⟩ := outside
    exact unmet ⟨fun same => absurd same notState, fun same => absurd same notRegion,
      fun same => absurd (congrArg Prod.fst same) notActive⟩
  · rintro ⟨⟩
    exact unmet (by simp [Meets])

theorem selectedOfSame (same : (wishes pairs).Perm (wishes others)) :
    selected pairs snapshot = selected others snapshot := by
  have meets (inst : Instance) :
      (∀ pair ∈ pairs, Meets inst pair) ↔ ∀ pair ∈ others, Meets inst pair := by
    have unmet := existsOfSame (unmetOfWishes inst) same
    simpa only [not_exists, not_and, not_not] using not_congr unmet
  simp only [selected, existsOfSame misjudgedOfWishes same, existsOfSame unknownOfWishes same, meets]

/-- A query is answered by its wishes. If one asks for an activity that is no truth or for a state
that there is not, it is a bad request. Otherwise the instances that meet all of them are listed, in
the order of the snapshot. Queries with the same wishes are answered alike, and a query has the
wishes that it spells. -/
theorem queriesAreConjunctions :
    (∀ query, Once (formPairs query) →
      ((fetched context site? "/api/instances" query snapshot).status = 400 ↔
        ∃ pair ∈ formPairs query, Misjudged pair ∨ Unknown pair) ∧
      ((∀ pair ∈ formPairs query, ¬ Misjudged pair ∧ ¬ Unknown pair) →
        fetched context site? "/api/instances" query snapshot =
          .json (.array ((snapshot.instances.filter fun inst =>
            ∀ pair ∈ formPairs query, Meets inst pair).map Instance.toJson)))) ∧
    (∀ query other, Once (formPairs query) → Once (formPairs other) →
      (wishes (formPairs query)).Perm (wishes (formPairs other)) →
        fetched context site? "/api/instances" query snapshot =
          fetched context site? "/api/instances" other snapshot) ∧
    ∀ query pairs, SpelledQuery query pairs → formPairs query = pairs := by
  refine ⟨fun query once => ?_, fun query other onceQuery onceOther same => ?_,
    fun query pairs spelled => formPairsSpelled spelled⟩
  · rw [fetchedSelected context site? snapshot once, selected]
    split_ifs with misjudged unknown
    · obtain ⟨pair, inside, misjudged⟩ := misjudged
      exact ⟨iff_of_true rfl ⟨pair, inside, .inl misjudged⟩,
        fun good => absurd misjudged (good pair inside).1⟩
    · obtain ⟨pair, inside, unknown⟩ := unknown
      exact ⟨iff_of_true rfl ⟨pair, inside, .inr unknown⟩,
        fun good => absurd unknown (good pair inside).2⟩
    · refine ⟨iff_of_false (by decide : (200 : Nat) ≠ 400) ?_, fun _ => rfl⟩
      rintro ⟨pair, inside, misjudgedOne | unknownOne⟩
      · exact misjudged ⟨pair, inside, misjudgedOne⟩
      · exact unknown ⟨pair, inside, unknownOne⟩
  · rw [fetchedSelected context site? snapshot onceQuery,
      fetchedSelected context site? snapshot onceOther, selectedOfSame snapshot same]

def noon : Time.Instant :=
  ⟨⟨2026, 5, 17, by decide⟩, .ofNumbers 12 0 0 0⟩

/-- An instance in a region whose name has a space and a letter outside ASCII. -/
def regionalInstance (state : InstanceState) : Instance :=
  let node : Node := ⟨"n", "n", "r", .online, false, 2, 1, noon, "1", "", ""⟩
  ⟨"i", "i", "i", state, "u", node, "ü 1", "", false, "", "", noon, noon, none, none, none⟩

/-- The region is found by its escaped name, among other keys, and alike when the wishes change
places. -/
theorem regionSelected :
    let snapshot : Snapshot := ⟨[], [regionalInstance .running, regionalInstance .failed], []⟩
    let context := Context.still noon 60
    let query := "state=RUNNING&region=%C3%BC+1&x".toList
    let other := "region=ü%201&active=false&state=RUNNING".toList
    formPairs query = [("state", "RUNNING"), ("region", "ü 1"), ("x", "")] ∧
      fetched context none "/api/instances" query snapshot =
        .json (.array [(regionalInstance .running).toJson]) ∧
      fetched context none "/api/instances" query snapshot =
        fetched context none "/api/instances" other snapshot := by
  intro snapshot context query other
  obtain ⟨conjunction, independent, spelling⟩ := queriesAreConjunctions context none snapshot
  have umlaut : Spelled "%C3%BC+1".toList "ü 1".toList := by
    have octets : String.utf8EncodeChar 'ü' =
        [.ofNat (16 * 12 + 3), .ofNat (16 * 11 + 12)] := by decide
    have escaped : Escaped "%C3%BC".toList (String.utf8EncodeChar 'ü') :=
      octets ▸ .cons rfl rfl (.cons rfl rfl .nil)
    exact .escapes escaped (.plus (spelledItself (by decide)))
  have pairs : formPairs query = [("state", "RUNNING"), ("region", "ü 1"), ("x", "")] := by
    have state : SpelledPair ("state".toList ++ '=' :: "RUNNING".toList) ("state", "RUNNING") :=
      .valued (by decide) (spelledItself (by decide)) (spelledItself (by decide))
    have region : SpelledPair ("region".toList ++ '=' :: "%C3%BC+1".toList) ("region", "ü 1") :=
      .valued (by decide) (spelledItself (by decide)) umlaut
    have key : SpelledPair "x".toList ("x", "") :=
      .bare (by decide) (by decide) (spelledItself (by decide))
    exact spelling query _ ⟨_, .cons state (.cons region (.cons key .nil)), by decide⟩
  have once : Once (formPairs query) := by
    rw [pairs]
    decide
  refine ⟨pairs, ?_, ?_⟩
  · have answered := (conjunction query once).2
    rw [pairs] at answered
    rw [answered (by decide)]
    rfl
  · have otherPairs : formPairs other =
        [("region", "ü 1"), ("active", "false"), ("state", "RUNNING")] := by decide +kernel
    refine independent query other once ?_ ?_
    · rw [otherPairs]
      decide
    · rw [pairs, otherPairs]
      decide

end FleetPanel.Api
