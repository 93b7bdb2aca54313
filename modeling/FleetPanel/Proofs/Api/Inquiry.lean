/-
This file answers a request while the panel takes its steps, and says exactly when no one snapshot
explains the answer: when the two looks for the instances of a node fall on both sides of a swap.
-/

import FleetPanel.Proofs.Api.Looks
import FleetPanel.Proofs.Live.Run

namespace FleetPanel.Api

open Exports Fleet Http Live

/-- What happens while a request is answered. -/
inductive Turn where
  | look
  | step (action : Action)

/-- A request under way, with the snapshots that it has looked at and those that were current since
it came in. -/
structure Inquiry where
  world : World
  reading : Reading Answer
  looked : List Snapshot
  seen : List Snapshot

namespace Inquiry

/-- A request comes in. -/
def begin (world : World) (reading : Reading Answer) : Inquiry :=
  ⟨world, reading, [], [world.snapshot]⟩

/-- The answer looks at the current snapshot, or the panel takes a step. -/
def turn? (inquiry : Inquiry) : Turn → Option Inquiry
  | .look =>
      match inquiry.reading with
      | .done _ => none
      | .look next =>
          some { inquiry with
            reading := next inquiry.world.snapshot
            looked := inquiry.looked ++ [inquiry.world.snapshot] }
  | .step action =>
      (inquiry.world.step? action).map fun world =>
        { inquiry with world, seen := inquiry.seen ++ [world.snapshot] }

def run? (inquiry : Inquiry) (turns : List Turn) : Option Inquiry :=
  turns.foldlM turn? inquiry

/-- What was looked at was current, and `reading` has come as far as these looks. -/
structure Follows (reading : Reading Answer) (inquiry : Inquiry) : Prop where
  looks : reading.after? inquiry.looked = some inquiry.reading
  present : inquiry.world.snapshot ∈ inquiry.seen
  seen : ∀ snapshot ∈ inquiry.looked, snapshot ∈ inquiry.seen

theorem followsOfBegin (world : World) (reading : Reading Answer) :
    Follows reading (begin world reading) where
  looks := rfl
  present := List.mem_singleton_self _
  seen := nofun

variable {reading : Reading Answer} {inquiry next : Inquiry} {world : World}

theorem followsOfTurn {turn : Turn} (follows : Follows reading inquiry)
    (moved : inquiry.turn? turn = some next) : Follows reading next := by
  cases turn with
  | look =>
      simp only [turn?] at moved
      split at moved
      · exact nomatch moved
      · case h_2 rest looks =>
          obtain rfl := Option.some.inj moved
          refine ⟨?_, follows.present, fun snapshot inside => ?_⟩
          · rw [Reading.afterAppend, follows.looks, looks]
            rfl
          · rcases List.mem_append.mp inside with inside | inside
            · exact follows.seen snapshot inside
            · exact List.mem_singleton.mp inside ▸ follows.present
  | step action =>
      obtain ⟨world, _, rfl⟩ := Option.map_eq_some_iff.mp moved
      exact ⟨follows.looks, List.mem_append_right _ (List.mem_singleton_self _),
        fun snapshot inside => List.mem_append_left _ (follows.seen snapshot inside)⟩

theorem followsOfRun {turns : List Turn} (follows : Follows reading inquiry)
    (ran : inquiry.run? turns = some next) : Follows reading next := by
  induction turns generalizing inquiry with
  | nil =>
      obtain rfl : inquiry = next := by simpa [run?] using ran
      exact follows
  | cons turn turns inductionHypothesis =>
      obtain ⟨middle, moved, ran⟩ := Option.bind_eq_some_iff.mp ran
      exact inductionHypothesis (followsOfTurn follows moved) ran

end Inquiry

/-- The instances that are listed for a node. -/
def listedFor (id : String) (snapshot : Snapshot) : List Json :=
  (snapshot.instances.filter fun inst => inst.node.id == id).map Instance.toJson

theorem nodeInstancesAlone {encoded : List Char} {id : String} (named : idOf encoded = .ok id)
    (snapshot : Snapshot) :
    (nodeInstances encoded).alone snapshot =
      if (snapshot.findNode? id).isSome then .json (.array (listedFor id snapshot))
      else .notFound := by
  rw [nodeInstances, named]
  cases found : snapshot.findNode? id <;> simp [Reading.alone, Reading.see, listedFor, found]

/-- How the instances of a node are answered after some looks. -/
inductive Listed (encoded : List Char) : List Snapshot → Answer → Prop where
  | unnamed {fault : Answer} (named : idOf encoded = .error fault) : Listed encoded [] fault
  | missing {id : String} {first : Snapshot} (named : idOf encoded = .ok id)
      (absent : (first.findNode? id).isSome = false) : Listed encoded [first] .notFound
  | listed {id : String} {first second : Snapshot} (named : idOf encoded = .ok id)
      (found : (first.findNode? id).isSome = true) :
      Listed encoded [first, second] (.json (.array (listedFor id second)))

theorem listedOfAfter {encoded : List Char} {looked : List Snapshot} {reply : Answer}
    (passed : (nodeInstances encoded).after? looked = some (.done reply)) :
    Listed encoded looked reply := by
  unfold nodeInstances at passed
  cases named : idOf encoded with
  | error fault =>
      rw [named] at passed
      obtain ⟨rfl, ended⟩ := Reading.endOfDone passed
      obtain rfl := Reading.done.inj ended
      exact .unnamed named
  | ok id =>
      rw [named] at passed
      cases looked with
      | nil => simp [Reading.after?] at passed
      | cons first later =>
          simp only [Reading.after?] at passed
          cases found : first.findNode? id with
          | none =>
              rw [found] at passed
              obtain ⟨rfl, ended⟩ := Reading.endOfDone passed
              obtain rfl := Reading.done.inj ended
              exact .missing named (by rw [found]; rfl)
          | some node =>
              rw [found] at passed
              cases later with
              | nil => simp [Reading.see, Reading.after?] at passed
              | cons second later =>
                  obtain ⟨rfl, ended⟩ := Reading.endOfDone passed
                  obtain rfl := Reading.done.inj ended
                  exact .listed named (by rw [found]; rfl)

namespace Inquiry

/-- The node was found, then a swap took it away, and the instances that were listed after it are
those of no snapshot that has the node. -/
def IsTorn (request : Request) (inquiry : Inquiry) : Prop :=
  request.method = .get ∧ ∃ encoded id first second,
    Route.ofPath? request.target.path = some (.nodeInstances encoded) ∧
    idOf encoded = .ok id ∧ inquiry.looked = [first, second] ∧
    (first.findNode? id).isSome = true ∧ (second.findNode? id).isSome = false ∧
    ∀ snapshot ∈ inquiry.seen, (snapshot.findNode? id).isSome = true →
      listedFor id snapshot ≠ listedFor id second

/-- Some snapshot that was current since the request came in gives the reply to it alone. -/
def IsExplained (reading : Reading Answer) (reply : Answer) (inquiry : Inquiry) : Prop :=
  ∃ snapshot ∈ inquiry.seen, reading.alone snapshot = reply

variable {reading : Reading Answer} {inquiry : Inquiry} {reply : Answer} {request : Request}

/-- Fewer looks tear nothing. -/
theorem twoLooksOfTorn (torn : inquiry.IsTorn request) : inquiry.looked.length = 2 := by
  obtain ⟨_, _, _, first, second, _, _, looked, _⟩ := torn
  rw [looked]
  rfl

theorem explainedOfLooksOnce (follows : Follows reading inquiry) (once : reading.LooksOnce)
    (ended : inquiry.reading = .done reply) :
    inquiry.IsExplained reading reply ∧ ¬ inquiry.IsTorn request := by
  have passed := follows.looks
  rw [ended] at passed
  obtain ⟨looked, same⟩ | ⟨snapshot, looked, same⟩ := once.result passed
  · refine ⟨⟨_, follows.present, same _⟩, fun torn => ?_⟩
    have twice := twoLooksOfTorn torn
    simp [looked] at twice
  · refine ⟨⟨snapshot, follows.seen snapshot (by simp [looked]), same⟩, fun torn => ?_⟩
    have twice := twoLooksOfTorn torn
    simp [looked] at twice

/-- Without its body a list does not tell which instances it holds. -/
theorem explainedOfHead {encoded : List Char}
    (follows : Follows ((nodeInstances encoded).map Answer.withoutBody) inquiry)
    (ended : inquiry.reading = .done reply) :
    inquiry.IsExplained ((nodeInstances encoded).map Answer.withoutBody) reply := by
  have passed := follows.looks
  rw [ended, Reading.afterMap] at passed
  obtain ⟨rest, reached, mapped⟩ := Option.map_eq_some_iff.mp passed
  cases rest with
  | look next => exact nomatch mapped
  | done whole =>
      obtain rfl := Reading.done.inj mapped
      have listed := listedOfAfter reached
      have seen := follows.seen
      generalize inquiry.looked = looked at listed seen
      cases listed with
      | unnamed named =>
          refine ⟨_, follows.present, ?_⟩
          rw [Reading.aloneMap, nodeInstances, named, Reading.alone]
      | @missing id first named absent =>
          refine ⟨first, seen first (by simp), ?_⟩
          rw [Reading.aloneMap, nodeInstancesAlone named, absent]
          rfl
      | @listed id first second named found =>
          refine ⟨first, seen first (by simp), ?_⟩
          rw [Reading.aloneMap, nodeInstancesAlone named, found]
          rfl

theorem explainedOfGet {encoded : List Char} (follows : Follows (nodeInstances encoded) inquiry)
    (isGet : request.method = .get)
    (routed : Route.ofPath? request.target.path = some (.nodeInstances encoded))
    (ended : inquiry.reading = .done reply) :
    inquiry.IsExplained (nodeInstances encoded) reply ↔ ¬ inquiry.IsTorn request := by
  have passed := follows.looks
  rw [ended] at passed
  have listed := listedOfAfter passed
  have seen := follows.seen
  generalize looks : inquiry.looked = looked at listed seen
  cases listed with
  | unnamed named =>
      refine iff_of_true ⟨_, follows.present, ?_⟩ fun torn => ?_
      · rw [nodeInstances, named, Reading.alone]
      · have twice := twoLooksOfTorn torn
        simp [looks] at twice
  | @missing id first named absent =>
      refine iff_of_true ⟨first, seen first (by simp), ?_⟩ fun torn => ?_
      · rw [nodeInstancesAlone named, absent]
        rfl
      · have twice := twoLooksOfTorn torn
        simp [looks] at twice
  | @listed id first second named found =>
      constructor
      · rintro ⟨snapshot, inside, same⟩ ⟨_, _, other, _, last, otherRoute, otherNamed, twice, _, gone,
          apart⟩
        obtain rfl : encoded = _ :=
          Route.nodeInstances.inj (Option.some.inj (routed.symm.trans otherRoute))
        obtain rfl : id = other := Except.ok.inj (named.symm.trans otherNamed)
        obtain ⟨-, rfl⟩ : first = _ ∧ second = last := by simpa using looks.symm.trans twice
        rw [nodeInstancesAlone named] at same
        split at same
        · case isTrue has =>
            exact apart snapshot inside has (by simpa [Answer.json] using same)
        · simp [Answer.json, Answer.notFound, Answer.plain] at same
      · intro whole
        by_contra unexplained
        have unlike : ∀ snapshot ∈ inquiry.seen, (snapshot.findNode? id).isSome = true →
            listedFor id snapshot ≠ listedFor id second := by
          intro snapshot inside has same
          exact unexplained ⟨snapshot, inside, by rw [nodeInstancesAlone named, if_pos has, same]⟩
        have gone : (second.findNode? id).isSome = false := by
          by_contra has
          exact unlike second (seen second (by simp)) ((Bool.not_eq_false _).mp has) rfl
        exact whole ⟨isGet, encoded, id, first, second, routed, named, looks, found, gone, unlike⟩

/-- Whatever steps the panel takes during a request and after its looks, the answer is that of the
same request alone on a snapshot that was current meanwhile, but for the torn lists. -/
theorem explainedUnlessTorn {context : Context} {site? : Option Site} {world : World}
    {turns : List Turn}
    (ran : (begin world (answer context site? request)).run? turns = some inquiry)
    (ended : inquiry.reading = .done reply) :
    inquiry.IsExplained (answer context site? request) reply ↔ ¬ inquiry.IsTorn request := by
  have follows := followsOfRun (followsOfBegin world _) ran
  obtain once | ⟨encoded, twice⟩ := looksOfAnswer context site? request
  · obtain ⟨explained, whole⟩ := explainedOfLooksOnce follows once ended
    exact iff_of_true explained whole
  · generalize answer context site? request = reading at twice follows
    cases twice with
    | whole isGet routed => exact explainedOfGet follows isGet routed ended
    | head isHead routed =>
        refine iff_of_true (explainedOfHead follows ended) ?_
        rintro ⟨isGet, _⟩
        exact nomatch isHead.symm.trans isGet

/-- A listing file with one instance, on the node of `oneNode`. -/
def oneInstance : Entry :=
  .ofText <|
    "[[\"i\",\"i\",\"i\",0,\"u\",[\"n\",\"n\",\"r\",0,false,2,1,\"2026-03-01T12:00:00Z\",\"1\"]," ++
      "\"r\",\"\",false,\"\",\"\",\"2026-03-01T12:00:00Z\",\"2026-03-01T12:00:00Z\"]]"

/-- A request for the instances on the node of `oneNode`. -/
def oneRequest : Request :=
  ⟨.get, ⟨"/api/nodes/n/instances".toList, []⟩⟩

def oneContext : Context :=
  .still ⟨⟨2026, 3, 1, by decide⟩, .ofNumbers 12 0 0 0⟩ 90

/-- Both files are emptied, and a reload swaps, between the two looks. -/
def emptiedBetween : List Turn :=
  [.look, .step (.write .nodes (.ofText "[]")), .step (.write .instances (.ofText "[]")),
    .step .begin] ++ List.replicate 8 (.step (.advance 1)) ++ [.look]

/-- An inquiry that ended with an empty list, while every snapshot with the node lists more. -/
def listsNothing (inquiry : Inquiry) : Bool :=
  match inquiry.looked, inquiry.reading with
  | [first, second], .done reply =>
      reply.status == 200 && (first.findNode? "n").isSome && !(second.findNode? "n").isSome &&
        (listedFor "n" second).isEmpty && inquiry.seen.all fun snapshot =>
          !(snapshot.findNode? "n").isSome || !(listedFor "n" snapshot).isEmpty
  | _, _ => false

theorem emptiedListUnexplained :
    ∃ world inquiry reply,
      (World.start (some "d") .directory).run?
        ([.write .nodes World.oneNode, .write .instances oneInstance, .begin] ++
          List.replicate 8 (.advance 0)) = some world ∧
      (begin world (answer oneContext none oneRequest)).run? emptiedBetween = some inquiry ∧
      inquiry.reading = .done reply ∧ reply.status = 200 ∧
      ∀ snapshot ∈ inquiry.seen, (answer oneContext none oneRequest).alone snapshot ≠ reply := by
  have reached : (((World.start (some "d") .directory).run?
      ([.write .nodes World.oneNode, .write .instances oneInstance, .begin] ++
        List.replicate 8 (.advance 0))).any fun world =>
      ((begin world (answer oneContext none oneRequest)).run? emptiedBetween).any
        listsNothing) = true := by decide +kernel
  obtain ⟨world, started, reached⟩ := (Option.any_eq_true _ _).mp reached
  obtain ⟨inquiry, ran, checked⟩ := (Option.any_eq_true _ _).mp reached
  unfold listsNothing at checked
  split at checked
  · case h_1 first second reply looked ended =>
      simp only [Bool.and_eq_true, beq_iff_eq, List.all_eq_true, Bool.or_eq_true,
        Bool.not_eq_true', List.isEmpty_iff] at checked
      obtain ⟨⟨⟨⟨succeeded, found⟩, gone⟩, nothing⟩, more⟩ := checked
      have torn : inquiry.IsTorn oneRequest := by
        refine ⟨rfl, ['n'], "n", first, second, by decide +kernel, rfl, looked, found,
          gone, ?_⟩
        intro snapshot inside has same
        rcases more snapshot inside with gone | more
        · exact nomatch gone.symm.trans has
        · rw [same, nothing] at more
          exact nomatch more
      refine ⟨world, inquiry, reply, started, ran, ended, succeeded, ?_⟩
      exact fun snapshot inside same =>
        (explainedUnlessTorn ran ended).mp ⟨snapshot, inside, same⟩ torn
  · exact nomatch checked

end Inquiry

end FleetPanel.Api
