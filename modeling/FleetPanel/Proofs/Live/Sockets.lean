/-
This file shows that a socket that waits with nothing queued has told its client the counts of the
current snapshot.
-/

import FleetPanel.Proofs.Live.Lock
import FleetPanel.Proofs.Live.Told

namespace FleetPanel.Live

open Exports

/-- A socket has heard no more than was said. If it has heard everything, and every swap was
announced, then what it tells or told last are the present counts. -/
def Socket.Follows (world : World) (socket : Socket) : Prop :=
  socket.next ≤ world.notified ∧
    (socket.next = world.notified → Reload.swapped ∉ world.reloads →
      match socket.teller with
      | .reading | .ended => True
      | .sending counts => counts = world.snapshot.counts
      | .waiting => socket.sent.getLast? = some world.snapshot.counts)

namespace World

variable {world next rest : World} {index : Nat} {before after : Reload}

/-- A swap that another reload did not announce stays unannounced. -/
theorem swappedOfAdvance (stood : world.reloads[index]? = some before)
    (advance : Advance world index before rest after) (apart : before ≠ .swapped)
    (unannounced : Reload.swapped ∈ world.reloads) :
    Reload.swapped ∈ (rest.setReload index after).reloads := by
  obtain ⟨other, stands⟩ := List.getElem?_of_mem unannounced
  have different : other ≠ index := by
    intro same
    subst same
    exact apart (Option.some.inj (stood.symm.trans stands))
  apply List.mem_of_getElem? (i := other)
  rw [reloadOfAdvance stood advance, if_neg different, stands]

/-- A notification is queued for every socket. -/
theorem followsOfNotify {socket : Socket} {reload : Reload} (follows : socket.Follows world) :
    socket.Follows (world.notify.setReload index reload) := by
  refine ⟨Nat.le_succ_of_le follows.1, fun drained => ?_⟩
  have := follows.1
  change socket.next = world.notified + 1 at drained
  omega

theorem followsOfAdvance {socket : Socket} (follows : socket.Follows world)
    (stood : world.reloads[index]? = some before)
    (advance : Advance world index before rest after) :
    socket.Follows (rest.setReload index after) := by
  have kept := swappedOfAdvance stood advance
  obtain ⟨inside, _⟩ := List.getElem?_eq_some_iff.mp stood
  cases advance with
  | announced => exact followsOfNotify follows
  | notified => exact followsOfNotify follows
  | swapped =>
      refine ⟨follows.1, fun _ announced => ?_⟩
      exact absurd (List.mem_set inside _) announced
  | _ =>
      refine ⟨follows.1, fun drained announced => ?_⟩
      exact follows.2 drained fun unannounced => announced (kept nofun unannounced)

theorem followsOfTelling {socket told : Socket} (follows : socket.Follows world)
    (telling : Telling world socket told) : told.Follows world := by
  cases telling with
  | counted => exact ⟨follows.1, fun _ _ => rfl⟩
  | sent sends =>
      refine ⟨follows.1, fun drained announced => ?_⟩
      have counted := follows.2 drained announced
      rw [sends] at counted
      simpa using counted
  | lagged => exact ⟨follows.1, fun _ _ => trivial⟩
  | heard waits queued =>
      have behind : socket.next < world.notified := Nat.lt_of_le_of_ne follows.1 queued
      exact ⟨behind, fun _ _ => trivial⟩

theorem followsOfStep {action : Action} (follows : ∀ socket ∈ world.sockets, socket.Follows world)
    (moved : world.step? action = some next) : ∀ socket ∈ next.sockets, socket.Follows next := by
  cases effectOfStep moved with
  | @written which => cases which <;> exact follows
  | watched => exact follows
  | begun =>
      intro socket inside
      refine ⟨(follows socket inside).1, fun drained announced => ?_⟩
      exact (follows socket inside).2 drained
        fun unannounced => announced (List.mem_append_left _ unannounced)
  | @advanced index before after rest stood advance =>
      intro socket inside
      have same : (rest.setReload index after).sockets = world.sockets := by
        cases advance <;> rfl
      exact followsOfAdvance (follows socket (same ▸ inside)) stood advance
  | connected =>
      intro socket inside
      rcases List.mem_append.mp inside with inside | opened
      · exact follows socket inside
      · obtain rfl := List.mem_singleton.mp opened
        exact ⟨Nat.le_refl _, fun _ _ => trivial⟩
  | told index stood telling =>
      intro socket inside
      rcases List.mem_or_eq_of_mem_set inside with inside | rfl
      · exact follows socket inside
      · have told : socket.Follows world :=
          followsOfTelling (follows _ (List.mem_of_getElem? stood)) telling
        exact told
  | disconnected index =>
      exact fun socket inside => follows socket (List.mem_of_mem_eraseIdx inside)

theorem followsOfReachable {directory? : Option String} {ground : Ground}
    (reachable : Reachable (start directory? ground) world) :
    ∀ socket ∈ world.sockets, socket.Follows world := by
  induction reachable with
  | start => simp [start]
  | step action _ moved inductionHypothesis => exact followsOfStep inductionHypothesis moved

/-- A socket that waits with nothing queued, while no reload is between its swap and its
notification, told the counts of the current snapshot last, and the text of its last message tells
them. -/
theorem waitingSocketToldCounts {directory? : Option String} {ground : Ground} {socket : Socket}
    (reachable : Reachable (start directory? ground) world) (isOpen : socket ∈ world.sockets)
    (waits : socket.teller = .waiting) (drained : socket.next = world.notified)
    (announced : Reload.swapped ∉ world.reloads) :
    socket.sent.getLast? = some (world.snapshot.nodes.length, world.snapshot.instances.length,
      world.snapshot.rejected.length) ∧
    (Counts.Fits world.snapshot.counts → ∃ text, socket.texts.getLast? = some text ∧
      Tells text world.snapshot.counts) := by
  have told := (followsOfReachable reachable socket isOpen).2 drained announced
  rw [waits] at told
  exact ⟨told, lastTextTells told⟩

theorem waitingSocketToldOneNode :
    ∃ world socket, Reachable (start (some "d") .directory) world ∧ socket ∈ world.sockets ∧
      socket.teller = .waiting ∧ socket.next = world.notified ∧ world.notified = 1 ∧
      Reload.swapped ∉ world.reloads ∧ socket.sent.getLast? = some (1, 0, 0) ∧
      ∃ text, socket.texts.getLast? = some text ∧ Tells text (1, 0, 0) := by
  obtain ⟨world, ran, checked⟩ := runReaches (start (some "d") .directory)
    ([.connect, .tell 0, .tell 0, .write .nodes oneNode, .begin] ++
      List.replicate 8 (.advance 0) ++ [.tell 0, .tell 0, .tell 0])
    (fun world =>
      world.sockets == [⟨.waiting, 1, [(0, 0, 0), (1, 0, 0)]⟩] && world.notified == 1 &&
        world.reloads.all Reload.isFinished && world.snapshot.counts == (1, 0, 0))
    (by decide +kernel)
  simp only [Bool.and_eq_true, beq_iff_eq, List.all_eq_true] at checked
  obtain ⟨⟨⟨sockets, notified⟩, finished⟩, counts⟩ := checked
  have reachable := reachableOfRun .start ran
  have isOpen : ⟨.waiting, 1, [(0, 0, 0), (1, 0, 0)]⟩ ∈ world.sockets :=
    sockets ▸ List.mem_singleton_self _
  have announced : Reload.swapped ∉ world.reloads := fun inside => nomatch finished _ inside
  obtain ⟨told, tells⟩ := waitingSocketToldCounts reachable isOpen rfl notified.symm announced
  rw [counts] at tells
  exact ⟨world, _, reachable, isOpen, rfl, notified.symm, notified, announced,
    told.trans (congrArg some counts), tells ⟨by decide, by decide, by decide⟩⟩

end World

end FleetPanel.Live
