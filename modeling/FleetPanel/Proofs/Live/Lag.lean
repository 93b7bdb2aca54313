/-
This file shows when a client that stays is lost: the task of its socket ends exactly when it waits
with more notifications queued than are kept for it. Any other task comes to the end of its queue
and has then told the counts of the current snapshot.
-/

import FleetPanel.Proofs.Live.Sockets

namespace FleetPanel.Live

/-- The place of a socket after an action, if the action does not close it. -/
def Action.place? (place : Nat) : Action → Option Nat
  | .disconnect other =>
      if other = place then none else if other < place then some (place - 1) else some place
  | _ => some place

/-- The place of a socket after some actions, if none of them closes it. -/
def placeAfter? (place : Nat) (actions : List Action) : Option Nat :=
  actions.foldlM Action.place? place

/-- A socket that waits while more notifications are queued than are kept for it. -/
def Socket.IsBehind (world : World) (socket : Socket) : Prop :=
  socket.teller = .waiting ∧ World.retained < world.notified - socket.next

namespace World

/-- One of the actions is a step of the socket's own task that finds the socket behind. -/
def FellBehind (first : World) (place : Nat) (actions : List Action) : Prop :=
  ∃ before rest middle index socket, actions = before ++ .tell index :: rest ∧
    first.run? before = some middle ∧ placeAfter? place before = some index ∧
    middle.sockets[index]? = some socket ∧ socket.IsBehind middle

variable {world next first last : World} {action : Action} {actions : List Action}
  {place after index : Nat} {socket told : Socket}

theorem endedOfTelling (telling : Telling world socket told) :
    told.teller = .ended ↔ socket.IsBehind world := by
  cases telling with
  | counted reads => simp [Socket.IsBehind, reads]
  | sent sends => simp [Socket.IsBehind, sends]
  | lagged waits behind => simp [Socket.IsBehind, waits, behind]
  | heard waits queued within => simp [Socket.IsBehind, waits, within]

/-- A task that has ended takes no step. -/
theorem goesOnOfTelling (telling : Telling world socket told) : socket.teller ≠ .ended := by
  cases telling with
  | counted stands | sent stands | lagged stands | heard stands => simp [stands]

/-- The sockets are left alone by all but their own actions. -/
theorem socketsOfStep (moved : world.step? action = some next) (notConnect : action ≠ .connect)
    (notTell : ∀ index, action ≠ .tell index)
    (notDisconnect : ∀ index, action ≠ .disconnect index) :
    next.sockets = world.sockets := by
  cases effectOfStep moved with
  | @written which => cases which <;> rfl
  | watched => rfl
  | begun => rfl
  | advanced index stood advance => cases advance <;> rfl
  | connected => exact absurd rfl notConnect
  | told index => exact absurd rfl (notTell index)
  | disconnected index => exact absurd rfl (notDisconnect index)

/-- A step leaves a socket that stays as it is, or it is a step of the socket's own task. -/
theorem socketOfStep (moved : world.step? action = some next)
    (stood : world.sockets[place]? = some socket) (stays : action.place? place = some after) :
    (action ≠ .tell place ∧ next.sockets[after]? = some socket) ∨
      (action = .tell place ∧ after = place ∧
        ∃ told, Telling world socket told ∧ next.sockets[place]? = some told) := by
  obtain ⟨inside, _⟩ := List.getElem?_eq_some_iff.mp stood
  cases action with
  | tell index =>
      obtain rfl := Option.some.inj stays
      obtain ⟨before, told, toldStood, telling, rfl⟩ := tellingOfStep moved
      by_cases own : index = place
      · subst own
        obtain rfl := Option.some.inj (toldStood.symm.trans stood)
        exact .inr ⟨rfl, rfl, told, telling, by simp [setSocket, inside]⟩
      · refine .inl ⟨fun same => own (Action.tell.inj same), ?_⟩
        rw [setSocket, List.getElem?_set_ne own, stood]
  | disconnect other =>
      refine .inl ⟨by simp, ?_⟩
      obtain ⟨_, rfl⟩ : other < world.sockets.length ∧
          { world with sockets := world.sockets.eraseIdx other } = next := by
        simpa [step?, disconnect?] using moved
      simp only [Action.place?] at stays
      split at stays
      · simp at stays
      · split at stays
        · case isTrue below =>
            obtain rfl := Option.some.inj stays
            rw [List.getElem?_eraseIdx_of_ge (by omega), Nat.sub_add_cancel (by omega), stood]
        · case isFalse apart below =>
            obtain rfl := Option.some.inj stays
            rw [List.getElem?_eraseIdx_of_lt (by omega), stood]
  | connect =>
      obtain rfl := Option.some.inj moved
      obtain rfl := Option.some.inj stays
      exact .inl ⟨by simp, (List.getElem?_append_left inside).trans stood⟩
  | _ =>
      obtain rfl := Option.some.inj stays
      refine .inl ⟨by simp, ?_⟩
      rw [socketsOfStep moved (by simp) (by simp) (by simp), stood]

theorem placeAfterAppend (place : Nat) (before : List Action) (action : Action) :
    placeAfter? place (before ++ [action]) = (placeAfter? place before).bind action.place? := by
  simp [placeAfter?, List.foldlM_append, bind]

/-- What fell behind before fell behind after one action more. -/
theorem fellBehindAppend (fell : FellBehind first place actions) (action : Action) :
    FellBehind first place (actions ++ [action]) := by
  obtain ⟨before, rest, middle, index, socket, rfl, behind⟩ := fell
  exact ⟨before, rest ++ [action], middle, index, socket, by simp, behind⟩

/-- A socket falls behind before the last action, or the last action finds it behind. -/
theorem fellBehindOfAppend (ran : first.run? actions = some world)
    (stayed : placeAfter? place actions = some index)
    (stood : world.sockets[index]? = some socket)
    (fell : FellBehind first place (actions ++ [action])) :
    FellBehind first place actions ∨ (action = .tell index ∧ socket.IsBehind world) := by
  obtain ⟨before, rest, middle, other, found, split, ranBefore, stayedBefore, foundStood, behind⟩ :=
    fell
  rcases List.eq_nil_or_concat rest with rfl | ⟨rest, last, rfl⟩
  · right
    obtain ⟨rfl, same⟩ := List.append_inj' split rfl
    obtain rfl := Option.some.inj (ran.symm.trans ranBefore)
    obtain rfl := Option.some.inj (stayed.symm.trans stayedBefore)
    obtain rfl := Option.some.inj (stood.symm.trans foundStood)
    exact ⟨(List.cons.inj same).1, behind⟩
  · left
    have split : actions ++ [action] = (before ++ .tell other :: rest) ++ [last] := by
      simpa using split
    obtain ⟨rfl, _⟩ := List.append_inj' split rfl
    exact ⟨before, rest, middle, other, found, rfl, ranBefore, stayedBefore, foundStood, behind⟩

/-- Through a run a socket that stays has ended exactly if it fell behind. -/
theorem endedOfRun (ran : first.run? actions = some last)
    (stood : first.sockets[place]? = some socket) (goesOn : socket.teller ≠ .ended)
    (stays : placeAfter? place actions = some after) :
    ∃ told, last.sockets[after]? = some told ∧
      (told.teller = .ended ↔ FellBehind first place actions) := by
  have kept := runKeeps (fun done world => first.run? done = some world ∧
    ∀ index, placeAfter? place done = some index → ∃ told, world.sockets[index]? = some told ∧
      (told.teller = .ended ↔ FellBehind first place done)) ran ?_ ?_
  · exact kept.2 after stays
  · refine ⟨rfl, fun index stayed => ?_⟩
    obtain rfl := Option.some.inj stayed
    refine ⟨socket, stood, fun ended => absurd ended goesOn, ?_⟩
    rintro ⟨before, rest, _, _, _, split, _⟩
    simp at split
  · rintro done action world next _ ⟨ranDone, sockets⟩ moved
    refine ⟨runThen ranDone (by simpa [run?] using moved), fun later stayed => ?_⟩
    rw [placeAfterAppend] at stayed
    obtain ⟨index, stayedBefore, stays⟩ := Option.bind_eq_some_iff.mp stayed
    obtain ⟨before, stood, ended⟩ := sockets index stayedBefore
    have splits : FellBehind first place (done ++ [action]) →
        FellBehind first place done ∨ (action = .tell index ∧ before.IsBehind world) :=
      fellBehindOfAppend ranDone stayedBefore stood
    obtain ⟨notOwn, stands⟩ | ⟨rfl, rfl, told, telling, stands⟩ := socketOfStep moved stood stays
    · refine ⟨before, stands, fun stopped => fellBehindAppend (ended.mp stopped) action, ?_⟩
      intro fell
      rcases splits fell with fell | ⟨own, _⟩
      · exact ended.mpr fell
      · exact absurd own notOwn
    · refine ⟨told, stands, fun stopped => ?_, fun fell => ?_⟩
      · exact ⟨done, [], world, _, before, rfl, ranDone, stayedBefore, stood,
          (endedOfTelling telling).mp stopped⟩
      · rcases splits fell with fell | ⟨_, behind⟩
        · exact absurd (ended.mpr fell) (goesOnOfTelling telling)
        · exact (endedOfTelling telling).mpr behind

theorem setSocketAgain (world : World) (place : Nat) (before after : Socket) :
    (world.setSocket place before).setSocket place after = world.setSocket place after := by
  simp [setSocket]

theorem setSocketSame (stood : world.sockets[place]? = some socket) :
    world.setSocket place socket = world := by
  obtain ⟨inside, same⟩ := List.getElem?_eq_some_iff.mp stood
  subst same
  simp [setSocket]

theorem socketOfSet (stood : world.sockets[place]? = some socket) (told : Socket) :
    (world.setSocket place told).sockets[place]? = some told := by
  obtain ⟨inside, _⟩ := List.getElem?_eq_some_iff.mp stood
  simp [setSocket, inside]

theorem runCons (moved : world.step? action = some next) (rest : List Action) :
    world.run? (action :: rest) = next.run? rest := by
  simp [run?, moved]

variable {heard : Nat} {sent : List Counts} {counts : Counts}

theorem tellReading (stood : world.sockets[place]? = some ⟨.reading, heard, sent⟩) :
    world.step? (.tell place) =
      some (world.setSocket place ⟨.sending world.snapshot.counts, heard, sent⟩) := by
  simp [step?, tell?, stood]

theorem tellSending (stood : world.sockets[place]? = some ⟨.sending counts, heard, sent⟩) :
    world.step? (.tell place) =
      some (world.setSocket place ⟨.waiting, heard, sent ++ [counts]⟩) := by
  simp [step?, tell?, stood]

theorem tellWaiting (stood : world.sockets[place]? = some ⟨.waiting, heard, sent⟩)
    (queued : heard < world.notified) (within : world.notified - heard ≤ retained) :
    world.step? (.tell place) = some (world.setSocket place ⟨.reading, heard + 1, sent⟩) := by
  simp [step?, tell?, stood, Nat.ne_of_lt queued, Nat.not_lt.mpr within]

theorem tellBehind (stood : world.sockets[place]? = some ⟨.waiting, heard, sent⟩)
    (behind : retained < world.notified - heard) :
    world.step? (.tell place) = some (world.setSocket place ⟨.ended, heard, sent⟩) := by
  have queued : heard ≠ world.notified := by omega
  simp [step?, tell?, stood, queued, behind]

/-- A task that goes on comes to wait by steps of its own. -/
theorem waitsOfOwnSteps (stood : world.sockets[place]? = some socket)
    (goesOn : socket.teller ≠ .ended) :
    ∃ steps sent, world.run? (.replicate steps (.tell place)) =
      some (world.setSocket place ⟨.waiting, socket.next, sent⟩) := by
  obtain ⟨teller, heard, sent⟩ := socket
  cases teller with
  | reading =>
      refine ⟨2, sent ++ [world.snapshot.counts], ?_⟩
      have counted := socketOfSet stood ⟨.sending world.snapshot.counts, heard, sent⟩
      rw [List.replicate, runCons (tellReading stood), List.replicate,
        runCons (tellSending counted), setSocketAgain]
      rfl
  | sending counts =>
      refine ⟨1, sent ++ [counts], ?_⟩
      rw [List.replicate, runCons (tellSending stood)]
      rfl
  | waiting =>
      refine ⟨0, sent, ?_⟩
      rw [setSocketSame stood]
      rfl
  | ended => exact absurd rfl goesOn

/-- A waiting task hears of one notification and tells the present counts. -/
theorem toldOfOwnSteps (stood : world.sockets[place]? = some ⟨.waiting, heard, sent⟩)
    (queued : heard < world.notified) (within : world.notified - heard ≤ retained) :
    world.run? (.replicate 3 (.tell place)) =
      some (world.setSocket place ⟨.waiting, heard + 1, sent ++ [world.snapshot.counts]⟩) := by
  have counted := tellReading (socketOfSet stood ⟨.reading, heard + 1, sent⟩)
  have told := tellSending (socketOfSet stood ⟨.sending world.snapshot.counts, heard + 1, sent⟩)
  rw [setSocketAgain] at counted told
  exact (runCons (tellWaiting stood queued within) _).trans
    ((runCons counted _).trans ((runCons told _).trans rfl))

/-- A waiting task tells the present counts once for every notification that is queued. -/
theorem drainedOfOwnSteps (count : Nat)
    (stood : world.sockets[place]? = some ⟨.waiting, heard, sent⟩)
    (queued : heard + count = world.notified) (within : count ≤ retained) :
    world.run? (.replicate (3 * count) (.tell place)) =
      some (world.setSocket place
        ⟨.waiting, world.notified, sent ++ .replicate count world.snapshot.counts⟩) := by
  induction count generalizing world heard sent with
  | zero =>
      obtain rfl : heard = world.notified := queued
      simp [run?, setSocketSame stood]
  | succ count inductionHypothesis =>
      have first := toldOfOwnSteps stood (by omega) (by omega)
      have waits := socketOfSet stood ⟨.waiting, heard + 1, sent ++ [world.snapshot.counts]⟩
      have rest := inductionHypothesis waits (by change _ = world.notified; omega) (by omega)
      rw [setSocketAgain] at rest
      rw [show 3 * (count + 1) = 3 + 3 * count by omega, ← List.replicate_append_replicate,
        runThen first rest, List.replicate_succ, List.append_assoc]
      rfl

/-- A task that goes on comes by steps of its own to the end of its queue, or it ends if its queue
is too long. -/
theorem restOfOwnSteps (stood : world.sockets[place]? = some socket)
    (goesOn : socket.teller ≠ .ended) (follows : socket.next ≤ world.notified) :
    ∃ steps final, world.run? (.replicate steps (.tell place)) =
        some (world.setSocket place final) ∧
      if world.notified - socket.next ≤ retained then
        final.teller = .waiting ∧ final.next = world.notified
      else final.teller = .ended := by
  obtain ⟨steps, sent, waiting⟩ := waitsOfOwnSteps stood goesOn
  have waits := socketOfSet stood ⟨.waiting, socket.next, sent⟩
  split
  · case isTrue within =>
      have drained := drainedOfOwnSteps (world.notified - socket.next) waits
        (by change _ = world.notified; omega) within
      rw [setSocketAgain] at drained
      have ran := runThen waiting drained
      rw [List.replicate_append_replicate] at ran
      exact ⟨_, _, ran, rfl, rfl⟩
  · case isFalse beyond =>
      have ended := tellBehind waits (Nat.lt_of_not_le beyond)
      rw [setSocketAgain] at ended
      refine ⟨steps + 1, ⟨.ended, socket.next, sent⟩, ?_, rfl⟩
      rw [← List.replicate_append_replicate]
      exact runThen waiting (runCons ended [])

/-- The client of a socket that stays is lost exactly if the socket fell behind. If it was not lost,
then by steps of its own the socket's task comes to the end of its queue, and then, if every swap
was announced, what it told last, also in its text, are the counts of the current snapshot; only a
queue that is too long by then ends it. -/
theorem clientLostOnlyBehind {directory? : Option String} {ground : Ground}
    (reachable : Reachable (start directory? ground) first)
    (stood : first.sockets[place]? = some socket) (goesOn : socket.teller ≠ .ended)
    (ran : first.run? actions = some last) (stays : placeAfter? place actions = some after) :
    ∃ told, last.sockets[after]? = some told ∧
      (told.teller = .ended ↔ FellBehind first place actions) ∧
      (told.teller ≠ .ended →
        ∃ steps caught final, last.run? (.replicate steps (.tell after)) = some caught ∧
          caught.sockets[after]? = some final ∧
          if last.notified - told.next ≤ retained then
            final.teller = .waiting ∧ final.next = caught.notified ∧
              (Reload.swapped ∉ caught.reloads →
                final.sent.getLast? = some caught.snapshot.counts ∧
                  (Counts.Fits caught.snapshot.counts → ∃ text,
                    final.texts.getLast? = some text ∧ Tells text caught.snapshot.counts))
          else final.teller = .ended) := by
  obtain ⟨told, stands, ended⟩ := endedOfRun ran stood goesOn stays
  refine ⟨told, stands, ended, fun goesOn => ?_⟩
  have reached := reachableOfRun reachable ran
  have follows := followsOfReachable reached told (List.mem_of_getElem? stands)
  obtain ⟨steps, final, rests, rested⟩ := restOfOwnSteps stands goesOn follows.1
  have finalStands := socketOfSet stands final
  refine ⟨steps, _, final, rests, finalStands, ?_⟩
  split
  · case isTrue within =>
      rw [if_pos within] at rested
      refine ⟨rested.1, rested.2, fun announced => ?_⟩
      have finalFollows := followsOfReachable (reachableOfRun reached rests) final
        (List.mem_of_getElem? finalStands)
      have current := finalFollows.2 rested.2 announced
      rw [rested.1] at current
      exact ⟨current, lastTextTells current⟩
  · case isFalse beyond =>
      rw [if_neg beyond] at rested
      exact rested

/-- Seventeen notifications between two steps of a socket's task. -/
def burst : List Action :=
  .replicate 17 .begin ++ (List.range 17).map .advance

theorem clientLostToBurst :
    ∃ first last told, Reachable (start none .missing) first ∧
      first.sockets[0]? = some ⟨.waiting, 0, [(0, 0, 0)]⟩ ∧
      first.run? (burst ++ [.tell 0]) = some last ∧ placeAfter? 0 (burst ++ [.tell 0]) = some 0 ∧
      last.sockets[0]? = some told ∧ told.teller = .ended ∧
      FellBehind first 0 (burst ++ [.tell 0]) := by
  obtain ⟨first, opened, greeted⟩ := runReaches (start none .missing) [.connect, .tell 0, .tell 0]
    (fun first => first.sockets == [⟨.waiting, 0, [(0, 0, 0)]⟩]) (by decide +kernel)
  obtain ⟨last, ran, lost⟩ := runReaches (start none .missing)
    ([.connect, .tell 0, .tell 0] ++ (burst ++ [.tell 0]))
    (fun last => last.sockets == [⟨.ended, 0, [(0, 0, 0)]⟩]) (by decide +kernel)
  rw [runAppend, opened, Option.bind_some] at ran
  rw [beq_iff_eq] at greeted lost
  have stood : first.sockets[0]? = some ⟨.waiting, 0, [(0, 0, 0)]⟩ := by rw [greeted]; rfl
  have stays : placeAfter? 0 (burst ++ [.tell 0]) = some 0 := by decide +kernel
  have reachable := reachableOfRun .start opened
  obtain ⟨told, stands, ended, _⟩ := clientLostOnlyBehind reachable stood nofun ran stays
  rw [lost] at stands
  obtain rfl := Option.some.inj stands
  exact ⟨first, last, _, reachable, stood, ran, stays, by rw [lost]; rfl, rfl, ended.mp rfl⟩

end World

end FleetPanel.Live
