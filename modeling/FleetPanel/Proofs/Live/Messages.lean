/-
This file shows that an open socket sends one message for each successful reload and none for a
failed one. A message tells the counts of the snapshot that is current when the socket's task looks,
so they are those of a later reload only where the task had not come to rest before that one.
-/

import FleetPanel.Proofs.Live.Lag
import FleetPanel.Proofs.Live.Loads

namespace FleetPanel.Live

open Exports

/-- Messages tell the counts that some looks at the snapshots found. The look for a message is at
the snapshot of its own place behind `base` or at a later one, and never at an earlier one than the
look before it. -/
structure Looked (past : List Snapshot) (base : Nat) (looks : List Nat) (messages : List Counts) :
    Prop where
  told : looks.map (fun look => past[look]?.map Snapshot.counts) = messages.map some
  answered : ∀ (place look : Nat), looks[place]? = some look → base + place ≤ look
  forward : looks.Pairwise (· ≤ ·)

/-- There is one message for each snapshot, which tells its counts or those of a later one. -/
def Answers (messages : List Counts) (since : List Snapshot) : Prop :=
  messages.length = since.length ∧ ∃ looks, Looked since 0 looks messages

/-- A socket whose task has heard of everything and waits. -/
def Socket.AtRest (world : World) (socket : Socket) : Prop :=
  socket.teller = .waiting ∧ socket.next = world.notified

/-- A socket has sent some messages more than before, and their texts tell them. -/
structure Socket.SentMore (socket told : Socket) (messages : List Counts) : Prop where
  sent : told.sent = socket.sent ++ messages
  texts : ∃ texts, told.texts = socket.texts ++ texts ∧
    ((∀ counts ∈ messages, Counts.Fits counts) → List.Forall₂ Tells texts messages)

/-- A reload whose swap is not announced yet. -/
def Reload.isSwapped : Reload → Bool
  | swapped => true
  | _ => false

/-- How many snapshots a panel with a directory has installed: one for each notification, and one
more while a swap is not announced. -/
def World.installed (world : World) : Nat :=
  world.notified + (world.reloads.any Reload.isSwapped).toNat

/-- What a socket has sent since it had sent some messages and heard of `base` notifications. -/
def Socket.Hears (base : Nat) (old : List Counts) (past : List Snapshot) (world : World)
    (socket : Socket) : Prop :=
  ∃ looks messages, socket.sent = old ++ messages ∧ Looked past base looks messages ∧
    (∀ look ∈ looks, look < world.installed) ∧
    match socket.teller with
    | .reading => socket.next = base + messages.length + 1
    | .sending counts => socket.next = base + messages.length + 1 ∧
        ∃ look, Looked past base (looks ++ [look]) (messages ++ [counts]) ∧ look < world.installed
    | .waiting => socket.next = base + messages.length
    | .ended => True

variable {past more since : List Snapshot} {looks : List Nat} {messages old : List Counts}
  {counts : Counts} {base look place : Nat} {socket told : Socket} {world next : World}

namespace Looked

theorem length (looked : Looked past base looks messages) : looks.length = messages.length := by
  simpa using congrArg List.length looked.told

theorem inside (looked : Looked past base looks messages) (seen : look ∈ looks) :
    look < past.length := by
  have found : past[look]?.map Snapshot.counts ∈ messages.map some :=
    looked.told ▸ List.mem_map_of_mem seen
  obtain ⟨counts, -, same⟩ := List.mem_map.mp found
  obtain ⟨snapshot, stands, -⟩ := Option.map_eq_some_iff.mp same.symm
  exact (List.getElem?_eq_some_iff.mp stands).1

/-- There is no message that answers to no snapshot. -/
theorem short (looked : Looked past base looks messages) :
    messages.length ≤ past.length - base := by
  rcases Nat.eq_zero_or_pos messages.length with none | some
  · omega
  · have length := looked.length
    have stands := List.getElem?_eq_getElem (show messages.length - 1 < looks.length by omega)
    have answered := looked.answered _ _ stands
    have := looked.inside (List.mem_of_getElem? stands)
    omega

theorem mono (looked : Looked past base looks messages) (more : List Snapshot) :
    Looked (past ++ more) base looks messages where
  told := by
    rw [← looked.told]
    refine List.map_congr_left fun look seen => ?_
    rw [List.getElem?_append_left (looked.inside seen)]
  answered := looked.answered
  forward := looked.forward

/-- One look more, which is the latest. -/
theorem concat (looked : Looked past base looks messages) (recent : ∀ other ∈ looks, other ≤ look)
    (behind : base + messages.length ≤ look)
    (found : past[look]?.map Snapshot.counts = some counts) :
    Looked past base (looks ++ [look]) (messages ++ [counts]) where
  told := by simp [looked.told, found]
  answered place other stands := by
    rcases Nat.lt_or_ge place looks.length with inside | beyond
    · rw [List.getElem?_append_left inside] at stands
      exact looked.answered place other stands
    · rw [List.getElem?_append_right beyond] at stands
      obtain ⟨last, rfl⟩ : place - looks.length = 0 ∧ look = other := by
        simpa [List.getElem?_singleton] using stands
      have := looked.length
      omega
  forward := List.pairwise_append.mpr ⟨looked.forward, List.pairwise_singleton _ _,
    fun other inside _ last => List.mem_singleton.mp last ▸ recent other inside⟩

/-- Looks at what came behind some snapshots. -/
theorem behind (looked : Looked (past ++ since) past.length looks messages) :
    Looked since 0 (looks.map (· - past.length)) messages := by
  have least : ∀ look ∈ looks, past.length ≤ look := by
    intro look seen
    obtain ⟨place, stands⟩ := List.getElem?_of_mem seen
    exact (Nat.le_add_right _ _).trans (looked.answered place look stands)
  refine ⟨?_, fun place other stands => ?_, ?_⟩
  · rw [← looked.told, List.map_map]
    refine List.map_congr_left fun look seen => ?_
    rw [List.getElem?_append_right (least look seen)]
    rfl
  · rw [List.getElem?_map] at stands
    obtain ⟨look, found, rfl⟩ := Option.map_eq_some_iff.mp stands
    have := looked.answered place look found
    omega
  · exact List.pairwise_map.mpr
      (looked.forward.imp fun before => Nat.sub_le_sub_right before _)

end Looked

/-- Where there is at most one snapshot, its counts are told. -/
theorem Answers.exact (answers : Answers messages since) (short : since.length ≤ 1) :
    messages = since.map Snapshot.counts := by
  obtain ⟨length, looks, looked⟩ := answers
  cases since with
  | nil => exact List.eq_nil_of_length_eq_zero length
  | cons snapshot rest =>
      obtain rfl : rest = [] := by simpa using short
      obtain ⟨counts, rfl⟩ := List.length_eq_one_iff.mp length
      obtain ⟨look, rfl⟩ := List.length_eq_one_iff.mp looked.length
      have told := looked.told
      obtain rfl : look = 0 := Nat.lt_one_iff.mp (looked.inside (List.mem_singleton_self look))
      simpa using told.symm

theorem Socket.SentMore.ofSent (sent : told.sent = socket.sent ++ messages) :
    socket.SentMore told messages where
  sent := sent
  texts := ⟨messages.map Counts.text, by simp [Socket.texts, sent], textsTell⟩

theorem Socket.Hears.mono (hears : socket.Hears base old past world) (more : List Snapshot)
    (grown : world.installed ≤ next.installed) : socket.Hears base old (past ++ more) next := by
  obtain ⟨looks, messages, sent, looked, seen, progress⟩ := hears
  refine ⟨looks, messages, sent, looked.mono more,
    fun look inside => (seen look inside).trans_le grown, ?_⟩
  split at progress
  · exact progress
  · obtain ⟨heard, look, pending, fresh⟩ := progress
    exact ⟨heard, look, pending.mono more, fresh.trans_le grown⟩
  · exact progress
  · trivial

namespace World

variable {first last : World} {action : Action} {actions : List Action} {after : Nat}

theorem installedOfSwapped (unannounced : Reload.swapped ∈ world.reloads) :
    world.installed = world.notified + 1 := by
  have swapped : world.reloads.any Reload.isSwapped = true :=
    List.any_eq_true.mpr ⟨.swapped, unannounced, rfl⟩
  rw [installed, swapped]
  rfl

theorem installedOfAnnounced (announced : Reload.swapped ∉ world.reloads) :
    world.installed = world.notified := by
  have none : world.reloads.any Reload.isSwapped = false := by
    refine List.any_eq_false.mpr fun reload inside swapped => ?_
    cases reload with
    | swapped => exact announced inside
    | _ => exact nomatch swapped
  rw [installed, none]
  rfl

theorem installedBounds (world : World) :
    world.notified ≤ world.installed ∧ world.installed ≤ world.notified + 1 := by
  have : (world.reloads.any Reload.isSwapped).toNat ≤ 1 := Bool.toNat_le _
  unfold installed
  omega

/-- No snapshot is uninstalled if every unannounced swap stays or is announced. -/
theorem installedGrows (more : world.notified ≤ next.notified)
    (kept : Reload.swapped ∈ world.reloads →
      Reload.swapped ∈ next.reloads ∨ world.notified < next.notified) :
    world.installed ≤ next.installed := by
  have bounds := next.installedBounds
  by_cases unannounced : Reload.swapped ∈ world.reloads
  · rw [installedOfSwapped unannounced]
    rcases kept unannounced with still | announced
    · rw [installedOfSwapped still]
      omega
    · omega
  · rw [installedOfAnnounced unannounced]
    omega

theorem installedOfStep (moved : world.step? action = some next) :
    world.installed ≤ next.installed := by
  cases effectOfStep moved with
  | @written which => cases which <;> exact le_refl _
  | watched => exact le_refl _
  | begun =>
      exact installedGrows (le_refl _) fun unannounced => .inl (List.mem_append_left _ unannounced)
  | advanced index stood advance =>
      have kept := swappedOfAdvance stood advance
      cases advance with
      | announced | notified =>
          exact installedGrows (Nat.le_succ _) fun _ => .inr (Nat.lt_succ_self _)
      | _ => exact installedGrows (le_refl _) fun unannounced => .inl (kept nofun unannounced)
  | connected => exact le_refl _
  | told => exact le_refl _
  | disconnected => exact le_refl _

theorem lookOfShows {earlier : List Snapshot} (split : past = earlier ++ more)
    (shows : world.Shows earlier) (announced : Reload.swapped ∉ world.reloads)
    (some : 0 < world.notified) :
    past[world.installed - 1]?.map Snapshot.counts = .some world.snapshot.counts := by
  obtain ⟨shown, counted⟩ := shows
  rw [installedOfAnnounced announced, counted, shown, split,
    List.getElem?_append_left (by omega), ← List.getLast?_eq_getElem?,
    List.getLast?_eq_some_getLast (List.ne_nil_of_length_pos (counted ▸ some))]
  rfl

/-- The snapshot that was installed last is the current one. -/
theorem lookOfTracks (tracks : world.Tracks past) (some : 0 < world.notified) :
    past[world.installed - 1]?.map Snapshot.counts = .some world.snapshot.counts := by
  obtain ⟨finished, shows⟩ | ⟨index, reload, stands, brings, others⟩ := tracks
  · exact lookOfShows (List.append_nil past).symm shows (fun inside => nomatch finished _ inside)
      some
  · have announced : reload ≠ .swapped → Reload.swapped ∉ world.reloads := by
      intro apart inside
      obtain ⟨other, found⟩ := List.getElem?_of_mem inside
      by_cases same : other = index
      · subst same
        exact apart (Option.some.inj (stands.symm.trans found))
      · exact nomatch others other _ same found
    have ofAwaits (apart : reload ≠ .swapped) (awaits : world.Awaits past) :
        past[world.installed - 1]?.map Snapshot.counts = .some world.snapshot.counts := by
      obtain ⟨earlier, split, shows⟩ := awaits
      exact lookOfShows split shows (announced apart) some
    cases reload with
    | unbacked => exact brings.elim
    | waiting | locked => exact ofAwaits nofun brings
    | nodesFound | nodesRead | instancesFound => exact ofAwaits nofun brings.1
    | loaded =>
        obtain ⟨earlier, split, shows⟩ := brings
        exact lookOfShows split shows (announced nofun) some
    | swapped =>
        obtain ⟨earlier, split, counted⟩ := brings
        rw [installedOfSwapped (List.mem_of_getElem? stands), Nat.add_sub_cancel, counted, split,
          List.getElem?_concat_length]
        rfl
    | leaving | finished =>
        exact lookOfShows (List.append_nil past).symm brings (announced nofun) some

theorem hearsOfTelling (tracks : world.Tracks past) (follows : socket.next ≤ world.notified)
    (hears : socket.Hears base old past world) (telling : Telling world socket told) :
    told.Hears base old past world := by
  obtain ⟨looks, messages, sent, looked, seen, progress⟩ := hears
  cases telling with
  | counted reads =>
      rw [reads] at progress
      have bounds := world.installedBounds
      have found := lookOfTracks tracks (by omega)
      refine ⟨looks, messages, sent, looked, seen, progress, world.installed - 1,
        looked.concat (fun look inside => ?_) (by omega) found, by omega⟩
      have := seen look inside
      omega
  | @sent counts sends =>
      rw [sends] at progress
      obtain ⟨heard, look, pending, fresh⟩ := progress
      refine ⟨looks ++ [look], messages ++ [counts], by simp [sent], pending,
        List.forall_mem_append.mpr ⟨seen, List.forall_mem_singleton.mpr fresh⟩, ?_⟩
      simpa [Nat.add_assoc] using heard
  | lagged => exact ⟨looks, messages, sent, looked, seen, trivial⟩
  | heard waits =>
      rw [waits] at progress
      exact ⟨looks, messages, sent, looked, seen, congrArg (· + 1) progress⟩

/-- The standing facts about a panel with a directory whose reloads come one after another. -/
structure Steady (past : List Snapshot) (world : World) : Prop where
  sound : world.Sound
  backed : world.directory?.isSome
  tracks : world.Tracks past
  follows : ∀ socket ∈ world.sockets, socket.Follows world

theorem steadyOfStep (steady : world.Steady past) (moved : world.step? action = some next)
    (calm : action.disturbs = true → ∀ reload ∈ world.reloads, reload.isFinished = true) :
    next.Steady (past ++ loadsOf world.path world.contents action) where
  sound := soundOfStep steady.sound moved
  backed := directoryOfStep moved ▸ steady.backed
  tracks := tracksOfStep steady.sound steady.backed steady.tracks moved calm
  follows := followsOfStep steady.follows moved

theorem steadyOfStart {directory : String} {ground : Ground}
    (ran : (start (some directory) ground).run? actions = some world)
    (oneByOne : (start (some directory) ground).isOneByOne actions = true) :
    world.Steady (loads directory .empty actions) where
  sound := soundOfRun (soundStart (some directory) ground) ran
  backed := by
    rw [directoryOfRun ran]
    rfl
  tracks := by
    have tracks := tracksOfRun (soundStart (some directory) ground) rfl
      (tracksStart (some directory) ground) oneByOne ran
    rwa [contentsStart] at tracks
  follows := followsOfReachable (reachableOfRun .start ran)

/-- Through a run a socket that stays hears of what the reloads load. -/
theorem hearsOfRun (steady : first.Steady past) (oneByOne : first.isOneByOne actions = true)
    (ran : first.run? actions = some last) (stood : first.sockets[place]? = some socket)
    (stays : placeAfter? place actions = some after) (hears : socket.Hears base old past first) :
    last.Steady (past ++ loads first.path first.contents actions) ∧
      ∃ told, last.sockets[after]? = some told ∧
        told.Hears base old (past ++ loads first.path first.contents actions) last := by
  induction actions generalizing first past place socket with
  | nil =>
      obtain rfl : first = last := by simpa [run?] using ran
      obtain rfl : place = after := Option.some.inj stays
      rw [loads, List.append_nil]
      exact ⟨steady, socket, stood, hears⟩
  | cons action rest inductionHypothesis =>
      obtain ⟨next, moved, ran⟩ := Option.bind_eq_some_iff.mp ran
      obtain ⟨index, kept, stays⟩ := Option.bind_eq_some_iff.mp stays
      obtain ⟨calm, oneByOne⟩ := calmOfOneByOne oneByOne moved
      have stepped := steadyOfStep steady moved calm
      suffices ∃ told, next.sockets[index]? = some told ∧
          told.Hears base old (past ++ loadsOf first.path first.contents action) next by
        obtain ⟨told, stands, heard⟩ := this
        have ended := inductionHypothesis stepped oneByOne ran stands stays heard
        rwa [pathOfStep moved, contentsOfStep steady.sound moved, List.append_assoc] at ended
      have grown := installedOfStep moved
      obtain ⟨_, stands⟩ | ⟨_, rfl, told, telling, stands⟩ := socketOfStep moved stood kept
      · exact ⟨socket, stands, hears.mono _ grown⟩
      · have follows := (steady.follows socket (List.mem_of_getElem? stood)).1
        exact ⟨told, stands, (hearsOfTelling steady.tracks follows hears telling).mono _ grown⟩

/-- Between reloads, a socket at rest has heard of all that was loaded. -/
theorem hearsAtRest (steady : first.Steady past)
    (finished : ∀ reload ∈ first.reloads, reload.isFinished = true)
    (rests : socket.AtRest first) : socket.Hears past.length socket.sent past first := by
  have shows := showsOfTracks steady.tracks finished
  have looked : Looked past past.length [] [] := ⟨rfl, by simp, .nil⟩
  exact ⟨[], [], by simp, looked, nofun, by rw [rests.1]; exact rests.2.trans shows.2⟩

/-- Since it was at rest between reloads, a socket has sent no more than one message for each
successful reload, and one for each when it is at rest again. -/
theorem messagesOfRun (steady : first.Steady past)
    (finished : ∀ reload ∈ first.reloads, reload.isFinished = true)
    (oneByOne : first.isOneByOne actions = true) (ran : first.run? actions = some last)
    (settled : ∀ reload ∈ last.reloads, reload.isFinished = true)
    (stood : first.sockets[place]? = some socket) (rests : socket.AtRest first)
    (stays : placeAfter? place actions = some after) :
    ∃ told messages, last.sockets[after]? = some told ∧ told.sent = socket.sent ++ messages ∧
      (∃ looks, Looked (loads first.path first.contents actions) 0 looks messages) ∧
      (told.AtRest last → Answers messages (loads first.path first.contents actions)) := by
  obtain ⟨ended, told, stands, looks, messages, sent, looked, -, progress⟩ :=
    hearsOfRun steady oneByOne ran stood stays (hearsAtRest steady finished rests)
  have counted := (showsOfTracks ended.tracks settled).2
  rw [List.length_append] at counted
  refine ⟨told, messages, stands, sent, ⟨_, looked.behind⟩, fun heardOut => ?_⟩
  rw [heardOut.1] at progress
  exact ⟨by have := heardOut.2; omega, _, looked.behind⟩

/-- A socket is at rest whenever a reload is begun. -/
def RestsAtReloads (first : World) (place : Nat) (actions : List Action) : Prop :=
  ∀ before action rest middle index socket, actions = before ++ action :: rest →
    action.beginsReload = true → first.run? before = some middle →
    placeAfter? place before = some index → middle.sockets[index]? = some socket →
    socket.AtRest middle

theorem lastReload (actions : List Action) :
    (∀ action ∈ actions, action.beginsReload = false) ∨
      ∃ before action rest, actions = before ++ action :: rest ∧ action.beginsReload = true ∧
        ∀ other ∈ rest, other.beginsReload = false := by
  induction actions with
  | nil => exact .inl nofun
  | cons action actions inductionHypothesis =>
      obtain quiet | ⟨before, last, rest, rfl, begins, quiet⟩ := inductionHypothesis
      · cases begins : action.beginsReload with
        | true => exact .inr ⟨[], action, actions, rfl, begins, quiet⟩
        | false => exact .inl (List.forall_mem_cons.mpr ⟨begins, quiet⟩)
      · exact .inr ⟨action :: before, last, rest, rfl, begins, quiet⟩

theorem placeAfterSplit {before later : List Action}
    (stays : placeAfter? place (before ++ later) = some after) :
    ∃ index, placeAfter? place before = some index ∧ placeAfter? index later = some after := by
  rw [placeAfter?, List.foldlM_append] at stays
  exact Option.bind_eq_some_iff.mp stays

/-- A socket that is at rest whenever a reload is begun has told the counts of each. -/
theorem countsOfRestingRun (steady : first.Steady past)
    (finished : ∀ reload ∈ first.reloads, reload.isFinished = true)
    (oneByOne : first.isOneByOne actions = true) (ran : first.run? actions = some last)
    (settled : ∀ reload ∈ last.reloads, reload.isFinished = true)
    (stood : first.sockets[place]? = some socket) (rests : socket.AtRest first)
    (stays : placeAfter? place actions = some after) (stands : last.sockets[after]? = some told)
    (heardOut : told.AtRest last) (resting : RestsAtReloads first place actions) :
    told.sent =
      socket.sent ++ (loads first.path first.contents actions).map Snapshot.counts := by
  -- Between two beginnings of a reload there is at most one message, so the run is cut before the
  -- last of them.
  induction length : actions.length using Nat.strong_induction_on
    generalizing actions last after told with
  | h size inductionHypothesis =>
      obtain quiet | ⟨before, action, rest, rfl, begins, quiet⟩ := lastReload actions
      · obtain ⟨other, messages, found, sent, -, answers⟩ :=
          messagesOfRun steady finished oneByOne ran settled stood rests stays
        obtain rfl := Option.some.inj (stands.symm.trans found)
        rw [sent, (answers heardOut).exact (by simp [loadsOfQuiet _ _ quiet])]
      · rw [runAppend] at ran
        obtain ⟨middle, ranBefore, ranLater⟩ := Option.bind_eq_some_iff.mp ran
        obtain ⟨index, staysBefore, staysLater⟩ := placeAfterSplit stays
        rw [oneByOneAppend ranBefore, Bool.and_eq_true] at oneByOne
        obtain ⟨steadyMiddle, held, heldStands, _⟩ := hearsOfRun steady oneByOne.1 ranBefore stood
          staysBefore (hearsAtRest steady finished rests)
        have atRest := resting before action rest middle index held rfl begins ranBefore
          staysBefore heldStands
        obtain ⟨next, moved, _⟩ := Option.bind_eq_some_iff.mp ranLater
        have calm := (calmOfOneByOne oneByOne.2 moved).1 (Action.disturbsOfBegins begins)
        have earlier := inductionHypothesis before.length (by simp [← length]) oneByOne.1 ranBefore
          calm staysBefore heldStands atRest
          (fun start other tail middle index socket split =>
            resting start other (tail ++ action :: rest) middle index socket (by simp [split])) rfl
        obtain ⟨other, messages, found, sent, -, answers⟩ :=
          messagesOfRun steadyMiddle calm oneByOne.2 ranLater settled heldStands atRest staysLater
        obtain rfl := Option.some.inj (stands.symm.trans found)
        have short : (loads middle.path middle.contents (action :: rest)).length ≤ 1 := by
          rw [loads, loadsOfQuiet _ _ quiet, loadsOf, if_pos begins, List.append_nil]
          cases (Snapshot.load middle.path middle.contents).toOption <;> simp
        rw [sent, earlier, (answers heardOut).exact short, loadsAppend, pathOfRun ranBefore,
          contentsOfRun steady.sound ranBefore, List.map_append, List.append_assoc]

theorem oneByOneOfQuiet (world : World) (quiet : ∀ action ∈ actions, action.disturbs = false) :
    world.isOneByOne actions = true := by
  induction actions generalizing world with
  | nil => rfl
  | cons action rest inductionHypothesis =>
      obtain ⟨calm, others⟩ := List.forall_mem_cons.mp quiet
      rw [isOneByOne, calm]
      cases world.step? action with
      | none => rfl
      | some next => exact inductionHypothesis next others

theorem oneByOneOfOwnSteps (ran : world.run? actions = some last)
    (oneByOne : world.isOneByOne actions = true) (place steps : Nat) :
    world.isOneByOne (actions ++ .replicate steps (.tell place)) = true := by
  rw [oneByOneAppend ran, oneByOne, Bool.true_and]
  refine oneByOneOfQuiet last fun action inside => ?_
  rw [List.eq_of_mem_replicate inside]
  rfl

theorem placeAfterOwnSteps (stays : placeAfter? place actions = some after) (steps : Nat) :
    placeAfter? place (actions ++ .replicate steps (.tell after)) = some after := by
  rw [placeAfter?, List.foldlM_append]
  refine Option.bind_eq_some_iff.mpr ⟨after, stays, ?_⟩
  induction steps with
  | zero => rfl
  | succ steps inductionHypothesis => exact inductionHypothesis

theorem loadsOfOwnSteps (path : String) (files : Directory) (actions : List Action)
    (place steps : Nat) :
    loads path files (actions ++ .replicate steps (.tell place)) = loads path files actions := by
  have quiet : ∀ action ∈ List.replicate steps (Action.tell place),
      action.beginsReload = false := by
    intro action inside
    rw [List.eq_of_mem_replicate inside]
    rfl
  rw [loadsAppend, loadsOfQuiet _ _ quiet, List.append_nil]

/-- Where the reloads of a run come one after another, the panel holds between them what the last
successful one has loaded, and it has notified once for each successful one; if all of them fail, it
holds what it held and notifies nobody. A socket that is open all the time sends no more than one
message for each successful reload. Each tells the counts of its own reload or of a later one, and
none those of an earlier reload than the message before it. A socket that never fell behind comes by
steps of its own to have sent one message for each; if it was at rest whenever a reload was begun,
the messages tell the counts of the reloads one by one. -/
theorem reloadsAllOrNothing {directory : String} {ground : Ground} {earlier later : List Action}
    (started : (start (some directory) ground).run? earlier = some world)
    (ran : world.run? later = some last)
    (oneByOne : (start (some directory) ground).isOneByOne (earlier ++ later) = true)
    (finished : ∀ reload ∈ world.reloads, reload.isFinished = true)
    (settled : ∀ reload ∈ last.reloads, reload.isFinished = true) :
    world.Shows (loads directory .empty earlier) ∧
    last.Shows (loads directory .empty earlier ++ loads directory world.contents later) ∧
    (loads directory world.contents later = [] →
      last.snapshot = world.snapshot ∧ last.notified = world.notified) ∧
    ∀ (place after : Nat) (socket : Socket), world.sockets[place]? = some socket →
      socket.AtRest world → placeAfter? place later = some after →
      ∃ told messages, last.sockets[after]? = some told ∧ socket.SentMore told messages ∧
        messages.length ≤ (loads directory world.contents later).length ∧
        (∃ looks, Looked (loads directory world.contents later) 0 looks messages) ∧
        (told.AtRest last →
          messages.length = (loads directory world.contents later).length ∧
            (RestsAtReloads world place later →
              messages = (loads directory world.contents later).map Snapshot.counts)) ∧
        (¬ FellBehind world place later → last.notified - told.next ≤ retained →
          ∃ steps caught final all, last.run? (.replicate steps (.tell after)) = some caught ∧
            caught.sockets[after]? = some final ∧ final.AtRest caught ∧
            socket.SentMore final all ∧
            Answers all (loads directory world.contents later)) := by
  rw [oneByOneAppend started, Bool.and_eq_true] at oneByOne
  have steady := steadyOfStart started oneByOne.1
  have path : world.path = directory := pathOfRun started
  have tracks := tracksOfRun steady.sound steady.backed steady.tracks oneByOne.2 ran
  rw [path] at tracks
  have shown := showsOfTracks steady.tracks finished
  have shows := showsOfTracks tracks settled
  refine ⟨shown, shows, fun failed => ?_, fun place after socket stood rests stays => ?_⟩
  · rw [failed, List.append_nil] at shows
    exact ⟨shows.1.trans shown.1.symm, shows.2.trans shown.2.symm⟩
  obtain ⟨told, messages, stands, sent, ⟨looks, looked⟩, answers⟩ :=
    messagesOfRun steady finished oneByOne.2 ran settled stood rests stays
  rw [path] at looked answers
  refine ⟨told, messages, stands, .ofSent sent, looked.short, ⟨looks, looked⟩,
    fun heardOut => ⟨(answers heardOut).1, fun resting => ?_⟩, fun apace within => ?_⟩
  · have counts := countsOfRestingRun steady finished oneByOne.2 ran settled stood rests stays
      stands heardOut resting
    rw [path] at counts
    exact List.append_cancel_left (sent.symm.trans counts)
  · obtain ⟨other, found, ended⟩ := endedOfRun ran stood (by simp [rests.1]) stays
    obtain rfl := Option.some.inj (stands.symm.trans found)
    have follows := followsOfReachable (reachableOfRun (reachableOfRun .start started) ran) told
      (List.mem_of_getElem? stands)
    obtain ⟨steps, final, rested, comesTo⟩ :=
      restOfOwnSteps stands (fun stopped => apace (ended.mp stopped)) follows.1
    rw [if_pos within] at comesTo
    obtain ⟨other, all, found, sent, -, answers⟩ := messagesOfRun steady finished
      (oneByOneOfOwnSteps ran oneByOne.2 after steps) (runThen ran rested) settled stood rests
      (placeAfterOwnSteps stays steps)
    have stands := socketOfSet stands final
    obtain rfl := Option.some.inj (stands.symm.trans found)
    rw [loadsOfOwnSteps, path] at answers
    exact ⟨steps, _, final, all, rested, stands, comesTo, .ofSent sent, answers comesTo⟩

def greeting : List Action :=
  [.connect, .tell 0, .tell 0]

theorem greets : ∃ world, (start (some "d") .directory).run? greeting = some world ∧
    world.reloads = [] ∧ world.contents = .empty ∧ world.notified = 0 ∧
    world.sockets = [⟨.waiting, 0, [(0, 0, 0)]⟩] := by
  obtain ⟨world, ran, checked⟩ := runReaches (start (some "d") .directory) greeting
    (fun world => world.reloads.isEmpty && world.contents == .empty &&
      world.notified == 0 && world.sockets == [⟨.waiting, 0, [(0, 0, 0)]⟩])
    (by decide +kernel)
  simp only [Bool.and_eq_true, beq_iff_eq, List.isEmpty_iff] at checked
  exact ⟨world, ran, checked.1.1.1, checked.1.1.2, checked.1.2, checked.2⟩

/-- A reload of one node that is told, and then one of the same node that finds a directory in place
of the instances. -/
def loadThenFailure : List Action :=
  [.write .nodes oneNode, .begin] ++ .replicate 8 (.advance 0) ++ .replicate 3 (.tell 0) ++
    [.write .instances .directory, .begin] ++ .replicate 6 (.advance 1)

theorem failureChangesNothing :
    ∃ world last told, (start (some "d") .directory).run? greeting = some world ∧
      world.run? loadThenFailure = some last ∧
      (start (some "d") .directory).isOneByOne (greeting ++ loadThenFailure) = true ∧
      last.Shows (loads "d" .empty greeting ++ loads "d" world.contents loadThenFailure) ∧
      (loads "d" world.contents loadThenFailure).map Snapshot.counts = [(1, 0, 0)] ∧
      last.snapshot.counts = (1, 0, 0) ∧ last.sockets[0]? = some told ∧ told.AtRest last ∧
      Socket.SentMore ⟨.waiting, 0, [(0, 0, 0)]⟩ told [(1, 0, 0)] := by
  obtain ⟨last, ran, checked⟩ := runReaches (start (some "d") .directory)
    (greeting ++ loadThenFailure)
    (fun last => last.reloads.all Reload.isFinished && last.snapshot.counts == (1, 0, 0) &&
      last.notified == 1 && last.sockets == [⟨.waiting, 1, [(0, 0, 0), (1, 0, 0)]⟩])
    (by decide +kernel)
  obtain ⟨world, started, unbegun, contents, silent, opened⟩ := greets
  simp only [Bool.and_eq_true, beq_iff_eq, List.all_eq_true] at checked
  obtain ⟨⟨⟨settled, counts⟩, notified⟩, sockets⟩ := checked
  rw [runAppend, started, Option.bind_some] at ran
  have oneByOne :
      (start (some "d") .directory).isOneByOne (greeting ++ loadThenFailure) = true := by
    decide +kernel
  obtain ⟨_, shows, _, messages⟩ :=
    reloadsAllOrNothing started ran oneByOne (by simp [unbegun]) settled
  obtain ⟨told, sentSince, stands, sent, -⟩ := messages 0 0 ⟨.waiting, 0, [(0, 0, 0)]⟩
    (by rw [opened]; rfl) ⟨rfl, silent.symm⟩ (by decide +kernel)
  have known := stands
  rw [sockets] at known
  obtain rfl := Option.some.inj known
  obtain rfl : [(1, 0, 0)] = sentSince := by simpa using sent.sent
  exact ⟨world, last, _, started, ran, oneByOne, shows, by rw [contents]; decide +kernel, counts,
    stands, ⟨rfl, notified.symm⟩, sent⟩

/-- Two reloads, one after the other, before the socket's task takes a step: the first loads one
node and the second an element that is rejected. -/
def quickReloads : List Action :=
  [.write .nodes oneNode, .begin] ++ .replicate 8 (.advance 0) ++
    [.write .nodes (.ofText "[1]"), .begin] ++ .replicate 8 (.advance 1) ++ .replicate 6 (.tell 0)

/-- A socket that has come to rest need not have told the counts of each reload. -/
theorem quickReloadsToldAlike :
    ∃ world last told, (start (some "d") .directory).run? greeting = some world ∧
      world.sockets[0]? = some ⟨.waiting, 0, [(0, 0, 0)]⟩ ∧ world.notified = 0 ∧
      (∀ reload ∈ world.reloads, reload.isFinished = true) ∧
      world.run? quickReloads = some last ∧
      (start (some "d") .directory).isOneByOne (greeting ++ quickReloads) = true ∧
      (∀ reload ∈ last.reloads, reload.isFinished = true) ∧
      placeAfter? 0 quickReloads = some 0 ∧ last.sockets[0]? = some told ∧ told.AtRest last ∧
      (loads "d" world.contents quickReloads).map Snapshot.counts = [(1, 0, 0), (0, 0, 1)] ∧
      told.sent = [(0, 0, 0)] ++ [(0, 0, 1), (0, 0, 1)] ∧
      told.sent ≠ [(0, 0, 0)] ++ (loads "d" world.contents quickReloads).map Snapshot.counts := by
  obtain ⟨last, ran, checked⟩ := runReaches (start (some "d") .directory)
    (greeting ++ quickReloads)
    (fun last => last.reloads.all Reload.isFinished && last.notified == 2 &&
      last.sockets == [⟨.waiting, 2, [(0, 0, 0), (0, 0, 1), (0, 0, 1)]⟩])
    (by decide +kernel)
  obtain ⟨world, started, unbegun, contents, silent, opened⟩ := greets
  simp only [Bool.and_eq_true, beq_iff_eq, List.all_eq_true] at checked
  obtain ⟨⟨settled, notified⟩, sockets⟩ := checked
  rw [runAppend, started, Option.bind_some] at ran
  have loaded : (loads "d" world.contents quickReloads).map Snapshot.counts =
      [(1, 0, 0), (0, 0, 1)] := by
    rw [contents]
    decide +kernel
  refine ⟨world, last, ⟨.waiting, 2, [(0, 0, 0), (0, 0, 1), (0, 0, 1)]⟩, started,
    by rw [opened]; rfl, silent, by simp [unbegun], ran, by decide +kernel, settled,
    by decide +kernel, by rw [sockets]; rfl, ⟨rfl, notified.symm⟩, loaded, rfl, ?_⟩
  rw [loaded]
  decide

end World

end FleetPanel.Live
