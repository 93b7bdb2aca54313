/-
This file says once what a step of a panel can do. The properties of running panels follow from it
by a case for each kind of step.
-/

import FleetPanel.Live.Step

namespace FleetPanel.Live

open Exports Fleet

/-- What an action writes to a listing file. -/
def Action.written? (which : Which) : Action → Option Entry
  | .write other entry => if other = which then some entry else none
  | _ => none

/-- An action that begins a reload. -/
def Action.beginsReload : Action → Bool
  | .take | .begin => true
  | _ => false

theorem Action.silentOfBegins {action : Action} (begins : action.beginsReload = true)
    (which : Which) : action.written? which = none := by
  cases action with
  | take | begin => rfl
  | _ => exact nomatch begins

namespace World

def setFile (world : World) (which : Which) (file : File) : World :=
  match which with
  | .nodes => { world with nodes := file }
  | .instances => { world with instances := file }

/-- One step of the reload at `index` from one place to the next. The world between them has all
changes of the step but the new place. -/
inductive Advance (world : World) (index : Nat) : Reload → World → Reload → Prop where
  | announced : Advance world index .unbacked world.notify .finished
  | locked (free : world.holder? = none) :
      Advance world index .waiting { world with holder? := some index } .locked
  | nodesFound : Advance world index .locked world
      (.nodesFound (world.entry .nodes).isPresent world.nodes.writes)
  | nodesRead {found : Bool} {edition : Nat} {nodes : Listing Node}
      (read : Listing.readFound .node (nodesPath world.path) found (world.entry .nodes) =
        .ok nodes) :
      Advance world index (.nodesFound found edition) world
        (.nodesRead nodes (if found then world.nodes.writes else edition))
  | nodesFailed {found : Bool} {edition : Nat} {fault : LoadFault}
      (failed : Listing.readFound .node (nodesPath world.path) found (world.entry .nodes) =
        .error fault) :
      Advance world index (.nodesFound found edition) world .leaving
  | instancesFound {nodes : Listing Node} {edition : Nat} :
      Advance world index (.nodesRead nodes edition) world
        (.instancesFound nodes edition (world.entry .instances).isPresent world.instances.writes)
  | instancesRead {nodes : Listing Node} {edition other : Nat} {found : Bool}
      {instances : Listing Instance}
      (read : Listing.readFound .inst (instancesPath world.path) found (world.entry .instances) =
        .ok instances) :
      Advance world index (.instancesFound nodes edition found other) world
        (.loaded (.ofListings nodes instances)
          ⟨edition, if found then world.instances.writes else other⟩)
  | instancesFailed {nodes : Listing Node} {edition other : Nat} {found : Bool} {fault : LoadFault}
      (failed : Listing.readFound .inst (instancesPath world.path) found (world.entry .instances) =
        .error fault) :
      Advance world index (.instancesFound nodes edition found other) world .leaving
  | swapped {snapshot : Snapshot} {edition : Edition} :
      Advance world index (.loaded snapshot edition) { world with snapshot, edition } .swapped
  | notified : Advance world index .swapped world.notify .leaving
  | left : Advance world index .leaving { world with holder? := none } .finished

/-- One step of a socket's task. -/
inductive Telling (world : World) (socket : Socket) : Socket → Prop where
  | counted (reads : socket.teller = .reading) :
      Telling world socket { socket with teller := .sending world.snapshot.counts }
  | sent {counts : Counts} (sends : socket.teller = .sending counts) :
      Telling world socket { socket with teller := .waiting, sent := socket.sent ++ [counts] }
  | lagged (waits : socket.teller = .waiting)
      (behind : retained < world.notified - socket.next) :
      Telling world socket { socket with teller := .ended }
  | heard (waits : socket.teller = .waiting) (queued : socket.next ≠ world.notified)
      (within : world.notified - socket.next ≤ retained) :
      Telling world socket { socket with teller := .reading, next := socket.next + 1 }

/-- What a step does to a world. -/
inductive Effect (world : World) : Action → World → Prop where
  | written {which : Which} {entry : Entry} (watch? : Option Watch) :
      Effect world (.write which entry)
        { world.setFile which ((world.file which).write entry) with ground := .directory, watch? }
  | watched {action : Action} (ground : Ground) (watch? : Option Watch)
      (silent : ∀ which, action.written? which = none) (begunNone : action.beginsReload = false)
      (raised : ground = world.ground ∨ ground = .directory) :
      Effect world action { world with ground, watch? }
  | begun {action : Action} (watch? : Option Watch) (begins : action.beginsReload = true) :
      Effect world action { world.begin with watch? }
  | advanced (index : Nat) {before after : Reload} {rest : World}
      (stood : world.reloads[index]? = some before)
      (advance : Advance world index before rest after) :
      Effect world (.advance index) (rest.setReload index after)
  | connected : Effect world .connect world.connect
  | told (index : Nat) {before after : Socket} (stood : world.sockets[index]? = some before)
      (telling : Telling world before after) :
      Effect world (.tell index) (world.setSocket index after)
  | disconnected (index : Nat) :
      Effect world (.disconnect index) { world with sockets := world.sockets.eraseIdx index }

theorem advanceOfStep {world next : World} {index : Nat}
    (moved : world.advance? index = some next) :
    ∃ before rest after, world.reloads[index]? = some before ∧
      Advance world index before rest after ∧ next = rest.setReload index after := by
  cases stood : world.reloads[index]? with
  | none => simp [advance?, stood] at moved
  | some before =>
      suffices ∃ rest after, Advance world index before rest after ∧
          next = rest.setReload index after by
        obtain ⟨rest, after, advance, same⟩ := this
        exact ⟨before, rest, after, rfl, advance, same⟩
      simp only [advance?, stood] at moved
      cases before with
      | unbacked => exact ⟨_, _, .announced, (Option.some.inj moved).symm⟩
      | waiting =>
          dsimp only at moved
          split at moved
          · simp at moved
          · case isFalse free =>
              exact ⟨_, _, .locked (by simpa using free), (Option.some.inj moved).symm⟩
      | locked => exact ⟨_, _, .nodesFound, (Option.some.inj moved).symm⟩
      | nodesFound found edition =>
          dsimp only at moved
          split at moved
          · case h_1 read => exact ⟨_, _, .nodesRead read, (Option.some.inj moved).symm⟩
          · case h_2 failed => exact ⟨_, _, .nodesFailed failed, (Option.some.inj moved).symm⟩
      | nodesRead nodes edition =>
          exact ⟨_, _, .instancesFound, (Option.some.inj moved).symm⟩
      | instancesFound nodes edition found other =>
          dsimp only at moved
          split at moved
          · case h_1 read => exact ⟨_, _, .instancesRead read, (Option.some.inj moved).symm⟩
          · case h_2 failed =>
              exact ⟨_, _, .instancesFailed failed, (Option.some.inj moved).symm⟩
      | loaded snapshot edition => exact ⟨_, _, .swapped, (Option.some.inj moved).symm⟩
      | swapped => exact ⟨_, _, .notified, (Option.some.inj moved).symm⟩
      | leaving => exact ⟨_, _, .left, (Option.some.inj moved).symm⟩
      | finished => simp at moved

theorem tellingOfStep {world next : World} {index : Nat} (moved : world.tell? index = some next) :
    ∃ before after, world.sockets[index]? = some before ∧ Telling world before after ∧
      next = world.setSocket index after := by
  obtain ⟨before, stood, moved⟩ := Option.bind_eq_some_iff.mp moved
  refine ⟨before, ?_⟩
  suffices ∃ after, Telling world before after ∧ next = world.setSocket index after by
    obtain ⟨after, telling, same⟩ := this
    exact ⟨after, stood, telling, same⟩
  split at moved
  · case h_1 reads => exact ⟨_, .counted reads, (Option.some.inj moved).symm⟩
  · case h_2 counts sends => exact ⟨_, .sent sends, (Option.some.inj moved).symm⟩
  · case h_3 waits =>
      split at moved
      · simp at moved
      · case isFalse queued =>
          split at moved
          · case isTrue behind => exact ⟨_, .lagged waits behind, (Option.some.inj moved).symm⟩
          · case isFalse within =>
              exact ⟨_, .heard waits queued (Nat.le_of_not_lt within), (Option.some.inj moved).symm⟩
  · simp at moved

/-- Every step is of one of the kinds. -/
theorem effectOfStep {world next : World} {action : Action}
    (moved : world.step? action = some next) : Effect world action next := by
  cases action with
  | write which entry =>
      simp only [step?, write?] at moved
      split at moved
      · simp at moved
      · obtain rfl : { world.setFile which ((world.file which).write entry) with
            ground := .directory
            watch? := world.watch?.map fun watch =>
              if watch.isOpen then { watch with inFlight := watch.inFlight + 1 } else watch } =
            next := by
          cases which <;> exact Option.some.inj moved
        exact .written _
  | openWatch =>
      simp only [step?, openWatch?] at moved
      split at moved
      · simp at moved
      · obtain rfl := Option.some.inj moved
        exact .watched .directory (some .begin) (fun _ => rfl) rfl (.inr rfl)
  | closeWatch =>
      obtain ⟨watch, _, rfl⟩ := Option.map_eq_some_iff.mp moved
      exact .watched world.ground _ (fun _ => rfl) rfl (.inl rfl)
  | deliver =>
      obtain ⟨watch, _, moved⟩ := Option.bind_eq_some_iff.mp moved
      split at moved
      · obtain rfl := Option.some.inj moved
        exact .watched world.ground _ (fun _ => rfl) rfl (.inl rfl)
      · simp at moved
  | take =>
      obtain ⟨watch, _, moved⟩ := Option.bind_eq_some_iff.mp moved
      split at moved
      · obtain rfl := Option.some.inj moved
        exact .begun _ rfl
      · simp at moved
  | begin =>
      obtain rfl := Option.some.inj moved
      exact .begun world.watch? rfl
  | advance index =>
      obtain ⟨before, rest, after, stood, advance, rfl⟩ := advanceOfStep moved
      exact .advanced index stood advance
  | connect =>
      obtain rfl := Option.some.inj moved
      exact .connected
  | tell index =>
      obtain ⟨before, after, stood, telling, rfl⟩ := tellingOfStep moved
      exact .told index stood telling
  | disconnect index =>
      simp only [step?, disconnect?] at moved
      split at moved
      · obtain rfl := Option.some.inj moved
        exact .disconnected index
      · simp at moved

end World

end FleetPanel.Live
