/-
This file runs sessions: a panel is used step by step, and its tasks come to rest after each step.
-/

import FleetPanel.Api.Server
import FleetPanel.Live.Calm
import FleetPanel.Live.Message

namespace FleetPanel.Live

open Exports Fleet

inductive Step where
  | write (which : Which) (entry : Entry)
  | reload (times : Nat)
  | request (request : Http.Request)
  | state
  | find (id : String)
  | connect
  | send (socket : Nat) (text : String)
  | close (socket : Nat)
  | watch
  | unwatch
  | writeWatched (which : Which) (entry : Entry)

inductive Outcome where
  | done
  | reloaded (notified : Nat) (counts : Counts) (received : List (List Counts))
  | answered (answer : Http.Answer)
  | state (hasDirectory : Bool) (timeout : Nat) (snapshot : Snapshot)
  | found (node? : Option Node) (inst? : Option Instance)
  | greeted (counts : Counts)
  | watching (hasDirectory : Bool)
  | nothingToWatch
  | unwatchable (path : String)
  | counted (counts : Counts)

/-- What is told of a directory that cannot be made. -/
def unwatchableMessage (path : String) : String :=
  s!"creating data dir: {path}"

/-- Why a session cannot go on: an answer cannot be sent. -/
inductive Breakdown where
  | unsendable
deriving DecidableEq, Repr

/-- A panel in use: what it was given, and how much of what it sent was already told. -/
structure Session where
  world : World
  context : Api.Context
  site? : Option Http.Site
  toldNotified : Nat
  toldSent : List Nat

namespace Session

def begin (world : World) (context : Api.Context) (site? : Option Http.Site) : Session :=
  ⟨world, context, site?, 0, []⟩

def counts (session : Session) : Counts :=
  session.world.snapshot.counts

/-- What each socket sent since it was last told. -/
def received (session : Session) : List (List Counts) :=
  session.world.sockets.mapIdx fun index socket =>
    socket.sent.drop (session.toldSent.getD index 0)

/-- Everything was told that was sent so far. -/
def told (session : Session) : Session :=
  { session with
    toldNotified := session.world.notified
    toldSent := session.world.sockets.map (·.sent.length) }

def reload (session : Session) (times : Nat) : Outcome × Session :=
  let session := { session with world := session.world.reload times }
  (.reloaded (session.world.notified - session.toldNotified) session.counts session.received,
    session.told)

def write (session : Session) (which : Which) (entry : Entry) : Session :=
  match session.world.write? which entry with
  | some world => { session with world := world.settleWatch }
  | none => session

/-- A client opens a socket and is told the present counts. -/
def connect (session : Session) : Outcome × Session :=
  let index := session.world.sockets.length
  let world := session.world.connect.settleSocket index
  (.greeted world.snapshot.counts, { session with world, toldSent := session.toldSent ++ [1] })

def close (session : Session) (socket : Nat) : Session :=
  match session.world.disconnect? socket with
  | some world => { session with world, toldSent := session.toldSent.eraseIdx socket }
  | none => session

def watch (session : Session) : Outcome × Session :=
  match session.world.openWatch? with
  | some world => (.watching (world.ground = .directory), { session with world })
  | none =>
      match session.world.directory? with
      | some path => (.unwatchable path, session)
      | none => (.nothingToWatch, session)

def unwatch (session : Session) : Session :=
  match session.world.closeWatch? with
  | some world => { session with world }
  | none => session

def answer (session : Session) (request : Http.Request) : Http.Answer :=
  (Api.answer session.context session.site? request).alone session.world.snapshot

/-- An answer that cannot be sent breaks the session. -/
def request (session : Session) (request : Http.Request) : Except Breakdown (Outcome × Session) :=
  let answer := session.answer request
  if answer.isSendable then .ok (.answered answer, session) else .error .unsendable

def step (session : Session) : Step → Except Breakdown (Outcome × Session)
  | .write which entry => .ok (.done, session.write which entry)
  | .reload times => .ok (session.reload times)
  | .request request => session.request request
  | .state =>
      .ok (.state session.world.directory?.isSome session.context.timeout session.world.snapshot,
        session)
  | .find id =>
      let snapshot := session.world.snapshot
      .ok (.found (snapshot.findNode? id) (snapshot.findInstance? id), session)
  | .connect => .ok session.connect
  | .send _ _ => .ok (.done, session)
  | .close socket => .ok (.done, session.close socket)
  | .watch => .ok session.watch
  | .unwatch => .ok (.done, session.unwatch)
  | .writeWatched which entry =>
      let session := session.write which entry
      .ok (.counted session.counts, session)

/-- The outcomes of some steps in their order. -/
def run (session : Session) : List Step → Except Breakdown (List Outcome)
  | [] => .ok []
  | step :: rest => do
      let (outcome, session) ← session.step step
      return outcome :: (← session.run rest)

end Session

end FleetPanel.Live
