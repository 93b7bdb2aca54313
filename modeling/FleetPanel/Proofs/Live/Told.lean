/-
This file shows what a client reads in the messages of its socket: that the snapshot was updated,
and three counts, as long as they fit 64 bits.
-/

import FleetPanel.Live.Message
import FleetPanel.Proofs.Json.Compact

namespace FleetPanel.Live

open Json

/-- Counts that fit 64 bits. -/
structure Counts.Fits (counts : Counts) : Prop where
  nodes : counts.1 < 2 ^ 64
  instances : counts.2.1 < 2 ^ 64
  rejected : counts.2.2 < 2 ^ 64

/-- A text tells of an update with some counts. -/
def Tells (text : String) (counts : Counts) : Prop :=
  ∃ message data, Json.ofText text = .ok message ∧
    message.get? "type" = some (.string "snapshot_updated") ∧ message.get? "data" = some data ∧
    data.get? "nodes" = some (.integer counts.1) ∧
    data.get? "instances" = some (.integer counts.2.1) ∧
    data.get? "rejected" = some (.integer counts.2.2)

variable {counts : Counts}

theorem countReadAs {count : Nat} (fits : count < 2 ^ 64) (depth : Nat) :
    IsReadAs depth (.integer count) (.integer count) :=
  spelledOfExact (.integer depth ⟨by omega, by omega⟩)

/-- The members of a message are read in another order than they are written in. -/
theorem textRead (fits : counts.Fits) : Json.ofText counts.text = .ok counts.message := by
  have counted : List.Forall₂ (MemberReadAs 125) counts.members counts.members :=
    .cons ⟨rfl, countReadAs fits.nodes 125⟩ <| .cons ⟨rfl, countReadAs fits.instances 125⟩ <|
      .cons ⟨rfl, countReadAs fits.rejected 125⟩ .nil
  have titled : IsReadAs 126 (.string "snapshot_updated") (.string "snapshot_updated") :=
    spelledOfExact (.string 126 _)
  exact readSpelled <| objectReadAs <|
    .cons ⟨rfl, titled⟩ <| .cons ⟨rfl, objectReadAs counted⟩ .nil

/-- The text of a message tells its counts. -/
theorem textTells (fits : counts.Fits) : Tells counts.text counts := by
  have titles (data : Json) :
      ([("type", Json.string "snapshot_updated"), ("data", data)].map Prod.fst).Nodup :=
    show ["type", "data"].Nodup by decide
  have names : (counts.members.map Prod.fst).Nodup :=
    show ["nodes", "instances", "rejected"].Nodup by decide
  refine ⟨counts.message, .ofMembers counts.members, textRead fits, ?_, ?_, ?_, ?_, ?_⟩
  · rw [Counts.message, getOfMembers (titles _)]
    rfl
  · rw [Counts.message, getOfMembers (titles _)]
    rfl
  all_goals
    rw [getOfMembers names]
    rfl

theorem lastTextTells {socket : Socket} (last : socket.sent.getLast? = some counts)
    (fits : counts.Fits) : ∃ text, socket.texts.getLast? = some text ∧ Tells text counts := by
  refine ⟨counts.text, ?_, textTells fits⟩
  rw [Socket.texts, List.getLast?_map, last]
  rfl

/-- Message by message, a client reads the counts that were sent. -/
theorem textsTell {sent : List Counts} (fits : ∀ counts ∈ sent, counts.Fits) :
    List.Forall₂ Tells (sent.map Counts.text) sent := by
  rw [List.forall₂_map_left_iff, List.forall₂_same]
  exact fun counts inside => textTells (fits counts inside)

end FleetPanel.Live
