/-
This file reads the filter of a request for instances.
-/

import FleetPanel.Fleet.Instance

namespace FleetPanel.Api

open Fleet

/-- The wishes of a query, as far as it has any. -/
structure Filter where
  state? : Option String
  region? : Option String
  active? : Option Bool
deriving DecidableEq, Repr

inductive QueryFault where
  | duplicate (key : String)
  | notTruth (key : String)
deriving DecidableEq, Repr

def QueryFault.message : QueryFault → String
  | duplicate key => s!"Failed to deserialize query string: duplicate field `{key}`"
  | notTruth key =>
      s!"Failed to deserialize query string: {key}: provided string was not `true` or `false`"

namespace Filter

def empty : Filter := ⟨none, none, none⟩

def truth? : String → Option Bool
  | "true" => some true
  | "false" => some false
  | _ => none

/-- Adds one pair of a query. Keys that name no wish do not matter. -/
def add (filter : Filter) (key value : String) : Except QueryFault Filter :=
  match key with
  | "state" =>
      if filter.state?.isSome then .error (.duplicate key)
      else .ok { filter with state? := some value }
  | "region" =>
      if filter.region?.isSome then .error (.duplicate key)
      else .ok { filter with region? := some value }
  | "active" =>
      if filter.active?.isSome then .error (.duplicate key)
      else
        match truth? value with
        | some truth => .ok { filter with active? := some truth }
        | none => .error (.notTruth key)
  | _ => .ok filter

/-- The filter of the pairs of a query; the first fault counts. -/
def ofPairs (pairs : List (String × String)) : Except QueryFault Filter :=
  pairs.foldlM (fun filter pair => filter.add pair.1 pair.2) empty

end Filter

/-- The wishes once the state is known to be one. -/
structure Selection where
  state? : Option InstanceState
  region? : Option String
  onlyActive : Bool
deriving DecidableEq, Repr

namespace Selection

/-- A filter selects nothing when it names a state that there is not. -/
def ofFilter? (filter : Filter) : Option Selection :=
  let onlyActive := filter.active?.getD false
  match filter.state? with
  | none => some ⟨none, filter.region?, onlyActive⟩
  | some name =>
      (InstanceState.set.ofName? name).map fun state => ⟨some state, filter.region?, onlyActive⟩

/-- An instance that meets every wish. -/
def accepts (selection : Selection) (inst : Instance) : Bool :=
  (selection.state?.all fun state => inst.state == state) &&
    (selection.region?.all fun region => inst.region == region) &&
    (!selection.onlyActive || inst.isActive)

end Selection

end FleetPanel.Api
