/-
This file names the statuses of a node and the states of an instance.
-/

import FleetPanel.Fleet.Enumeration

namespace FleetPanel.Fleet

/-- Whether a node could be reached when it was last reported. -/
inductive NodeStatus where
  | online
  | offline
  | unknown
deriving DecidableEq, Repr

namespace NodeStatus

def name : NodeStatus → String
  | online => "ONLINE"
  | offline => "OFFLINE"
  | unknown => "UNKNOWN"

/-- The number that stands for a status, wherever the status is listed. -/
def ordinal : NodeStatus → UInt8
  | online => 0
  | offline => 1
  | unknown => 2

def word : NodeStatus → String
  | online => "Online"
  | offline => "Offline"
  | unknown => "Unknown"

/-- What a status is written as in a record. -/
def encoded (status : NodeStatus) : String :=
  capitals status.word

def set : Enumeration NodeStatus where
  all := [online, offline, unknown]
  name := name

theorem setLawful : set.Lawful where
  complete value := by cases value <;> decide
  distinct := by decide
  few := by decide

end NodeStatus

/-- The stage of an instance's life. -/
inductive InstanceState where
  | requested
  | preparing
  | prepared
  | starting
  | running
  | stopping
  | stopped
  | destroyed
  | failed
deriving DecidableEq, Repr

namespace InstanceState

def name : InstanceState → String
  | requested => "REQUESTED"
  | preparing => "PREPARING"
  | prepared => "PREPARED"
  | starting => "STARTING"
  | running => "RUNNING"
  | stopping => "STOPPING"
  | stopped => "STOPPED"
  | destroyed => "DESTROYED"
  | failed => "FAILED"

/-- The number that stands for a state, wherever the state is listed. -/
def ordinal : InstanceState → UInt8
  | requested => 0
  | preparing => 1
  | prepared => 2
  | starting => 3
  | running => 4
  | stopping => 5
  | stopped => 6
  | destroyed => 7
  | failed => 8

def word : InstanceState → String
  | requested => "Requested"
  | preparing => "Preparing"
  | prepared => "Prepared"
  | starting => "Starting"
  | running => "Running"
  | stopping => "Stopping"
  | stopped => "Stopped"
  | destroyed => "Destroyed"
  | failed => "Failed"

/-- What a state is written as in a record. -/
def encoded (state : InstanceState) : String :=
  capitals state.word

def set : Enumeration InstanceState where
  all := [requested, preparing, prepared, starting, running, stopping, stopped, destroyed, failed]
  name := name

/-- Nothing leaves a terminal state. -/
def isTerminal (state : InstanceState) : Bool :=
  state == destroyed || state == failed

theorem setLawful : set.Lawful where
  complete value := by cases value <;> decide
  distinct := by decide
  few := by decide

end InstanceState

end FleetPanel.Fleet
