import VirtualLab.Text.Integer
import VirtualLab.Text.Split

/-!
# Domain states

A hypervisor reports a domain as two numbers: a state and a reason. What a reason number means
depends on the state, so each state has its own table. Numbers outside the tables are never
refused: they become the unknown state and the unknown reason.
-/

namespace VirtualLab

inductive DomainState where
  | noState
  | running
  | blocked
  | paused
  | shuttingDown
  | shutOff
  | crashed
  | suspended
  | unknown
  deriving DecidableEq, Repr, Inhabited

namespace DomainState

def ofCode (code : Int) : DomainState :=
  match code with
  | 0 => noState
  | 1 => running
  | 2 => blocked
  | 3 => paused
  | 4 => shuttingDown
  | 5 => shutOff
  | 6 => crashed
  | 7 => suspended
  | _ => unknown

def label : DomainState → String
  | noState => "No State"
  | running => "Running"
  | blocked => "Blocked"
  | paused => "Paused"
  | shuttingDown => "Shutting Down"
  | shutOff => "Shut Off"
  | crashed => "Crashed"
  | suspended => "Suspended by Power Management"
  | unknown => "Unknown State"

def name : DomainState → String
  | noState => "NoState"
  | running => "Running"
  | blocked => "Blocked"
  | paused => "Paused"
  | shuttingDown => "ShuttingDown"
  | shutOff => "ShutOff"
  | crashed => "Crashed"
  | suspended => "Suspended"
  | unknown => "Unknown"

/-- The reasons for a state, the first for number zero. -/
def reasons : DomainState → List String
  | noState => ["the reason is unknown"]
  | running => [
      "the reason is unknown",
      "normal startup from boot",
      "migrated from another host",
      "restored from a state file",
      "restored from snapshot",
      "returned from paused state",
      "returned from migration",
      "returned from failed save process",
      "returned from pmsuspended due to wakeup event",
      "resumed from crashed",
      "running in post-copy migration mode",
      "running in failed post-copy migration"]
  | blocked => ["the reason is unknown"]
  | paused => [
      "the reason is unknown",
      "paused on user request",
      "paused for offline migration",
      "paused for save",
      "paused for offline core dump",
      "paused due to a disk I/O error",
      "paused due to a watchdog event",
      "restored from a snapshot which was taken while domain was paused",
      "paused during shutdown process",
      "paused while creating a snapshot",
      "paused due to a guest crash",
      "the domain is being started",
      "paused for post-copy migration",
      "paused after failed post-copy"]
  | shuttingDown => ["the reason is unknown", "shutting down on user request"]
  | shutOff => [
      "the reason is unknown",
      "normal shutdown",
      "forced poweroff",
      "domain crashed",
      "migrated to another host",
      "saved to a file",
      "domain failed to start",
      "restored from a snapshot which was taken while domain was shutoff",
      "daemon decided to kill domain during reconnection processing"]
  | crashed => ["crashed for unknown reason", "domain panicked"]
  | suspended => ["the reason is unknown"]
  | unknown => []

/-- The reason of every number outside the table of its state. -/
def unknownReason : String := "Unknown Reason"

def reasonLabel (state : DomainState) (code : Int) : String :=
  if code < 0 then unknownReason else state.reasons.getD code.toNat unknownReason

/-- The states that are forced off before a domain is removed. -/
def isActive : DomainState → Bool
  | running | blocked | paused | shuttingDown | suspended => true
  | noState | shutOff | crashed | unknown => false

def acceptsShutdown : DomainState → Bool
  | running | blocked | paused | suspended => true
  | noState | shuttingDown | shutOff | crashed | unknown => false

end DomainState

structure DomainStatus where
  state : DomainState
  reason : String
  deriving DecidableEq, Repr, Inhabited

namespace DomainStatus

def ofCodes (state reason : Int) : DomainStatus where
  state := DomainState.ofCode state
  reason := (DomainState.ofCode state).reasonLabel reason

def message (status : DomainStatus) : String := status.state.label ++ " (" ++ status.reason ++ ")"

end DomainStatus

end VirtualLab
