import Loom.Json
import Mathlib.Data.List.Defs

/-!
# Runtime agents

The contracts between the Observer and the Driver and Slave agents that connect to it:
registrations, leases, driver commands, thread bindings and message receipts.  Instants are
microseconds since the epoch.
-/

namespace Loom

/-- An instant, in microseconds. -/
abbrev Timestamp := Int

inductive AgentRole where
  | driver
  | slave
  deriving Repr, DecidableEq, Inhabited

inductive LeaseState where
  | active
  | expired
  | released
  deriving Repr, DecidableEq, Inhabited

/-- `DRIVER_COMMANDS`. -/
def driverCommands : List String :=
  ["run.open", "run.begin", "run.get", "run.patch", "run.commit", "run.start",
    "run.close", "run.cancel", "run.fail", "run.resolve", "run.readiness",
    "run.recovery.list", "run.recovery.mark", "run.result",
    "message.append", "message.claim", "message.update", "message.release",
    "agent_signal.record", "thread.bind", "thread.get", "turn.state",
    "capability.list", "capability.get", "capability.health", "capability.desire",
    "node.accept", "node.dispatch", "node.reassign", "node.result", "node.fail"]

structure AgentRegistration where
  role : AgentRole
  agentId : String
  instanceId : String
  workspaceId : String
  endpointUrl : String
  protocolVersion : String
  capabilities : Dict := []
  deriving Repr, DecidableEq, Inhabited

structure DriverCommand where
  requestId : String
  driverId : String
  instanceId : String
  leaseId : String
  driverEpoch : Int
  command : String
  arguments : Dict := []
  deriving Repr, DecidableEq, Inhabited

inductive TurnState where
  | idle
  | starting
  | inProgress
  | completed
  | interrupted
  | recoveryPending
  deriving Repr, DecidableEq, Inhabited

structure DriverThreadBinding where
  workspaceId : String
  conversationRef : String
  threadId : String
  model : String
  workspaceRoot : String
  lastTurnId : Option String := none
  turnState : TurnState := .idle
  activeRequestId : Option String := none
  driverEpoch : Int
  deriving Repr, DecidableEq, Inhabited

inductive ReceiptState where
  | accepted
  | queued
  | inFlight
  | retryable
  | completed
  | failed
  | interrupted
  deriving Repr, DecidableEq, Inhabited

structure MessageReceipt where
  workspaceId : String
  requestId : String
  conversationRef : String
  prompt : String
  state : ReceiptState := .accepted
  claimToken : Option String := none
  attemptCount : Nat := 0
  nextAttemptAt : Option Timestamp := none
  assistantText : Option String := none
  runId : Option String := none
  outcome : Option Json := none
  createdAt : Timestamp
  updatedAt : Timestamp
  deriving Repr, DecidableEq, Inhabited

end Loom
