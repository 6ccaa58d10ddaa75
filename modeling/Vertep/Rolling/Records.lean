import Mathlib.Algebra.Order.Ring.Rat
import Vertep.Lib.Command
import Vertep.Lib.Dict

/-!
# Rollouts and the records of their nodes

The records `core/rolling_update.py` keeps. A worker record of `store.workers` and the coordinator record of
a CORE node have the fields that the module reads and writes; one that is missing is `none`. A value of
another type than the fields have here is no version, nonce or status that anything is compared with, and
stands as any other text. What `secrets.token_hex` draws are numbers, given out in turn.

Three things here are no part of the program: `issuedBy` of a directive, which says whether a rollout wrote it
into a record, and which one; `log`, the self-test requests that were issued, the newest first, each with the
phase its node was in; `finished`, the nodes that have finished rolling back.
-/

namespace Vertep.Rolling
open Lib

abbrev NodeId := String
abbrev Version := String

/-- What `_now()` gives: a text, and the time it says. The code compares the texts to see whether a test is fresh, and
the times to see whether a phase is late; every stamp is the `isoformat` of a UTC time, so the texts of such stamps
are ordered as the times are. -/
structure Instant where
  text : String
  seconds : ℚ
deriving DecidableEq

inductive Phase where
  | pending | draining | updating | selfTesting | ready
  | failed | cancelled | rollingBack | rolledBack | rollbackFailed
deriving DecidableEq

/-- `_ACTIVE_PHASES`. -/
def Phase.Active (phase : Phase) : Prop := phase = .draining ∨ phase = .updating ∨ phase = .selfTesting

instance (phase : Phase) : Decidable phase.Active := by unfold Phase.Active; infer_instance

def Phase.name : Phase → String
  | .pending => "PENDING"
  | .draining => "DRAINING"
  | .updating => "UPDATING"
  | .selfTesting => "SELF_TESTING"
  | .ready => "READY"
  | .failed => "FAILED"
  | .cancelled => "CANCELLED"
  | .rollingBack => "ROLLING_BACK"
  | .rolledBack => "ROLLED_BACK"
  | .rollbackFailed => "ROLLBACK_FAILED"

inductive State where
  | running | awaitingPromotion | rollingBack
  | succeeded | failed | rolledBack | rollbackFailed | cancelled
deriving DecidableEq

/-- `node["self_test_request"]`. -/
structure SelfTestRequest where
  nonce : ℕ
  operationId : ℕ
  targetVersion : Option Version
  requestedAt : Instant
deriving DecidableEq

/-- `record["self_test"]`; no field is an empty one. -/
structure SelfTest where
  status : Option String := none
  nonce : Option ℕ := none
  operationId : Option ℕ := none
  targetVersion : Option Version := none
  checkedAt : String := ""
  error : Option String := none
deriving DecidableEq

/-- `record["cancel_fence_ack"]`. -/
structure FenceAck where
  operationId : Option ℕ := none
  cancelFenceToken : Option ℕ := none
deriving DecidableEq

/-- A directive in a record, with the operation that issued it, if a rollout did. -/
structure Directive where
  value : String
  issuedBy : Option ℕ := none
deriving DecidableEq

/-- A worker record, or the coordinator record of a CORE node. -/
structure Record where
  version : Option Version := none
  status : Option String := none
  currentTask : Option String := none
  drained : Bool := false
  coordinatorState : Option String := none
  desiredState : Option Directive := none
  updateTargetVersion : Option Directive := none
  rollbackTargetVersion : Option Directive := none
  updateOperationId : Option ℕ := none
  selfTest : SelfTest := {}
  selfTestRequest : Option SelfTestRequest := none
  selfTestRequestedAt : Option Instant := none
  cancelFenceToken : Option ℕ := none
  cancelledOperationId : Option ℕ := none
  cancelFenceAck : FenceAck := {}
deriving DecidableEq

/-- An entry of `rollout["nodes"]`. -/
structure Node where
  nodeId : NodeId
  phase : Phase := .pending
  canary : Bool
  previousVersion : Option Version := none
  phaseStartedAt : Instant
  selfTestRequest : Option SelfTestRequest := none
  error : Option String := none
deriving DecidableEq

structure Rollout where
  operationId : ℕ
  state : State := .running
  targetVersion : Version
  updateTimeoutSeconds : ℤ
  canary : Bool
  canaryPromoted : Bool
  nodes : List Node
  coreCoordinators : Dict NodeId Record := ∅
  cancelFenceToken : Option ℕ := none
  error : Option String := none
deriving DecidableEq

/-- A self-test request was issued. -/
structure Issued where
  node : NodeId
  phase : Phase
  request : SelfTestRequest
deriving DecidableEq

/-- A node finished rolling back, and its record reported this version. -/
structure Finished where
  node : NodeId
  operationId : ℕ
  version : Option Version
deriving DecidableEq

/-- What is on disk, the worker records, the readings of the clock and the numbers drawn so far. -/
structure System where
  rollout : Option Rollout := none
  workers : Dict NodeId Record := ∅
  reads : ℕ := 0
  drawn : ℕ := 0
  log : List Issued := []
  finished : List Finished := []
deriving DecidableEq

inductive Failure where
  | valueError (message : String)
  | runtimeError (message : String)
deriving DecidableEq

abbrev RolloutM (α : Type) := Command System Failure α

def isCoreNode (node : NodeId) : Bool := node = "core" || "core-".isPrefixOf node

def Rollout.directive (r : Rollout) (value : String) : Directive := ⟨value, some r.operationId⟩

/-- The record `_coordinator` finds or makes. -/
def Rollout.coordinator (r : Rollout) (node : NodeId) : Record :=
  (r.coreCoordinators.get? node).getD { coordinatorState := some "PENDING" }

def Rollout.withCoordinator (r : Rollout) (node : NodeId) (f : Record → Record) : Rollout :=
  { r with coreCoordinators := r.coreCoordinators.set node (f (r.coordinator node)) }

/-- A worker record is written, if there is one. -/
def System.withWorker (s : System) (node : NodeId) (f : Record → Record) : System :=
  match s.workers.get? node with
  | none => s
  | some worker => { s with workers := s.workers.set node (f worker) }

end Vertep.Rolling
