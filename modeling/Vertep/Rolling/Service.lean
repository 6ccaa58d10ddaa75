import Mathlib.Data.List.Dedup
import Mathlib.Data.List.Sort
import Vertep.Rolling.Records

/-!
# Rolling updates

Embedding of `core/rolling_update.py`. A call reads the rollout, changes its copy and writes it in the end,
under the locks of the module, so that each call is one step; the copy is passed along here, and the worker
records, which are changed in place, are part of the state. Of the list of nodes, the one a call works on is
taken out and put back in its place. The clock is a sequence of readings, taken wherever the source calls
`_now()` or `datetime.now`; nothing says that they increase.
-/

namespace Vertep.Rolling
open Lib Command

variable (clock : ℕ → Instant)

/-- `_now()`. -/
def now : RolloutM Instant := do
  let s ← read
  write fun s => { s with reads := s.reads + 1 }
  pure (clock s.reads)

/-- `secrets.token_hex(16)`. -/
def tokenHex : RolloutM ℕ := do
  let s ← read
  write fun s => { s with drawn := s.drawn + 1 }
  pure s.drawn

/-- `_write`. -/
def save (r : Rollout) : RolloutM Unit := write fun s => { s with rollout := some r }

def modifyWorker (node : NodeId) (f : Record → Record) : RolloutM Unit := write fun s => s.withWorker node f

/-! ## Operator calls -/

inductive Order where
  | workersFirst | coreFirst | custom
deriving DecidableEq

def orderedNodes (nodes : List NodeId) (order : Order) : List NodeId :=
  let unique := if order = .custom then nodes.reverse.dedup.reverse else nodes.dedup.mergeSort (· ≤ ·)
  let cores := unique.filter (isCoreNode ·)
  let workers := unique.filter (!isCoreNode ·)
  match order with
  | .coreFirst => cores ++ workers
  | .workersFirst => workers ++ cores
  | .custom => unique

def State.Live (state : State) : Prop := state = .running ∨ state = .awaitingPromotion ∨ state = .rollingBack

instance (state : State) : Decidable state.Live := by unfold State.Live; infer_instance

/-- `nodes` of `start_rollout`. -/
def newNodes (ids : List NodeId) (canary : Bool) (at_ : Instant) : List Node :=
  ids.mapIdx fun i id => { nodeId := id, canary := canary && i = 0, phaseStartedAt := at_ }

def startRollout (target : Version) (nodes : List NodeId) (order : Order) (timeout : ℤ) (canary : Bool) :
    RolloutM Unit :=
  if target = "" ∨ 64 < target.length then raise (.valueError "Target version is invalid")
  else if timeout < 60 ∨ 86400 < timeout then
    raise (.valueError "Update timeout must be between 60 and 86400 seconds")
  else if orderedNodes nodes order = [] then raise (.valueError "Rolling update requires at least one node")
  else do
    let s ← read
    if (s.rollout.map fun r => decide r.state.Live) = some true then
      raise (.runtimeError "A rolling update is already running")
    else do
      let t ← now clock
      let operation ← tokenHex
      save
        { operationId := operation, targetVersion := target, updateTimeoutSeconds := timeout, canary := canary
          canaryPromoted := !canary, nodes := newNodes (orderedNodes nodes order) canary t }

def promoteRollout : RolloutM Unit := do
  let s ← read
  match s.rollout with
  | none => raise (.runtimeError "The rollout is not awaiting canary promotion")
  | some r =>
    if r.state ≠ .awaitingPromotion then raise (.runtimeError "The rollout is not awaiting canary promotion")
    else save { r with state := .running, canaryPromoted := true }

def Phase.Settled (phase : Phase) : Prop := phase = .ready ∨ phase = .failed ∨ phase = .rolledBack

instance (phase : Phase) : Decidable phase.Settled := by unfold Phase.Settled; infer_instance

/-- What `cancel_rollout` makes of a rollout that is going on. -/
def Rollout.cancel (r : Rollout) (token : ℕ) : Rollout :=
  { r with
    state := .cancelled
    nodes := r.nodes.map fun n => if n.phase.Settled then n else { n with phase := .cancelled }
    cancelFenceToken := some token }

def cancelRollout : RolloutM Unit := do
  let s ← read
  match s.rollout with
  | none => pure ()
  | some r => when r.state.Live do
    let token ← tokenHex
    save (r.cancel token)

/-! ## Self-tests -/

def SelfTestRequest.Stands (q : SelfTestRequest) (r : Rollout) (target : Option Version) : Prop :=
  q.operationId = r.operationId ∧ q.targetVersion = target

instance (q : SelfTestRequest) (r : Rollout) (target : Option Version) : Decidable (q.Stands r target) := by
  unfold SelfTestRequest.Stands; infer_instance

def issueRequest (node : Node) (r : Rollout) (target : Option Version) : RolloutM SelfTestRequest := do
  let nonce ← tokenHex
  let t ← now clock
  let request : SelfTestRequest := ⟨nonce, r.operationId, target, t⟩
  write fun s => { s with log := ⟨node.nodeId, node.phase, request⟩ :: s.log }
  pure request

/-- `_ensure_self_test_request`; its callers put the request into the node and the record. -/
def ensureSelfTestRequest (node : Node) (r : Rollout) (target : Option Version) : RolloutM SelfTestRequest :=
  match node.selfTestRequest with
  | none => issueRequest clock node r target
  | some q => if q.Stands r target then pure q else issueRequest clock node r target

def selfTestBound (test : SelfTest) (node : Node) (r : Rollout) : Bool :=
  match node.selfTestRequest with
  | none => true
  | some q => test.nonce = some q.nonce && test.operationId = some q.operationId &&
      test.targetVersion = q.targetVersion && q.operationId = r.operationId

def rollbackConfirmed (r : Rollout) (node : Node) (record : Record) : Bool :=
  record.version = node.previousVersion && record.selfTest.status = some "PASSED" &&
    node.phaseStartedAt.text ≤ record.selfTest.checkedAt &&
    (match node.selfTestRequest with
      | none => false
      | some q => q.operationId = r.operationId && q.targetVersion = node.previousVersion) &&
    selfTestBound record.selfTest node r

def timedOut (node : Node) (timeout : ℤ) : RolloutM Bool := do
  let t ← now clock
  pure (timeout < t.seconds - node.phaseStartedAt.seconds)

/-! ## Fences -/

/-- `assert_not_fenced`, of a record whose own fields are `worker`. -/
def Rollout.fences (r : Rollout) (worker : Record) : Bool :=
  match r.cancelFenceToken with
  | none => false
  | some token =>
    r.state = .cancelled &&
      (worker.updateOperationId = some r.operationId || worker.cancelledOperationId = some r.operationId ||
        worker.cancelFenceToken = some token) &&
      !(worker.cancelFenceAck.cancelFenceToken = some token &&
        worker.cancelFenceAck.operationId = some r.operationId)

/-- An acknowledgement counts before the fence is looked at. -/
def Record.acknowledge (record : Record) : Option FenceAck → Record
  | none => record
  | some ack => if ack.cancelFenceToken.isSome then { record with cancelFenceAck := ack } else record

/-- `update_core_coordinator`. What it is given may change any field. -/
def updateCoreCoordinator (node : NodeId) (ack : Option FenceAck) (updates : Record → Record) :
    RolloutM Unit := do
  if !isCoreNode node then raise (.valueError "Only a CORE node has a rollout coordinator")
  else do
    let s ← read
    match s.rollout with
    | none => raise (.runtimeError "There is no active rollout for this CORE node")
    | some r =>
      if node ∉ r.nodes.map (·.nodeId) then
        raise (.runtimeError s!"Node '{node}' is not part of the active rollout")
      else do
        let coordinator := (r.coordinator node).acknowledge ack
        if r.fences coordinator then
          raise (.runtimeError s!"Mutation blocked: rollout operation {r.operationId} was cancelled and this agent has not acknowledged cancel_fence_token")
        else save (r.withCoordinator node fun _ => updates coordinator)

/-- What `_cleanup_cancelled_workers` makes of a worker record. -/
def Rollout.cleanUp (r : Rollout) (worker : Record) : Record :=
  let dirty := worker.desiredState.isSome || worker.updateTargetVersion.isSome ||
    worker.updateOperationId.isSome || worker.rollbackTargetVersion.isSome
  let worker := { worker with
    desiredState := none, updateTargetVersion := none, updateOperationId := none, rollbackTargetVersion := none
    selfTestRequestedAt := if dirty then none else worker.selfTestRequestedAt }
  match r.cancelFenceToken with
  | none => worker
  | some token => { worker with cancelFenceToken := some token, cancelledOperationId := some r.operationId }

def cleanupCancelledWorkers (r : Rollout) : RolloutM Unit :=
  when (r.state = .cancelled) do
    forEach (fun node => when (node.phase = .cancelled) (modifyWorker node.nodeId r.cleanUp)) r.nodes

/-! ## Rollback -/

def Node.updated (node : Node) (worker : Option Record) (target : Version) : Bool :=
  node.phase = .ready || node.phase = .selfTesting ||
    (match worker with
      | none => false
      | some worker => worker.version = some target)

/-- The directives of a rollback in a coordinator record. -/
def Record.rollCoordinatorBack (record : Record) (r : Rollout) (node : Node) : Record :=
  { record with
    coordinatorState := some "ROLLBACK"
    rollbackTargetVersion := node.previousVersion.map r.directive
    updateOperationId := some r.operationId }

/-- The directives of a rollback in a worker record. -/
def Record.rollBack (record : Record) (r : Rollout) (node : Node) : Record :=
  { record with
    desiredState := some (r.directive "ROLLBACK")
    rollbackTargetVersion := node.previousVersion.map r.directive
    updateOperationId := some r.operationId }

def Record.requested (record : Record) (request : SelfTestRequest) : Record :=
  { record with selfTestRequest := some request }

def Record.requestedAt (record : Record) (t : Instant) : Record :=
  { record with selfTestRequestedAt := some t }

/-- One round of the loop of `_begin_rollback`: the node, and the coordinators. -/
def rollNodeBack (r : Rollout) (node : Node) : RolloutM (Node × Rollout) := do
  let s ← read
  if node.updated (s.workers.get? node.nodeId) r.targetVersion then do
    let t ← now clock
    let node := { node with phase := .rollingBack, phaseStartedAt := t }
    if isCoreNode node.nodeId then do
      let request ← ensureSelfTestRequest clock node r node.previousVersion
      let t ← now clock
      pure ({ node with selfTestRequest := some request }, r.withCoordinator node.nodeId fun record =>
        ((record.rollCoordinatorBack r node).requested request).requestedAt t)
    else if (s.workers.get? node.nodeId).isSome then do
      let request ← ensureSelfTestRequest clock node r node.previousVersion
      let t ← now clock
      modifyWorker node.nodeId fun record => ((record.rollBack r node).requested request).requestedAt t
      pure ({ node with selfTestRequest := some request }, r)
    else pure (node, r)
  else if node.phase = .failed ∨ node.phase = .cancelled then pure (node, r)
  else pure ({ node with phase := .cancelled }, r)

/-- The loop of `_begin_rollback`. -/
def rollNodesBack (r : Rollout) : List Node → RolloutM (List Node × Rollout)
  | [] => pure ([], r)
  | node :: nodes => do
    let (node, r) ← rollNodeBack clock r node
    let (nodes, r) ← rollNodesBack r nodes
    pure (node :: nodes, r)

def beginRollback (r : Rollout) (error : String) : RolloutM Unit := do
  let (nodes, r) ← rollNodesBack clock { r with state := .rollingBack, error := some error } r.nodes
  save { r with
    nodes := nodes
    state := if nodes.any (·.phase = .rollingBack) then .rollingBack else .failed }

def rollbackReadyNodes : RolloutM Unit := do
  let s ← read
  match s.rollout with
  | none => pure ()
  | some r => when r.state.Live (beginRollback clock r "Rollback requested by operator")

/-! ## Reconciliation -/

/-- What a step makes of the node it works on: the node, the rollout, and the error when the node fails. -/
structure Outcome where
  node : Node
  rollout : Rollout
  failure : Option String := none

def Outcome.fail (node : Node) (r : Rollout) (error : Option String) : Outcome :=
  ⟨{ node with phase := .failed, error := error }, r, some (error.getD "")⟩

def Node.late (node : Node) : Option String := some s!"{node.phase.name} timed out"

def Record.drainCoordinator (record : Record) (r : Rollout) : Record :=
  { record with coordinatorState := some "DRAINING", updateOperationId := some r.operationId }

def Record.targetCoordinator (record : Record) (r : Rollout) : Record :=
  { record with
    coordinatorState := some "UPDATING"
    updateTargetVersion := some (r.directive r.targetVersion) }

def Record.updateCoordinator (record : Record) (r : Rollout) : Record :=
  { record with
    coordinatorState := some "UPDATING"
    updateOperationId := some r.operationId
    updateTargetVersion := some (r.directive r.targetVersion) }

/-- `_reconcile_core_active`, up to its writes. -/
def reconcileCoreActive (r : Rollout) (node : Node) : RolloutM Outcome := do
  let r := r.withCoordinator node.nodeId id
  let late ← timedOut clock node r.updateTimeoutSeconds
  if late then pure (.fail node r node.late)
  else match node.phase with
    | .draining => do
      let r := r.withCoordinator node.nodeId (·.drainCoordinator r)
      let coordinator := r.coordinator node.nodeId
      if coordinator.drained then do
        let t ← now clock
        pure
          ⟨{ node with phase := .updating, phaseStartedAt := t, previousVersion := coordinator.version },
            r.withCoordinator node.nodeId (·.targetCoordinator r), none⟩
      else pure ⟨node, r, none⟩
    | .updating => do
      let r := r.withCoordinator node.nodeId (·.updateCoordinator r)
      if (r.coordinator node.nodeId).version = some r.targetVersion then do
        let t ← now clock
        let node := { node with phase := .selfTesting, phaseStartedAt := t }
        let request ← ensureSelfTestRequest clock node r (some r.targetVersion)
        let t ← now clock
        pure
          ⟨{ node with selfTestRequest := some request }, r.withCoordinator node.nodeId fun c =>
            { (c.requested request).requestedAt t with coordinatorState := some "SELF_TESTING" }, none⟩
      else pure ⟨node, r, none⟩
    | .selfTesting => do
      let test := (r.coordinator node.nodeId).selfTest
      if test.status = some "FAILED" then pure (.fail node r (some (test.error.getD "Self-test failed")))
      else do
        let request ← ensureSelfTestRequest clock node r (some r.targetVersion)
        let node := { node with selfTestRequest := some request }
        let r := r.withCoordinator node.nodeId (·.requested request)
        let bound := selfTestBound test node r
        if bound && test.status = some "PASSED" && (r.coordinator node.nodeId).version = some r.targetVersion &&
            node.phaseStartedAt.text ≤ test.checkedAt then
          pure
            ⟨{ node with phase := .ready }, r.withCoordinator node.nodeId fun c =>
              { c with coordinatorState := some "READY", selfTestRequestedAt := none }, none⟩
        else if bound then pure ⟨node, r, none⟩
        else do
          let t ← now clock
          pure ⟨node, r.withCoordinator node.nodeId (·.requestedAt t), none⟩
    | _ => pure ⟨node, r, none⟩

def Record.drain (record : Record) (r : Rollout) : Record :=
  { record with desiredState := some (r.directive "DRAINING"), updateOperationId := some r.operationId }

def Record.target (record : Record) (r : Rollout) : Record :=
  { record with
    desiredState := some (r.directive "UPDATING")
    updateTargetVersion := some (r.directive r.targetVersion) }

def Record.update (record : Record) (r : Rollout) : Record :=
  { record with
    desiredState := some (r.directive "UPDATING")
    updateTargetVersion := some (r.directive r.targetVersion)
    updateOperationId := some r.operationId }

/-- The part of `reconcile_rollout` that works on an active worker node. -/
def reconcileWorkerActive (r : Rollout) (node : Node) : RolloutM Outcome := do
  let s ← read
  match s.workers.get? node.nodeId with
  | none => pure (.fail node r (some "Worker is offline"))
  | some worker => do
    let late ← timedOut clock node r.updateTimeoutSeconds
    if late then pure (.fail node r node.late)
    else match node.phase with
      | .draining => do
        modifyWorker node.nodeId (·.drain r)
        if (worker.currentTask.getD "" = "") && worker.status ≠ some "BUSY" then do
          let t ← now clock
          modifyWorker node.nodeId (·.target r)
          pure
            ⟨{ node with phase := .updating, phaseStartedAt := t, previousVersion := worker.version }, r, none⟩
        else pure ⟨node, r, none⟩
      | .updating => do
        modifyWorker node.nodeId (·.update r)
        if worker.status = some "ERROR" then pure (.fail node r (some "Worker update failed"))
        else if worker.version = some r.targetVersion then do
          let t ← now clock
          let node := { node with phase := .selfTesting, phaseStartedAt := t }
          let request ← ensureSelfTestRequest clock node r (some r.targetVersion)
          let t ← now clock
          modifyWorker node.nodeId fun w =>
            { (w.requested request).requestedAt t with desiredState := some (r.directive "SELF_TESTING") }
          pure ⟨{ node with selfTestRequest := some request }, r, none⟩
        else pure ⟨node, r, none⟩
      | .selfTesting => do
        let test := worker.selfTest
        if test.status = some "FAILED" then pure (.fail node r (some (test.error.getD "Self-test failed")))
        else do
          let request ← ensureSelfTestRequest clock node r (some r.targetVersion)
          let node := { node with selfTestRequest := some request }
          modifyWorker node.nodeId (·.requested request)
          let bound := selfTestBound test node r
          if bound && test.status = some "PASSED" && worker.version = some r.targetVersion &&
              node.phaseStartedAt.text ≤ test.checkedAt then do
            modifyWorker node.nodeId fun w =>
              { w with desiredState := none, updateTargetVersion := none, selfTestRequestedAt := none }
            pure ⟨{ node with phase := .ready }, r, none⟩
          else if bound then pure ⟨node, r, none⟩
          else do
            let t ← now clock
            modifyWorker node.nodeId (·.requestedAt t)
            pure ⟨node, r, none⟩
      | _ => pure ⟨node, r, none⟩

def Rollout.after (r : Rollout) (node : Node) : State :=
  if node.phase = .ready ∧ node.canary ∧ !r.canaryPromoted then .awaitingPromotion else r.state

/-- The active node, between those before and after it. -/
def reconcileActive (r : Rollout) (before : List Node) (node : Node) (after : List Node) : RolloutM Unit := do
  let outcome ← if isCoreNode node.nodeId then reconcileCoreActive clock r node
    else reconcileWorkerActive clock r node
  let r := { outcome.rollout with nodes := before ++ outcome.node :: after }
  match outcome.failure with
  | some error => beginRollback clock r error
  | none => save { r with state := r.after outcome.node }

/-- `reconcile_rollout` of a running rollout. -/
def reconcileRunning (r : Rollout) : RolloutM Unit :=
  match r.nodes.span (¬ ·.phase.Active) with
  | (before, node :: after) => reconcileActive clock r before node after
  | (_, []) =>
    match r.nodes.span (·.phase ≠ .pending) with
    | (before, node :: after) => do
      let t ← now clock
      reconcileActive clock r before { node with phase := .draining, phaseStartedAt := t } after
    | (_, []) => save { r with state := .succeeded }

def finish (r : Rollout) (node : Node) (record : Record) : RolloutM Unit :=
  write fun s => { s with finished := ⟨node.nodeId, r.operationId, record.version⟩ :: s.finished }

/-- A CORE node that rolls back: the node, the rollout, and whether it failed. -/
def rollCoreOn (r : Rollout) (node : Node) : RolloutM (Node × Rollout × Bool) := do
  let r := r.withCoordinator node.nodeId id
  let late ← timedOut clock node r.updateTimeoutSeconds
  if late then pure ({ node with phase := .rollbackFailed, error := some "Rollback timed out" }, r, true)
  else do
    let request ← ensureSelfTestRequest clock node r node.previousVersion
    let r := r.withCoordinator node.nodeId fun c => (c.rollCoordinatorBack r node).requested request
    let node := { node with selfTestRequest := some request }
    let coordinator := r.coordinator node.nodeId
    if rollbackConfirmed r node coordinator then do
      finish r node coordinator
      pure
        ({ node with phase := .rolledBack }, r.withCoordinator node.nodeId fun c =>
          { c with coordinatorState := some "ROLLED_BACK", selfTestRequestedAt := none }, false)
    else if selfTestBound coordinator.selfTest node r then pure (node, r, false)
    else do
      let t ← now clock
      pure (node, r.withCoordinator node.nodeId (·.requestedAt t), false)

/-- A worker node that rolls back: the node, the rollout, and whether it failed. -/
def rollWorkerOn (r : Rollout) (node : Node) : RolloutM (Node × Rollout × Bool) := do
  let s ← read
  match s.workers.get? node.nodeId with
  | none => pure ({ node with phase := .rollbackFailed, error := some "Rollback timed out" }, r, true)
  | some worker => do
    let late ← timedOut clock node r.updateTimeoutSeconds
    if late then pure ({ node with phase := .rollbackFailed, error := some "Rollback timed out" }, r, true)
    else do
      let request ← ensureSelfTestRequest clock node r node.previousVersion
      modifyWorker node.nodeId fun w => (w.rollBack r node).requested request
      let node := { node with selfTestRequest := some request }
      if rollbackConfirmed r node worker then do
        modifyWorker node.nodeId fun w =>
          { w with desiredState := none, rollbackTargetVersion := none, selfTestRequestedAt := none }
        finish r node worker
        pure ({ node with phase := .rolledBack }, r, false)
      else if selfTestBound worker.selfTest node r then pure (node, r, false)
      else do
        let t ← now clock
        modifyWorker node.nodeId (·.requestedAt t)
        pure (node, r, false)

/-- The loop of `reconcile_rollout` over the nodes that roll back: it ends at the first that fails. -/
def rollNodesOn (r : Rollout) : List Node → RolloutM (List Node × Rollout × Bool)
  | [] => pure ([], r, false)
  | node :: nodes =>
    if node.phase ≠ .rollingBack then do
      let (nodes, r, failed) ← rollNodesOn r nodes
      pure (node :: nodes, r, failed)
    else do
      let (node, r, failed) ← if isCoreNode node.nodeId then rollCoreOn clock r node
        else rollWorkerOn clock r node
      if failed then pure (node :: nodes, r, true)
      else do
        let (nodes, r, failed) ← rollNodesOn r nodes
        pure (node :: nodes, r, failed)

/-- `reconcile_rollout` of a rollout that is rolled back. -/
def reconcileRollback (r : Rollout) : RolloutM Unit := do
  let (nodes, r, failed) ← rollNodesOn clock r r.nodes
  save { r with
    nodes := nodes
    state := if failed then .rollbackFailed
      else if nodes.all (·.phase ≠ .rollingBack) then .rolledBack
      else .rollingBack }

def reconcileRollout : RolloutM Unit := do
  let s ← read
  match s.rollout with
  | none => pure ()
  | some r => do
    cleanupCancelledWorkers r
    match r.state with
    | .rollingBack => reconcileRollback clock r
    | .running => reconcileRunning clock r
    | _ => pure ()

end Vertep.Rolling
