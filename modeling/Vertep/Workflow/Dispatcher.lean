import Vertep.Workflow.State

/-!
# The dispatcher and the polling transport

Embedding of class `Dispatcher` (`core/dispatcher.py`, without its shadow mode) and of
`PollingWorkerTransport` and the worker bookkeeping of `WorkflowRuntime` (`core/workflow/runtime.py`).
The clock is a sequence of readings, taken one after the other wherever the source calls `time()` or
`datetime.now`; nothing says that they increase. `Dispatcher()` is built without a configuration, so
leases last 30 minutes.
-/

namespace Vertep.Workflow
open Lib Queue Command

variable (clock : ℕ → ℚ)

/-- `time()`, `datetime.now(timezone.utc)`. -/
def time : EngineM ℚ := do
  let s ← read
  write fun s => { s with reads := s.reads + 1 }
  pure (clock s.reads)

def modifyDispatcher (f : Dispatcher → Dispatcher) : EngineM Unit :=
  write fun s => { s with dispatcher := f s.dispatcher }

/-- `timedelta(minutes=self.config.get("lease_duration_minutes", 30))`. -/
def leaseSeconds : ℚ := 30 * 60

/-! ## The transport of a worker -/

def Dispatcher.setActive (d : Dispatcher) (node : NodeId) (active : Option Active) : Dispatcher :=
  { d with transports := d.transports.set node active }

/-- `PollingWorkerTransport.submit`; the future is known by the lease. -/
def transportSubmit (node : NodeId) (request : TaskRequest) (lease : Lease) : EngineM Unit := do
  let s ← read
  match s.dispatcher.transports.get? node with
  | some (some _) => raise (.runtimeError "Worker is busy")
  | _ => do
    modifyDispatcher fun d => d.setActive node (some { request, lease })
    write fun s => { s with futures := s.futures.set lease.leaseId .waiting }
    note (.submitted request lease)

def Dispatcher.cancel (d : Dispatcher) (node : NodeId) (lease : Lease) : Dispatcher :=
  match d.transports.get? node with
  | some (some active) =>
    if active.lease.leaseId = lease.leaseId then
      d.setActive node (some { active with cancelled := true })
    else d
  | _ => d

/-- `PollingWorkerTransport.poll`. -/
def transportPoll (node : NodeId) : EngineM (Option TaskRequest) := do
  let s ← read
  match s.dispatcher.transports.get? node with
  | some (some active) =>
    if active.delivered then pure none
    else if active.cancelled then do
      write fun s =>
        { s with futures := s.futures.set active.lease.leaseId (.exception "Task cancelled before delivery") }
      modifyDispatcher fun d => d.setActive node none
      pure none
    else do
      modifyDispatcher fun d => d.setActive node (some { active with delivered := true })
      pure (some active.request)
  | _ => pure none

/-- `PollingWorkerTransport.result`. -/
def transportResult (node : NodeId) (lease : LeaseId) (outcome : Except String WorkerResult) :
    EngineM Bool := do
  let s ← read
  match s.dispatcher.transports.get? node with
  | some (some active) =>
    if active.lease.leaseId = lease then do
      match outcome with
      | .error message =>
        write fun s => { s with futures := s.futures.set lease (.exception message) }
      | .ok value => do
        write fun s => { s with futures := s.futures.set lease (.result value) }
        note (.reported lease value)
      modifyDispatcher fun d => d.setActive node none
      pure true
    else pure false
  | _ => pure false

/-! ## Leases -/

/-- `Dispatcher.owns_lease` at a time. -/
def Dispatcher.owns (d : Dispatcher) (task : DispatchId) (worker : NodeId) (lease : LeaseId) (now : ℚ) :
    Bool :=
  match d.taskLeases.get? task, d.nodeRegistry.get? worker with
  | some l, some info =>
    l.workerId = worker && l.leaseId = lease && now < l.expiresAt && now - info.lastHeartbeat ≤ 45
  | _, _ => false

def ownsLease (task : DispatchId) (worker : NodeId) (lease : LeaseId) : EngineM Bool := do
  let s ← read
  let now ← time clock
  pure (s.dispatcher.owns task worker lease now)

def acceptResult (task : DispatchId) (worker : NodeId) (lease : LeaseId) : EngineM Bool := do
  let s ← read
  let now ← time clock
  match s.dispatcher.owns task worker lease now, s.dispatcher.taskLeases.get? task with
  | true, some l => do
    modifyDispatcher fun d => { d with taskLeases := d.taskLeases.pop task }
    note (.accepted l now)
    pure true
  | _, _ => pure false

def renewLease (task : DispatchId) (worker : NodeId) (lease : LeaseId) : EngineM Bool := do
  let s ← read
  let now ← time clock
  match s.dispatcher.taskLeases.get? task with
  | none => pure false
  | some l =>
    if l.workerId ≠ worker ∨ l.leaseId ≠ lease ∨ l.expiresAt ≤ now then pure false
    else do
      modifyDispatcher fun d =>
        { d with taskLeases := d.taskLeases.set task { l with expiresAt := now + leaseSeconds } }
      pure true

def revokeTask (task : DispatchId) : EngineM Bool := do
  let s ← read
  match s.dispatcher.taskLeases.get? task with
  | none => pure false
  | some lease => do
    modifyDispatcher fun d =>
      Dispatcher.cancel { d with taskLeases := d.taskLeases.pop task } lease.workerId lease
    note (.revoked lease.leaseId)
    pure true

/-! ## Assignment -/

/-- Some unexpired lease of the node: the `any(...)` of `_find_candidates`. -/
def holdsLease (node : NodeId) : List Lease → EngineM Bool
  | [] => pure false
  | lease :: leases =>
    if lease.workerId = node then do
      let now ← time clock
      if now < lease.expiresAt then pure true else holdsLease node leases
    else holdsLease node leases

/-- The part of `_find_candidates` that only compares the node with the request. -/
def NodeInfo.suits (info : NodeInfo) (required : List String) (request : TaskRequest) : Bool :=
  let resources := info.resources
  required.all (· ∈ info.capabilities) && !resources.busy &&
    (match request.payload.module? with
      | none => true
      | some (name, manifest) =>
        resources.moduleVersions.get? name = some manifest.version &&
          manifest.resourceRequirements.minCpuCores ≤ resources.cpuCores &&
          manifest.resourceRequirements.minRamMb ≤ resources.ramMb) &&
    request.vramMb ≤ resources.vramMb

/-- One round of the loop of `_find_candidates`. -/
def isCandidate (required : List String) (request : TaskRequest) (node : NodeId) (info : NodeInfo) :
    EngineM Bool := do
  let s ← read
  match s.dispatcher.transports.get? node with
  | some (some _) => pure false
  | _ => do
    let now ← time clock
    if now - info.lastHeartbeat > 45 then pure false
    else do
      let held ← holdsLease clock node s.dispatcher.taskLeases.values
      pure (!held && info.suits required request)

def findCandidates (required : List String) (request : TaskRequest) :
    List (NodeId × NodeInfo) → EngineM (List NodeId)
  | [] => pure []
  | (node, info) :: nodes => do
    let suitable ← isCandidate clock required request node info
    let others ← findCandidates required request nodes
    pure (if suitable then node :: others else others)

/-- `capabilities_required or {task_type}`. -/
def TaskRequest.required (request : TaskRequest) : List String :=
  if request.capabilitiesRequired = [] then [request.taskType] else request.capabilitiesRequired

/-- The lease of the task is unexpired. -/
def alreadyOwned (task : DispatchId) : EngineM Bool := do
  let s ← read
  match s.dispatcher.taskLeases.get? task with
  | none => pure false
  | some lease => do
    let now ← time clock
    pure (now < lease.expiresAt)

/-- `Dispatcher.assign_task`: the lease, or why there is none. -/
def assignTask (request : TaskRequest) : EngineM (Except String Lease) := do
  let owned ← alreadyOwned clock request.taskId
  if owned then pure (.error "Task already has an owner")
  else do
    let s ← read
    let candidates ← findCandidates clock request.required request s.dispatcher.nodeRegistry.entries
    match candidates with
    | [] => pure (.error "No worker with required capabilities available")
    | node :: _ => do
      let now ← time clock
      let s ← read
      let lease : Lease := ⟨node, now + leaseSeconds, request.taskId, s.nextLease⟩
      write fun s => { s with nextLease := s.nextLease + 1 }
      modifyDispatcher fun d => { d with taskLeases := d.taskLeases.set request.taskId lease }
      let seen ← time clock
      modifyDispatcher fun d => match d.nodeRegistry.get? node with
        | none => d
        | some info => { d with nodeRegistry := d.nodeRegistry.set node { info with lastHeartbeat := seen } }
      pure (.ok lease)

def submitTask (request : TaskRequest) : EngineM Lease := do
  let response ← assignTask clock request
  match response with
  | .error reason => raise (.runtimeError reason)
  | .ok lease => do
    let s ← read
    if s.dispatcher.transports.contains lease.workerId then do
      handle (transportSubmit lease.workerId request lease) fun e => do
        let _ ← revokeTask request.taskId
        raise e
      pure lease
    else do
      let _ ← revokeTask request.taskId
      raise (.runtimeError "Selected worker has no execution transport")

/-! ## Workers -/

def unregisterNode (node : NodeId) : EngineM Unit := do
  modifyDispatcher fun d => { d with nodeRegistry := d.nodeRegistry.pop node }
  let s ← read
  forEach (fun entry : DispatchId × Lease => when (entry.2.workerId = node) do
    let _ ← revokeTask entry.1) s.dispatcher.taskLeases.entries

def heartbeat (node : NodeId) : EngineM Unit := do
  let s ← read
  when (s.dispatcher.nodeRegistry.contains node) do
    let now ← time clock
    modifyDispatcher fun d => match d.nodeRegistry.get? node with
      | none => d
      | some info => { d with nodeRegistry := d.nodeRegistry.set node { info with lastHeartbeat := now } }

/-- The runtime of the node started again while it had a task: `previous_instance` and `current_instance`
in `WorkflowRuntime.register`. -/
def restarted (previous : Option NodeInfo) (current : Option String) : Bool :=
  match previous.bind (·.resources.runtimeInstanceId), current with
  | some before, some after => before ≠ "" && after ≠ "" && before ≠ after
  | _, _ => false

/-- `WorkflowRuntime.register`, once the worker passed its checks; `modules` is the registry rebuilt from
the reports of all workers. -/
def registerWorker (node : NodeId) (capabilities : List String) (resources : Resources)
    (modules : Dict String Manifest) : EngineM Unit := do
  let s ← read
  match s.dispatcher.transports.get? node with
  | some (some active) =>
    when (restarted (s.dispatcher.nodeRegistry.get? node) resources.runtimeInstanceId) do
      let _ ← revokeTask active.lease.taskId
      let _ ← transportResult node active.lease.leaseId (.error "Worker process restarted")
  | _ => pure ()
  write fun s => { s with moduleRegistry := modules }
  let now ← time clock
  modifyDispatcher fun d =>
    { d with
      nodeRegistry := d.nodeRegistry.set node ⟨capabilities, resources, now⟩
      transports := if d.transports.contains node then d.transports else d.transports.set node none }

/-- What `store.workers` says of a node: when it was last seen (never, if the text is no date) and its
current task. -/
structure WorkerRecord where
  lastSeen : ℚ
  currentTask : Option DispatchId

/-- What `WorkflowRuntime.tick` notes about a node. -/
def NodeInfo.observe (info : NodeInfo) (worker : WorkerRecord) (own : Option DispatchId) : NodeInfo :=
  let busy := worker.currentTask.isSome && worker.currentTask ≠ own
  { info with lastHeartbeat := worker.lastSeen, resources := { info.resources with busy := busy } }

/-- The loop of `WorkflowRuntime.tick` over the registered nodes. -/
def observeWorkers (workers : Dict NodeId WorkerRecord) : EngineM Unit := do
  let s ← read
  forEach (fun entry : NodeId × NodeInfo => match workers.get? entry.1 with
    | none => unregisterNode entry.1
    | some worker => modifyDispatcher fun d => match d.nodeRegistry.get? entry.1 with
      | none => d
      | some info =>
        let own := ((d.transports.get? entry.1).join).map fun active => active.lease.taskId
        { d with nodeRegistry := d.nodeRegistry.set entry.1 (info.observe worker own) })
    s.dispatcher.nodeRegistry.entries

end Vertep.Workflow
