import Vertep.Workflow.Dispatcher

/-!
# The workflow engine

Embedding of `core/workflow/engine.py`. `_execute_tasks` goes over the tasks of one job in the order of
its definition; `advance` is one round of that loop, with the part that collects an attempt (`harvest`)
and the part that dispatches (`dispatch`). The `continue` after an attempt that still runs skips only a
dispatch that a running task does not get anyway.

`journal` holds the documents `save_job` wrote, the newest first; `restart` loads what is left of it when
the newest `lost` of them never reached the disk, as after a crash inside an operation.
-/

namespace Vertep.Workflow
open Lib Queue Command

mutual

/-- A JSON value up to the `==` of Python, where `True` is `1`. -/
def pythonValue : Json → Json
  | .bool b => .num (if b then 1 else 0)
  | .arr elems => .arr (pythonElems elems)
  | .obj members => .obj (pythonMembers members)
  | j => j

def pythonElems : Elems → Elems
  | .nil => .nil
  | .cons j elems => .cons (pythonValue j) (pythonElems elems)

def pythonMembers : Members → Members
  | .nil => .nil
  | .cons k j members => .cons k (pythonValue j) (pythonMembers members)

end

/-- `"PENDING" if task.get("approval_required") else "APPROVED"`. -/
def TaskDefinition.firstApproval (definition : TaskDefinition) : Approval :=
  if definition.approvalRequired then .pending else .approved

/-- The record `create_job` makes. -/
def WorkflowDefinition.newJob (definition : WorkflowDefinition) (id : JobId) (params : Dict String Json) :
    WorkflowJob where
  id := id
  definition := definition
  params := params
  tasks := definition.tasks.foldl (fun tasks d => tasks.set d.id
    { dependencies := d.dependencies, approval := d.firstApproval }) ∅

def createJob (definition : WorkflowDefinition) (params : Dict String Json) : EngineM JobId :=
  if validateWorkflow definition ≠ [] then raise (.invalidWorkflow (validateWorkflow definition))
  else do
    let s ← read
    write fun s =>
      { s with nextJob := s.nextJob + 1, jobs := s.jobs.set s.nextJob (definition.newJob s.nextJob params) }
    saveJob s.nextJob
    pure s.nextJob

/-! ## `_execute_tasks` -/

variable (clock : ℕ → ℚ)

/-- `expired`. -/
def attemptExpired (sent : Dispatched) (lease : Lease) : EngineM Bool := do
  let now ← time clock
  if sent.deadline ≤ now then pure true
  else do
    let owned ← ownsLease clock sent.dispatchId lease.workerId lease.leaseId
    pure !owned

/-- `future.done()`. -/
def Engine.futureDone (s : Engine) (lease : LeaseId) : Bool :=
  match s.futures.get? lease with
  | none => false
  | some future => future.isDone

/-- `future.result()` of a future that is done. -/
def futureResult (lease : LeaseId) : EngineM WorkerResult := do
  let s ← read
  match s.futures.get? lease with
  | some (.result value) => pure value
  | some (.exception message) => raise (.runtimeError message)
  | _ => raise (.keyError s!"{lease}")

/-- The `try` of `_execute_tasks`. -/
def takeResult (job : JobId) (id : TaskId) (sent : Dispatched) (lease : Lease) (expired : Bool) :
    EngineM Unit :=
  if expired then do
    let _ ← revokeTask sent.dispatchId
    note (.timedOut lease.leaseId)
    raise (.timeoutError "Task attempt timed out")
  else do
    let value ← futureResult lease.leaseId
    match value with
    | .other refusal => raise (.valueError refusal)
    | .json output => do
      let accepted ← acceptResult clock sent.dispatchId lease.workerId lease.leaseId
      if accepted then
        updateTask job id fun t =>
          { t with status := .completed, output := output, progressPercent := 100, error := none }
      else raise (.runtimeError "Stale worker result rejected")

/-- Its `except`. -/
def failAttempt (job : JobId) (id : TaskId) (sent : Dispatched) (retry : Retry) (e : Failure) :
    EngineM Unit := do
  let _ ← revokeTask sent.dispatchId
  let now ← time clock
  updateTask job id fun t =>
    { t with
      error := some e.text
      status := if t.attempts < retry.maxAttempts then .pending else .failed
      retryAt := now + retry.delaySeconds }

/-- The collecting half of a round. -/
def harvest (job : JobId) (id : TaskId) (definition : TaskDefinition) : EngineM Unit := do
  let task ← taskOf job id
  let s ← read
  match s.attempts.get? (job, id) with
  | none => pure ()
  | some lease => when (task.status = .running) do
    match task.dispatched with
    | none => raise (.keyError "deadline")
    | some sent => do
      let expired ← attemptExpired clock sent lease
      let s ← read
      when (s.futureDone lease.leaseId || expired) do
        write fun s => { s with attempts := s.attempts.pop (job, id) }
        handle (takeResult clock job id sent lease expired) (failAttempt clock job id sent definition.retry)

/-- `all(...)` over the dependencies. -/
def WorkflowJob.ready (job : WorkflowJob) (task : WorkflowTask) : Bool :=
  task.dependencies.all fun dep => match job.tasks.get? dep with
    | none => false
    | some d => d.status.Done && d.approval = .approved

/-- The condition of the task is there and does not hold. -/
def WorkflowJob.skips (job : WorkflowJob) (definition : TaskDefinition) : Bool :=
  match definition.condition with
  | none => false
  | some c => pythonValue ((job.params.get? c.param).getD .null) ≠ pythonValue c.equals

/-- `{dep: job["tasks"][dep]["output"] for dep in task["dependencies"]}`. -/
def WorkflowJob.outputs (job : WorkflowJob) (task : WorkflowTask) : Dict TaskId Json :=
  task.dependencies.foldl (fun outputs dep => match job.tasks.get? dep with
    | none => outputs
    | some d => outputs.set dep d.output) ∅

/-- The request for the next attempt, if the module of the task is known. -/
def Engine.requestOf (s : Engine) (jobId : JobId) (job : WorkflowJob) (id : TaskId) (task : WorkflowTask)
    (definition : TaskDefinition) : Option TaskRequest :=
  let request (module? : Option (String × Manifest)) (capabilities : List String) (vram : ℚ) : TaskRequest :=
    { taskId := ⟨jobId, id, task.revision, task.attempts + 1⟩
      taskType := definition.type
      capabilitiesRequired := capabilities
      vramMb := vram
      payload := ⟨definition.input, module?, jobId, job.params, job.outputs task⟩ }
  if definition.moduleName = "" then
    some (request none definition.capabilitiesRequired definition.vramMb)
  else match s.moduleRegistry.get? definition.moduleName with
    | none => none
    | some manifest =>
      some (request (some (definition.moduleName, manifest))
        (definition.capabilitiesRequired ++ manifest.capabilities)
        (max definition.vramMb manifest.resourceRequirements.minVramMb))

/-- `submit_task` with what its `except RuntimeError` does. -/
def trySubmit (job : JobId) (id : TaskId) (request : TaskRequest) : EngineM (Option Lease) :=
  handle (do
    let lease ← submitTask clock request
    pure (some lease)) fun e => match e with
      | .runtimeError message => do
        updateTask job id fun t => { t with error := some message }
        pure none
      | e => raise e

/-- The dispatching half of a round. -/
def dispatch (job : JobId) (id : TaskId) (definition : TaskDefinition) (allow : Bool) : EngineM Unit := do
  let j ← jobOf job
  let task ← taskOf job id
  if !allow || j.status ≠ .inProgress || task.status ≠ .pending || !j.ready task then pure ()
  else if j.skips definition then
    updateTask job id fun t => { t with status := .skipped, progressPercent := 100, approval := .approved }
  else do
    let now ← time clock
    if now < task.retryAt then pure ()
    else do
      let s ← read
      match s.requestOf job j id task definition with
      | none => updateTask job id fun t => { t with error := some "Required module is not discovered" }
      | some request => do
        let sent ← trySubmit clock job id request
        match sent with
        | none => pure ()
        | some lease => do
          let now ← time clock
          updateTask job id fun t =>
            { t with
              status := .running
              attempts := t.attempts + 1
              dispatched := some
                ⟨request.taskId, lease.leaseId, lease.workerId, now + definition.timeoutMinutes * 60⟩ }
          write fun s => { s with attempts := s.attempts.set (job, id) lease }

/-- One round of the loop. -/
def advance (job : JobId) (allow : Bool) (id : TaskId) : EngineM Unit := do
  let j ← jobOf job
  match j.definitionOf id with
  | none => raise (.keyError id)
  | some definition => do
    harvest clock job id definition
    dispatch clock job id definition allow

/-- `self.dispatcher.revoke_task(task["dispatch_id"])`, `self._attempts.pop((job_id, task_id), None)`. -/
def revokeAttempt (job : JobId) (id : TaskId) (task : WorkflowTask) : EngineM Unit :=
  match task.dispatched with
  | none => raise (.keyError "dispatch_id")
  | some sent => do
    let _ ← revokeTask sent.dispatchId
    write fun s => { s with attempts := s.attempts.pop (job, id) }

/-- One round of the loop over the running tasks of a job that failed or was cancelled. -/
def cancelTask (job : JobId) (id : TaskId) : EngineM Unit := do
  let task ← taskOf job id
  when (task.status = .running) do
    revokeAttempt job id task
    updateTask job id fun t => { t with status := .cancelled }

/-- The loop over the running tasks of a job that failed or was cancelled. -/
def cancelRunning (job : JobId) : EngineM Unit := do
  let j ← jobOf job
  forEach (cancelTask job) j.tasks.keys

/-- `int(100 * sum(...) / len(tasks))`. -/
def WorkflowJob.percent (job : WorkflowJob) : ℕ :=
  100 * (job.tasks.values.countP fun t => t.status.Done) / job.tasks.values.length

def WorkflowJob.finished (job : WorkflowJob) : Bool :=
  job.tasks.values.all fun t => t.status.Done && t.approval = .approved

/-- What `_execute_tasks` does after its loop. -/
def settleJob (job : JobId) : EngineM Unit := do
  let j ← jobOf job
  write fun s => s.updateJob job fun j => { j with progress := j.percent }
  when (j.status = .inProgress) do
    if j.tasks.values.any (·.status = .failed) then do
      updateStatus job .failed
      cancelRunning job
    else when j.finished (updateStatus job .completed)
  saveJob job

def executeTasks (job : JobId) (allow : Bool) : EngineM Unit := do
  let j ← jobOf job
  forEach (advance clock job allow) j.tasks.keys
  settleJob job

/-! ## The calls -/

/-- `if job_id not in self._jobs: raise`. -/
def foundJob (job : JobId) : EngineM WorkflowJob := do
  let s ← read
  match s.jobs.get? job with
  | none => raise (.valueError s!"Job {job} not found")
  | some j => pure j

def startJob (job : JobId) (allow : Bool) : EngineM Unit := do
  let j ← foundJob job
  when (j.status = .new) do
    updateStatus job .inProgress
    saveJob job
    executeTasks clock job allow

def tick (allow : Bool) : EngineM Unit := do
  let s ← read
  forEach (fun job => do
    let j ← jobOf job
    when (j.status = .inProgress ∨ j.status = .paused) (executeTasks clock job allow)) s.jobs.keys

/-- `WorkflowEngine.record_progress`; a dispatch id names its job and task. -/
def recordProgress (dispatchId : DispatchId) (worker : NodeId) (lease : LeaseId) (percent : ℚ) :
    EngineM Bool := do
  if percent < 0 ∨ 100 < percent then pure false
  else do
    let owned ← ownsLease clock dispatchId worker lease
    let s ← read
    match s.task? dispatchId.job dispatchId.task with
    | none => pure false
    | some task =>
      if owned && task.status = .running && task.dispatched.map (·.dispatchId) = some dispatchId then do
        updateTask dispatchId.job dispatchId.task fun t => { t with progressPercent := percent }
        saveJob dispatchId.job
        pure true
      else pure false

def approveTask (job : JobId) (id : TaskId) (approved : Bool) (expectedRevision : Option ℕ) :
    EngineM Unit := do
  let j ← jobOf job
  let task ← taskOf job id
  if task.status ≠ .completed then raise (.valueError "Only completed output can be approved")
  else if expectedRevision.isSome && expectedRevision ≠ some task.revision then
    raise (.valueError "Stale workflow approval revision")
  else do
    note (.decided id approved j)
    updateTask job id fun t => { t with approval := if approved then .approved else .rejected }
    saveJob job

/-- `affected | {key ... if affected.intersection(task["dependencies"])}`. -/
def WorkflowJob.expand (job : WorkflowJob) (affected : List TaskId) : List TaskId :=
  job.tasks.keys.filter fun key => key ∈ affected ||
    match job.tasks.get? key with
    | none => false
    | some task => task.dependencies.any (· ∈ affected)

/-- The `while` of `revise_task`: every round but the last adds a task. -/
def WorkflowJob.downstream (job : WorkflowJob) : ℕ → List TaskId → List TaskId
  | 0, affected => affected
  | rounds + 1, affected =>
    if job.expand affected = affected then affected else job.downstream rounds (job.expand affected)

/-- `definitions[task_id]["input"] = deepcopy(inputs)`. -/
def WorkflowJob.setInput (job : WorkflowJob) (id : TaskId) (inputs : Dict String Json) : WorkflowJob :=
  { job with definition :=
      { job.definition with tasks := job.definition.tasks.map fun d =>
          if d.id = id then { d with input := inputs } else d } }

/-- What `revise_task` makes of an affected record. -/
def WorkflowTask.reset (task : WorkflowTask) (approval : Approval) : WorkflowTask :=
  { task with
    history := task.history ++ [⟨task.revision, task.output, task.approval⟩]
    status := .pending
    output := .null
    progressPercent := 0
    error := none
    attempts := 0
    retryAt := 0
    revision := task.revision + 1
    approval := approval }

/-- One round of the loop over `affected`. -/
def resetTask (job : JobId) (id : TaskId) : EngineM Unit := do
  let j ← jobOf job
  let task ← taskOf job id
  when (task.status = .running) (revokeAttempt job id task)
  match j.definitionOf id with
  | none => raise (.keyError id)
  | some definition => updateTask job id fun t => t.reset definition.firstApproval

def reviseTask (job : JobId) (id : TaskId) (inputs : Dict String Json) (expectedRevision : ℕ) :
    EngineM Unit := do
  let j ← jobOf job
  if j.status ≠ .paused then raise (.valueError "Pause workflow before revising a stage")
  else do
    let task ← taskOf job id
    if task.revision ≠ expectedRevision then
      raise (.valueError "Invalid input or stale workflow revision")
    else do
      write fun s => s.updateJob job fun j => j.setInput id inputs
      forEach (resetTask job) (j.downstream (j.tasks.keys.length + 1) [id])
      saveJob job

def pauseJob (job : JobId) : EngineM Unit := do
  let j ← foundJob job
  when (j.status = .inProgress ∨ j.status = .failed ∨ j.status = .completed) do
    updateStatus job .paused
    saveJob job

def Engine.interrupted (s : Engine) (jobId : JobId) (job : WorkflowJob) : Bool :=
  job.tasks.entries.any fun e => e.2.status = .running && !s.attempts.contains (jobId, e.1)

def resumeJob (job : JobId) (allow : Bool) : EngineM Unit := do
  let j ← foundJob job
  when (j.status = .paused) do
    let s ← read
    if s.interrupted job j then
      raise (.valueError "Interrupted attempt requires lease reconciliation before resume")
    else do
      updateStatus job .inProgress
      saveJob job
      executeTasks clock job allow

def cancelJob (job : JobId) : EngineM Unit := do
  let _ ← foundJob job
  updateStatus job .cancelled
  cancelRunning job
  saveJob job

/-! ## A new process -/

/-- What `_load_existing_jobs` makes of a document. -/
def WorkflowJob.load (job : WorkflowJob) : WorkflowJob :=
  { job with
    status := if job.tasks.values.any (·.status = .running) then .paused else job.status
    tasks := job.tasks.map fun _ t =>
      if t.status = .running then
        { t with error := some "Interrupted attempt requires lease reconciliation" }
      else t }

/-- `_load_existing_jobs`: the newest document of each job. -/
def loadJobs (journal : List WorkflowJob) : Dict JobId WorkflowJob :=
  journal.foldr (fun job jobs => jobs.set job.id job.load) ∅

/-- A new engine with a new dispatcher over what was written. -/
def Engine.restart (s : Engine) (lost : ℕ) : Engine :=
  { jobs := loadJobs (s.journal.drop lost)
    journal := s.journal.drop lost
    nextJob := s.nextJob
    nextLease := s.nextLease
    reads := s.reads
    log := s.log }

end Vertep.Workflow
