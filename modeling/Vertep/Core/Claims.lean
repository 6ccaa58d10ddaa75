import Vertep.Core.Dispatch

/-!
# Claiming and renewing a task

Embedding of `claim_task`, `_claim_task` and `renew_task` (`core/api/tasks.py`). The scan of the ready
queue is split into what is decided about one task (`verdict`), what a claimed task writes into its Job
(`Act.take`) and the loop around them.

The turns of the scheduler, the reasons a node is given for an empty answer and the metrics a claim
restates are left out, but for the two lists of tasks that CORE reads of all workers.
-/

namespace Vertep.Core
open Lib Queue
open Command

/-- What a claim restates about its node. -/
structure Claim where
  nodeName : NodeName
  text : Bool
  publisher : Bool
deriving DecidableEq

/-- The worker record as the claim leaves it, before a task is bound to it. -/
def Claim.restate (p : Claim) (w : Worker) : Worker := { w with text := p.text, publisher := p.publisher }

/-- The states in which a worker gets no task. -/
def WorkerState.blocks : WorkerState → Bool
  | .draining | .quarantined | .updating | .rollback | .disabled | .restarting | .revoked
  | .selfTesting => true
  | .ready | .busy | .offline | .enrolling | .recovering | .error => false

/-- What the scan does with a task: acks it, keeps it aside until the scan ends, acks it after the
tasks kept aside went back, or hands it out. -/
inductive Verdict where
  | drop | hold | releaseAndDrop | take
deriving DecidableEq

/-- The `task` field and `kind` of a task, by the branch of the scan it goes to. -/
inductive ClaimKind where
  | imageStoryboard | storyboard | script | publish | assembly | scene
deriving DecidableEq

def TaskBody.claimKind (body : TaskBody) : ClaimKind :=
  if body.imageStoryboard then .imageStoryboard
  else
    match body.task with
    | some .storyboard => .storyboard
    | some .script => .script
    | some .publish => .publish
    | some .assembly => .assembly
    | _ => .scene

def engineReleaseHold (jobs : Dict JobId Job) (snapshot : Option EngineSnapshot) : Bool :=
  jobs.values.any fun job => job.assemblyReleases.values.any fun release =>
    release.state = .unconfirmed ∧
      release.identity = (snapshot.map EngineSnapshot.identity).getD .native

def isTts (job : Job) (body : TaskBody) : Bool := job.status = .ttsGenerating ∧ body.task = some .voice

/-- The tests of the scan over one task of a Job. -/
def verdict (env : Env) (worker : Worker) (jobs : Dict JobId Job) (job : Job)
    (item : Item TaskBody) : Verdict :=
  let body := item.payload
  let serves : Verdict := if env.selects worker body.jobId body then .take else .hold
  match body.claimKind with
  | .imageStoryboard =>
    if job.status ≠ .storyboardPendingApproval ∧ job.status ≠ .storyboardReady ∨
        job.activeStoryboardVersion ≠ body.storyboardVersion then .drop
    else serves
  | .storyboard =>
    if job.status ≠ .storyboardQueued ∨ job.storyboardTaskId ≠ some item.taskId then .drop else serves
  | .script =>
    if job.status ≠ .scriptQueued ∨ job.scriptTaskId ≠ some item.taskId then .drop else serves
  | .publish =>
    if job.status ≠ .publishing ∨ job.publishTaskIds.get? item.taskId ≠ body.channel then .drop
    else serves
  | .assembly =>
    let snapshot := body.engineSnapshot.or job.videoEngineSnapshot
    if job.assemblyTaskIds.get? item.taskId = none ∨ job.assemblyTaskId ≠ some item.taskId ∨
        job.status ≠ .assembly ∧ job.status ≠ .videoGeneration then .drop
    else if job.assemblyCancelRequested then .drop
    else if env.engineMismatch snapshot then .hold
    else if engineReleaseHold jobs snapshot then .hold
    else serves
  | .scene =>
    if ¬ env.selects worker body.jobId body then .hold
    else if (sceneForTask job item.taskId).isSome ∧ (job.status = .assetGeneration ∨ isTts job body)
    then .take
    else .releaseAndDrop

namespace Act

/-- What a claimed task writes into its Job. -/
def take (node : NodeName) (item : Item TaskBody) : Act Unit := do
  let job ← theJob
  let assign : Act Unit := modifyJob ({ · with assignedWorker := some node })
  match item.payload.claimKind with
  | .imageStoryboard | .publish => pure ()
  | .storyboard => do
    assign
    update .storyboardGenerating
  | .script => do
    assign
    update .scriptGenerating
  | .assembly => assign
  | .scene => do
    let some scene := sceneForTask job item.taskId | pure ()
    if isTts job item.payload then modifyScene scene.sceneId ({ · with assignedWorker := some node })
    else
      modifyScene scene.sceneId (startScene item.taskId node)
      assign

end Act

def Worker.reassigned (w : Worker) : Worker :=
  { w with currentTask := none, currentJob := none, status := w.desiredState.getD .ready }

/-- A task is given to another node: the one that had it loses it. -/
def unbind (node : NodeName) (task : TaskId) (workers : Dict NodeName Worker) : Dict NodeName Worker :=
  workers.entries.foldl
    (fun workers e =>
      if e.1 ≠ node ∧ e.2.currentTask = some task then workers.set e.1 e.2.reassigned else workers)
    workers

/-- `task_queue.release` of the tasks that were kept aside. -/
def System.releaseAll (env : Env) (c : System) (held : List TaskId) : System :=
  held.foldl
    (fun c id => { c with queue := (c.queue.release id env.now c.nextId).2, nextId := c.nextId + 1 }) c

/-- The task goes to the node. -/
def System.give (c : System) (p : Claim) (worker : Worker) (job : Job) (item : Item TaskBody) : System :=
  let id := item.payload.jobId
  let c := (c.on id job (Act.take p.nodeName item)).2
  let workers :=
    if item.payload.claimKind = .assembly then unbind p.nodeName item.taskId c.workers else c.workers
  { c with
    workers := workers.set p.nodeName
      { worker with status := .busy, currentJob := some id, currentTask := some item.taskId } }

/-- The loop of `_claim_task`, with the tasks kept aside. -/
def claimScan (env : Env) (p : Claim) (worker : Worker) :
    ℕ → List TaskId → System → Option (Item TaskBody) × System
  | 0, held, c => (none, c.releaseAll env held)
  | n + 1, held, c =>
    match c.queue.claim env.now env.lease with
    | (none, queue) => (none, { c with queue := queue }.releaseAll env held)
    | (some item, queue) =>
      let c := { c with queue := queue }
      match c.jobs.get? item.payload.jobId with
      | none => claimScan env p worker n held { c with queue := c.queue.ack item.taskId }
      | some job =>
        match verdict env worker c.jobs job item with
        | .drop => claimScan env p worker n held { c with queue := c.queue.ack item.taskId }
        | .hold => claimScan env p worker n (held ++ [item.taskId]) c
        | .releaseAndDrop =>
          let c := c.releaseAll env held
          claimScan env p worker n [] { c with queue := c.queue.ack item.taskId }
        | .take => (some item, (c.releaseAll env held).give p worker job item)

/-- A node that may look at the queue, with its record. -/
def admitted (env : Env) (p : Claim) (c : System) : Option Worker :=
  if env.mayClaimNow ∧ env.compatible ∧ env.dispatchAllowed ∧ ¬ env.labHold then
    ((c.workers.get? p.nodeName).filter fun w =>
      ¬ w.desiredState.any WorkerState.blocks ∧ w.currentTask.isNone).map p.restate
  else none

def claimTask (env : Env) (p : Claim) (c : System) : Except Err (Option (Item TaskBody)) × System :=
  if ¬ env.authorized then (.error (.http 401 "Token is not valid for this worker"), c)
  else
    match admitted env p c with
    | none => (.ok none, c)
    | some worker =>
      let (task, c) := claimScan env p worker (max 1 c.queue.ready.length) [] c
      (.ok task, c)

/-! ## Renewing -/

/-- The first Job that `p` holds of, as `next((job for job in store.jobs.values() if …), None)`. -/
def System.findJob (c : System) (p : Job → Bool) : Option (JobId × Job) :=
  c.jobs.entries.find? fun e => p e.2

def renewTask (env : Env) (node : NodeName) (taskId : TaskId) (c : System) :
    Except Err Bool × System :=
  let lost : Except Err Bool × System :=
    (.error (.http 409 "Task is no longer assigned to this worker"), c)
  let renewed : Except Err Bool × System :=
    let (found, queue) := c.queue.renew taskId env.now env.lease
    (.ok found, { c with queue := queue })
  if ¬ env.authorized then (.error (.http 401 "Token is not valid for this worker"), c)
  else
    match c.findJob fun job => job.scriptTaskId = some taskId ∨ job.storyboardTaskId = some taskId with
    | some (id, _) =>
      if workerOwns c.workers id taskId node ∧ c.queue.inflightActive taskId env.now then renewed
      else lost
    | none =>
      match (c.findJob fun job => job.activeTaskIds.contains taskId).bind
        fun e => sceneForTask e.2 taskId with
      | some scene => if scene.assignedWorker = some node then renewed else lost
      | none =>
        match c.findJob fun job => job.assemblyTaskIds.contains taskId with
        | some (id, _) => if workerOwns c.workers id taskId node then renewed else lost
        | none => lost

end Vertep.Core
