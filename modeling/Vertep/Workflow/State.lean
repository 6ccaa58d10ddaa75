import Vertep.Lib.Command
import Vertep.Lib.Joined
import Vertep.Workflow.Dsl

/-!
# Workflow jobs, leases and what the engine keeps

The records of `core/workflow/engine.py`, of the `Dispatcher` of `core/dispatcher.py` and of the polling
transport of `core/workflow/runtime.py`. Ids that `uuid4` draws are numbers, given out in turn. A future
belongs to the one lease it was submitted under and is kept under its id.

`Engine` is the whole of it: the cache of jobs, the attempts in memory, the dispatcher, the documents
`save_job` wrote, and the number of clock readings taken. `log` is no part of the program: it lists, the
newest first, what went through its interfaces (requests sent, results reported, leases accepted, revoked
or timed out, decisions), so that statements can speak of what happened. Owner, project, ACL and dates of
a job are left out, and so are the jobs in `execution_mode` legacy, which the engine never runs.
-/

namespace Vertep.Workflow
open Lib Queue

abbrev JobId := ℕ
abbrev LeaseId := ℕ
abbrev NodeId := String

inductive TaskStatus where
  | pending | running | completed | failed | skipped | cancelled
deriving DecidableEq

/-- `status in {"COMPLETED", "SKIPPED"}`. -/
def TaskStatus.Done (status : TaskStatus) : Prop := status = .completed ∨ status = .skipped

instance (status : TaskStatus) : Decidable status.Done := by unfold TaskStatus.Done; infer_instance

inductive Approval where
  | pending | approved | rejected
deriving DecidableEq

inductive JobStatus where
  | new | inProgress | paused | completed | failed | cancelled
deriving DecidableEq

/-- `f"{job_id}:{task_id}:r{revision}:{attempt}"`. -/
structure DispatchId where
  job : JobId
  task : TaskId
  revision : ℕ
  attempt : ℕ
deriving DecidableEq

/-- What a dispatch adds to a task's record. -/
structure Dispatched where
  dispatchId : DispatchId
  leaseId : LeaseId
  workerId : NodeId
  deadline : ℚ
deriving DecidableEq

structure HistoryEntry where
  revision : ℕ
  output : Json
  approval : Approval
deriving DecidableEq

/-- A value of `job["tasks"]`; an output of `None` is `null`. -/
structure WorkflowTask where
  status : TaskStatus := .pending
  progressPercent : ℚ := 0
  output : Json := .null
  error : Option String := none
  dependencies : List TaskId
  attempts : ℕ := 0
  revision : ℕ := 1
  history : List HistoryEntry := []
  approval : Approval
  retryAt : ℚ := 0
  dispatched : Option Dispatched := none
deriving DecidableEq

structure WorkflowJob where
  id : JobId
  definition : WorkflowDefinition
  params : Dict String Json
  status : JobStatus := .new
  tasks : Dict TaskId WorkflowTask
  progress : ℕ := 0
deriving DecidableEq

structure Lease where
  workerId : NodeId
  expiresAt : ℚ
  taskId : DispatchId
  leaseId : LeaseId
deriving DecidableEq

structure ResourceRequirements where
  minVramMb : ℚ := 0
  minCpuCores : ℚ := 0
  minRamMb : ℚ := 0
deriving DecidableEq

/-- What the engine and the dispatcher read of a `ModuleManifest`. -/
structure Manifest where
  version : String
  resourceRequirements : ResourceRequirements := {}
  capabilities : List String := []
deriving DecidableEq

/-- The payload of a request: the input of the task and what the engine puts over it. An input has none
of the engine's own keys. -/
structure Payload where
  input : Dict String Json
  module? : Option (String × Manifest)
  workflowJobId : JobId
  params : Dict String Json
  dependencies : Dict TaskId Json
deriving DecidableEq

structure TaskRequest where
  taskId : DispatchId
  taskType : String
  capabilitiesRequired : List String
  vramMb : ℚ
  payload : Payload
deriving DecidableEq

structure Resources where
  vramMb : ℚ := 0
  cpuCores : ℚ := 0
  ramMb : ℚ := 0
  busy : Bool := false
  runtimeInstanceId : Option String := none
  moduleVersions : Dict String String := ∅
deriving DecidableEq

/-- A value of `_node_registry`. -/
structure NodeInfo where
  capabilities : List String
  resources : Resources
  lastHeartbeat : ℚ
deriving DecidableEq

structure Active where
  request : TaskRequest
  lease : Lease
  delivered : Bool := false
  cancelled : Bool := false
deriving DecidableEq

structure Dispatcher where
  nodeRegistry : Dict NodeId NodeInfo := ∅
  taskLeases : Dict DispatchId Lease := ∅
  transports : Dict NodeId (Option Active) := ∅
deriving DecidableEq

/-- A result of a worker: a JSON value, or one that `json.dumps(allow_nan=False)` refuses. -/
inductive WorkerResult where
  | json (value : Json)
  | other (refusal : String)
deriving DecidableEq

inductive Future where
  | waiting
  | result (value : WorkerResult)
  | exception (message : String)
deriving DecidableEq

/-- `future.done()`. -/
def Future.isDone : Future → Bool
  | .waiting => false
  | .result _ | .exception _ => true

/-- What went through the interfaces of the engine and the dispatcher. -/
inductive Event where
  | submitted (request : TaskRequest) (lease : Lease)
  | reported (lease : LeaseId) (value : WorkerResult)
  | accepted (lease : Lease) (time : ℚ)
  | revoked (lease : LeaseId)
  | timedOut (lease : LeaseId)
  | decided (task : TaskId) (approved : Bool) (before : WorkflowJob)
deriving DecidableEq

structure Engine where
  jobs : Dict JobId WorkflowJob := ∅
  attempts : Dict (JobId × TaskId) Lease := ∅
  dispatcher : Dispatcher := {}
  futures : Dict LeaseId Future := ∅
  moduleRegistry : Dict String Manifest := ∅
  journal : List WorkflowJob := []
  nextJob : JobId := 0
  nextLease : LeaseId := 0
  reads : ℕ := 0
  log : List Event := []
deriving DecidableEq

/-- What a call raises, by the class its callers catch. -/
inductive Failure where
  | valueError (message : String)
  | invalidWorkflow (errors : List String)
  | runtimeError (message : String)
  | timeoutError (message : String)
  | keyError (key : String)
deriving DecidableEq

/-- `str(exc)`. -/
def Failure.text : Failure → String
  | .valueError m | .runtimeError m | .timeoutError m | .keyError m => m
  | .invalidWorkflow errors => s!"Invalid workflow definition: {errors}"

abbrev EngineM (α : Type) := Command Engine Failure α

/-! ## Reading and writing one task -/

def Engine.task? (s : Engine) (job : JobId) (task : TaskId) : Option WorkflowTask :=
  (s.jobs.get? job).bind fun j => j.tasks.get? task

/-- `definitions[task_id]`, with `definitions` as `_execute_tasks` builds it. -/
def WorkflowJob.definitionOf (job : WorkflowJob) (task : TaskId) : Option TaskDefinition :=
  job.definition.tasks.reverse.find? fun d => d.id = task

/-- `task.update(...)` of one record. -/
def WorkflowJob.update (job : WorkflowJob) (task : TaskId) (f : WorkflowTask → WorkflowTask) :
    WorkflowJob :=
  match job.tasks.get? task with
  | none => job
  | some t => { job with tasks := job.tasks.set task (f t) }

def Engine.updateJob (s : Engine) (job : JobId) (f : WorkflowJob → WorkflowJob) : Engine :=
  match s.jobs.get? job with
  | none => s
  | some j => { s with jobs := s.jobs.set job (f j) }

def Engine.updateTask (s : Engine) (job : JobId) (task : TaskId) (f : WorkflowTask → WorkflowTask) : Engine :=
  s.updateJob job fun j => j.update task f

/-- `self._jobs[job_id]`. -/
def jobOf (job : JobId) : EngineM WorkflowJob := do
  let s ← Command.read
  match s.jobs.get? job with
  | none => Command.raise (.keyError s!"{job}")
  | some j => pure j

/-- `self._jobs[job_id]["tasks"][task_id]`. -/
def taskOf (job : JobId) (task : TaskId) : EngineM WorkflowTask := do
  let j ← jobOf job
  match j.tasks.get? task with
  | none => Command.raise (.keyError task)
  | some t => pure t

def updateTask (job : JobId) (task : TaskId) (f : WorkflowTask → WorkflowTask) : EngineM Unit :=
  Command.write fun s => s.updateTask job task f

def updateStatus (job : JobId) (status : JobStatus) : EngineM Unit :=
  Command.write fun s => s.updateJob job fun j => { j with status := status }

/-- `self.state.save_job(job_id, job)`. -/
def saveJob (job : JobId) : EngineM Unit :=
  Command.write fun s => match s.jobs.get? job with
    | none => s
    | some j => { s with journal := j :: s.journal }

def note (event : Event) : EngineM Unit :=
  Command.write fun s => { s with log := event :: s.log }

/-! ### What an update changes -/

section
variable {s : Engine} {job job' : JobId} {id id' : TaskId}

@[simp] lemma WorkflowJob.get?_update (j : WorkflowJob) (id id' : TaskId) (f : WorkflowTask → WorkflowTask) :
    (j.update id f).tasks.get? id' = if id = id' then (j.tasks.get? id).map f else j.tasks.get? id' := by
  unfold WorkflowJob.update
  cases found : j.tasks.get? id with
  | none =>
    by_cases same : id = id'
    · rw [if_pos same, ← same, found, Option.map_none]
    · rw [if_neg same]
  | some t => exact Dict.get?_set _ _ _ _

lemma WorkflowJob.update_eq (j : WorkflowJob) (id : TaskId) (f : WorkflowTask → WorkflowTask) :
    ∃ tasks, j.update id f = { j with tasks := tasks } ∧ tasks.keys = j.tasks.keys := by
  unfold WorkflowJob.update
  cases found : j.tasks.get? id with
  | none => exact ⟨j.tasks, rfl, rfl⟩
  | some t => exact ⟨_, rfl, Dict.keys_set_of_mem (Dict.mem_keys_iff.2 ⟨t, found⟩)⟩

@[simp] lemma WorkflowJob.status_update (j : WorkflowJob) (id : TaskId) (f : WorkflowTask → WorkflowTask) :
    (j.update id f).status = j.status := by
  obtain ⟨tasks, eq, _⟩ := j.update_eq id f
  rw [eq]

@[simp] lemma WorkflowJob.id_update (j : WorkflowJob) (id : TaskId) (f : WorkflowTask → WorkflowTask) :
    (j.update id f).id = j.id := by
  obtain ⟨tasks, eq, _⟩ := j.update_eq id f
  rw [eq]

@[simp] lemma WorkflowJob.definition_update (j : WorkflowJob) (id : TaskId)
    (f : WorkflowTask → WorkflowTask) : (j.update id f).definition = j.definition := by
  obtain ⟨tasks, eq, _⟩ := j.update_eq id f
  rw [eq]

@[simp] lemma Engine.get?_updateJob (s : Engine) (job job' : JobId) (f : WorkflowJob → WorkflowJob) :
    (s.updateJob job f).jobs.get? job' = if job = job' then (s.jobs.get? job).map f else s.jobs.get? job' := by
  unfold Engine.updateJob
  cases found : s.jobs.get? job with
  | none =>
    by_cases same : job = job'
    · rw [if_pos same, ← same, found, Option.map_none]
    · rw [if_neg same]
  | some j => exact Dict.get?_set _ _ _ _

lemma Engine.updateJob_eq (s : Engine) (job : JobId) (f : WorkflowJob → WorkflowJob) :
    ∃ jobs, s.updateJob job f = { s with jobs := jobs } ∧ jobs.keys = s.jobs.keys := by
  unfold Engine.updateJob
  cases found : s.jobs.get? job with
  | none => exact ⟨s.jobs, rfl, rfl⟩
  | some j => exact ⟨_, rfl, Dict.keys_set_of_mem (Dict.mem_keys_iff.2 ⟨j, found⟩)⟩

@[simp] lemma Engine.log_updateJob (s : Engine) (job : JobId) (f : WorkflowJob → WorkflowJob) :
    (s.updateJob job f).log = s.log := by
  obtain ⟨jobs, eq, _⟩ := s.updateJob_eq job f
  rw [eq]

lemma Engine.task?_eq_some {t : WorkflowTask} :
    s.task? job id = some t ↔ ∃ j, s.jobs.get? job = some j ∧ j.tasks.get? id = some t :=
  Option.bind_eq_some_iff

end

end Vertep.Workflow
