import Vertep.Core.Claims

/-!
# Lost workers and expired leases

Embedding of `_recover_stale_workers` (`core/api/job_helpers.py`) and of the watchdog
(`core/runtime.py`): the Jobs it starts, the leases it finds expired. Each loop is over the worker
records or tasks there were when it began, and what a turn raises ends it.
-/

namespace Vertep.Core
open Lib Queue
open Command

/-- A request or a turn of the watchdog: a command over all of CORE. -/
abbrev Request := Command System Err

/-- A handler at work on a Job of the store, as a command over CORE. -/
def onJob {α : Type} (id : JobId) (job : Job) (m : Act α) : Request α := fun c => c.on id job m

/-- Every worker whose record is bound to the task is free again. -/
def unbindAll (taskId : TaskId) (workers : Dict NodeName Worker) : Dict NodeName Worker :=
  workers.entries.foldl
    (fun workers e =>
      if e.2.currentTask = some taskId then workers.set e.1 e.2.reassigned else workers)
    workers

namespace Act

/-- `worker["current_job"] = worker["current_task"] = None`. -/
def unassign (node : NodeName) : Act Unit :=
  modifyWorker node fun w => { w with currentJob := none, currentTask := none }

def freeOwners (taskId : TaskId) : Act Unit :=
  write fun s => { s with workers := unbindAll taskId s.workers }

/-- `discard` and `release` of a task that may be `None`. -/
def discardOption (task : Option TaskId) : Act Unit := forEach discard task.toList

def releaseOption (env : Env) (task : Option TaskId) : Act Unit := forEach (release env) task.toList

/-! ## What is done about a lost lease -/

/-- The script lease of a lost worker. -/
def recoverScript (env : Env) (node : NodeName) (task : Option TaskId) : Act Unit := do
  discardOption task
  modifyJob fun job =>
    { job with
      scriptTaskId := none
      activeTaskId := none
      assignedWorker := none
      scriptAttempt := job.scriptAttempt + 1 }
  let job ← theJob
  if job.scriptAttempt ≤ job.maxRetries then
    let _ ← answer (env.loadCharacter (← theId))
    enqueueScriptTask env
  else
    deadLetter env { taskId := task, payload := { jobId := ← theId, task := some .script } }
      (some "script worker heartbeat timed out after retries")
    update .scriptFailed
  unassign node

/-- The publish lease of a lost worker. -/
def recoverPublish (env : Env) (node : NodeName) (task : TaskId) (channel : Channel) : Act Unit := do
  discard task
  modifyJob fun job =>
    { job with publishTaskIds := job.publishTaskIds.pop task, assignedWorker := none }
  enqueuePublishTask env channel 0
  unassign node

/-- The voice lease of a lost worker. -/
def recoverVoice (env : Env) (node : NodeName) (task : TaskId) (sceneId : SceneId) : Act Unit := do
  let job ← theJob
  discard task
  modifyJob fun job =>
    { job with
      ttsActiveTaskIds := job.ttsActiveTaskIds.pop task
      voiceTaskSnapshot := job.voiceTaskSnapshot.pop task
      assignedWorker := none }
  forEach (fun scene : Scene => do
      modifyJob fun job =>
        { job with
          ttsAttempts := job.ttsAttempts.set scene.sceneId (ttsAttemptsUsed job scene.sceneId + 1) }
      modifyScene scene.sceneId interruptScene)
    (job.scenes.find? (·.sceneId = sceneId)).toList
  dispatchTts env
  unassign node

/-- The storyboard lease of a lost worker. -/
def recoverStoryboard (env : Env) (node : NodeName) (task : Option TaskId) : Act Unit := do
  discardOption task
  modifyJob fun job =>
    { job with
      storyboardTaskId := none
      assignedWorker := none
      storyboardAttempt := job.storyboardAttempt + 1
      storyboardAttemptVersion := some job.nextStoryboard }
  let job ← theJob
  if job.storyboardAttempt < max 1 env.storyboardMaxRetries then requeueStoryboard env
  else
    deadLetter env { taskId := task, payload := { jobId := ← theId, task := some .storyboard } }
      (some "storyboard worker heartbeat timed out (attempts exhausted)")
    modifyJob ({ · with storyboardTaskId := none, activeTaskId := none })
    update .storyboardFailed
  unassign node

/-- The assembly lease of a lost worker. -/
def recoverAssembly (env : Env) (node : NodeName) (task : TaskId) : Act Unit := do
  release env task
  dropAssembly task
  modifyJob fun job =>
    { job with assemblyAttempt := job.assemblyAttempt + 1, assignedWorker := none }
  let s ← read
  let retry ← answer (if s.job.assemblyAttempt ≤ s.job.maxRetries then
    assemblyRetryTask env s.jobId s.job else .ok none)
  match retry with
  | some body => enqueueAssemblyTask env body true
  | none => do
    transitionStage .assembly .failed
    update .failed
  unassign node

/-- What becomes of the task of a lost worker; the branches of `_recover_stale_workers` in order. -/
def recoverTask (env : Env) (node : NodeName) (task : Option TaskId) : Act Unit := do
  let job ← theJob
  let scene := task.bind (sceneForTask job)
  if scene.any (·.assignedWorker = some node) ∧ job.status = .assetGeneration then
    releaseOption env task
    forEach (fun scene : Scene => modifyScene scene.sceneId interruptScene) scene.toList
    modifyJob ({ · with assignedWorker := none })
    unassign node
  else if job.scriptTaskId = task ∧ (job.status = .scriptQueued ∨ job.status = .scriptGenerating) then
    recoverScript env node task
  else
    match task, task.bind job.publishTaskIds.get?, task.bind job.ttsActiveTaskIds.get? with
    | some id, some channel, _ =>
      if job.status = .publishing then recoverPublish env node id channel else recoverRest job scene
    | some id, none, some sceneId =>
      if job.status = .ttsGenerating then recoverVoice env node id sceneId else recoverRest job scene
    | _, _, _ => recoverRest job scene
where
  /-- The branches after those for publications and voices. -/
  recoverRest (job : Job) (scene : Option Scene) : Act Unit := do
    if job.storyboardTaskId = task ∧
        (job.status = .storyboardQueued ∨ job.status = .storyboardGenerating) then
      recoverStoryboard env node task
    else
      match task.filter (job.assemblyTaskIds.contains ·) with
      | some id => recoverAssembly env node id
      | none =>
        if task = job.activeTaskId ∧
            job.status ∈ [.assetGeneration, .videoGeneration, .scriptQueued, .scriptGenerating,
              .ttsGenerating] then do
          releaseOption env task
          modifyJob ({ · with assignedWorker := none, activeTaskId := none })
          forEach (fun scene : Scene => modifyScene scene.sceneId interruptScene) scene.toList
          submit .prepareAndDispatch
          unassign node

end Act

/-- The heartbeat of a node is still good, or its loss was handled. -/
def seen (env : Env) (w : Worker) (lastSeen : Time) : Bool :=
  env.now - lastSeen ≤ env.heartbeatTimeout ∨ w.status = .offline

/-- One turn of `_recover_stale_workers`. -/
def recoverWorker (env : Env) (lost : List NodeName) (node : NodeName) : Request Unit := do
  let c ← read
  match c.workers.get? node with
  | none => pure ()
  | some w =>
    let offline : Request Unit :=
      write fun c => { c with workers := c.workers.set node { w with status := .offline } }
    match w.lastSeen with
    | none => offline
    | some lastSeen =>
      if node ∉ lost ∧ seen env w lastSeen then pure ()
      else do
        offline
        match w.currentJob.bind fun id => (c.jobs.get? id).map fun job => (id, job) with
        | some (id, job) => onJob id job (Act.recoverTask env node w.currentTask)
        | none => pure ()

def recoverStaleWorkers (env : Env) (lost : List NodeName) : Request Unit := do
  let c ← read
  forEach (recoverWorker env lost) c.workers.keys

/-! ## The watchdog -/

/-- The watchdog's turn over one Job. -/
def promote (env : Env) (id : JobId) : Request Unit := do
  let c ← read
  match c.jobs.get? id with
  | none => pure ()
  | some job => onJob id job do
    Act.modifyJob fun job =>
      if job.status = .waitingForSystem then { job with status := .new } else job
    let job ← Act.theJob
    when (job.status = .new ∧ env.due id ∧ (id, Background.scheduledPrepare) ∉ c.submitted)
      (Act.submit .scheduledPrepare)

namespace Act

/-- `handle_expired_script_lease`, once it applies. -/
def expireScript (env : Env) (item : Item TaskBody) : Act Unit := do
  discard item.taskId
  freeOwners item.taskId
  modifyJob fun job =>
    { job with
      scriptTaskId := none
      activeTaskId := none
      assignedWorker := none
      scriptAttempt := job.scriptAttempt + 1 }
  let job ← theJob
  if job.scriptAttempt ≤ job.maxRetries then
    let _ ← answer (env.loadCharacter (← theId))
    enqueueScriptTask env
  else
    deadLetter env item.toTask (some "script task lease expired (attempts exhausted)")
    update .scriptFailed

/-- The first worker whose record is bound to the task is free again. -/
def dismissOwner (env : Env) (taskId : TaskId) : Act Unit := do
  let s ← read
  forEach (fun e : NodeName × Worker => modifyWorker e.1 (·.dismissed env.now))
    (s.workers.entries.find? (·.2.currentTask = some taskId)).toList

/-- `handle_expired_storyboard_lease`, once it applies. -/
def expireStoryboard (env : Env) (item : Item TaskBody) : Act Unit := do
  discard item.taskId
  modifyJob fun job =>
    { job with storyboardAttempt := job.storyboardAttempt + 1, assignedWorker := none }
  dismissOwner env item.taskId
  let job ← theJob
  if job.storyboardAttempt < max 1 env.storyboardMaxRetries then
    modifyJob ({ · with storyboardTaskId := none, activeTaskId := none })
    update .storyboardQueued
    let _ ← answer (env.loadCharacter (← theId))
    answer (env.storyboardPrompt (← theId))
    let id ← enqueue env
      { priority := some job.priority
        payload :=
          { jobId := ← theId
            task := some .storyboard
            storyboardVersion := some job.nextStoryboard
            imageVersion := some ((job.storyboards.getLast?.map StoryboardVersion.imageVersion).getD 1) } }
      false
    modifyJob fun job =>
      { job with
        storyboardTaskId := some id
        activeTaskId := some id
        storyboardAttemptVersion := some job.nextStoryboard }
  else
    modifyJob ({ · with storyboardTaskId := none, activeTaskId := none })
    deadLetter env item.toTask (some "storyboard task lease expired (attempts exhausted)")
    update .storyboardFailed

/-- The publish lease that expired. -/
def expirePublish (env : Env) (item : Item TaskBody) (channel : Channel) : Act Unit := do
  discard item.taskId
  freeOwners item.taskId
  handlePublishResult env
    { jobId := ← theId
      nodeName := 0
      taskId := item.taskId
      success := false
      error := some "publish task lease expired" }
    channel

/-- The watchdog's turn over one expired task of a Job. -/
def expireTask (env : Env) (item : Item TaskBody) : Act Unit := do
  let job ← theJob
  let voiceScene := if job.ttsActiveTaskIds.contains item.taskId ∧ item.payload.task = some .voice then
    sceneForTask job item.taskId else none
  match job.publishTaskIds.get? item.taskId, voiceScene with
  | some channel, _ =>
    if item.payload.task = some .publish then expirePublish env item channel
    else expireRest job voiceScene
  | none, _ => expireRest job voiceScene
where
  /-- The branches after the one for publications. -/
  expireRest (job : Job) (voiceScene : Option Scene) : Act Unit := do
    match voiceScene with
    | some scene =>
      handleTtsFailure env item.taskId scene.assignedWorker (some "voice task lease expired") scene
    | none =>
      if job.status = .scriptGenerating ∧ job.scriptTaskId = some item.taskId then expireScript env item
      else if job.status = .storyboardGenerating ∧ job.storyboardTaskId = some item.taskId then
        expireStoryboard env item
      else if job.status = .assetGeneration then do
        forEach (fun scene : Scene => modifyScene scene.sceneId interruptScene)
          (sceneForTask job item.taskId).toList
        modifyJob ({ · with assignedWorker := none })

end Act

/-- One expired task. -/
def expire (env : Env) (item : Item TaskBody) : Request Unit := do
  let c ← read
  match c.jobs.get? item.payload.jobId with
  | none => pure ()
  | some job => onJob item.payload.jobId job (Act.expireTask env item)

/-- The watchdog's sweep over the expired leases. -/
def sweep (env : Env) : Request Unit := do
  let c ← read
  let (items, queue) := c.queue.requeueExpired env.now none c.nextId
  write fun c => { c with queue := queue, nextId := c.nextId + 1 }
  forEach (expire env) items

end Vertep.Core
