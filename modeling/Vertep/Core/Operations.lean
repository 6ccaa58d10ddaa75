import Vertep.Core.Actions

/-!
# CORE as a transition system

The requests, background threads and watchdog turns as operations on `System`, each of them as one step:
what happens inside one operation is not interleaved with another (`Core.Finalize` is about that). What
an operation asks the outside is part of it, so a step may get any answers.

Left out are requests that neither move a Job nor touch its tasks, the deletion and the import of a
Job, workflow templates, and the buttons in Telegram, which call the same functions.
-/

namespace Vertep.Core
open Lib Queue
open Command

/-! ## Heartbeats -/

/-- What a worker reports, with the status as CORE normalises it. -/
structure Heartbeat where
  nodeName : NodeName
  status : WorkerState
  currentJob : Option JobId
  currentTask : Option TaskId
  runtimeInstance : Option ℕ
  text : Bool
  publisher : Bool
  voice : Bool
deriving DecidableEq

/-- `WORKER_STATE_TRANSITIONS`; a status that is no `WorkerState` has no row. -/
def WorkerState.next : WorkerState → Option (List WorkerState)
  | .enrolling => some [.selfTesting, .ready, .error]
  | .selfTesting => some [.selfTesting, .ready, .error]
  | .ready => some [.ready, .busy, .draining, .updating, .error]
  | .busy => some [.busy, .ready, .draining, .error]
  | .draining => some [.draining, .ready, .updating, .error]
  | .updating => some [.updating, .recovering, .selfTesting, .ready, .error]
  | .recovering => some [.recovering, .selfTesting, .ready, .error]
  | .offline => some [.enrolling, .selfTesting, .ready, .error]
  | .error => some [.error, .selfTesting, .ready, .updating]
  | .quarantined => some [.quarantined]
  | .revoked => some [.revoked]
  | .rollback | .disabled | .restarting => none

/-- `worker_transition_allowed`, with what `WorkerState(…)` raises. -/
def workerTransitionAllowed (previous current : WorkerState) : Except Err Unit :=
  match previous.next with
  | none => .error (.value "not a valid WorkerState")
  | some states =>
    if current ∈ states then .ok () else .error (.http 409 "Illegal worker state transition")

/-- The runtime of a node is another one than before. -/
def Heartbeat.restarted (p : Heartbeat) (previous : Worker) : Bool :=
  previous.runtimeInstance.isSome ∧ p.runtimeInstance.isSome ∧
    previous.runtimeInstance ≠ p.runtimeInstance

/-- The status and the desired state a heartbeat leaves, by the one CORE wants. -/
def Heartbeat.settle (p : Heartbeat) (restarted : Bool) : Option WorkerState →
    WorkerState × Option WorkerState
  | some .quarantined => (.quarantined, some .quarantined)
  | some .draining =>
    (if p.status ≠ .busy ∧ p.currentTask.isNone then .draining else p.status, some .draining)
  | some .restarting => if restarted then (.ready, none) else (.updating, some .restarting)
  | some .updating => (p.status, some .updating)
  | some .rollback => (p.status, some .rollback)
  | some .disabled => (p.status, some .disabled)
  | some .revoked => (p.status, some .revoked)
  | some .selfTesting => (p.status, some .selfTesting)
  | _ => (p.status, none)

/-- The record a heartbeat leaves. -/
def Heartbeat.record (p : Heartbeat) (now : Time) (status : WorkerState)
    (desired : Option WorkerState) : Worker where
  status := status
  desiredState := desired
  currentJob := p.currentJob
  currentTask := p.currentTask
  lastSeen := some now
  runtimeInstance := p.runtimeInstance
  text := p.text
  publisher := p.publisher
  voice := p.voice

def heartbeat (env : Env) (p : Heartbeat) : Request Unit := do
  if ¬ env.authorized then raise (.http 401 "Token is not valid for this worker")
  else if ¬ env.compatible then raise (.http 409 "Incompatible worker protocol")
  else
    let c ← read
    let previous := c.workers.get? p.nodeName
    let restarted := previous.any p.restarted
    when (restarted ∧ previous.any (·.currentTask.isSome)) (recoverStaleWorkers env [p.nodeName])
    let desired := (previous.bind Worker.desiredState).filter fun state =>
      ¬ (state = .draining ∧ env.drainOver)
    let (status, desired) := p.settle restarted desired
    forEach (fun w : Worker => answer (workerTransitionAllowed w.status status)) previous.toList
    write fun c =>
      { c with workers := c.workers.set p.nodeName (p.record env.now status desired) }

/-! ## Jobs -/

/-- What a new Job is created with. -/
structure JobCreate where
  taskType : TaskType
  priority : ℚ
  maxRetries : ℕ
deriving DecidableEq

def createJob (env : Env) (request : JobCreate) : Request Unit :=
  if ¬ env.mayCreate then raise (.http 503 "Jobs may not be created now")
  else write fun c =>
    let id := c.nextId
    { c with
      nextId := c.nextId + 1
      jobs := c.jobs.set id
        { status := if env.dispatchAllowed then .new else .waitingForSystem
          taskType := request.taskType
          priority := request.priority
          maxRetries := request.maxRetries }
      submitted := if env.dispatchAllowed ∧ env.due id then c.submitted ++ [(id, .prepareAndDispatch)]
        else c.submitted }

namespace Act

/-- What an edit changes of a Job. -/
structure Edit where
  script : Option Script := none
  priority : Option ℚ := none
  prompt : Bool := false
deriving DecidableEq

/-- The script of a Job, with a scene for the prompt. -/
def Edit.script' (edit : Edit) (job : Job) : Option Script :=
  let script := edit.script.or job.script
  if edit.prompt then
    match script with
    | none => some ⟨[false]⟩
    | some script => some (if script.scenes = [] then ⟨[false]⟩ else script)
  else script

def editJob (env : Env) (edit : Edit) : Act Unit := do
  modifyJob fun job =>
    { job with script := edit.script' job, priority := edit.priority.getD job.priority }
  when (edit.script.isSome ∨ edit.prompt) do
    modifyJob ({ · with scenes := [] })
    modifyJob Job.initializePlan
  let job ← theJob
  when job.script.isSome (answer (env.writeScript (← theId)))

/-- `request_video_revision`: a new render, or back to the script. -/
def requestVideoRevision (env : Env) (text : String) : Act Unit := do
  let job ← theJob
  if text = "" then raise (.http 409 "Video revision text is required")
  else if job.status ≠ .videoPendingApproval then raise (.http 409 "Cannot request video revision")
  else
    modifyJob fun job => { job with videoRevisions := job.videoRevisions ++ [text] }
    if text = "regenerate" then transition .videoRevisionRequested
    else
      transition .scriptRevisionRequested
      regenerateScript env

def confirmAssemblyRelease (env : Env) (key : SubmitKey) : Act Unit := do
  let job ← theJob
  match job.assemblyReleases.get? key with
  | none => pure ()
  | some release =>
    if release.state ≠ .unconfirmed then pure ()
    else
      match env.releaseState key with
      | .ok .released | .ok .notApplied => releaseAssemblyHold key
      | .ok .unconfirmed | .error _ => pure ()

end Act

/-! ## Restart -/

def Job.recoverAfterRestart (job : Job) : Job :=
  { job with
    activeTaskId := none
    activeTaskIds := ∅
    assignedWorker := none
    assemblyTaskIds := ∅
    assemblyTaskId := none
    ttsActiveTaskIds := ∅
    voiceTaskSnapshot := ∅
    publishTaskIds := ∅
    publishIntent := ∅
    imageStoryboardTaskIds := ∅
    imageStoryboardTaskVersions := ∅
    storyboardTaskId := none
    scriptTaskId := none
    scenes := job.scenes.map fun scene =>
      { scene with
        taskId := none
        assignedWorker := none
        status := if scene.status = .running then .pending else scene.status
        attempts :=
          if scene.status = .running ∧ scene.attempts.getLast? = some .running then
            endAttempt .failed scene.attempts
          else scene.attempts }
    stages := job.stages.map fun stages =>
      let close (status : StageStatus) : StageStatus := if status = .running then .failed else status
      ⟨close stages.script, close stages.assets, close stages.tts, close stages.assembly,
        close stages.publish⟩ }

/-- The statuses of a Job that is begun again after a restart. -/
def JobStatus.interrupted : JobStatus → Bool
  | .scripting | .scriptGenerating | .scriptReady | .assetGeneration | .assetsReady | .ttsGenerating
  | .ttsReady | .videoGeneration | .videoReady | .assembly => true
  | _ => false

/-- `JobStore._load` of one Job; `video` says whether the file of its active version is there. -/
def Job.reload (video : Bool) (job : Job) : Job :=
  let job := { job with videoRegenerating := false }
  if job.status = .publishing ∧ job.publishTaskIds.entries = [] then { job with status := .ready }
  else if job.status = .videoReady ∧ video then
    let approved := (job.videoVersions.find? (·.approved)).map VideoVersion.version
    { job with status :=
        if approved.isSome ∧ approved = job.activeVideoVersion then .ready else .videoPendingApproval }
  else if job.status = .ttsGenerating ∧ job.ttsActiveTaskIds.entries ≠ [] then job
  else if job.status.interrupted then { job.recoverAfterRestart with status := .new }
  else job

/-- Every worker whose record is bound to the task is offline. -/
def interrupt (taskId : TaskId) (workers : Dict NodeName Worker) : Dict NodeName Worker :=
  workers.entries.foldl
    (fun workers e =>
      if e.2.currentTask = some taskId then
        workers.set e.1 { e.2 with currentTask := none, currentJob := none, status := .offline }
      else workers)
    workers

/-- What the start of CORE does about a task it finds in the queue. -/
def retireTask (env : Env) (item : Item TaskBody) : Request Unit := do
  let c ← read
  let drop : Request Unit := write fun c => { c with queue := c.queue.discard item.taskId }
  let unown : Request Unit := write fun c => { c with workers := interrupt item.taskId c.workers }
  match c.jobs.get? item.payload.jobId with
  | none => drop
  | some job =>
    let publish : Bool := item.payload.task = some .publish ∧ job.publishTaskIds.contains item.taskId
    if publish ∧ c.queue.inflightActive item.taskId env.now then pure ()
    else if publish then do
      write fun c =>
        { c with queue := (c.queue.release item.taskId env.now c.nextId).2, nextId := c.nextId + 1 }
      unown
    else if item.payload.task = some .script ∧ job.scriptTaskId ≠ some item.taskId ∨
        item.payload.task = some .voice ∧ ¬ job.ttsActiveTaskIds.contains item.taskId then do
      drop
      unown

/-- What the start of CORE does about a Job. -/
def restartJob (env : Env) (id : JobId) : Request Unit := do
  let c ← read
  match c.jobs.get? id with
  | none => pure ()
  | some job =>
    when ((job.status = .new ∨ job.status = .waitingForSystem) ∧ env.dispatchAllowed ∧ env.due id)
      (onJob id job do
        when (job.status = .waitingForSystem) (Act.update .new)
        Act.submit .prepareAndDispatch)

/-- `JobStore._load`. -/
def reloadJobs (env : Env) (jobs : Dict JobId Job) : Dict JobId Job :=
  jobs.entries.foldl (fun jobs e => jobs.set e.1 (e.2.reload (env.outputExists e.1))) jobs

/-- A restart of CORE: Jobs and workers are in the repository, the queue only when it is in Redis. -/
def restart (env : Env) (durable : Bool) : Request Unit := do
  write fun c =>
    { c with
      jobs := reloadJobs env c.jobs
      queue := if durable then c.queue else {}
      submitted := []
      rendering := [] }
  let c ← read
  forEach (retireTask env) (c.queue.ready.map Row.item ++ c.queue.inflight.values.map Prod.snd)
  forEach (restartJob env) c.jobs.keys

/-! ## Operations -/

/-- What an operator asks of one Job. -/
inductive JobRequest where
  | halt (a : Halt)
  | resume | retry | regenerate
  | edit (changes : Act.Edit)
  | approveScript | requestScriptRevision | regenerateScript
  | approveStoryboard (version : ℕ) (script : Script)
  | approveImages (version : ℕ)
  | requestImageRevision (version : ℕ) (indexes : List ℕ)
  | regenerateStoryboard (version : ℕ)
  | approveVideo (version : ℕ) (sha256 : Option Digest)
  | requestVideoRevision (text : String)
  | regenerateVideo
  | publish (channels : List Channel)
  | confirmRelease (key : SubmitKey)

def JobRequest.act (env : Env) : JobRequest → Act Unit
  | .halt a => Act.haltJob env a
  | .resume => Act.resumeJob
  | .retry => Act.retryJob
  | .regenerate => Act.regenerateJob env
  | .edit changes => Act.editJob env changes
  | .approveScript => Act.approveScript
  | .requestScriptRevision => Act.requestScriptRevision
  | .regenerateScript => Act.regenerateScript env
  | .approveStoryboard version script => Act.approveStoryboard env version script
  | .approveImages version => Act.approveImages version
  | .requestImageRevision version indexes => Act.requestImageRevision env version indexes
  | .regenerateStoryboard version => Act.regenerateStoryboard env version
  | .approveVideo version sha256 => Act.approveVideo env version sha256
  | .requestVideoRevision text => Act.requestVideoRevision env text
  | .regenerateVideo => Act.regenerateVideo
  | .publish channels => Act.publishJob env channels
  | .confirmRelease key => Act.confirmAssemblyRelease env key

/-- What a background thread does up to a render; its parts get answers of their own. -/
def Background.act (envs later : ℕ → Env) : Background → Act (Option Parked)
  | .finalizeAndNotify => do
    let render ← Act.finalizeAndNotify envs
    pure (render.map fun r => .finalize r.1 r.2)
  | .prepareAndDispatch | .scheduledPrepare => Act.prepareAndDispatch envs later
  | .videoRegenerate => Act.finalizeVideoRegenerate (envs 0)

/-- What a thread does once its render has ended, up to the next one. -/
def Parked.act (env : Env) (envs : ℕ → Env) : Parked → Act (Option Parked)
  | .finalize version attempts => do
    let render ← Act.resumeLoop env envs version attempts
    pure (render.map fun r => .finalize r.1 r.2)
  | .dispatch version attempts => do
    let render ← Act.resumeLoop env envs version attempts
    pure (render.map fun r => .dispatch r.1 r.2)
  | .dispatchVoices version attempts => do
    let render ← Act.resumeLoop env envs version attempts
    match render with
    | some r => pure (some (.dispatchVoices r.1 r.2))
    | none => do
      Act.dispatchVoices env
      pure none
  | .regenerate version => do
    Act.renderSafe env version
    Act.endRegenerate
    pure none

/-- A thread goes on until it waits for a render, or ends. -/
def runThread (id : JobId) (m : Act (Option Parked)) : Request Unit := do
  let c ← read
  match c.jobs.get? id with
  | none => pure ()
  | some job => do
    let parked ← onJob id job m
    write fun c => { c with rendering := c.rendering ++ parked.toList.map fun p => (id, p) }

/-- The executor runs one of the threads that were handed to it. -/
def runBackground (envs later : ℕ → Env) (index : ℕ) : Request Unit := do
  let c ← read
  match c.submitted[index]? with
  | none => pure ()
  | some (id, background) => do
    write fun c => { c with submitted := c.submitted.eraseIdx index }
    runThread id (background.act envs later)

/-- A render of CORE itself ends, and its thread goes on. -/
def endRender (env : Env) (envs : ℕ → Env) (index : ℕ) : Request Unit := do
  let c ← read
  match c.rendering[index]? with
  | none => pure ()
  | some (id, parked) => do
    write fun c => { c with rendering := c.rendering.eraseIdx index }
    runThread id (parked.act env envs)

/-- A request to CORE, a task of its pool, or a turn of the watchdog. -/
inductive Op where
  | create (env : Env) (request : JobCreate)
  | heartbeat (env : Env) (p : Heartbeat)
  | background (envs later : ℕ → Env) (index : ℕ)
  | render (env : Env) (envs : ℕ → Env) (index : ℕ)
  | claim (env : Env) (p : Claim)
  | renew (env : Env) (node : NodeName) (taskId : TaskId)
  | result (env : Env) (r : TaskResult)
  | recover (env : Env) (lost : List NodeName)
  | promote (env : Env) (id : JobId)
  | sweep (env : Env)
  | ask (env : Env) (id : JobId) (q : JobRequest)
  | retryDeadLetter (env : Env) (taskId : TaskId)
  | restart (env : Env) (durable : Bool)

/-- The state an operation leaves, however it ends. -/
def Op.run (c : System) : Op → System
  | .create env request => (createJob env request c).2
  | .heartbeat env p => (Vertep.Core.heartbeat env p c).2
  | .background envs later index => (runBackground envs later index c).2
  | .render env envs index => (endRender env envs index c).2
  | .claim env p => (claimTask env p c).2
  | .renew env node taskId => (renewTask env node taskId c).2
  | .result env r => (taskResult env r c).2
  | .recover env lost => (recoverStaleWorkers env lost c).2
  | .promote env id => (Vertep.Core.promote env id c).2
  | .sweep env => (Vertep.Core.sweep env c).2
  | .ask env id q => (forJob id (q.act env) c).2
  | .retryDeadLetter env taskId => (retryDeadLetterTask env taskId c).2
  | .restart env durable => (Vertep.Core.restart env durable c).2

/-- The states CORE reaches by operations that `Meets` allows. -/
def ReachableBy (Meets : System → Op → Prop) : System → Prop :=
  Reach (· = {}) fun c c' => ∃ op, Meets c op ∧ c' = op.run c

def Reachable : System → Prop := ReachableBy fun _ _ => True

lemma ReachableBy.reachable {Meets : System → Op → Prop} {c : System} (r : ReachableBy Meets c) :
    Reachable c := by
  induction r with
  | init start => exact .init start
  | step _ run reached =>
    obtain ⟨op, _, rfl⟩ := run
    exact reached.step ⟨op, trivial, rfl⟩

def System.after (c : System) (ops : List Op) : System := ops.foldl Op.run c

/-- Each of the operations meets its condition in the state it runs in. -/
def System.Along (Meets : System → Op → Prop) (c : System) : List Op → Prop
  | [] => True
  | op :: ops => Meets c op ∧ (op.run c).Along Meets ops

lemma ReachableBy.after {Meets : System → Op → Prop} {c : System} (r : ReachableBy Meets c) (ops : List Op)
    (met : c.Along Meets ops) : ReachableBy Meets (c.after ops) := by
  induction ops generalizing c with
  | nil => exact r
  | cons op ops ih => exact ih (r.step ⟨op, met.1, rfl⟩) met.2

lemma Reachable.after {c : System} (r : Reachable c) (ops : List Op) : Reachable (c.after ops) := by
  induction ops generalizing c with
  | nil => exact r
  | cons op ops ih => exact ih (r.step ⟨op, trivial, rfl⟩)

lemma reachable_after (ops : List Op) : Reachable (({} : System).after ops) :=
  Reachable.after (.init rfl) ops

/-- The answers of an outside in which nothing goes wrong, at a time. -/
def Env.plain (now : Time) : Env where
  now := now
  lease := 60
  authorized := true
  localFallback := false
  demoMode := false
  retryBackoffBase := 0
  ttsBackoffBase := 0
  ttsBackoffCap := 0
  ttsMaxRetries := 3
  publishBackoffBase := 0
  publishBackoffCap := 0
  storyboardMaxRetries := 3
  maxArtifactBytes := 1000
  maxVideoArtifactBytes := 1000
  decode blob := .ok (blob.getD emptyBlob)
  size _ := 1
  sha256 data := data
  integrity _ _ := .ok ()
  mediaContract _ _ _ := .ok ()
  signature _ := .ok ()
  redact data := .ok data
  storyboardPayload _ := .error (.value "no storyboard")
  scriptPayload _ := .ok ⟨[false]⟩
  receipt _ := .error (.value "no receipt")
  redactedReceipt _ := .error (.value "no receipt")
  register _ _ := none
  makeFolder := .ok ()
  writeFiles := .ok ()
  demoImage := 1
  drawDemo _ := .ok ()
  writeContract _ := .ok ()
  fileExists _ := true
  loadCharacter _ := .ok ⟨⟨none, none, none, none, none⟩, false⟩
  listReferences _ := .ok ()
  storyboardPrompt _ := .ok ()
  writeScript _ := .ok ()
  generateScript _ := .ok ⟨[false]⟩
  deliveryContract _ := some 1
  publishSettings _ := .ok ()
  publishSingle _ _ := .ok .published
  assemblyPlan _ := .ok ()
  stageInputs _ := .ok ()
  finishVersion _ := .ok 1
  notify _ := .ok ()
  engine := .native
  submitKey _ version := .ok version
  render _ := .ok ()
  subtitles := false
  readPrompt _ := .ok ()
  normalizeScript script := .ok script
  mayCreate := true
  mayClaimNow := true
  compatible := true
  dispatchAllowed := true
  labHold := false
  selects _ _ _ := true
  engineMismatch _ := false
  heartbeatTimeout := 60
  due _ := true
  drainOver := false
  cancelState _ _ := .released
  releaseState _ := .ok .released
  channelAvailable _ := true
  outputExists _ := true
  removeFiles := .ok ()
  writeManifest := .ok ()
  versionExists _ := true
  reassemblyInputs _ := true

end Vertep.Core
