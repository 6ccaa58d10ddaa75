import Vertep.Core.Recovery

/-!
# What an operator asks of a Job

Embedding of `_job_action` (`core/api/job_helpers.py`), of the endpoints of `core/api/jobs.py` and
`core/api/storyboards.py` that move a Job or issue tasks for it, and of `retry_dead_letter_task`
(`core/api/tasks.py`). Approvals keep only what decides what happens next: a status, a version.
-/

namespace Vertep.Core
open Lib Queue
open Command

namespace Act

/-! ## Pause and cancel -/

/-- One scene task of a Job that is paused or cancelled. -/
def haltScene (env : Env) (a : Halt) (task : TaskId × SceneId) : Act Unit := do
  discard task.1
  readReferences env
  modifyScene task.2
    ({ · with status := a.stageStatus, taskId := none, assignedWorker := none })

/-- One voice task of a Job that is paused or cancelled; its row needs the scene. -/
def haltVoice (env : Env) (task : TaskId × SceneId) : Act Unit := do
  let job ← theJob
  discard task.1
  readVoice env
  when ((job.scenes.find? (·.sceneId = task.2)).isNone) (raise .other)
  modifyScene task.2 ({ · with taskId := none })

/-- `_engine_identity` of the snapshot of a Job. -/
def engineIdentity (job : Job) : EngineIdentity :=
  (job.videoEngineSnapshot.map EngineSnapshot.identity).getD .native

/-- `_cancel_and_release_state`: only the engine the attempt went to can say that it has ended. -/
def cancelAndReleaseState (env : Env) (id : JobId) (job : Job) (key : SubmitKey) : ReleaseState :=
  if env.engine.identity ≠ engineIdentity job then .unconfirmed else env.cancelState id key

/-- One render attempt of a Job that is paused or cancelled, and what is known of its runtime. -/
def haltAssembly (env : Env) (task : TaskId × ℕ) : Act Unit := do
  let s ← read
  discard task.1
  forEach (fun key => modifyJob fun job =>
      { job with
        assemblyReleases := job.assemblyReleases.set key
          ⟨engineIdentity s.job, cancelAndReleaseState env s.jobId s.job key, task.1⟩ })
    (s.job.videoEngineSnapshot.bind EngineSnapshot.submitKey).toList

/-- A stage that runs is closed with the Job. -/
def haltStage (a : Halt) (name : StageName) : Act Unit := do
  let job ← theJob
  when (job.stages.isSome ∧ job.stage name = .running) (transitionStage name a.stageStatus)

/-- The render attempts of a Job that is paused or cancelled. -/
def haltAssemblies (env : Env) (a : Halt) : Act Unit := do
  let job ← theJob
  when (job.assemblyTaskIds.entries ≠ []) do
    forEach (haltAssembly env) job.assemblyTaskIds.entries
    modifyJob ({ · with
      assemblyTaskIds := ∅
      assemblyTaskId := none
      assemblyCancelRequested := true })
    haltStage a .assembly

/-- `_job_action` with `PAUSED` or `CANCELLED`. -/
def haltJob (env : Env) (a : Halt) : Act Unit := do
  let job ← theJob
  forEach (haltScene env a) job.activeTaskIds.entries
  forEach (haltVoice env) job.ttsActiveTaskIds.entries
  discardOption job.storyboardTaskId
  modifyJob ({ · with storyboardTaskId := none })
  discardOption job.scriptTaskId
  modifyJob ({ · with scriptTaskId := none })
  haltAssemblies env a
  forEach discard job.publishTaskIds.keys
  modifyJob ({ · with
    publishTaskIds := ∅
    activeTaskIds := ∅
    ttsActiveTaskIds := ∅
    activeTaskId := none
    assignedWorker := none })
  haltStage a .assets
  haltStage a .tts
  haltStage a .script
  update a.status

/-- A paused stage runs again. -/
def resumeStage (name : StageName) : Act Unit := do
  let job ← theJob
  when (job.stages.isSome ∧ job.stage name = .paused) (transitionStage name .running)

/-- `resume_job`: `_job_action` with `NEW`. -/
def resumeJob : Act Unit := do
  modifyJob fun job =>
    { job with
      scenes := job.scenes.map fun s => if s.status = .paused then { s with status := .pending } else s
      ttsAttempts := ∅ }
  resumeStage .assets
  resumeStage .tts
  update .new
  submit .prepareAndDispatch

/-! ## Retry and regenerate -/

/-- A render or a publication of the Job is under way. -/
def midRender (job : Job) : Bool :=
  job.videoRegenerating ∨
    job.assemblyTaskIds.entries ≠ [] ∧ (job.status = .assembly ∨ job.status = .videoGeneration) ∨
    job.status = .publishing

def retryJob : Act Unit := do
  let job ← theJob
  if midRender job then raise (.http 409 "Cannot retry while render in progress")
  else if ¬ job.canRetry then update .failed
  else
    modifyJob fun job => { job with retries := job.retries + 1 }
    update .new
    submit .prepareAndDispatch

/-- `regenerate_job` unlinks the file of every artifact: no file of the version is there afterwards. -/
def unlinks (job : Job) (version : ℕ) : Bool := job.artifacts.any (·.kind = .video version)

def regenerateJob (env : Env) : Act Unit := do
  let job ← theJob
  if midRender job then raise (.http 409 "Cannot regenerate while render in progress")
  else
    forEach discard job.activeTaskIds.keys
    answer env.removeFiles
    modifyJob fun job =>
      { job with
        retries := 0
        script := none
        scenes := []
        stages := none
        artifacts := []
        activeTaskId := none
        activeTaskIds := ∅
        completedTaskIds := []
        assignedWorker := none
        outputPath := none
        publicationResults := ∅
        assemblyTaskIds := ∅
        assemblyCancelRequested := false
        videoRegenerating := false
        videoVersions :=
          job.videoVersions.filter fun v => env.versionExists v.version && !unlinks job v.version }
    answer env.writeManifest
    update .new
    submit .prepareAndDispatch

/-! ## Scripts, storyboards and videos -/

/-- `approve_script_endpoint`. -/
def approveScript : Act Unit := do
  let job ← theJob
  if job.status ≠ .scriptPendingApproval ∧ job.status ≠ .scriptRevisionRequested then
    raise (.http 409 "Cannot approve script")
  else
    transition .scriptApproved
    submit .prepareAndDispatch

def requestScriptRevision : Act Unit := do
  let job ← theJob
  if job.status ≠ .scriptPendingApproval then raise (.http 409 "Cannot request script revision")
  else transition .scriptRevisionRequested

def regenerateScript (env : Env) : Act Unit := do
  let job ← theJob
  if job.status ≠ .scriptRevisionRequested then raise (.http 409 "Cannot regenerate script")
  else
    modifyJob ({ · with
      script := none
      scenes := []
      stages := none
      artifacts := []
      activeTaskId := none
      scriptTaskId := none
      scriptAttempt := 0
      scriptError := none
      activeTaskIds := ∅
      completedTaskIds := []
      assignedWorker := none
      outputPath := none })
    transition .scriptQueued
    generateScript env

/-- `StoryboardService._active`: the version is the active one and open. -/
def activeVersion (version : ℕ) : Act StoryboardVersion := do
  let job ← theJob
  match job.storyboards.find? (·.version = version) with
  | none => raise (.http 404 "Storyboard not found")
  | some storyboard =>
    if job.activeStoryboardVersion ≠ some version ∨ storyboard.status ≠ .pendingApproval then
      raise (.http 409 "Storyboard version is stale")
    else pure storyboard

/-- `StoryboardService.approve`. -/
def approveStoryboard (env : Env) (version : ℕ) (script : Script) : Act Unit := do
  let storyboard ← activeVersion version
  if storyboard.imageStatus ≠ .approved then raise (.http 409 "approve previews first")
  else
    modifyStoryboard version ({ · with status := .approved })
    let script ← answer (env.normalizeScript script)
    modifyJob ({ · with script := some script })
    update .storyboardApproved
    submit .prepareAndDispatch

def approveImages (version : ℕ) : Act Unit := do
  let storyboard ← activeVersion version
  if storyboard.scenes.any (·.imageArtifactId.isNone) then
    raise (.http 409 "Not all scene preview images are ready")
  else if storyboard.imageStatus ≠ .ready ∧ storyboard.imageStatus ≠ .pending then
    raise (.http 409 "Image storyboard is closed")
  else
    modifyStoryboard version ({ · with imageStatus := .approved })
    modifyJob ({ · with activeImageVersion := some storyboard.imageVersion })
    submit .prepareAndDispatch

def requestImageRevision (env : Env) (version : ℕ) (indexes : List ℕ) : Act Unit := do
  let _ ← activeVersion version
  modifyJob fun job =>
    { job with storyboards := job.storyboards.map fun s =>
        if s.imageStatus = .approved then { s with imageStatus := .superseded } else s }
  modifyStoryboard version fun sb =>
    { sb with
      imageVersion := sb.imageVersion + 1
      imageStatus := .pending
      scenes := sb.scenes.map fun s =>
        if indexes = [] ∨ s.index ∈ indexes then
          { s with imageVersion := some (sb.imageVersion + 1), imageArtifactId := none }
        else s }
  queueImageStoryboard env version indexes

/-- `StoryboardService.regenerate`. -/
def regenerateStoryboard (env : Env) (version : ℕ) : Act Unit := do
  let _ ← activeVersion version
  modifyStoryboard version ({ · with status := .superseded })
  update .storyboardRevisionRequested
  queueStoryboard env

/-- `approve_video` of the version and, where it is sent, the digest that were reviewed; the file on
disk is the one a delivery reads. -/
def approveVideo (env : Env) (version : ℕ) (sha256 : Option Digest) : Act Unit := do
  let job ← theJob
  if job.status ≠ .videoPendingApproval then raise (.http 409 "Cannot approve video")
  else if job.activeVideoVersion ≠ some version then raise (.http 409 "Stale video approval")
  else if sha256.isSome ∧ ((activeVideo job).map VideoVersion.sha256 ≠ sha256 ∨
      env.deliveryContract (← theId) ≠ sha256) then
    raise (.http 409 "Stale video approval")
  else
    modifyJob (·.approveVersion version)
    transition .videoApproved
    transition .videoReady
    transition .ready

/-- `regenerate_video_endpoint`. -/
def regenerateVideo : Act Unit := do
  let job ← theJob
  if job.status = .videoPendingApproval then
    modifyJob fun job => { job with videoRevisions := job.videoRevisions ++ ["regenerate"] }
    transition .videoRevisionRequested
  else when (job.status ≠ .videoRevisionRequested) (raise (.http 409 "Cannot regenerate video"))
  let job ← theJob
  if job.videoRegenerating then raise (.http 409 "Video regeneration already in progress")
  else
    modifyJob ({ · with videoRegenerating := true })
    submit .videoRegenerate

/-- The end of `_finalize_video_regenerate`. -/
def endRegenerate : Act Unit := modifyJob ({ · with videoRegenerating := false })

/-- `_finalize_video_regenerate`, up to the render. -/
def finalizeVideoRegenerate (env : Env) : Act (Option Parked) := do
  let job ← theJob
  if job.status.halted then
    endRegenerate
    pure none
  else if env.reassemblyInputs (← theId) then
    modifyJob ({ · with status := .assetsReady, videoRegenerating := true })
    let version ← finalizeJobSafe env
    match version with
    | some version => pure (some (.regenerate version))
    | none => do
      endRegenerate
      pure none
  else
    endRegenerate
    update .videoFailed
    pure none

/-! ## Publish -/

/-- What the results of the channels close the stage with. -/
def closePublish (channels : List Channel) : Act Unit := do
  let job ← theJob
  if channels.all fun channel => job.publicationResults.get? channel = some .published then
    transitionStage .publish .ready
    update .published
  else
    transitionStage .publish .failed
    update .failed

def publishJob (env : Env) (channels : List Channel) : Act Unit := do
  let s ← read
  let job := s.job
  let retryable : Bool := job.status = .failed ∧ job.publicationResults.entries ≠ [] ∧
    job.outputPath.isSome ∧ env.outputExists s.jobId
  let targets := if channels = [] then [.youtube] else channels
  if job.status ∈ [.videoPendingApproval, .videoRevisionRequested, .videoApproved] then
    raise (.http 409 "Job is awaiting video approval")
  else if job.script.isSome ∧ job.activeVideoVersion.isSome ∧ ¬ (activeVideo job).any (·.approved) then
    raise (.http 409 "Job's active video version is not approved for publication")
  else if job.status ≠ .ready ∧ ¬ retryable then raise (.http 409 "Job is not ready")
  else if ¬ targets.all env.channelAvailable then raise (.http 400 "Unknown publishers")
  else
    transitionStage .publish .running
    modifyJob ({ · with publishError := none })
    if ¬ s.workers.values.any Worker.publisher ∧ env.localFallback then
      forEach (publishLocal env) targets
      closePublish targets
    else
      forEach (fun channel => enqueuePublishTask env channel 0) targets
      update .publishing

/-! ## Dead letters -/

/-- `retry_dead_letter_task`, once the entry is in the ready queue again. -/
def reviveTask (item : Item TaskBody) : Act Unit := do
  let job ← theJob
  match item.payload.sceneId.bind fun id => job.scenes.find? (·.sceneId = id) with
  | none => do
    discard item.taskId
    raise (.http 409 "Job or scene no longer exists")
  | some scene => do
    modifyScene scene.sceneId ({ · with status := .failed, taskId := some item.taskId })
    modifyJob fun job =>
      { job with
        activeTaskIds := job.activeTaskIds.set item.taskId scene.sceneId
        activeTaskId := some item.taskId }
    when (job.stages.isNone) (raise .key)
    when (job.stage .assets = .failed) (transitionStage .assets .running)
    update .assetGeneration

end Act

/-- A request about one Job. -/
def forJob (id : JobId) (m : Act Unit) : Request Unit := do
  let c ← read
  match c.jobs.get? id with
  | none => raise (.http 404 "Job not found")
  | some job => onJob id job m

def retryDeadLetterTask (env : Env) (taskId : TaskId) : Request Unit := do
  let c ← read
  if c.queue.hasTask taskId then raise (.http 409 "Task already queued or inflight")
  else
    match c.queue.requeueDeadLetter taskId env.now c.nextId with
    | (none, _) => raise (.http 404 "Dead-letter task not found")
    | (some item, queue) => do
      write fun c => { c with queue := queue, nextId := c.nextId + 1 }
      match c.jobs.get? item.payload.jobId with
      | none => do
        write fun c => { c with queue := c.queue.discard item.taskId }
        raise (.http 409 "Job or scene no longer exists")
      | some job => onJob item.payload.jobId job (Act.reviveTask item)

end Vertep.Core
