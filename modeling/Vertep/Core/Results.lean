import Vertep.Core.Finalize
import Vertep.Core.Tasks

/-!
# Results of workers

Embedding of the branches of `task_result` (`core/api/tasks.py`) for previews, storyboards, scripts,
assemblies and publications, with the functions they hand a result to: one definition for each branch,
in the order of the source. `Core.SceneResults` has the other two and the dispatch.
-/

namespace Vertep.Core
open Lib Queue

/-- `except ValueError as error: raise HTTPException(400, str(error))`. -/
def Err.valueTo400 : Err → Err
  | .value detail => .http 400 detail
  | e => e

/-- `except (ValueError, RuntimeError) as error: raise HTTPException(400, str(error))`. -/
def Err.valueOrRuntimeTo400 : Err → Err
  | .value detail => .http 400 detail
  | .runtime detail => .http 400 detail
  | e => e

/-- `except (KeyError, TypeError, ValueError) as error: raise HTTPException(400, detail)`. -/
def Err.inputTo400 (detail : String) : Err → Err
  | .key => .http 400 detail
  | .type => .http 400 detail
  | .value _ => .http 400 detail
  | e => e

/-- `except OSError as error: raise HTTPException(500, detail)`. -/
def Err.osTo500 (detail : String) : Err → Err
  | .os _ => .http 500 detail
  | e => e

def sceneForTask (job : Job) (taskId : TaskId) : Option Scene :=
  ((job.activeTaskIds.get? taskId).or (job.ttsActiveTaskIds.get? taskId)).bind fun id =>
    job.scenes.find? (·.sceneId = id)

/-- The Worker record is bound to this task of this Job: `_assembly_worker_owns`. -/
def workerOwns (workers : Dict NodeName Worker) (jobId : JobId) (taskId : TaskId) (node : NodeName) :
    Bool :=
  (workers.get? node).any fun w => w.currentTask = some taskId ∧ w.currentJob = some jobId

def textTaskLease (now : Time) (s : Ctx) (taskId : TaskId) (node : NodeName) : Bool :=
  workerOwns s.workers s.jobId taskId node && s.queue.inflightActive taskId now

/-- What `_text_task_lease` says of a lease that is not held. -/
def leaseProblem (s : Ctx) (taskId : TaskId) (node : NodeName) : String :=
  if workerOwns s.workers s.jobId taskId node then "task lease is no longer active"
  else "owner/lease mismatch"

/-- `f"Job is {job.status.value}"` of a halted Job. -/
def haltedDetail (status : JobStatus) : String :=
  if status = .paused then "Job is PAUSED" else "Job is CANCELLED"

/-! ## Scenes -/

def endAttempt (status : StageStatus) (attempts : List StageStatus) : List StageStatus :=
  attempts.modify (attempts.length - 1) fun _ => status

def finishScene (artifactIds : List ArtifactId) (scene : Scene) : Scene :=
  { scene with
    status := .ready
    artifactIds := scene.artifactIds ++ artifactIds.filter (· ∉ scene.artifactIds)
    attempts := endAttempt .ready scene.attempts }

def failScene (scene : Scene) : Scene :=
  { scene with status := .failed, attempts := endAttempt .failed scene.attempts }

def cancelScene (scene : Scene) : Scene :=
  { scene with
    status := .cancelled
    assignedWorker := none
    attempts :=
      if scene.attempts.getLast? = some .running then endAttempt .cancelled scene.attempts
      else scene.attempts }

def assemblyRetryTask (env : Env) (id : JobId) (job : Job) : Except Err (Option TaskBody) :=
  match job.videoEngineSnapshot with
  | none => .ok none
  | some snapshot =>
    let version := snapshot.videoVersion.getD 0
    if version = 0 then .ok none
    else if orderedSceneFiles env job = [] then .ok none
    else
      match env.assemblyPlan id with
      | .error (.value _) | .error (.os _) => .ok none
      | .error e => .error e
      | .ok () =>
        if planVersion job ≠ version then .ok none
        else
          match snapshot.submitKey with
          | none => .error .key
          | some key => do
            env.stageInputs id
            .ok (some
              { jobId := id
                task := some .assembly
                version := some version
                submitKey := some key
                engineSnapshot := some snapshot })

namespace Act
open Command

/-! ## Image storyboard -/

/-- The branch once the worker is free. -/
def takePreview (env : Env) (r : TaskResult) : Act Unit := do
  handle
    (handleImageResult env r.taskId r.success r.imageBase64 r.error
      (if r.artifacts = [] then r.images else r.artifacts))
    (fun e => raise e.valueTo400)
  ack r.taskId
  let id ← theId
  when (¬ r.success) (deadLetter env
    { taskId := some r.taskId, payload := { jobId := id, imageStoryboard := true } } r.error)

def imageStoryboardResult (env : Env) (r : TaskResult) : Act Unit := do
  releaseWorker env r.nodeName
  takePreview env r

/-! ## Storyboard -/

/-- `StoryboardService.handle_result`; `false` stands for the `None` of a rejected result. -/
def handleStoryboardResult (env : Env) (r : TaskResult) : Act Bool := do
  let s ← read
  let job := s.job
  if job.storyboardTaskId ≠ some r.taskId then pure true
  else if ¬ workerOwns s.workers s.jobId r.taskId r.nodeName then pure false
  else if r.cancelled then pure false
  else if job.activeStoryboardVersion.isSome ∧
      job.activeStoryboardVersion ≠ job.storyboards.getLast?.map StoryboardVersion.version then
    pure false
  else if ¬ r.success then do
    modifyJob ({ · with storyboardAttempt := job.storyboardAttempt + 1, storyboardError := r.error })
    if job.storyboardAttempt + 1 < max 1 env.storyboardMaxRetries then
      queueStoryboard env
      pure true
    else
      update .storyboardFailed
      raise (.runtime (r.error.getD "Storyboard generation failed"))
  else
    match r.artifacts.find? (·.kind = .storyboard) with
    | none => raise (.runtime "No storyboard artifact in result")
    | some artifact => do
      let malformed : Err → Err := fun e => match e with
        | .key | .type | .value _ => .value "Malformed storyboard artifact"
        | e => e
      let payload ← handle (answer (env.storyboardPayload artifact.blob)) (fun e => raise (malformed e))
      if payload.version ≠ some job.nextStoryboard then pure false
      else
        handle (answer payload.complete) (fun e => raise (malformed e))
        let scenes := payload.scenes.map fun index : ℕ =>
          { index := index
            sceneId := some (previewSceneId job.nextStoryboard index)
            imageVersion := some payload.imageVersion : StoryboardScene }
        modifyJob fun job =>
          { job with
            storyboards := (job.storyboards.map fun s =>
                if s.status = .pendingApproval then { s with status := .superseded } else s) ++
              [{ version := job.nextStoryboard
                 scenes := scenes
                 imageVersion := payload.imageVersion
                 imageStatus := payload.imageStatus }]
            activeStoryboardVersion := some job.nextStoryboard
            activeImageVersion := some payload.imageVersion
            storyboardError := none
            storyboardTaskId := none
            activeTaskId := none }
        update .storyboardPendingApproval
        -- `except Exception`: whatever the previews raise is an event only
        handle (do
            queueImageStoryboard env job.nextStoryboard []
            if env.localFallback then drawPreviews env)
          (fun _ => pure ())
        pure true

def storyboardResult (env : Env) (r : TaskResult) : Act Unit := do
  let s ← read
  if ¬ textTaskLease env.now s r.taskId r.nodeName then pure ()
  else
    -- what the handler ended with, the terminal failure included
    let (accepted, terminal) ← handle
      (do
        let accepted ← handleStoryboardResult env r
        pure (accepted, (none : Option String)))
      (fun e => match e with
        | .runtime detail => do
          let job ← theJob
          if r.success ∨ job.status ≠ .storyboardFailed then raise (.http 400 detail)
          else
            modifyJob ({ · with storyboardTaskId := none, activeTaskId := none })
            pure (true, some detail)
        | e => raise e.valueTo400)
    if accepted then
      modifyJob ({ · with assignedWorker := none })
      releaseWorker env r.nodeName
      ack r.taskId
      when (¬ r.success) (deadLetter env
        { taskId := some r.taskId, payload := { jobId := s.jobId, task := some .storyboard } } r.error)
      match terminal with
      | some detail => raise (.http 400 detail)
      | none => pure ()

/-! ## Script -/

/-- A script result that cannot be used spends one attempt. -/
def retryScript (env : Env) (spent : Act Unit) : Act Unit := do
  modifyJob fun job => { job with scriptAttempt := job.scriptAttempt + 1 }
  let job ← theJob
  if job.scriptAttempt ≤ job.maxRetries then
    let _ ← answer (env.loadCharacter (← theId))
    enqueueScriptTask env
  else spent

def scriptDeadLetter (env : Env) (taskId : TaskId) (error : Option String) : Act Unit := do
  deadLetter env { taskId := some taskId, payload := { jobId := ← theId, task := some .script } } error

def handleScriptResult (env : Env) (r : TaskResult) : Act Unit := do
  modifyJob fun job =>
    { job with
      scriptTaskId := if job.scriptTaskId = some r.taskId then none else job.scriptTaskId
      assignedWorker := if job.scriptTaskId = some r.taskId then none else job.assignedWorker }
  if ¬ r.success then
    let error := r.error.getD "UNKNOWN SCRIPT GENERATION ERROR"
    modifyJob ({ · with scriptError := some error })
    retryScript env do
      scriptDeadLetter env r.taskId (some error)
      update .scriptFailed
  else
    match r.artifacts.find? (·.kind = .script) with
    | none =>
      retryScript env do
        update .scriptFailed
        scriptDeadLetter env r.taskId (some "NO SCRIPT ARTIFACT AFTER RETRIES")
    | some artifact =>
      match env.scriptPayload artifact.blob with
      | .ok script => do
        modifyJob ({ · with
          script := some script
          activeTaskId := none
          scriptAttempt := 0
          scriptError := none })
        answer (env.writeScript (← theId))
        update .scriptPendingApproval
      | .error .key | .error (.value _) =>
        retryScript env do
          update .scriptFailed
          scriptDeadLetter env r.taskId (some "MALFORMED ARTIFACT")
      | .error e => raise e

/-- The branch once the worker is free. -/
def takeScript (env : Env) (r : TaskResult) : Act Unit := do
  handle (handleScriptResult env r) (fun e => raise e.valueOrRuntimeTo400)
  ack r.taskId
  let job ← theJob
  when (¬ r.success ∧ job.status ≠ .scriptFailed) (scriptDeadLetter env r.taskId r.error)

def scriptResult (env : Env) (r : TaskResult) : Act Unit := do
  let s ← read
  if ¬ textTaskLease env.now s r.taskId r.nodeName then pure ()
  else if r.cancelled then pure ()
  else
    releaseWorker env r.nodeName
    takeScript env r

/-! ## Assembly -/

def enqueueAssemblyTask (env : Env) (body : TaskBody) (newAttempt : Bool) : Act Unit := do
  let job ← theJob
  let id ← enqueue env { priority := some job.priority, payload := body } newAttempt
  modifyJob fun job =>
    { job with
      assemblyTaskId := some id
      assemblyTaskIds := job.assemblyTaskIds.set id (body.version.getD 0)
      videoEngineSnapshot := body.engineSnapshot }

/-- The pointer of an assembly attempt leaves the Job. -/
def dropAssembly (taskId : TaskId) : Act Unit := modifyJob fun job =>
  { job with
    assemblyTaskIds := job.assemblyTaskIds.pop taskId
    assemblyTaskId := if job.assemblyTaskId = some taskId then none else job.assemblyTaskId }

def assemblyDeadLetter (env : Env) (r : TaskResult) : Act Unit := do
  deadLetter env
    { taskId := some r.taskId, payload := { jobId := ← theId, task := some .assembly } } r.error

/-- The checks of `_handle_assembly_result`: everything it asks of the payload before it writes. -/
def checkAssembly (env : Env) (job : Job) (taskId : TaskId) (artifacts : List Upload) :
    Except Err (ℕ × Data) :=
  match job.assemblyTaskIds.get? taskId, job.assemblyCancelRequested, artifacts with
  | none, _, _ => .error (.value "Assembly result does not match a dispatched attempt")
  | some _, true, _ => .error (.value "Assembly result discarded: attempt cancelled")
  | some _, false, [] | some _, false, _ :: _ :: _ =>
    .error (.value "Assembly must return exactly one video artifact")
  | some version, false, [artifact] =>
    match artifact.contract with
    | .other => .error .other
    | .absent => .error (.value "Assembly artifact must declare a video media_contract/v1")
    | .object contract => do
      if ¬ contract.videoFormat then
        .error (.value "Assembly artifact must declare a video media_contract/v1")
      else
        let data ← match env.decode (some (artifact.blob.getD emptyBlob)) with
          | .error (.value _) => .error (.value "Assembly artifact is not valid base64")
          | x => x
        if env.size data = 0 then .error (.value "Assembly artifact is empty")
        else if env.maxVideoArtifactBytes < env.size data then
          .error (.value "Assembly artifact exceeds the accepted video size")
        else if contract.sha256 ≠ some (env.sha256 data) then
          .error (.value "Assembly artifact sha256 does not match its payload")
        else
          let size ← contract.size.toInt
          if size ≠ env.size data then
            .error (.value "Assembly artifact size does not match its payload")
          else
            let declared ← contract.videoVersion.toInt
            if contract.videoVersion ≠ .absent ∧ declared ≠ version then
              .error (.value "Assembly artifact declares a different video version")
            else
              env.signature data
              env.mediaContract artifact.contract data .video
              if job.videoVersions.any (·.version = version) then
                .error (.value "Video version already exists")
              else .ok (version, data)

/-- `_handle_assembly_result` of a successful result. -/
def handleAssemblyResult (env : Env) (r : TaskResult) : Act Unit := do
  let job ← theJob
  let (version, _) ← answer (checkAssembly env job r.taskId r.artifacts)
  answer env.makeFolder
  handle (answer env.writeFiles) (fun e => match e with
    | .os _ => raise (.runtime "Could not import the assembled video")
    | e => raise e)
  let _ ← registerArtifact env (.video version) 0 none (some r.taskId) (some r.nodeName)
  let sha256 ← answer (env.finishVersion (← theId))
  modifyJob fun job => finishVideoVersion job version sha256
  dropAssembly r.taskId

/-- The same under its `except (ValueError, RuntimeError)`: the text of a refusal. -/
def importAssembly (env : Env) (r : TaskResult) : Act (Option String) :=
  handle
    (do
      handleAssemblyResult env r
      pure none)
    (fun e => match e with
      | .value detail | .runtime detail => pure (some detail)
      | e => raise e)

/-- A failed or refused render spends one attempt: the retry, or `FAILED`. -/
def retryAssembly (env : Env) (beforeRetry beforeFailing : Act Unit) : Act Unit := do
  let s ← read
  let retry ← answer (if s.job.assemblyAttempt ≤ s.job.maxRetries then
    assemblyRetryTask env s.jobId s.job else .ok none)
  match retry with
  | some body => do
    beforeRetry
    enqueueAssemblyTask env body true
    update .assembly
  | none => do
    beforeFailing
    transitionStage .assembly .failed
    update .failed

/-- The branch once the worker is free. -/
def takeAssembly (env : Env) (r : TaskResult) : Act Unit := do
  if ¬ r.success then
    ack r.taskId
    dropAssembly r.taskId
    modifyJob fun job =>
      { job with
        assemblyError := r.error
        assemblyAttempt := job.assemblyAttempt + 1
        assignedWorker := none }
    retryAssembly env (assemblyDeadLetter env r) (assemblyDeadLetter env r)
  else
    let refused ← importAssembly env r
    match refused with
    | some detail => do
      ack r.taskId
      dropAssembly r.taskId
      modifyJob fun job =>
        { job with assemblyError := some detail, assemblyAttempt := job.assemblyAttempt + 1 }
      retryAssembly env (pure ()) (pure ())
    | none => do
      ack r.taskId
      modifyJob ({ · with assemblyAttempt := 0, assemblyError := none, assignedWorker := none })
      transitionStage .assembly .ready
      update .videoReady
      update .videoPendingApproval
      answer (env.notify (← theId))

def assemblyResult (env : Env) (r : TaskResult) : Act Unit := do
  let s ← read
  if ¬ workerOwns s.workers s.jobId r.taskId r.nodeName then
    raise (.http 409 "Assembly result does not match the active attempt lease")
  else if s.job.assemblyCancelRequested then
    ack r.taskId
    dropAssembly r.taskId
    releaseWorker env r.nodeName
  else
    releaseWorker env r.nodeName
    takeAssembly env r

/-! ## Publish -/

def publishLocal (env : Env) (channel : Channel) : Act Unit := do
  when (¬ env.localFallback) (raise (.runtime "Local publish execution is disabled"))
  let status ← answer (env.publishSingle (← theId) channel)
  modifyJob fun job =>
    { job with
      publicationResults := job.publicationResults.set channel status
      publishError := if status = .notConfigured then some "NOT_CONFIGURED" else job.publishError }

def enqueuePublishTask (env : Env) (channel : Channel) (delay : ℚ) : Act Unit := do
  let s ← read
  if ¬ s.workers.values.any Worker.publisher ∧ env.localFallback then publishLocal env channel
  else
    let delivery : PublishIntent := ⟨s.job.activeVideoVersion, env.deliveryContract s.jobId⟩
    modifyJob fun job => { job with publishIntent := job.publishIntent.set channel delivery }
    when (channel = .threads ∨ channel = .telegram) (answer (env.publishSettings channel))
    let id ← enqueue env
      { priority := some s.job.priority
        notBefore := if delay = 0 then none else some (env.now + delay)
        payload :=
          { jobId := s.jobId, task := some .publish, channel := some channel, delivery := some delivery } }
      false
    modifyJob fun job => { job with publishTaskIds := job.publishTaskIds.set id channel }

/-- The pointer of a publish task leaves the Job. -/
def dropPublish (taskId : TaskId) (channel : Channel) : Act Unit := modifyJob fun job =>
  { job with
    publishTaskIds :=
      if job.publishTaskIds.get? taskId = some channel then job.publishTaskIds.pop taskId
      else job.publishTaskIds }

def enqueueWithBackoff (env : Env) (taskId : TaskId) (channel : Channel) : Act Unit := do
  dropPublish taskId channel
  let job ← theJob
  let attempt := (job.publishRetryCount.get? channel).getD 0 + 1
  modifyJob fun job => { job with publishRetryCount := job.publishRetryCount.set channel attempt }
  if attempt ≤ job.maxRetries then
    update .publishing
    enqueuePublishTask env channel (min env.publishBackoffCap (env.publishBackoffBase ^ attempt))
  else
    modifyJob fun job =>
      { job with
        publicationResults :=
          if job.publicationResults.contains channel then job.publicationResults
          else job.publicationResults.set channel .failed }
    update .failed

end Act

/-- `_validate_publication_receipt`: what is wrong with a receipt. -/
def receiptProblem (env : Env) (receipt : Receipt) (channel : Channel) : Option String :=
  if receipt.channel ≠ some channel then some "Receipt channel mismatch"
  else if ¬ receipt.timestamp ∧ receipt.status.isSome then some "Receipt must have numeric timestamp"
  else
    match receipt.status with
    | none => some "Invalid receipt status"
    | some .published =>
      if ¬ receipt.remoteId then some "PUBLISHED receipt must have remote_id"
      else if ¬ receipt.url ∧ receipt.permalinkAvailable ≠ some false then
        some "PUBLISHED receipt must have url"
      else if ¬ env.demoMode ∧ receipt.mock then
        some "Mock publication receipt is not accepted outside demo mode"
      else none
    | some .failed | some .notConfigured =>
      if receipt.error.isNone then some "receipt must have error" else none

/-- `_match_publish_receipt`. -/
inductive Decision where
  | accept | skip | reject
deriving DecidableEq

def matchPublishReceipt (job : Job) (channel : Channel) (receipt : Receipt) : Decision :=
  let version := (receipt.videoVersion.filter (· ≠ 0)).or receipt.version
  let sha256 := receipt.videoSha256.or receipt.sha256
  let mismatch := (job.publishIntent.get? channel).any fun intent =>
    version.isSome ∧ intent.videoVersion.isSome ∧ version ≠ intent.videoVersion ∨
      sha256.isSome ∧ intent.videoSha256.isSome ∧ sha256 ≠ intent.videoSha256
  if mismatch then .reject
  else if channel ∈ job.publishedChannels then .skip
  else .accept

def fieldMatches {α : Type} [DecidableEq α] (expected got : Option α) : Bool :=
  expected.isNone || got = expected

/-- The receipt of a successful publish result as `task_result` checks it. -/
def checkReceipt (env : Env) (id : JobId) (job : Job) (r : TaskResult) (channel : Channel) :
    Except Err Unit :=
  match r.artifacts.find? (·.kind = .publicationReceipt) with
  | none => .error (.http 400 "Invalid issued publication receipt")
  | some artifact =>
    match env.receipt artifact.blob with
    | .error e => .error (e.inputTo400 "Invalid issued publication receipt")
    | .ok receipt =>
      let intent := job.publishIntent.get? channel
      if (receiptProblem env receipt channel).isNone ∧ fieldMatches (some id) receipt.jobId ∧
          fieldMatches (some r.taskId) receipt.taskId ∧
          fieldMatches (intent.bind PublishIntent.videoVersion) receipt.videoVersion ∧
          fieldMatches (intent.bind PublishIntent.videoSha256) receipt.videoSha256 ∧
          matchPublishReceipt job channel receipt ≠ .reject then .ok ()
      else .error (.http 400 "Invalid issued publication receipt")

namespace Act
open Command

def handlePublishResult (env : Env) (r : TaskResult) (channel : Channel) : Act Unit := do
  modifyJob fun job =>
    { job with
      activeTaskId := if job.activeTaskId = some r.taskId then none else job.activeTaskId
      publishRetryCount :=
        if job.publishRetryCount.contains channel then job.publishRetryCount
        else job.publishRetryCount.set channel 0 }
  let failWith (error : String) : Act Unit := do
    modifyJob ({ · with publishError := some error })
    enqueueWithBackoff env r.taskId channel
  if ¬ r.success then failWith (r.error.getD "UNKNOWN PUBLISH ERROR")
  else
    match r.artifacts.find? (·.kind = .publicationReceipt) with
    | none => failWith "NO RECEIPT ARTIFACT"
    | some artifact =>
      match env.redactedReceipt artifact.blob with
      | .error .key | .error (.value _) => failWith "MALFORMED RECEIPT"
      | .error e => raise e
      | .ok receipt => do
        let job ← theJob
        if (receiptProblem env receipt channel).isSome then failWith "INVALID RECEIPT"
        else
          match matchPublishReceipt job channel receipt, receipt.status with
          | .reject, _ => do
            modifyJob fun job =>
              { job with
                publishError := some "RECEIPT REJECTED"
                publicationResults :=
                  if job.publicationResults.contains channel then job.publicationResults
                  else job.publicationResults.set channel .failed }
            dropPublish r.taskId channel
            update .failed
          | .skip, _ => dropPublish r.taskId channel
          | .accept, some .published => do
            modifyJob fun job =>
              { job with
                publicationResults := job.publicationResults.set channel .published
                publishedChannels :=
                  if channel ∈ job.publishedChannels then job.publishedChannels
                  else job.publishedChannels ++ [channel]
                publishRetryCount := job.publishRetryCount.set channel 0
                publishIntent := job.publishIntent.pop channel }
            dropPublish r.taskId channel
            update .publishing
          | .accept, some .notConfigured => do
            modifyJob fun job =>
              { job with
                publicationResults := job.publicationResults.set channel .notConfigured
                publishError := some (receipt.error.getD "NOT_CONFIGURED")
                publishRetryCount := job.publishRetryCount.set channel 0
                publishIntent := job.publishIntent.pop channel }
            dropPublish r.taskId channel
          | .accept, _ => do
            modifyJob fun job =>
              { job with
                publicationResults := job.publicationResults.set channel .failed
                publishError := some (receipt.error.getD "UNKNOWN") }
            dropPublish r.taskId channel
            if receipt.retryable = some false then
              modifyJob fun job =>
                { job with
                  publishIntent :=
                    if receipt.outcomeUnknown then job.publishIntent else job.publishIntent.pop channel }
            else enqueueWithBackoff env r.taskId channel

/-- The end of the publish stage, once no task is pending. -/
def settlePublish : Act Unit := do
  let job ← theJob
  if job.publishTaskIds.entries = [] then
    let results := job.publicationResults.values
    if results.all (· = .published) ∧ results ≠ [] then
      transitionStage .publish .ready
      update .published
    else if .notConfigured ∈ results ∧ .failed ∉ results ∧ ¬ results.all (· = .published) then
      transitionStage .publish .failed
      update .failed
    else if .failed ∈ results then
      transitionStage .publish .failed
      update .failed

/-- The branch once the worker is free. -/
def takePublish (env : Env) (r : TaskResult) (channel : Channel) : Act Unit := do
  handle (handlePublishResult env r channel) (fun e => raise e.valueOrRuntimeTo400)
  ack r.taskId
  let id ← theId
  when (¬ r.success) (deadLetter env
    { taskId := some r.taskId
      payload := { jobId := id, task := some .publish, channel := some channel } }
    r.error)
  settlePublish

def publishResult (env : Env) (r : TaskResult) : Act Unit := do
  let s ← read
  match s.job.publishTaskIds.get? r.taskId with
  | none => pure ()
  | some channel =>
    if ¬ (workerOwns s.workers s.jobId r.taskId r.nodeName ∧
        s.queue.inflightActive r.taskId env.now) then
      raise (.http 409 "Publish result does not match the active task lease")
    else
      answer (if r.success then checkReceipt env s.jobId s.job r channel else .ok ())
      releaseWorker env r.nodeName
      takePublish env r channel

end Act

end Vertep.Core
