import Vertep.Core.Results

/-!
# Results of voice and scene tasks

The last two branches of `task_result` (`core/api/tasks.py`), and `task_result` itself. The second
`if not result.success` of the scene branch cannot be reached and is left out; so are the marks of
`request_cancel`, which only the workers read.
-/

namespace Vertep.Core
open Lib Queue

/-! ## Voice -/

/-- A field that the issued task pins. -/
def pinned (required actual : Option ℕ) : Except Err Unit :=
  match required, actual with
  | none, _ => .ok ()
  | some _, none => .error (.value "Audio contract is missing required field")
  | some r, some a =>
    if a = r then .ok () else .error (.value "Audio contract does not match task requirement")

def validateTtsContract (env : Env) (task : VoiceConfig) (data : Data) :
    ContractValue → Except Err Unit
  | .absent | .other => .error (.value "Audio contract is missing or not a dict")
  | .object contract =>
    if ¬ contract.audioFormat then
      .error (.value "Audio contract must declare format 'audio_contract/v1'")
    else if contract.sha256 = none then .error (.value "Audio contract must declare sha256")
    else if contract.sha256 ≠ some (env.sha256 data) then
      .error (.value "Audio contract sha256 does not match artifact payload")
    else if contract.provider = none then .error (.value "Audio contract must declare provider")
    else if contract.voice = none then .error (.value "Audio contract must declare voice")
    else do
      pinned task.provider contract.provider
      pinned task.voice contract.voice
      pinned task.model contract.model
      pinned task.language contract.language
      pinned task.speed contract.speed

/-- `except (OSError, ValueError) as error: raise HTTPException(400, …)`. -/
def Err.contractTo400 : Err → Err
  | .value _ => .http 400 "Invalid audio contract"
  | .os _ => .http 400 "Invalid audio contract"
  | e => e

def audioSuffixes : List Suffix := [.wav, .ogg, .mp3, .aac, .m4a]

/-- One audio file of a result, with the bytes of those before it. -/
def checkAudio (env : Env) (task : VoiceConfig) (total : ℕ) (artifact : Upload) :
    Except Err (ℕ × Data) := do
  let data ← Except.mapError (Err.inputTo400 "Invalid base64 artifact") (env.decode artifact.blob)
  let total := total + env.size data
  if env.maxArtifactBytes < total then .error (.http 413 "Artifacts are too large")
  else if artifact.suffix.getD .wav ∉ audioSuffixes then
    .error (.http 400 "Unsupported audio artifact type")
  else
    Except.mapError Err.valueTo400 (env.integrity data (artifact.suffix.getD .wav))
    Except.mapError (fun e => match e with
        | .value _ => .http 400 "Invalid audio contract"
        | e => e)
      (validateTtsContract env task data artifact.contract)
    .ok (total, data)

/-- The loop over the files. -/
def checkAudios (env : Env) (task : VoiceConfig) : ℕ → List Upload → Except Err Unit
  | _, [] => .ok ()
  | total, artifact :: rest => do
    let (total, _) ← checkAudio env task total artifact
    checkAudios env task total rest

/-- The record of a node whose voice task has failed. -/
def Worker.dismissed (now : Time) (w : Worker) : Worker :=
  { w with
    currentJob := none
    currentTask := none
    status := w.desiredState.getD .ready
    lastSeen := some now }

namespace Act
open Command

/-- The end of `_handle_tts_failure`: the next attempt, or the stage fails. -/
def retryTts (env : Env) (taskId : TaskId) (error : Option String) (scene : Scene) (used most : ℕ) :
    Act Unit := do
  readVoice env
  if used < most then
    enqueueTtsTask env (min env.ttsBackoffCap (env.ttsBackoffBase ^ used)) scene
  else
    transitionStage .tts .failed
    deadLetter env
      { taskId := some taskId
        payload := { jobId := ← theId, task := some .voice, sceneId := some scene.sceneId } }
      error
    update .failed

def handleTtsFailure (env : Env) (taskId : TaskId) (node : Option NodeName) (error : Option String)
    (scene : Scene) : Act Unit := do
  let job ← theJob
  let used := ttsAttemptsUsed job scene.sceneId + 1
  modifyJob fun job => { job with ttsAttempts := job.ttsAttempts.set scene.sceneId used }
  discard taskId
  modifyJob fun job =>
    { job with
      ttsActiveTaskIds := job.ttsActiveTaskIds.pop taskId
      voiceTaskSnapshot := job.voiceTaskSnapshot.pop taskId }
  modifyScene scene.sceneId ({ · with assignedWorker := none })
  forEach (fun node => modifyWorker node (·.dismissed env.now)) node.toList
  retryTts env taskId error scene used job.ttsMaxRetries

/-- One audio file enters the Job, with its contract beside it. -/
def registerAudio (env : Env) (r : TaskResult) (scene : Scene) (index : ℕ) : Act Unit := do
  let _ ← registerArtifact env .audio index (some scene.sceneId) (some r.taskId) (some r.nodeName)
  handle
    (do
      answer (env.writeContract index)
      let _ ← registerArtifact env .audioContract index (some scene.sceneId) (some r.taskId)
        (some r.nodeName)
      pure ())
    (fun e => raise e.contractTo400)

/-- The Job after its last voice task. -/
def settleTts (env : Env) : Act Unit := do
  transitionStage .tts .ready
  transition .ttsReady
  let job ← theJob
  if job.taskType = .image ∨ job.taskType = .video then
    if orderedSceneFiles env job ≠ [] then submit .finalizeAndNotify
    else
      transitionStage .assembly .failed
      update .failed
  else if job.taskType = .voice then update .ready

/-- The branch once the files are in and the worker is free. -/
def takeVoice (env : Env) (r : TaskResult) : Act Unit := do
  ack r.taskId
  readVoice env
  modifyJob fun job =>
    { job with
      completedTaskIds := job.completedTaskIds ++ [r.taskId]
      ttsActiveTaskIds := job.ttsActiveTaskIds.pop r.taskId }
  let job ← theJob
  if job.ttsActiveTaskIds.entries = [] then settleTts env

def voiceResult (env : Env) (r : TaskResult) : Act Unit := do
  let s ← read
  match sceneForTask s.job r.taskId, s.job.voiceTaskSnapshot.get? r.taskId with
  | none, _ => raise (.http 409 "TTS result does not match the active task")
  | some scene, snapshot =>
    if scene.assignedWorker ≠ some r.nodeName then
      raise (.http 409 "TTS result does not match the active task")
    else if ¬ textTaskLease env.now s r.taskId r.nodeName then raise (.http 409 (leaseProblem s r.taskId r.nodeName))
    else
      match snapshot with
      | none => raise (.http 409 "No issued voice-task snapshot for this result")
      | some task =>
        if s.job.status.halted then raise (.http 409 (haltedDetail s.job.status))
        else if ¬ r.success then handleTtsFailure env r.taskId (some r.nodeName) r.error scene
        else if r.artifacts = [] then raise (.http 400 "Successful TTS result has no artifact")
        else
          answer (checkAudios env task 0 r.artifacts)
          answer (Except.mapError (Err.osTo500 "Could not persist audio artifacts") env.writeFiles)
          forEach (registerAudio env r scene) (List.range r.artifacts.length)
          releaseWorker env r.nodeName
          takeVoice env r

end Act

/-! ## Scenes -/

/-- `artifact_contracts`: what a Job of a type accepts. -/
def allowedSuffixes : TaskType → List Suffix
  | .video => [.mp4, .webm, .mov]
  | .text => [.txt]
  | .voice => audioSuffixes
  | .publish | .backup => [.json]
  | .image => [.png, .jpg, .jpeg, .webp, .ppm]

def sceneArtifactKind : TaskType → ArtifactKind
  | .video => .videoScene
  | .text => .text
  | .voice => .audio
  | .publish => .publicationReceipt
  | .backup => .backupReceipt
  | .image => .image

/-- One file of a scene result, with the bytes of those before it. -/
def checkSceneFile (env : Env) (taskType : TaskType) (total : ℕ) (artifact : Upload) :
    Except Err ℕ := do
  let data ← Except.mapError (Err.inputTo400 "Invalid base64 artifact") (env.decode artifact.blob)
  let total := total + env.size data
  let suffix := artifact.suffix.getD .png
  if (if taskType = .video then env.maxVideoArtifactBytes else env.maxArtifactBytes) < total then
    .error (.http 413 "Artifacts are too large")
  else if suffix ∉ allowedSuffixes taskType then .error (.http 400 "Unsupported artifact type")
  else
    Except.mapError Err.valueTo400 (env.integrity data suffix)
    let data ← if taskType = .publish ∨ taskType = .backup then
        Except.mapError (fun e => match e with
            | .value _ => .http 400 "Invalid receipt artifact"
            | e => e)
          (env.redact data)
      else .ok data
    match taskType with
    | .video => Except.mapError Err.valueTo400 (env.mediaContract artifact.contract data .video)
    | .image => Except.mapError Err.valueTo400 (env.mediaContract artifact.contract data .image)
    | _ => .ok ()
    env.makeFolder
    .ok total

/-- The loop over the files. -/
def checkSceneFiles (env : Env) (taskType : TaskType) : ℕ → List Upload → Except Err Unit
  | _, [] => .ok ()
  | total, artifact :: rest => do
    let total ← checkSceneFile env taskType total artifact
    checkSceneFiles env taskType total rest

/-- The files of a scene result, wherever the worker put them. -/
def TaskResult.files (r : TaskResult) : List Upload :=
  if r.artifacts ≠ [] then r.artifacts
  else if r.images ≠ [] then r.images
  else
    match r.imageBase64 with
    | some blob => if blob = emptyBlob then [] else [{ blob := some blob, suffix := some r.filename }]
    | none => []

/-- The Job once the release of an attempt is proven. -/
def Job.releaseHold (job : Job) (key : SubmitKey) : Job :=
  match job.assemblyReleases.get? key with
  | some release =>
    if release.state = .released then job
    else
      { job with
        assemblyReleases := job.assemblyReleases.set key { release with state := .released } }
  | none => job

def cancelledAttemptRelease (job : Job) (taskId : TaskId) : Option (SubmitKey × AssemblyRelease) :=
  job.assemblyReleases.entries.find? (·.2.taskId = taskId)

namespace Act
open Command

/-- `release_assembly_hold` with the state `released`. -/
def releaseAssemblyHold (key : SubmitKey) : Act Unit := modifyJob (·.releaseHold key)

/-- A scene task that was cancelled. -/
def sceneCancelled (env : Env) (r : TaskResult) (scene : Scene) : Act Unit := do
  ack r.taskId
  readReferences env
  modifyJob fun job =>
    { job with
      activeTaskIds := job.activeTaskIds.pop r.taskId
      activeTaskId := none
      assignedWorker := none }
  modifyScene scene.sceneId fun s => cancelScene { s with taskId := none, assignedWorker := none }

/-- The other active scenes of a Job whose scene ran out of attempts. -/
def cancelSibling (env : Env) (sibling : TaskId × SceneId) : Act Unit := do
  discard sibling.1
  modifyScene sibling.2 cancelScene
  readReferences env

/-- A scene that is out of attempts takes the Job with it. -/
def failAssets (env : Env) (r : TaskResult) (scene : Scene) : Act Unit := do
  modifyJob ({ · with activeTaskId := none, assignedWorker := none })
  let job ← theJob
  forEach (cancelSibling env) job.activeTaskIds.entries
  modifyJob ({ · with activeTaskIds := ∅ })
  transitionStage .assets .failed
  readReferences env
  let id ← theId
  deadLetter env
    { taskId := some r.taskId
      priority := some job.priority
      payload := { jobId := id, task := some job.taskType.taskName, sceneId := some scene.sceneId } }
    r.error
  update .failed

/-- A scene task that failed. -/
def sceneFailed (env : Env) (r : TaskResult) (scene : Scene) : Act Unit := do
  ack r.taskId
  readReferences env
  modifyJob fun job => { job with activeTaskIds := job.activeTaskIds.pop r.taskId }
  modifyScene scene.sceneId fun s => { failScene s with taskId := none, assignedWorker := none }
  let job ← theJob
  if scene.attempts.length < job.maxRetries then
    let _ ← enqueueJobTask env { failScene scene with taskId := none, assignedWorker := none } true
      (env.retryBackoffBase * 2 ^ (job.retries - 1))
  else failAssets env r scene

/-- The Job after the last scene. -/
def settleScenes (env : Env) : Act Unit := do
  transitionStage .assets .ready
  let s ← read
  match s.job.taskType with
  | .text | .voice | .backup => update .ready
  | .publish => update .published
  | .image | .video =>
    if pendingVoiceScenes s.job ≠ [] ∧ characterVoiceEnabled env s.jobId ∧ hasVoiceWorker s.workers then
      transition .ttsGenerating
      dispatchTts env
    else submit .finalizeAndNotify

/-- A scene task that is done. -/
def sceneDone (env : Env) (r : TaskResult) (scene : Scene) : Act Unit := do
  let job ← theJob
  when (r.files = []) (raise (.http 400 "Successful result has no artifact"))
  answer (checkSceneFiles env job.taskType 0 r.files)
  answer (Except.mapError (Err.osTo500 "Could not persist worker artifacts") env.writeFiles)
  let saved ← collect
    (fun index => registerArtifact env (sceneArtifactKind job.taskType) index (some scene.sceneId)
      (some r.taskId) (some r.nodeName))
    (List.range r.files.length)
  ack r.taskId
  readReferences env
  modifyScene scene.sceneId (finishScene saved)
  modifyJob fun job =>
    { job with
      completedTaskIds := job.completedTaskIds ++ [r.taskId]
      activeTaskIds := job.activeTaskIds.pop r.taskId
      activeTaskId := (job.activeTaskIds.pop r.taskId).keys.head?
      assignedWorker := none }
  let job ← theJob
  if allScenesReady job then settleScenes env

/-- The branch once the worker is free. -/
def takeScene (env : Env) (r : TaskResult) (scene : Scene) : Act Unit :=
  if r.cancelled then sceneCancelled env r scene
  else if ¬ r.success then sceneFailed env r scene
  else sceneDone env r scene

def sceneResult (env : Env) (r : TaskResult) : Act Unit := do
  let job ← theJob
  if r.taskId ∈ job.completedTaskIds then
    raise (.http 409 "Duplicate result for an already completed task")
  else
    match cancelledAttemptRelease job r.taskId with
    | some (key, _) => do
      releaseAssemblyHold key
      raise (.http 409 "Assembly result does not match the active attempt lease")
    | none =>
      match sceneForTask job r.taskId with
      | none => raise (.http 409 "Result does not match the active task")
      | some scene =>
        if scene.assignedWorker ≠ some r.nodeName then
          raise (.http 409 "Task is assigned to another worker")
        else if job.status.halted then raise (.http 409 (haltedDetail job.status))
        else
          releaseWorker env r.nodeName
          takeScene env r scene

/-- The branch a result goes to. -/
def result (env : Env) (r : TaskResult) : Act Unit := do
  let job ← theJob
  if job.imageStoryboardTaskIds.contains r.taskId then imageStoryboardResult env r
  else if job.storyboardTaskId = some r.taskId then storyboardResult env r
  else if job.scriptTaskId = some r.taskId then scriptResult env r
  else if job.assemblyTaskIds.contains r.taskId then assemblyResult env r
  else if job.publishTaskIds.contains r.taskId then publishResult env r
  else if job.ttsActiveTaskIds.contains r.taskId then voiceResult env r
  else sceneResult env r

end Act

/-! ## CORE as a whole -/

/-- A thread that waits for a render of CORE itself: the version, and what is left of the thread. -/
inductive Parked where
  | finalize (version attempts : ℕ)
  | dispatch (version attempts : ℕ)
  | dispatchVoices (version attempts : ℕ)
  | regenerate (version : ℕ)
deriving DecidableEq

/-- CORE: its store, its workers and its queue. -/
structure System where
  jobs : Dict JobId Job := ∅
  workers : Dict NodeName Worker := ∅
  queue : LocalQueue TaskBody := {}
  nextId : ℕ := 0
  submitted : List (JobId × Background) := []
  rendering : List (JobId × Parked) := []
deriving DecidableEq

/-- A handler runs on a Job of the store. -/
def System.on (c : System) (id : JobId) (job : Job) {α : Type} (m : Act α) : Except Err α × System :=
  let (x, s) := m ⟨id, job, c.workers, c.queue, c.nextId, []⟩
  (x,
    { jobs := c.jobs.set id s.job
      workers := s.workers
      queue := s.queue
      nextId := s.nextId
      submitted := c.submitted ++ s.submitted.map fun b => (id, b)
      rendering := c.rendering })

def taskResult (env : Env) (r : TaskResult) (c : System) : Except Err Unit × System :=
  if ¬ env.authorized then (.error (.http 401 "Token is not valid for this worker"), c)
  else
    match c.jobs.get? r.jobId with
    | none => (.error (.http 404 "Job not found"), c)
    | some job => c.on r.jobId job (Act.result env r)

end Vertep.Core
