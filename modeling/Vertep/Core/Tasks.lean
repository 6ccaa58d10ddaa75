import Mathlib.Data.Nat.Pairing
import Vertep.Core.State

/-!
# Issuing tasks

Embedding of the functions of `core/api/job_helpers.py`, `core/storyboard.py` and
`core/image_storyboard.py` that build a task, enqueue it and write its id into the Job.

A task record is what the queue holds; `_task_for` and `_tts_task_for` are also called for a repository
row, where all that shows of them is what they raise (`readReferences`, `readVoice`).
-/

namespace Vertep.Core
open Lib Queue

namespace Act
open Command

def registerArtifact (env : Env) (kind : ArtifactKind) (index : ℕ) (sceneId : Option SceneId)
    (taskId : Option TaskId) (nodeName : Option NodeName) : Act ArtifactId := do
  let id ← (do let s ← read; pure s.nextId : Act ℕ)
  let record : Artifact := ⟨id, kind, sceneId, taskId, nodeName⟩
  let append : Act Unit := write fun s =>
    { s with nextId := s.nextId + 1, job := { s.job with artifacts := s.job.artifacts ++ [record] } }
  match env.register kind index with
  | none => do
    append
    pure id
  | some (true, e) => do
    append
    raise e
  | some (false, e) => raise e

/-! ## Scene tasks -/

/-- What `_task_for` may raise. -/
def readReferences (env : Env) : Act Unit := do
  let job ← theJob
  if job.taskType = .image then answer (env.listReferences (← theId)) else pure ()

def taskFor (env : Env) (scene : Scene) : Act (Queue.Task TaskBody) := do
  readReferences env
  let job ← theJob
  pure
    { taskId := scene.taskId
      priority := some job.priority
      payload := { jobId := ← theId, task := some job.taskType.taskName, sceneId := some scene.sceneId } }

/-- `_enqueue_job_task` of a scene. -/
def enqueueJobTask (env : Env) (scene : Scene) (newAttempt : Bool) (delay : ℚ) : Act TaskId := do
  let task ← taskFor env scene
  let id ← enqueue env { task with notBefore := if delay = 0 then none else some (env.now + delay) }
    newAttempt
  modifyJob fun job =>
    { job with activeTaskId := some id, activeTaskIds := job.activeTaskIds.set id scene.sceneId }
  modifyScene scene.sceneId ({ · with taskId := some id })
  pure id

/-! ## Voice tasks -/

def ttsTaskFor (env : Env) (scene : Scene) : Act (Queue.Task TaskBody × VoiceConfig) := do
  let job ← theJob
  let character ← answer (env.loadCharacter (← theId))
  pure
    ({ priority := some job.priority
       payload :=
        { jobId := ← theId
          task := some .voice
          sceneId := some scene.sceneId
          voice := some character.voice } },
      character.voice)

/-- What `_tts_task_for` may raise. -/
def readVoice (env : Env) : Act Unit := do
  let _ ← answer (env.loadCharacter (← theId))
  pure ()

def enqueueTtsTask (env : Env) (delay : ℚ) (scene : Scene) : Act Unit := do
  let (task, voice) ← ttsTaskFor env scene
  let id ← enqueue env { task with notBefore := if delay = 0 then none else some (env.now + delay) }
    false
  modifyScene scene.sceneId ({ · with taskId := some id })
  modifyJob fun job =>
    { job with
      ttsActiveTaskIds := job.ttsActiveTaskIds.set id scene.sceneId
      voiceTaskSnapshot := job.voiceTaskSnapshot.set id voice }

end Act

def ttsAttemptsUsed (job : Job) (scene : SceneId) : ℕ := (job.ttsAttempts.get? scene).getD 0

/-- `_pending_voice_scenes`, once the plan is there. -/
def pendingVoiceScenes (job : Job) : List Scene :=
  job.scenes.filter fun scene =>
    (scene.status = .ready ∨ scene.status = .pending) ∧
      scene.sceneId ∉ job.ttsActiveTaskIds.values ∧ scene.voiceover

def characterVoiceEnabled (env : Env) (id : JobId) : Bool :=
  match env.loadCharacter id with
  | .ok character => character.voiceEnabled
  | .error _ => false

def hasVoiceWorker (workers : Dict NodeName Worker) : Bool := workers.values.any Worker.voice

def allScenesReady (job : Job) : Bool := job.scenes ≠ [] ∧ job.scenes.all (·.status = .ready)

/-- The version the next storyboard gets. -/
def Job.nextStoryboard (job : Job) : ℕ :=
  match job.storyboards.getLast? with
  | some s => s.version + 1
  | none => 1

/-- `_ordered_scene_files`, by the artifacts. -/
def orderedSceneFiles (env : Env) (job : Job) : List ArtifactId :=
  (job.scenes.mergeSort (fun a b => a.sceneId ≤ b.sceneId)).flatMap fun scene =>
    scene.artifactIds.filter fun id =>
      (job.artifacts.any fun a =>
        a.artifactId = id ∧ a.kind = if job.taskType = .video then .videoScene else .image) ∧
      env.fileExists id

/-! ## What a preview task is about -/

/-- `next((s for s in job.storyboards if s.version == job.active_storyboard_version), None)`. -/
def activeStoryboard (job : Job) : Option StoryboardVersion :=
  job.storyboards.find? fun s => job.activeStoryboardVersion = some s.version

/-- The task was issued for another storyboard version or for older pictures of this one. -/
def previewStale (job : Job) (taskId : TaskId) : Bool :=
  match job.imageStoryboardTaskVersions.get? taskId with
  | none => false
  | some (version, imageVersion) =>
    job.activeStoryboardVersion ≠ some version ∨
      (activeStoryboard job).any fun s => imageVersion ≠ s.imageVersion

def previewScene (job : Job) (sceneId : SceneId) : Option StoryboardScene :=
  (activeStoryboard job).bind fun s => s.scenes.find? (·.sceneId = some sceneId)

/-- `except (binascii.Error, ValueError)` around a decode. -/
def decodeOrValueError (env : Env) (blob : Option Blob) : Except Err Data :=
  match env.decode blob with
  | .error (.value _) => .error (.value "Invalid base64")
  | x => x

/-- The pictures of a preview result, checked one by one. Without a `filename` one is made from the
storyboard and the scene, which may be gone. -/
def previewImages (env : Env) (found : Bool) (imageBase64 : Option Blob) (artifacts : List Upload) :
    Except Err (List Data) :=
  match artifacts, imageBase64 with
  | [], none => .ok []
  | [], some blob => do
    if blob = emptyBlob then .ok [] else
      let data ← decodeOrValueError env (some blob)
      if ¬ found then .error .other else
        env.integrity data .png
        .ok [data]
  | a :: as, _ => (a :: as).mapM fun item => do
    if item.suffix = none ∧ ¬ found then .error .other else
      let data ← decodeOrValueError env (some (item.blob.getD emptyBlob))
      env.integrity data (item.suffix.getD .png)
      env.mediaContract item.contract data .image
      .ok data

namespace Act
open Command

/-- A scene whose own budget is spent fails the stage. -/
def exhaustTts (env : Env) (scene : Scene) : Act Unit := do
  modifyJob fun job =>
    { job with ttsAttempts := job.ttsAttempts.set scene.sceneId job.ttsMaxRetries }
  transitionStage .tts .failed
  deadLetter env
    { payload := { jobId := ← theId, task := some .voice, sceneId := some scene.sceneId } }
    (some "TTS budget exhausted")
  update .failed

def dispatchTts (env : Env) : Act Unit := do
  modifyJob Job.initializePlan
  let job ← theJob
  when (job.stage .tts = .pending) (transitionStage .tts .running)
  modifyJob ({ · with ttsMaxRetries := env.ttsMaxRetries })
  let job ← theJob
  if pendingVoiceScenes job ≠ [] ∧ ¬ characterVoiceEnabled env (← theId) ∨
      job.ttsActiveTaskIds.entries = [] ∧ pendingVoiceScenes job = [] then
    transitionStage .tts .ready
    if job.taskType = .image ∨ job.taskType = .video then transition .assetsReady
  else
    forEach (enqueueTtsTask env 0)
      ((pendingVoiceScenes job).filter fun s => ttsAttemptsUsed job s.sceneId < job.ttsMaxRetries)
    let job ← theJob
    forEach (exhaustTts env)
      ((pendingVoiceScenes job).filter fun s => ¬ ttsAttemptsUsed job s.sceneId < job.ttsMaxRetries)

/-! ## Script and storyboard tasks -/

def generateScriptLocal (env : Env) : Act Unit := do
  when (¬ env.localFallback) (raise (.runtime "Local script execution is disabled"))
  let script ← answer (env.generateScript (← theId))
  modifyJob ({ · with script := some script, scriptAttempt := 0, scriptError := none })
  update .scriptGenerating
  answer (env.writeScript (← theId))
  update .scriptPendingApproval

def enqueueScriptTask (env : Env) : Act Unit := do
  let s ← read
  if ¬ s.workers.values.any Worker.text ∧ env.localFallback then generateScriptLocal env
  else
    let id ← enqueue env
      { priority := some s.job.priority, payload := { jobId := s.jobId, task := some .script } } false
    modifyJob ({ · with scriptTaskId := some id, activeTaskId := some id })
    update .scriptQueued

/-- `StoryboardService.queue`. -/
def queueStoryboard (env : Env) : Act Unit := do
  modifyJob fun job =>
    { job with
      storyboardError := none
      storyboardAttempt :=
        if job.storyboardAttemptVersion = some job.nextStoryboard then job.storyboardAttempt else 0
      storyboardAttemptVersion := some job.nextStoryboard }
  update .storyboardQueued
  let job ← theJob
  let _ ← answer (env.loadCharacter (← theId))
  answer (env.storyboardPrompt (← theId))
  let id ← enqueue env
    { priority := some job.priority
      payload :=
        { jobId := ← theId
          task := some .storyboard
          storyboardVersion := some job.nextStoryboard
          imageVersion := some ((job.storyboards.getLast?.map StoryboardVersion.imageVersion).getD 1) } }
    false
  modifyJob ({ · with storyboardTaskId := some id, activeTaskId := some id })

/-! ## Previews of a storyboard -/

/-- The storyboard that `next((s for s in job.storyboards if s.version == …), None)` finds. -/
def modifyStoryboard (version : ℕ) (f : StoryboardVersion → StoryboardVersion) : Act Unit :=
  modifyJob fun job =>
    { job with
      storyboards := job.storyboards.modify (job.storyboards.findIdx (·.version = version)) f }

/-- `f"sb-{version}-{index}"`. -/
def previewSceneId (version index : ℕ) : SceneId := Nat.pair version index

def queueImageStoryboard (env : Env) (version : ℕ) (sceneIndexes : List ℕ) : Act Unit := do
  let job ← theJob
  match job.storyboards.find? (·.version = version) with
  | none => raise .key
  | some storyboard => do
    modifyStoryboard version ({ · with imageStatus := .generating })
    modifyJob ({ · with
      imageStoryboardError := none
      activeStoryboardVersion := some version
      activeImageVersion := some storyboard.imageVersion })
    forEach (fun scene : StoryboardScene => do
        let sceneId := scene.sceneId.getD (previewSceneId version scene.index)
        modifyStoryboard version fun sb =>
          { sb with scenes := sb.scenes.map fun s =>
              if s.index = scene.index then
                { s with sceneId := some (s.sceneId.getD sceneId), imageVersion := some sb.imageVersion }
              else s }
        let id ← enqueue env
          { priority := some job.priority
            payload :=
              { jobId := ← theId
                task := some .image
                imageStoryboard := true
                sceneId := some sceneId
                storyboardVersion := some version
                imageVersion := some storyboard.imageVersion } }
          false
        modifyJob fun job =>
          { job with
            imageStoryboardTaskIds := job.imageStoryboardTaskIds.set id sceneId
            imageStoryboardTaskVersions :=
              job.imageStoryboardTaskVersions.set id (version, storyboard.imageVersion) })
      (storyboard.scenes.filter fun s => sceneIndexes = [] ∨ s.index ∈ sceneIndexes)

/-- The pointer of a preview task leaves the Job. -/
def dropPreview (taskId : TaskId) : Act Unit := modifyJob fun job =>
  { job with
    imageStoryboardTaskIds := job.imageStoryboardTaskIds.pop taskId
    imageStoryboardTaskVersions := job.imageStoryboardTaskVersions.pop taskId }

/-- A stored picture takes its place: the scene has it, the task is done, and with the last one the
storyboard is ready. -/
def placePreview (taskId : TaskId) (sceneId : SceneId) (version : ℕ) (id : ArtifactId) : Act Unit := do
  modifyStoryboard version fun sb =>
    { sb with
      scenes := sb.scenes.modify (sb.scenes.findIdx (·.sceneId = some sceneId))
        ({ · with imageArtifactId := some id }) }
  dropPreview taskId
  let job ← theJob
  if (job.storyboards.find? (·.version = version)).any (·.scenes.all (·.imageArtifactId.isSome)) then
    modifyStoryboard version ({ · with imageStatus := .ready })
    if job.status = .storyboardPendingApproval then transition .storyboardReady

def handleImageResult (env : Env) (taskId : TaskId) (success : Bool) (imageBase64 : Option Blob)
    (error : Option String) (artifacts : List Upload) : Act Unit := do
  let job ← theJob
  match job.imageStoryboardTaskIds.get? taskId with
  | none => pure ()
  | some sceneId =>
    if previewStale job taskId then dropPreview taskId
    else if ¬ success then do
      forEach (fun s => modifyStoryboard s.version ({ · with imageStatus := .pending }))
        (activeStoryboard job).toList
      modifyJob ({ · with imageStoryboardError := some (error.getD "unknown error") })
      dropPreview taskId
    else do
      let images ← answer (previewImages env (previewScene job sceneId).isSome imageBase64 artifacts)
      when (images = []) (raise (.value "No image data provided"))
      match activeStoryboard job, previewScene job sceneId with
      | some s, some scene => do
        answer env.makeFolder
        answer env.writeFiles
        let id ← registerArtifact env .storyboardImage 0 scene.sceneId (some taskId) none
        placePreview taskId sceneId s.version id
      | _, _ => raise .other

/-- Previews drawn by CORE itself, each acked. -/
def drawPreviews (env : Env) : Act Unit := do
  let job ← theJob
  forEach (fun id => do
      handleImageResult env id true (some env.demoImage) none []
      ack id)
    job.imageStoryboardTaskIds.keys

end Act

end Vertep.Core
