import Vertep.Core.SceneResults

/-!
# Preparing and dispatching a Job

Embedding of `prepare_job`, `finalize_job` and `queue_storyboard` of `core/pipeline.py` and of
`_dispatch_assets`, `_image_storyboard_gate`, `_finalize_and_notify` and `_prepare_and_dispatch` of
`core/api/job_helpers.py`. `Core.Finalize` has `finalize_job` step by step; here it is cut in two where
CORE renders the video itself, since that takes minutes and everything else goes on meanwhile: the
functions return the version they are about to render, and `renderSafe` is what follows the render. On
the route of an external engine an assembly task goes into the queue.

A loop that starts an attempt again asks the outside anew each time, so it takes a stream of answers.
-/

namespace Vertep.Core
open Lib Queue

def interruptScene (scene : Scene) : Scene :=
  { failScene scene with status := .pending, assignedWorker := none }

def startScene (taskId : TaskId) (node : NodeName) (scene : Scene) : Scene :=
  { scene with
    status := .running
    taskId := some taskId
    assignedWorker := some node
    attempts := scene.attempts ++ [.running] }

/-- `pending_scenes`, once the plan is there. -/
def pendingScenes (job : Job) : List Scene :=
  job.scenes.filter fun scene => scene.status = .pending ∨ scene.status = .failed

namespace Act
open Command

/-! ## Assembly -/

/-- The render itself, with its subtitles. -/
def awaitRender (env : Env) : Act Unit := do
  answer (env.render (← theId))
  when env.subtitles do
    let _ ← registerArtifact env .subtitles 0 none none none

/-- The end of `finalize_job` for a Job that still wants its video. -/
def recordVideo (env : Env) (version : ℕ) : Act Unit := do
  let _ ← registerArtifact env (.video version) 0 none none none
  modifyJob ({ · with videoEngineSnapshot := some ⟨.native, some version, none⟩ })
  let sha256 ← answer (env.finishVersion (← theId))
  modifyJob fun job => finishVideoVersion job version sha256
  update .videoReady
  transitionStage .assembly .ready
  update .videoPendingApproval
  answer (env.notify (← theId))

/-- The native route of `finalize_job`, from the render on. -/
def renderNative (env : Env) (version : ℕ) : Act Unit := do
  awaitRender env
  let job ← theJob
  if job.status.halted then
    transitionStage .assembly .cancelled
    modifyJob ({ · with videoRegenerating := false })
  else recordVideo env version

/-- `finalize_job` up to the render: the version to render. -/
def finalizeJob (env : Env) : Act (Option ℕ) := do
  let job ← theJob
  if job.status.halted then pure none
  else
    update .assetsReady
    transitionStage .assembly .running
    update .assembly
    let id ← theId
    answer (env.assemblyPlan id)
    let version := planVersion (← theJob)
    match env.engine with
    | .external identity => do
      let key ← answer (env.submitKey id version)
      answer (env.stageInputs id)
      enqueueAssemblyTask env
        { jobId := id
          task := some .assembly
          version := some version
          submitKey := some key
          engineSnapshot := some ⟨identity, some version, some key⟩ }
        false
      pure none
    | .foreign _ => do
      transitionStage .assembly .failed
      update .failed
      pure none
    | .native => pure (some version)

/-- `except Exception` of `finalize_job_safe`. -/
def failAssembly : Act Unit := do
  handle (transitionStage .assembly .failed) (fun _ => pure ())
  update .failed

/-- `finalize_job_safe` up to the render. -/
def finalizeJobSafe (env : Env) : Act (Option ℕ) :=
  handle (finalizeJob env) fun _ => do
    failAssembly
    pure none

/-- `finalize_job_safe` from the render on. -/
def renderSafe (env : Env) (version : ℕ) : Act Unit :=
  handle (renderNative env version) fun _ => failAssembly

/-- The loop of `_finalize_and_notify` up to a render: its version, and how many attempts are left after
it; `n` bounds the attempts. -/
def finalizeLoop (envs : ℕ → Env) : ℕ → Act (Option (ℕ × ℕ))
  | 0 => pure none
  | n + 1 => do
    let version ← finalizeJobSafe (envs n)
    match version with
    | some version => pure (some (version, n))
    | none => do
      let job ← theJob
      if job.status ≠ .failed ∨ ¬ job.canRetry then pure none
      else
        modifyJob fun job => { job with retries := job.retries + 1 }
        update .assetsReady
        finalizeLoop envs n

/-- The loop from a render on. -/
def resumeLoop (env : Env) (envs : ℕ → Env) (version n : ℕ) : Act (Option (ℕ × ℕ)) := do
  renderSafe env version
  let job ← theJob
  if job.status ≠ .failed ∨ ¬ job.canRetry then pure none
  else
    modifyJob fun job => { job with retries := job.retries + 1 }
    update .assetsReady
    finalizeLoop envs n

def finalizeAndNotify (envs : ℕ → Env) : Act (Option (ℕ × ℕ)) := do
  let job ← theJob
  finalizeLoop envs (job.maxRetries - job.retries + 1)

/-! ## Assets -/

/-- A scene CORE draws itself. -/
def drawScene (env : Env) (queued : Scene × TaskId) : Act Unit := do
  discard queued.2
  answer (env.drawDemo queued.1.sceneId)
  let id ← registerArtifact env .image 0 (some queued.1.sceneId) (some queued.2) none
  modifyScene queued.1.sceneId (finishScene [id])
  modifyJob fun job =>
    { job with
      completedTaskIds := job.completedTaskIds ++ [queued.2]
      activeTaskIds := job.activeTaskIds.pop queued.2 }

/-- A scene and the task queued for it. -/
def enqueueScene (env : Env) (scene : Scene) : Act (Scene × TaskId) := do
  let id ← enqueueJobTask env scene false 0
  pure (scene, id)

/-- `_dispatch_assets`, up to a render. -/
def dispatchAssets (envs : ℕ → Env) : Act (Option (ℕ × ℕ)) := do
  let env := envs 0
  modifyJob Job.initializePlan
  let job ← theJob
  when (job.stage .assets = .pending) (transitionStage .assets .running)
  let job ← theJob
  if allScenesReady job then
    if orderedSceneFiles env job ≠ [] then finalizeAndNotify envs
    else
      transitionStage .assets .failed
      update .failed
      pure none
  else
    let queued ← collect (enqueueScene env) ((pendingScenes job).filter (·.taskId.isNone))
    if env.localFallback then
      forEach (drawScene env) queued
      modifyJob ({ · with activeTaskId := none })
      let job ← theJob
      if allScenesReady job then
        transitionStage .assets .ready
        finalizeAndNotify envs
      else pure none
    else pure none

/-! ## Scripts and storyboards -/

def generateScript (env : Env) : Act Unit := do
  let job ← theJob
  if job.status.halted then pure ()
  else
    modifyJob Job.initializePlan
    answer (env.readPrompt (← theId))
    match job.script with
    | some script => do
      let script ← answer (env.normalizeScript script)
      modifyJob ({ · with script := some script })
      transitionStage .script .running
      transition .scriptPendingApproval
      answer (env.notify (← theId))
    | none => enqueueScriptTask env

def prepareJob (env : Env) : Act Unit := do
  let job ← theJob
  if job.status.halted then pure ()
  else
    when (job.status = .new) (transition .scriptQueued)
    let job ← theJob
    if job.script.isNone ∧ (job.status = .scriptQueued ∨ job.status = .scriptFailed) then
      generateScript env

def prepareJobSafe (env : Env) : Act Unit := handle (prepareJob env) fun _ => update .failed

/-- `queue_storyboard`. -/
def requeueStoryboard (env : Env) : Act Unit := do
  modifyJob ({ · with storyboardError := none })
  let job ← theJob
  when (job.status ≠ .storyboardGenerating ∧ job.status ≠ .storyboardPendingApproval)
    (transition .storyboardQueued)
  queueStoryboard env

/-- The previews of a storyboard that has none yet are queued, or drawn. -/
def queuePreviews (env : Env) (storyboard : StoryboardVersion) : Act Unit :=
  when (¬ storyboard.scenes.all (·.imageArtifactId.isSome)) do
    queueImageStoryboard env storyboard.version []
    when env.localFallback (drawPreviews env)

/-- `_image_storyboard_gate`: whether the Job must wait. -/
def imageStoryboardGate (env : Env) : Act Bool := do
  let job ← theJob
  if job.taskType = .video ∨ job.storyboards ≠ [] then
    if job.status ∈ [.scriptApproved, .storyboardQueued, .storyboardGenerating, .storyboardFailed] then
      pure false
    else if job.storyboards = [] ∨ job.activeStoryboardVersion.getD 0 = 0 then pure true
    else
      match activeStoryboard job with
      | none => pure true
      | some storyboard =>
        if storyboard.imageStatus ≠ .approved then do
          queuePreviews env storyboard
          pure true
        else pure false
  else pure false

/-! ## `_prepare_and_dispatch` -/

/-- One turn of its loop: whether the function goes on to dispatch (`some true`), returns (`some false`)
or turns again. -/
def prepareTurn (env : Env) : Act (Option Bool) := do
  let job ← theJob
  if job.script.isSome ∧ job.status = .new then
    modifyJob Job.initializePlan
    let planned ← theJob
    when (planned.stage .assets ∈ [.pending, .failed, .paused]) (transitionStage .assets .running)
    let blocked ← imageStoryboardGate env
    if blocked then pure (some false)
    else
      update .assetGeneration
      pure none
  else if job.status ∈ [.new, .scriptQueued, .scriptGenerating, .scriptFailed] then do
    prepareJobSafe env
    pure none
  else pure (some true)

/-- The loop; `n` bounds the retries that are left. -/
def prepareLoop (envs : ℕ → Env) : ℕ → Act Bool
  | 0 => pure true
  | n + 1 => do
    let turn ← prepareTurn (envs n)
    match turn with
    | some goesOn => pure goesOn
    | none => do
      let job ← theJob
      if job.status ≠ .failed ∨ ¬ job.canRetry then pure true
      else
        modifyJob fun job => { job with retries := job.retries + 1 }
        update .new
        prepareLoop envs n

/-- What `_prepare_and_dispatch` does about voices at its end. -/
def dispatchVoices (env : Env) : Act Unit := do
  let job ← theJob
  when (job.status = .ttsGenerating) (dispatchTts env)

/-- What follows the loop, up to a render. -/
def dispatch (envs : ℕ → Env) : Act (Option Parked) := do
  let env := envs 0
  let job ← theJob
  match job.status with
  | .scriptPendingApproval | .videoPendingApproval | .videoRevisionRequested => do
    answer (env.notify (← theId))
    pure none
  | .scriptApproved => do
    requeueStoryboard env
    pure none
  | .storyboardApproved =>
    match (activeStoryboard job).filter (·.imageStatus ≠ .approved) with
    | some storyboard => do
      queuePreviews env storyboard
      pure none
    | none => do
      let blocked ← imageStoryboardGate env
      if blocked then pure none
      else
        transition .assetGeneration
        let render ← dispatchAssets envs
        pure (render.map fun r => .dispatch r.1 r.2)
  | .assetGeneration => do
    let blocked ← imageStoryboardGate env
    if blocked then pure none
    else
      let render ← dispatchAssets envs
      match render with
      | some r => pure (some (.dispatchVoices r.1 r.2))
      | none => do
        dispatchVoices env
        pure none
  | .ttsGenerating => do
    dispatchTts env
    pure none
  | _ => pure none

/-- `_prepare_and_dispatch`, up to a render; the loop and what follows it get answers of their own. -/
def prepareAndDispatch (envs later : ℕ → Env) : Act (Option Parked) := do
  let job ← theJob
  let goesOn ← prepareLoop envs (job.maxRetries - job.retries + 1)
  if goesOn then dispatch later else pure none

end Act

end Vertep.Core
