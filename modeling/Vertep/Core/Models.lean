import Vertep.Queue.Local

/-!
# Jobs, stages and scenes

Embedding of the enumerations and records of `core/models.py` and of `core/orchestration.py`, with the
fields the modelled functions read or write. Names that the source keeps as strings (`job_id`,
`node_name`, `scene_id`, `artifact_id`, submit keys) are opaque numbers, as task ids are. Left out are
the texts nothing decides on: the event log, the timestamps, the attempt records of a stage (those of a
scene are kept, since their number is its retry budget) and the counter `Job.version`.

Python → Lean naming: constants of an enumeration in camel case (`SCRIPT_QUEUED` → `scriptQueued`),
fields likewise (`active_task_ids` → `activeTaskIds`), `transition_stage` → `transitionStage`.
-/

namespace Vertep.Core
open Lib Queue

abbrev JobId := ℕ
abbrev NodeName := ℕ
abbrev SceneId := ℕ
abbrev ArtifactId := ℕ
abbrev SubmitKey := ℕ

inductive JobStatus where
  | new | waitingForSystem | scriptQueued | scriptGenerating | scriptPendingApproval
  | scriptRevisionRequested | scriptApproved | scriptFailed | storyboardQueued
  | storyboardGenerating | storyboardPendingApproval | storyboardReady
  | storyboardRevisionRequested | storyboardApproved | storyboardRejected | storyboardFailed
  | scripting | scriptReady | assetGeneration | assetsReady | videoGeneration | videoReady
  | videoPendingApproval | videoRevisionRequested | videoApproved | videoFailed | assembly
  | ttsGenerating | ttsReady | pendingApproval | ready | publishing | published | failed | paused
  | cancelled
deriving DecidableEq

/-- `JOB_STATE_TRANSITIONS`. -/
def JobStatus.next : JobStatus → List JobStatus
  | .new => [.scriptQueued, .waitingForSystem, .cancelled, .paused]
  | .waitingForSystem => [.scriptQueued, .cancelled]
  | .scriptQueued => [.scriptGenerating, .cancelled]
  | .scriptGenerating => [.scriptPendingApproval, .scriptFailed, .cancelled]
  | .scriptPendingApproval => [.scriptApproved, .scriptRevisionRequested, .scriptFailed, .cancelled]
  | .scriptRevisionRequested => [.scriptGenerating, .scriptQueued, .cancelled]
  | .scriptApproved => [.storyboardQueued, .cancelled]
  | .scriptFailed => [.scriptQueued, .cancelled]
  | .storyboardQueued => [.storyboardGenerating, .cancelled]
  | .storyboardGenerating => [.storyboardPendingApproval, .storyboardFailed, .cancelled]
  | .storyboardPendingApproval =>
    [.storyboardReady, .storyboardApproved, .storyboardRevisionRequested, .storyboardFailed, .cancelled]
  | .storyboardReady =>
    [.storyboardApproved, .storyboardRevisionRequested, .storyboardFailed, .cancelled]
  | .storyboardRevisionRequested => [.storyboardGenerating, .cancelled]
  | .storyboardApproved => [.assetGeneration, .cancelled]
  | .storyboardRejected => [.cancelled, .storyboardQueued]
  | .storyboardFailed => [.storyboardQueued, .cancelled]
  | .assetGeneration => [.assetsReady, .ttsGenerating, .failed, .paused, .cancelled]
  | .assetsReady => [.ttsGenerating, .videoGeneration, .paused, .cancelled]
  | .videoGeneration => [.videoPendingApproval, .videoFailed, .cancelled]
  | .ttsGenerating => [.ttsReady, .failed, .paused, .cancelled]
  | .ttsReady => [.videoGeneration, .assembly, .paused, .cancelled]
  | .videoReady => [.ready, .cancelled]
  | .videoPendingApproval =>
    [.videoApproved, .videoRevisionRequested, .scriptRevisionRequested, .videoFailed, .cancelled]
  | .videoRevisionRequested => [.videoGeneration, .assembly, .cancelled]
  | .videoApproved => [.assembly, .videoReady, .cancelled]
  | .videoFailed => [.videoGeneration, .cancelled]
  | .assembly => [.ready, .failed, .cancelled]
  | .pendingApproval => [.ready, .failed, .cancelled]
  | .ready => [.publishing, .paused, .cancelled]
  | .publishing => [.published, .failed, .cancelled]
  | .published => [.cancelled]
  | .failed =>
    [.new, .scriptQueued, .storyboardQueued, .videoGeneration, .ttsGenerating, .cancelled]
  | .paused => [.new, .cancelled]
  | .cancelled | .scripting | .scriptReady => []

def jobTransitionAllowed (previous current : JobStatus) : Bool := current ∈ previous.next

/-- The status a pause or a cancel leaves. -/
def JobStatus.halted : JobStatus → Bool
  | .paused | .cancelled => true
  | _ => false

inductive StageName where
  | script | assets | tts | assembly | publish
deriving DecidableEq

inductive StageStatus where
  | pending | running | ready | failed | paused | cancelled
deriving DecidableEq

/-- `ALLOWED_TRANSITIONS`. -/
def StageStatus.next : StageStatus → List StageStatus
  | .pending => [.running, .cancelled]
  | .running => [.ready, .failed, .paused, .cancelled]
  | .failed => [.running, .cancelled]
  | .paused => [.running, .cancelled]
  | .ready => [.running]
  | .cancelled => []

/-- A stage may take the status: it has it already or the table has the step. -/
def StageStatus.mayBecome (previous current : StageStatus) : Bool :=
  current = previous ∨ current ∈ previous.next

/-- `Job.stages` once it is filled. -/
structure Stages where
  script : StageStatus := .pending
  assets : StageStatus := .pending
  tts : StageStatus := .pending
  assembly : StageStatus := .pending
  publish : StageStatus := .pending
deriving DecidableEq

def Stages.get (s : Stages) : StageName → StageStatus
  | .script => s.script
  | .assets => s.assets
  | .tts => s.tts
  | .assembly => s.assembly
  | .publish => s.publish

def Stages.set (s : Stages) (status : StageStatus) : StageName → Stages
  | .script => { s with script := status }
  | .assets => { s with assets := status }
  | .tts => { s with tts := status }
  | .assembly => { s with assembly := status }
  | .publish => { s with publish := status }

@[simp] lemma Stages.get_set (s : Stages) (status : StageStatus) (name : StageName) :
    (s.set status name).get name = status := by
  cases name <;> rfl

variable {name other : StageName}

lemma Stages.get_set_ne (s : Stages) (status : StageStatus)
    (h : other ≠ name) : (s.set status name).get other = s.get other := by
  cases name <;> cases other <;> first | rfl | exact absurd rfl h

/-! ## Records -/

inductive TaskType where
  | image | video | text | voice | publish | backup
deriving DecidableEq

/-- `CHANNEL_TYPES`. -/
inductive Channel where
  | telegram | youtube | facebook | tiktok | instagram | threads
deriving DecidableEq

/-- `ArtifactRecord.kind`; with a video, the version whose file `final/video-v<version>.mp4` it is. -/
inductive ArtifactKind where
  | image | videoScene | video (version : ℕ) | text | audio | audioContract | publicationReceipt | backupReceipt
  | storyboardImage | subtitles
deriving DecidableEq

/-- `ArtifactRecord`. -/
structure Artifact where
  artifactId : ArtifactId
  kind : ArtifactKind
  sceneId : Option SceneId
  taskId : Option TaskId
  nodeName : Option NodeName
deriving DecidableEq

/-- `SceneRecord`: of the voiceover only whether there is one is read, of an attempt its status. -/
structure Scene where
  sceneId : SceneId
  voiceover : Bool := false
  status : StageStatus := .pending
  taskId : Option TaskId := none
  assignedWorker : Option NodeName := none
  artifactIds : List ArtifactId := []
  attempts : List StageStatus := []
deriving DecidableEq

structure VideoVersion where
  version : ℕ
  sha256 : ℕ
  revisionNote : Option String := none
  approved : Bool := false
deriving DecidableEq

inductive ImageStatus where
  | pending | generating | ready | approved | superseded
deriving DecidableEq

inductive StoryboardStatus where
  | pendingApproval | approved | rejected | superseded
deriving DecidableEq

structure StoryboardScene where
  index : ℕ
  sceneId : Option SceneId := none
  imageVersion : Option ℕ := none
  imageArtifactId : Option ArtifactId := none
deriving DecidableEq

structure StoryboardVersion where
  version : ℕ
  scenes : List StoryboardScene
  status : StoryboardStatus := .pendingApproval
  imageVersion : ℕ := 1
  imageStatus : ImageStatus := .pending
deriving DecidableEq

/-- The voice requirements of a task, as the snapshot taken at its enqueue keeps them. -/
structure VoiceConfig where
  provider : Option ℕ
  voice : Option ℕ
  model : Option ℕ
  language : Option ℕ
  speed : Option ℕ
deriving DecidableEq

/-- The engine and its endpoint: what a recorded release belongs to. -/
structure EngineIdentity where
  engineId : ℕ
  endpointReference : ℕ
deriving DecidableEq

def EngineIdentity.native : EngineIdentity := ⟨0, 0⟩

/-- `Job.video_engine_snapshot`. -/
structure EngineSnapshot where
  identity : EngineIdentity
  videoVersion : Option ℕ
  submitKey : Option SubmitKey
deriving DecidableEq

inductive ReleaseState where
  | released | unconfirmed | notApplied
deriving DecidableEq

/-- An entry of `Job.assembly_releases`. -/
structure AssemblyRelease where
  identity : EngineIdentity
  state : ReleaseState
  taskId : TaskId
deriving DecidableEq

inductive ReceiptStatus where
  | published | failed | notConfigured
deriving DecidableEq

/-- `Job.publish_intent` of a channel. -/
structure PublishIntent where
  videoVersion : Option ℕ
  videoSha256 : Option ℕ
deriving DecidableEq

/-- A script, by which of its scenes have a narration. -/
structure Script where
  scenes : List Bool
deriving DecidableEq

/-- A Job; its `job_id` is the key the store has it under. -/
structure Job where
  status : JobStatus
  taskType : TaskType := .image
  priority : ℚ := 5
  script : Option Script := none
  stages : Option Stages := none
  scenes : List Scene := []
  artifacts : List Artifact := []
  retries : ℕ := 0
  maxRetries : ℕ := 3
  assignedWorker : Option NodeName := none
  activeTaskId : Option TaskId := none
  activeTaskIds : Dict TaskId SceneId := ∅
  ttsActiveTaskIds : Dict TaskId SceneId := ∅
  completedTaskIds : List TaskId := []
  scriptTaskId : Option TaskId := none
  scriptAttempt : ℕ := 0
  scriptError : Option String := none
  storyboardTaskId : Option TaskId := none
  storyboards : List StoryboardVersion := []
  activeStoryboardVersion : Option ℕ := none
  activeImageVersion : Option ℕ := none
  storyboardAttempt : ℕ := 0
  storyboardAttemptVersion : Option ℕ := none
  storyboardError : Option String := none
  imageStoryboardTaskIds : Dict TaskId SceneId := ∅
  imageStoryboardTaskVersions : Dict TaskId (ℕ × ℕ) := ∅
  imageStoryboardError : Option String := none
  ttsAttempts : Dict SceneId ℕ := ∅
  ttsMaxRetries : ℕ := 3
  voiceTaskSnapshot : Dict TaskId VoiceConfig := ∅
  publishTaskIds : Dict TaskId Channel := ∅
  publishRetryCount : Dict Channel ℕ := ∅
  publishIntent : Dict Channel PublishIntent := ∅
  publicationResults : Dict Channel ReceiptStatus := ∅
  publishedChannels : List Channel := []
  publishError : Option String := none
  assemblyTaskId : Option TaskId := none
  assemblyTaskIds : Dict TaskId ℕ := ∅
  assemblyAttempt : ℕ := 0
  assemblyError : Option String := none
  assemblyCancelRequested : Bool := false
  assemblyReleases : Dict SubmitKey AssemblyRelease := ∅
  videoEngineSnapshot : Option EngineSnapshot := none
  videoVersions : List VideoVersion := []
  videoRevisions : List String := []
  activeVideoVersion : Option ℕ := none
  outputPath : Option ℕ := none
  videoRegenerating : Bool := false
deriving DecidableEq

/-- The scenes of a script, or the one scene of its topic. -/
def Script.plan (script : Script) : List Scene :=
  (if script.scenes = [] then [false] else script.scenes).mapIdx
    (fun index voiceover => { sceneId := index + 1, voiceover := voiceover })

namespace Job

variable (job : Job)

def initializePlan : Job :=
  { job with
    stages := some (job.stages.getD { script := if job.script.isSome then .ready else .pending })
    scenes := match job.script with
      | some script => if job.scenes = [] then script.plan else job.scenes
      | none => job.scenes }

/-- The status of a stage; a Job without stages has none that was begun. -/
def stage (name : StageName) : StageStatus := (job.stages.getD {}).get name

def setStage (name : StageName) (status : StageStatus) : Job :=
  { job with stages := some ((job.stages.getD {}).set status name) }

/-- `transition_stage` once the plan is there; it raises `ValueError` when it is not allowed. -/
def mayTransition (name : StageName) (status : StageStatus) : Bool :=
  (job.initializePlan.stage name).mayBecome status

def canRetry : Bool := job.retries < job.maxRetries

@[simp] lemma stage_setStage (name : StageName) (status : StageStatus) :
    (job.setStage name status).stage name = status := by
  simp [stage, setStage]

lemma stage_setStage_ne (status : StageStatus) (h : other ≠ name) :
    (job.setStage name status).stage other = job.stage other := by
  simp [stage, setStage, Stages.get_set_ne _ _ h]

lemma stage_initializePlan (h : name ≠ .script) :
    job.initializePlan.stage name = job.stage name := by
  cases filled : job.stages with
  | none => cases name <;> first | exact absurd rfl h | simp [stage, initializePlan, filled, Stages.get]
  | some stages => simp [stage, initializePlan, filled]

end Job

end Vertep.Core
