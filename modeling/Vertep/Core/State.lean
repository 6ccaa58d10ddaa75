import Vertep.Core.Models
import Vertep.Lib.Command

/-!
# The state of CORE and what its handlers do with it

The stores behind `core/api` (`store.jobs`, `store.workers`, `task_queue`) and the operations the
handlers share. A handler works on one Job at a time and is a `Command` over `Ctx`: the Job, the worker
records, the queue, the next fresh name and the background threads it started. What it wrote before it
raised stays written. Repository rows, the event log, alerts and messages to Telegram are left out, and
store operations do not fail.

What the outside answers to one request is its `Env`: the clock, settings, files and the validators
over the opaque payloads of a result. Every answer that may raise is an `Except`, with the class of the
exception, since the handlers catch by class.
-/

namespace Vertep.Core
open Lib Queue

/-- What a call raises, by the class that handlers catch. -/
inductive Err where
  | http (code : ℕ) (detail : String)
  | value (detail : String)
  | runtime (detail : String)
  | os (detail : String)
  | key | type | other
deriving DecidableEq

inductive WorkerState where
  | ready | busy | offline | draining | quarantined | updating | rollback | disabled | restarting
  | revoked | selfTesting | enrolling | recovering | error
deriving DecidableEq

/-- A worker record. Of its role and lists of abilities only three questions are asked. -/
structure Worker where
  status : WorkerState := .ready
  desiredState : Option WorkerState := none
  currentJob : Option JobId := none
  currentTask : Option TaskId := none
  lastSeen : Option Time := none
  runtimeInstance : Option ℕ := none
  text : Bool := false
  publisher : Bool := false
  voice : Bool := false
deriving DecidableEq

/-- The key `task` of a task. -/
inductive TaskName where
  | image | video | text | voice | publish | backup | script | storyboard | assembly
deriving DecidableEq

def TaskType.taskName : TaskType → TaskName
  | .image => .image
  | .video => .video
  | .text => .text
  | .voice => .voice
  | .publish => .publish
  | .backup => .backup

/-- The keys of a task that CORE itself reads again. -/
structure TaskBody where
  jobId : JobId
  task : Option TaskName := none
  imageStoryboard : Bool := false
  sceneId : Option SceneId := none
  channel : Option Channel := none
  storyboardVersion : Option ℕ := none
  imageVersion : Option ℕ := none
  version : Option ℕ := none
  submitKey : Option SubmitKey := none
  engineSnapshot : Option EngineSnapshot := none
  voice : Option VoiceConfig := none
  delivery : Option PublishIntent := none
deriving DecidableEq

/-- What a handler hands to the executor; the watchdog keeps a list of the Jobs it started itself. -/
inductive Background where
  | finalizeAndNotify | prepareAndDispatch | scheduledPrepare | videoRegenerate
deriving DecidableEq

instance (started : JobId × Background) (submitted : List (JobId × Background)) : Decidable (started ∈ submitted) :=
  inferInstance

/-- A handler's view of CORE: the Job it is about, and the rest. -/
structure Ctx where
  jobId : JobId
  job : Job
  workers : Dict NodeName Worker
  queue : LocalQueue TaskBody
  nextId : ℕ
  submitted : List Background := []
deriving DecidableEq

/-! ## Payloads -/

abbrev Blob := ℕ
abbrev Data := ℕ
abbrev Digest := ℕ

/-- `""`. -/
def emptyBlob : Blob := 0

/-- Suffixes CORE knows. -/
inductive Suffix where
  | png | jpg | jpeg | webp | ppm | mp4 | webm | mov | txt | wav | ogg | mp3 | aac | m4a | json
  | other
deriving DecidableEq

/-- The key `kind` of an uploaded artifact. -/
inductive UploadKind where
  | storyboard | script | publicationReceipt | other
deriving DecidableEq

/-- A number in a contract as JSON has it: `int` of it may raise. -/
inductive Number where
  | absent | int (n : ℕ) | text | other
deriving DecidableEq

/-- `int(value or 0)`. -/
def Number.toInt : Number → Except Err ℕ
  | .absent => .ok 0
  | .int n => .ok n
  | .text => .error (.value "invalid literal for int()")
  | .other => .error .type

/-- The contract a worker declares for an artifact. -/
structure Contract where
  audioFormat : Bool := false
  videoFormat : Bool := false
  sha256 : Option Digest := none
  size : Number := .absent
  videoVersion : Number := .absent
  provider : Option ℕ := none
  voice : Option ℕ := none
  model : Option ℕ := none
  language : Option ℕ := none
  speed : Option ℕ := none
deriving DecidableEq

/-- The key `contract`: absent or empty, an object, or anything else. -/
inductive ContractValue where
  | absent | object (c : Contract) | other
deriving DecidableEq

/-- An uploaded artifact; `blob` is its `data_base64` or `image_base64`, `suffix` that of its
`filename`. -/
structure Upload where
  kind : UploadKind := .other
  blob : Option Blob := none
  suffix : Option Suffix := none
  contract : ContractValue := .absent
deriving DecidableEq

/-- A storyboard payload: its version, its scenes, whether every required field is there and of its
type, and its image version. -/
structure StoryboardPayload where
  version : Option ℕ
  scenes : List ℕ
  complete : Except Err Unit
  imageVersion : ℕ
  imageStatus : ImageStatus := .pending

/-- A publication receipt, by what CORE asks of it. -/
structure Receipt where
  channel : Option Channel
  status : Option ReceiptStatus
  timestamp : Bool
  remoteId : Bool
  url : Bool
  permalinkAvailable : Option Bool
  mock : Bool
  error : Option String
  retryable : Option Bool
  outcomeUnknown : Bool
  jobId : Option JobId
  taskId : Option TaskId
  videoVersion : Option ℕ
  videoSha256 : Option Digest
  version : Option ℕ
  sha256 : Option Digest
deriving DecidableEq

structure TaskResult where
  jobId : JobId
  nodeName : NodeName
  taskId : TaskId
  success : Bool
  imageBase64 : Option Blob := none
  filename : Suffix := .png
  error : Option String := none
  cancelled : Bool := false
  images : List Upload := []
  artifacts : List Upload := []
deriving DecidableEq

/-! ## The outside -/

/-- What `load_character` gives: the voice fields of a task, and whether a provider is set and not
switched off. -/
structure Character where
  voice : VoiceConfig
  voiceEnabled : Bool
deriving DecidableEq

inductive Media where
  | image | video
deriving DecidableEq

/-- The engine a render goes to: CORE's own, one a Worker runs, or one CORE refuses. -/
inductive Engine where
  | native | external (identity : EngineIdentity) | foreign (identity : EngineIdentity)
deriving DecidableEq

/-- `engine_id` and `_engine_endpoint_reference` of the engine. -/
def Engine.identity : Engine → EngineIdentity
  | .native => .native
  | .external identity | .foreign identity => identity

/-- The answers of the outside during one request. -/
structure Env where
  now : Time
  lease : ℚ
  authorized : Bool
  localFallback : Bool
  demoMode : Bool
  retryBackoffBase : ℚ
  ttsBackoffBase : ℚ
  ttsBackoffCap : ℚ
  ttsMaxRetries : ℕ
  publishBackoffBase : ℚ
  publishBackoffCap : ℚ
  storyboardMaxRetries : ℕ
  maxArtifactBytes : ℕ
  maxVideoArtifactBytes : ℕ
  /-- `base64.b64decode(…, validate=True)` -/
  decode : Option Blob → Except Err Data
  size : Data → ℕ
  sha256 : Data → Digest
  /-- `validate_media_integrity` -/
  integrity : Data → Suffix → Except Err Unit
  /-- `validate_media_contract` -/
  mediaContract : ContractValue → Data → Media → Except Err Unit
  /-- `validate_signature` -/
  signature : Data → Except Err Unit
  /-- the receipt artifact of a `publish` or `backup` scene parsed and redacted -/
  redact : Data → Except Err Data
  /-- the storyboard artifact parsed, as far as its scene list -/
  storyboardPayload : Option Blob → Except Err StoryboardPayload
  /-- the script artifact decoded, parsed and normalised -/
  scriptPayload : Option Blob → Except Err Script
  /-- the receipt as `task_result` parses it, and as `_handle_publish_result` parses and redacts it -/
  receipt : Option Blob → Except Err Receipt
  redactedReceipt : Option Blob → Except Err Receipt
  /-- `register_artifact` of the n-th artifact of a kind: what it raises, and whether the record was
  in the list by then -/
  register : ArtifactKind → ℕ → Option (Bool × Err)
  /-- a folder made, and the files of a result written -/
  makeFolder : Except Err Unit
  writeFiles : Except Err Unit
  /-- the picture CORE draws itself -/
  demoImage : Blob
  drawDemo : SceneId → Except Err Unit
  /-- the sidecar of the n-th audio file written -/
  writeContract : ℕ → Except Err Unit
  fileExists : ArtifactId → Bool
  loadCharacter : JobId → Except Err Character
  listReferences : JobId → Except Err Unit
  /-- the brand read and the storyboard prompt built -/
  storyboardPrompt : JobId → Except Err Unit
  /-- `_write_script_files` -/
  writeScript : JobId → Except Err Unit
  /-- the local `ScriptAgent` -/
  generateScript : JobId → Except Err Script
  /-- `_publish_delivery_contract` and the settings of a channel read: version and digest -/
  deliveryContract : JobId → Option Digest
  publishSettings : Channel → Except Err Unit
  /-- `_do_publish_single` -/
  publishSingle : JobId → Channel → Except Err ReceiptStatus
  /-- `assembly_plan`, but for the version it plans -/
  assemblyPlan : JobId → Except Err Unit
  /-- the inputs of an assembly staged -/
  stageInputs : JobId → Except Err Unit
  /-- `_finish_video_version`: the digest of the file -/
  finishVersion : JobId → Except Err Digest
  /-- `_send_video_approval_to_telegram` or `_progress` -/
  notify : JobId → Except Err Unit
  /-- `providers.video_engine()`, the digest behind a submit key, the render and its subtitles -/
  engine : Engine
  submitKey : JobId → ℕ → Except Err SubmitKey
  render : JobId → Except Err Unit
  subtitles : Bool
  /-- `system_prompt.txt` read, and `normalize_script` -/
  readPrompt : JobId → Except Err Unit
  normalizeScript : Script → Except Err Script
  /-- `jobs_may_be_created` and the checks of a new Job -/
  mayCreate : Bool
  /-- what a claim meets before it looks at the queue -/
  mayClaimNow : Bool
  compatible : Bool
  dispatchAllowed : Bool
  labHold : Bool
  /-- `_select_worker` of one worker for a task of a Job, and `assembly_worker_mismatch` -/
  selects : Worker → JobId → TaskBody → Bool
  engineMismatch : Option EngineSnapshot → Bool
  heartbeatTimeout : ℚ
  /-- `_job_is_due` -/
  due : JobId → Bool
  /-- a drain has ended and the system is back to normal -/
  drainOver : Bool
  /-- what the engine that is configured now says when it is told to cancel -/
  cancelState : JobId → SubmitKey → ReleaseState
  /-- `release_state` of the engine that is configured now -/
  releaseState : SubmitKey → Except Err ReleaseState
  /-- a channel is known, and the output file is there -/
  channelAvailable : Channel → Bool
  outputExists : JobId → Bool
  /-- the files of a Job removed, its manifest written, and which versions had a file before -/
  removeFiles : Except Err Unit
  writeManifest : Except Err Unit
  versionExists : ℕ → Bool
  /-- the artifacts a re-assembly may use are there -/
  reassemblyInputs : JobId → Bool

/-! ## Shared operations -/

/-- The record of a node whose task has ended. -/
def Worker.freed (now : Time) (w : Worker) : Worker :=
  { w with
    status := match w.desiredState with
      | some .draining => .draining
      | some .quarantined => .quarantined
      | _ => .ready
    currentJob := none
    currentTask := none
    lastSeen := some now }

abbrev Act := Command Ctx Err

variable {α : Type}

namespace Act
open Command

def theJob : Act Job := do
  let s ← read
  pure s.job

def theId : Act JobId := do
  let s ← read
  pure s.jobId

@[simp] lemma theJob_bind (f : Job → Act α) (s : Ctx) : (theJob >>= f) s = f s.job s := rfl

@[simp] lemma theId_bind (f : JobId → Act α) (s : Ctx) : (theId >>= f) s = f s.jobId s := rfl

def modifyJob (f : Job → Job) : Act Unit := write fun s => { s with job := f s.job }

@[simp] lemma modifyJob_bind (f : Job → Job) (k : Unit → Act α) (s : Ctx) :
    (modifyJob f >>= k) s = k () { s with job := f s.job } := rfl

/-- `next((item for item in job.scenes if item.scene_id == …), None)`; scene ids are distinct. -/
def modifyScene (id : SceneId) (f : Scene → Scene) : Act Unit :=
  modifyJob fun job => { job with scenes := job.scenes.map fun s => if s.sceneId = id then f s else s }

def update (status : JobStatus) : Act Unit := modifyJob ({ · with status := status })

@[simp] lemma update_bind (status : JobStatus) (k : Unit → Act α) (s : Ctx) :
    (update status >>= k) s = k () { s with job := { s.job with status := status } } := rfl

def transition (status : JobStatus) : Act Unit := do
  let job ← theJob
  if jobTransitionAllowed job.status status then update status
  else raise (.value "Invalid job transition")

def transitionStage (name : StageName) (status : StageStatus) : Act Unit := do
  modifyJob Job.initializePlan
  let job ← theJob
  if (job.stage name).mayBecome status then modifyJob (·.setStage name status)
  else raise (.value "Invalid stage transition")

/-- `task_queue.enqueue`; a name that `uuid4` makes is used by nothing else. -/
def enqueue (env : Env) (task : Queue.Task TaskBody) (newAttempt : Bool) : Act TaskId := fun s =>
  let (item, queue) := s.queue.enqueue env.now s.nextId newAttempt task
  (.ok item.taskId, { s with queue := queue, nextId := s.nextId + 1 })

def modifyQueue (f : LocalQueue TaskBody → LocalQueue TaskBody) : Act Unit :=
  write fun s => { s with queue := f s.queue }

def ack (id : TaskId) : Act Unit := modifyQueue (·.ack id)

def discard (id : TaskId) : Act Unit := modifyQueue (·.discard id)

def deadLetter (env : Env) (task : Queue.Task TaskBody) (error : Option String) : Act Unit :=
  modifyQueue (·.deadLetter task error env.now)

/-- `task_queue.release`: the name stays. -/
def release (env : Env) (id : TaskId) : Act Unit := fun s =>
  (.ok (), { s with queue := (s.queue.release id env.now s.nextId).2, nextId := s.nextId + 1 })

def submit (b : Background) : Act Unit := write fun s => { s with submitted := s.submitted ++ [b] }

def modifyWorker (node : NodeName) (f : Worker → Worker) : Act Unit := write fun s =>
  { s with
    workers := match s.workers.get? node with
      | some w => s.workers.set node (f w)
      | none => s.workers }

def releaseWorker (env : Env) (node : NodeName) : Act Unit := modifyWorker node (·.freed env.now)

end Act

end Vertep.Core
