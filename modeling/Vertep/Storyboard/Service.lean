import Vertep.Storyboard.Records

/-!
# The storyboard service

Embedding of `StoryboardService` (`core/storyboard.py`) and of `queue_image_storyboard` and
`handle_image_result` (`core/image_storyboard.py`), for one Job of the store. A task is known by its place
among all tasks that were queued. What the calls read outside the Job (files of characters and brands, the
claims of the workers, the pictures of a result and the disk they go to) comes with them.
-/

namespace Vertep.Storyboard
open Lib Command Vertep.Core
open Queue (Json Members Elems)

/-- What a call outside the service raises, by how the service catches it. -/
inductive Outside where
  | value (message : String)
  | other (message : String)
deriving DecidableEq

/-- The errors of the service. -/
inductive Failure where
  /-- `Storyboard version ... is stale; active version is ...` -/
  | stale (version : ℕ) (active : Option ℕ)
  /-- `Storyboard version ... is ...` -/
  | closed (version : ℕ) (status : StoryboardStatus)
  /-- `Image storyboard ... does not match reviewed version ...` -/
  | notReviewed (version : ℕ) (imageVersion reviewed : ℤ)
  /-- `Image storyboard ... is ...; approve previews first` -/
  | previewsFirst (version : ℕ) (imageVersion : ℤ) (status : ImageStatus)
  /-- `Not all scene preview images are ready` -/
  | previewsMissing
  /-- `Image storyboard is ...` -/
  | imagesAre (status : ImageStatus)
  /-- `Cannot regenerate from storyboard version ... with status ...` -/
  | cannotBranch (version : ℕ) (status : StoryboardStatus)
  /-- `Malformed storyboard artifact: ...` -/
  | malformed
  /-- `No image data provided` -/
  | noImage
  /-- `Storyboard not found` -/
  | notFound
  /-- `No storyboard artifact in result` -/
  | noArtifact
  /-- The error of the worker, or `Storyboard generation failed`. -/
  | failed (error : String)
  /-- A field of `None` is read. -/
  | attribute
  | outside (error : Outside)
deriving DecidableEq

/-- The errors that are a `ValueError`; a conflict is one. -/
def Failure.IsValueError : Failure → Prop
  | .stale _ _ | .closed _ _ | .notReviewed _ _ _ | .previewsFirst _ _ _ | .previewsMissing | .imagesAre _
  | .cannotBranch _ _ | .malformed | .noImage | .outside (.value _) => True
  | .notFound | .noArtifact | .failed _ | .attribute | .outside (.other _) => False

structure Job where
  status : JobStatus
  topic : String := ""
  revision : Option String := none
  version : ℕ := 1
  script : Option Json := none
  approved : Bool := false
  approvalStatus : Option String := none
  activeTaskId : Option TaskId := none
  storyboards : List StoryboardVersion := []
  activeStoryboardVersion : Option ℕ := none
  activeImageVersion : Option ℤ := none
  storyboardAttempt : ℕ := 0
  storyboardAttemptVersion : Option ℕ := none
  storyboardActiveRevision : Option String := none
  storyboardError : Option String := none
  storyboardTaskId : Option TaskId := none
  imageStoryboardTaskIds : Dict TaskId SceneId := ∅
  imageStoryboardTaskVersions : Dict TaskId (ℕ × ℤ) := ∅
  imageStoryboardError : Option String := none
  artifacts : List ArtifactRecord := []

/-- The Job, and every task that was queued for it. -/
structure System where
  job : Job
  tasks : List Task := []

abbrev ServiceM (α : Type) := Command System Failure α

/-- The settings of the process. -/
structure Env where
  numerals : Numerals
  /-- `OLLAMA_STORYBOARD_MAX_RETRIES` -/
  maxRetries : ℕ
  /-- `local_fallback_allowed()` -/
  localFallback : Bool
  /-- what the check of the picture that a local run makes up raises, and the disk it goes to -/
  demoImage : Except String Unit
  demoStored : Except Outside Unit

def modifyJob (f : Job → Job) : ServiceM Unit := write fun s => { s with job := f s.job }

def theJob : ServiceM Job := do
  let s ← read
  pure s.job

@[simp] lemma theJob_bind {α : Type} (f : Job → ServiceM α) (s : System) : (theJob >>= f) s = f s.job s := rfl

def update (status : JobStatus) : ServiceM Unit := modifyJob ({ · with status := status })

def enqueue (task : Task) : ServiceM TaskId := do
  let s ← read
  write fun s => { s with tasks := s.tasks ++ [task] }
  pure s.tasks.length

/-- `job.storyboards[-1].version + 1 if job.storyboards else 1`. -/
def Job.nextVersion (job : Job) : ℕ := (job.storyboards.getLast?.map (·.version + 1)).getD 1

/-- `next((s for s in job.storyboards if s.version == version), None)`. -/
def Job.storyboard? (job : Job) (version : ℕ) : Option StoryboardVersion :=
  job.storyboards.find? (·.version = version)

/-- A change of that storyboard. -/
def modifyStoryboard (version : ℕ) (f : StoryboardVersion → StoryboardVersion) : ServiceM Unit :=
  modifyJob fun job =>
    { job with storyboards := job.storyboards.modify (job.storyboards.findIdx (·.version = version)) f }

def truthy (s : Option String) : Option String := s.filter (· ≠ "")

/-! ## Pictures -/

/-- `set(scene_indexes) if scene_indexes else {s.index for s in storyboard.scenes}`. -/
def isTarget (sceneIndexes : List ℤ) (scene : StoryboardScene) : Bool :=
  sceneIndexes = [] ∨ scene.index ∈ sceneIndexes

/-- A scene whose picture is asked for. -/
def StoryboardScene.asked (scene : StoryboardScene) (sb : StoryboardVersion) : StoryboardScene :=
  { scene with
    sceneId := some (scene.sceneId.getD (sb.version, scene.index))
    imagePrompt := some ((truthy scene.imagePrompt).getD scene.prompt)
    imageVersion := some sb.imageVersion }

def imageTaskFor (job : Job) (sb : StoryboardVersion) (scene : StoryboardScene) : Task :=
  .image sb.version sb.imageVersion scene.index (scene.sceneId.getD (sb.version, scene.index))
    ((truthy scene.imagePrompt).getD ((truthy scene.prompt).getD job.topic))

/-- The picture of the scene at place `k` is asked for. -/
def queueScene (sb : StoryboardVersion) (k : ℕ) (scene : StoryboardScene) : ServiceM Unit := do
  modifyStoryboard sb.version fun now => { now with scenes := now.scenes.set k (scene.asked sb) }
  let job ← theJob
  let id ← enqueue (imageTaskFor job sb (scene.asked sb))
  modifyJob fun job => { job with
    imageStoryboardTaskIds := job.imageStoryboardTaskIds.set id (scene.sceneId.getD (sb.version, scene.index))
    imageStoryboardTaskVersions := job.imageStoryboardTaskVersions.set id (sb.version, sb.imageVersion) }

/-- The pictures of a storyboard are generated, and it is in review. -/
def Job.generating (job : Job) (sb : StoryboardVersion) : Job :=
  { job with
    storyboards := job.storyboards.modify (job.storyboards.findIdx (·.version = sb.version))
      ({ · with imageStatus := .generating })
    imageStoryboardError := none
    activeStoryboardVersion := some sb.version
    activeImageVersion := some sb.imageVersion }

def queueImageStoryboard (storyboardVersion : ℕ) (sceneIndexes : List ℤ) : ServiceM Unit := do
  let job ← theJob
  match job.storyboard? storyboardVersion with
  | none => raise .notFound
  | some sb => do
    modifyJob (·.generating sb)
    forEach (fun (scene, k) => when (isTarget sceneIndexes scene = true) (queueScene sb k scene)) sb.scenes.zipIdx

/-- A picture in a result: its name, and what its decoding and its checks raise. -/
structure Image where
  filename : Option String := none
  decoded : Except String Unit := .ok ()
  verified : Except String Unit := .ok ()

/-- A check that raises a `ValueError`. -/
def check : Except String Unit → Except Failure Unit
  | .ok () => .ok ()
  | .error message => .error (.outside (.value message))

/-- The pictures that are read of a result. Where one has no name, the name is made from the scene. -/
def rawImages (found : Bool) (imageBase64 : Option Image) : List Image → Except Failure (List Image)
  | [] => match imageBase64 with
    | none => .ok []
    | some image => do
      check image.decoded
      if ¬ found then throw .attribute
      check image.verified
      pure [image]
  | artifacts => artifacts.mapM fun image => do
      if (truthy image.filename).isNone ∧ ¬ found then throw .attribute
      check image.decoded
      check image.verified
      pure image

/-- The task is forgotten. -/
def dropTask (taskId : TaskId) : ServiceM Unit :=
  modifyJob fun job => { job with
    imageStoryboardTaskIds := job.imageStoryboardTaskIds.pop taskId
    imageStoryboardTaskVersions := job.imageStoryboardTaskVersions.pop taskId }

def Job.active (job : Job) : Option StoryboardVersion := job.activeStoryboardVersion.bind job.storyboard?

/-- The task was for another storyboard or another version of its pictures. -/
def Job.isStale (job : Job) (taskId : TaskId) : Bool :=
  match job.imageStoryboardTaskVersions.get? taskId with
  | none => false
  | some (version, imageVersion) =>
    job.activeStoryboardVersion ≠ some version ∨ job.active.any (·.imageVersion ≠ imageVersion)

/-- `register_artifact`; its `uuid4` is the count of the records. -/
def registerArtifact (sceneId : Option SceneId) (taskId : TaskId) (workflow : String) : ServiceM ArtifactId := do
  let job ← theJob
  let artifactId := "art-" ++ toString job.artifacts.length
  modifyJob fun job => { job with
    artifacts := job.artifacts ++ [⟨artifactId, sceneId, taskId, workflow⟩]
    version := job.version + 1 }
  pure artifactId

/-- A stored picture takes its place, and with the last one the storyboard is ready. -/
def placeImage (taskId : TaskId) (sb : StoryboardVersion) (sceneId : SceneId) (id : ArtifactId) :
    ServiceM Unit := do
  modifyStoryboard sb.version fun sb =>
    { sb with
      scenes := sb.scenes.modify (sb.scenes.findIdx (·.sceneId = some sceneId))
        ({ · with imageArtifactId := some id, artifactId := some id }) }
  dropTask taskId
  let job ← theJob
  when ((job.storyboard? sb.version).any fun sb => sb.scenes.all fun s => (truthy s.imageArtifactId).isSome) do
    modifyStoryboard sb.version ({ · with imageStatus := .ready })
    when (job.status = .storyboardPendingApproval) (update .storyboardReady)

/-- A result for a picture. -/
structure ImageResult where
  taskId : TaskId
  success : Bool
  imageBase64 : Option Image := none
  error : Option String := none
  artifacts : List Image := []
  /-- what the disk raises when the picture is stored -/
  stored : Except Outside Unit := .ok ()

def Job.sceneFor (job : Job) (sceneId : SceneId) : Option StoryboardScene :=
  job.active.bind fun sb => sb.scenes.find? (·.sceneId = some sceneId)

/-- The first picture of a result is stored; without a scene there is no name for its file. -/
def storeImage (r : ImageResult) (sceneId : SceneId) : ServiceM Unit := do
  let job ← theJob
  match job.active with
  | none => raise .attribute
  | some sb => match sb.scenes.find? (·.sceneId = some sceneId) with
    | none => raise .attribute
    | some scene => do
      answer (r.stored.mapError .outside)
      let id ← registerArtifact scene.sceneId r.taskId sb.promptVersion
      placeImage r.taskId sb sceneId id

def handleImageResult (r : ImageResult) : ServiceM Unit := do
  let job ← theJob
  match job.imageStoryboardTaskIds.get? r.taskId with
  | none => pure ()
  | some sceneId =>
    if job.isStale r.taskId then dropTask r.taskId
    else if ¬ r.success then do
      forEach (fun sb => modifyStoryboard sb.version ({ · with imageStatus := .pending })) job.active.toList
      modifyJob ({ · with imageStoryboardError := some ((truthy r.error).getD "unknown error") })
      dropTask r.taskId
    else do
      let images ← answer (rawImages (job.sceneFor sceneId).isSome r.imageBase64 r.artifacts)
      when (images = []) (raise .noImage)
      storeImage r sceneId

/-! ## Storyboards -/

/-- `StoryboardService.queue`; `prompt` is what the files of the character and the brand make of it. -/
def queue (revision : Option String) (prompt : Except Outside String) : ServiceM Unit := do
  modifyJob ({ · with storyboardError := none })
  let job ← theJob
  when (job.storyboardAttemptVersion ≠ some job.nextVersion) do
    modifyJob ({ · with
      storyboardAttempt := 0
      storyboardAttemptVersion := some job.nextVersion
      storyboardActiveRevision := revision.or job.revision })
  update .storyboardQueued
  let prompt ← answer (prompt.mapError .outside)
  let job ← theJob
  let imageVersion := (job.storyboards.getLast?.map (·.imageVersion)).getD 1
  let id ← enqueue (.storyboard job.nextVersion imageVersion job.storyboardActiveRevision prompt)
  modifyJob ({ · with storyboardTaskId := some id, activeTaskId := some id })

/-- An artifact of a text worker: its kind, and what the JSON in it decodes to. -/
structure TextArtifact where
  kind : Option String
  data : Option Json

/-- A result for a storyboard. -/
structure Result where
  taskId : TaskId
  success : Bool
  artifacts : List TextArtifact := []
  error : Option String := none
  /-- of the node: the task of this Job that it holds -/
  node : Option (Option TaskId) := none
  cancelled : Bool := false
  /-- the prompt of a retry -/
  prompt : Except Outside String

/-- The previews that a local run makes up. -/
def drawPreviews (env : Env) : ServiceM Unit := do
  let job ← theJob
  forEach (fun id => handleImageResult {
      taskId := id
      success := true
      imageBase64 := some { verified := env.demoImage }
      stored := env.demoStored })
    job.imageStoryboardTaskIds.keys

/-- A storyboard enters the history, and what waited for its approval is superseded. -/
def Job.append (job : Job) (sb : StoryboardVersion) : Job :=
  { job with
    storyboards := (job.storyboards.map fun previous =>
      if previous.status = .pendingApproval then { previous with status := .superseded } else previous) ++ [sb]
    activeStoryboardVersion := some sb.version
    activeImageVersion := some sb.imageVersion
    storyboardError := none
    storyboardTaskId := none
    activeTaskId := none }

/-- A new storyboard is recorded, and its pictures are queued; what that raises is only noted. -/
def appendStoryboard (env : Env) (sb : StoryboardVersion) : ServiceM Unit := do
  modifyJob (·.append sb)
  update .storyboardPendingApproval
  handle
    (do
      queueImageStoryboard sb.version []
      when (env.localFallback = true) (drawPreviews env))
    fun _ => pure ()

def readScenes (env : Env) (data : Members) : Option (List StoryboardScene) :=
  ((get? "scenes" data).bind iterate).bind (·.mapM (StoryboardScene.ofJson env.numerals))

/-- What is read of a result; `none` where it is not for the version that was queued. -/
def Result.read (env : Env) (r : Result) (next : ℕ) : Except Failure (Option StoryboardVersion) :=
  match r.artifacts.find? (·.kind = some "storyboard") with
  | none => .error .noArtifact
  | some artifact => match artifact.data with
    | some (.obj data) => match readScenes env data with
      | none => .error .malformed
      | some scenes =>
        if ¬ equals next (get? "version" data) then .ok none
        else match StoryboardVersion.ofJson env.numerals data scenes with
          | none => .error .malformed
          | some sb => .ok (some sb)
    | _ => .error .malformed

/-- A failure that is retried until the attempts are used up. -/
def failStoryboard (env : Env) (r : Result) : ServiceM Bool := do
  let job ← theJob
  modifyJob ({ · with storyboardAttempt := job.storyboardAttempt + 1, storyboardError := r.error })
  if job.storyboardAttempt + 1 < max 1 env.maxRetries then do
    queue job.storyboardActiveRevision r.prompt
    pure true
  else do
    update .storyboardFailed
    raise (.failed ((truthy r.error).getD "Storyboard generation failed"))

/-- `StoryboardService.handle_result`; `false` is the `None` of a result that was rejected. -/
def handleResult (env : Env) (r : Result) : ServiceM Bool := do
  let job ← theJob
  if job.storyboardTaskId ≠ some r.taskId then pure true
  else if r.node.any (· ≠ some r.taskId) then pure false
  else if r.cancelled then pure false
  else if job.activeStoryboardVersion.isSome ∧
      job.activeStoryboardVersion ≠ job.storyboards.getLast?.map (·.version) then pure false
  else if ¬ r.success then failStoryboard env r
  else do
    let reported ← answer (r.read env job.nextVersion)
    match reported with
    | none => pure false
    | some sb => do
      appendStoryboard env sb
      pure true

/-! ## Decisions -/

/-- `StoryboardService.get`; there is no version 0, and it stands for the active one. -/
def getStoryboard (version : ℕ) : ServiceM StoryboardVersion := do
  let job ← theJob
  match if version = 0 then job.active else job.storyboard? version with
  | none => raise .notFound
  | some sb => pure sb

/-- `StoryboardService._active`. -/
def activeStoryboard (version : ℕ) : ServiceM StoryboardVersion := do
  let job ← theJob
  if job.activeStoryboardVersion ≠ some version then raise (.stale version job.activeStoryboardVersion)
  else do
    let sb ← getStoryboard version
    if sb.status ≠ .pendingApproval then raise (.closed version sb.status)
    else pure sb

/-- The check of `expected_image_version`. -/
def checkReviewed (sb : StoryboardVersion) (expectedImageVersion : Option ℤ) : ServiceM Unit :=
  when (expectedImageVersion.any (· ≠ sb.imageVersion)) (raise
    (.notReviewed sb.version sb.imageVersion (expectedImageVersion.getD 0)))

/-- Who decides, and when. -/
structure Decision where
  actor : String
  now : Instant

def StoryboardVersion.decided (sb : StoryboardVersion) (d : Decision) : StoryboardVersion :=
  { sb with decidedAt := some d.now, decidedBy := some d.actor }

/-- `StoryboardService.approve`; `script` is what `normalize_script` makes of the storyboard. -/
def approve (version : ℕ) (d : Decision) (expectedImageVersion : Option ℤ) (script : Except Outside Json) :
    ServiceM Unit := do
  let sb ← activeStoryboard version
  checkReviewed sb expectedImageVersion
  when (sb.imageStatus ≠ .approved) (raise (.previewsFirst version sb.imageVersion sb.imageStatus))
  let job ← theJob
  modifyStoryboard sb.version fun sb =>
    { sb.decided d with status := .approved, approvedScript := job.script }
  let script ← answer (script.mapError .outside)
  modifyJob fun job => { job with
    script := some script
    approved := true
    approvalStatus := some "approved"
    version := job.version + 1 }
  update .storyboardApproved

def approveImages (version : ℕ) (d : Decision) (expectedImageVersion : Option ℤ) : ServiceM Unit := do
  let sb ← activeStoryboard version
  checkReviewed sb expectedImageVersion
  when (sb.scenes.any fun scene => (truthy scene.imageArtifactId).isNone) (raise .previewsMissing)
  when (sb.imageStatus ≠ .ready ∧ sb.imageStatus ≠ .pending) (raise (.imagesAre sb.imageStatus))
  modifyStoryboard sb.version fun sb => { sb.decided d with imageStatus := .approved }
  modifyJob fun job => { job with activeImageVersion := some sb.imageVersion, version := job.version + 1 }

/-- A scene whose picture is asked for again. -/
def StoryboardScene.revised (scene : StoryboardScene) (imageVersion : ℤ) (revision : Option String) :
    StoryboardScene :=
  { scene with
    imagePromptHistory := match truthy scene.imagePrompt with
      | none => scene.imagePromptHistory
      | some prompt => scene.imagePromptHistory ++
          [.obj (.cons "image_version" (.num (imageVersion - 1 : ℤ)) (.cons "prompt" (.str prompt) .nil))]
    imagePrompt := some ((truthy revision).getD scene.prompt)
    imageVersion := some imageVersion
    imageArtifactId := none }

/-- A storyboard whose targets are asked for in its next version. -/
def StoryboardVersion.revised (sb : StoryboardVersion) (sceneIndexes : List ℤ) (revision : Option String) :
    StoryboardVersion :=
  { sb with
    imageVersion := sb.imageVersion + 1
    imageStatus := .pending
    scenes := sb.scenes.map fun scene =>
      if isTarget sceneIndexes scene then scene.revised (sb.imageVersion + 1) revision else scene }

def StoryboardVersion.supersede (sb : StoryboardVersion) : StoryboardVersion :=
  if sb.imageStatus = .approved then { sb with imageStatus := .superseded } else sb

def requestImageRevision (version : ℕ) (sceneIndexes : List ℤ) (revision : Option String)
    (expectedImageVersion : Option ℤ) : ServiceM Unit := do
  let sb ← activeStoryboard version
  checkReviewed sb expectedImageVersion
  modifyJob fun job => { job with storyboards := job.storyboards.map (·.supersede) }
  modifyStoryboard sb.version (·.revised sceneIndexes revision)
  modifyJob fun job => { job with version := job.version + 1 }
  queueImageStoryboard version sceneIndexes

/-- The last other storyboard that was approved and has a script. -/
def Job.lastApproved (job : Job) (version : ℕ) : Option Json :=
  (job.storyboards.reverse.find? fun previous => previous.version ≠ version ∧ previous.status = .approved ∧
    previous.approvedScript.any (· ≠ .obj .nil)).bind (·.approvedScript)

def reject (version : ℕ) (d : Decision) : ServiceM Unit := do
  let sb ← activeStoryboard version
  modifyStoryboard sb.version fun sb => { sb.decided d with status := .rejected }
  modifyJob fun job => match job.lastApproved version with
    | some script => { job with script := some script, approved := true, approvalStatus := some "approved" }
    | none => { job with approved := false, approvalStatus := some "rejected" }
  modifyJob fun job => { job with version := job.version + 1 }
  update .storyboardRejected

def regenerate (version : ℕ) (d : Decision) (revision : Option String) (prompt : Except Outside String) :
    ServiceM Unit := do
  let sb ← activeStoryboard version
  modifyStoryboard sb.version fun sb => { sb.decided d with status := .superseded }
  update .storyboardRevisionRequested
  queue revision prompt

def regenerateFromHistory (version : ℕ) (d : Decision) (revision : Option String)
    (prompt : Except Outside String) : ServiceM Unit := do
  let base ← getStoryboard version
  if base.status = .pendingApproval then raise (.cannotBranch version base.status)
  else do
    when (base.status = .approved) do
      modifyStoryboard base.version fun sb => { sb.decided d with status := .superseded }
    update .storyboardRevisionRequested
    modifyJob ({ · with storyboardAttemptVersion := none })
    queue revision prompt

/-! ## Runs -/

/-- The calls of the service. -/
inductive Op where
  | queue (revision : Option String) (prompt : Except Outside String)
  | handleResult (r : Result)
  | approve (version : ℕ) (d : Decision) (expectedImageVersion : Option ℤ) (script : Except Outside Json)
  | approveImages (version : ℕ) (d : Decision) (expectedImageVersion : Option ℤ)
  | requestImageRevision (version : ℕ) (sceneIndexes : List ℤ) (revision : Option String)
      (expectedImageVersion : Option ℤ)
  | reject (version : ℕ) (d : Decision)
  | regenerate (version : ℕ) (d : Decision) (revision : Option String) (prompt : Except Outside String)
  | regenerateFromHistory (version : ℕ) (d : Decision) (revision : Option String)
      (prompt : Except Outside String)
  | queueImageStoryboard (version : ℕ) (sceneIndexes : List ℤ)
  | handleImageResult (r : ImageResult)

/-- A call; its answer is left out. -/
def Op.command (env : Env) : Op → ServiceM Unit
  | .queue revision prompt => Storyboard.queue revision prompt
  | .handleResult r => do
    let _ ← Storyboard.handleResult env r
    pure ()
  | .approve version d expected script => Storyboard.approve version d expected script
  | .approveImages version d expected => Storyboard.approveImages version d expected
  | .requestImageRevision version indexes revision expected =>
    Storyboard.requestImageRevision version indexes revision expected
  | .reject version d => Storyboard.reject version d
  | .regenerate version d revision prompt => Storyboard.regenerate version d revision prompt
  | .regenerateFromHistory version d revision prompt => Storyboard.regenerateFromHistory version d revision prompt
  | .queueImageStoryboard version indexes => Storyboard.queueImageStoryboard version indexes
  | .handleImageResult r => Storyboard.handleImageResult r

def System.step (env : Env) (s : System) (op : Op) : System := (op.command env s).2

def System.run (env : Env) (s : System) (ops : List Op) : System := ops.foldl (System.step env) s

end Vertep.Storyboard
