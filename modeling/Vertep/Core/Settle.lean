import Vertep.Core.Returns

/-!
# When a result is taken: previews, scripts, assemblies, publications (`core/api/tasks.py`)

For each branch, once its worker is free, the exact condition under which no step of it raises. The
conditions speak of the Job as it was, of the result and of what the outside answers.
-/

namespace Vertep.Core
open Lib Queue
open Command Act

variable {channel : Channel}

section
variable {env : Env} {s : Ctx} {r : TaskResult}

/-- A preview result is taken: it is stale or a failure, or its pictures pass, there is a scene for them
and they can be stored. -/
def PreviewSettles (env : Env) (job : Job) (taskId : TaskId) (sceneId : SceneId) (success : Bool)
    (blob : Option Blob) (artifacts : List Upload) : Prop :=
  previewStale job taskId ∨ success = false ∨
    (previewScene job sceneId).isSome ∧
      (∃ images, previewImages env true blob artifacts = .ok images ∧ images ≠ []) ∧
      Answers env.makeFolder ∧ Answers env.writeFiles ∧ env.register .storyboardImage 0 = none

lemma returns_forEach {α : Type} {f : α → Act Unit} (h : ∀ a s, Returns (f a) s) (as : List α) :
    Returns (forEach f as) s := by
  induction as generalizing s with
  | nil => exact returns_pure () s
  | cons a as ih =>
    obtain ⟨x, e⟩ := h a s
    exact returns_bind.2 ⟨x, e, ih⟩

lemma placePreview_returns (task : TaskId) (scene : SceneId) (version : ℕ) (id : ArtifactId) :
    Returns (placePreview task scene version id) s := by
  simp only [placePreview, dropPreview, modifyStoryboard, returns_modifyJob_bind, returns_theJob_bind,
    returns_ite, returns_transition, returns_pure]
  split
  · split
    · rename_i h
      rw [h]
      rfl
    · trivial
  · trivial

lemma handleImageResult_returns {taskId : TaskId} {sceneId : SceneId} {success : Bool}
    {blob : Option Blob} {error : Option String} {artifacts : List Upload}
    (h : s.job.imageStoryboardTaskIds.get? taskId = some sceneId) :
    Returns (handleImageResult env taskId success blob error artifacts) s ↔
      PreviewSettles env s.job taskId sceneId success blob artifacts := by
  simp only [handleImageResult, returns_theJob_bind, h, PreviewSettles]
  cases stale : previewStale s.job taskId with
  | true => simp [dropPreview]
  | false =>
    cases success with
    | false =>
      simp only [Bool.false_eq_true, if_false, not_false_eq_true, if_true, true_or, or_true, iff_true]
      obtain ⟨x, e⟩ := @returns_forEach s _ (fun s => modifyStoryboard s.version ({ · with imageStatus := .pending }))
        (fun a s => ⟨(), rfl⟩) (activeStoryboard s.job).toList
      exact returns_bind.2 ⟨x, e, by simp [dropPreview]⟩
    | true =>
      cases found : previewScene s.job sceneId with
      | none =>
        simp [returns_answer_bind]
      | some scene =>
        obtain ⟨storyboard, active⟩ : ∃ sb, activeStoryboard s.job = some sb := by
          cases active : activeStoryboard s.job with
          | none => simp [previewScene, active] at found
          | some sb => exact ⟨sb, rfl⟩
        simp only [Bool.false_eq_true, if_false, not_true_eq_false, active, Option.isSome_some,
          returns_answer_bind, returns_when_bind, raise_bind, not_returns_raise,
          returns_registerArtifact_bind, if_false_left, false_or, true_and, reduceCtorEq]
        simp only [placePreview_returns, Answers]
        aesop

/-- A script task can be issued: some worker writes texts, or CORE writes this one itself. -/
def ScriptIssues (env : Env) (workers : Dict NodeName Worker) (id : JobId) : Prop :=
  workers.values.any Worker.text ∨ env.localFallback = false ∨
    Answers (env.generateScript id) ∧ Answers (env.writeScript id)

lemma enqueueScriptTask_returns :
    Returns (enqueueScriptTask env) s ↔ ScriptIssues env s.workers s.jobId := by
  simp only [enqueueScriptTask, returns_read_bind, returns_ite, returns_enqueue_bind,
    returns_modifyJob_bind, returns_update, generateScriptLocal, returns_when_bind, raise_bind,
    not_returns_raise, returns_theId_bind, returns_answer_bind, returns_update_bind, ScriptIssues,
    Answers]
  cases s.workers.values.any Worker.text <;> cases env.localFallback <;> simp

/-- The script a result brings; none where the result spends an attempt. -/
def scriptOf (env : Env) (r : TaskResult) : Except Err (Option Script) :=
  if ¬ r.success then .ok none
  else
    match r.artifacts.find? (·.kind = .script) with
    | none => .ok none
    | some artifact =>
      match env.scriptPayload artifact.blob with
      | .ok script => .ok (some script)
      | .error .key | .error (.value _) => .ok none
      | .error e => .error e

/-- A script result is taken: its script can be stored, or the attempt it spends leaves one that can be
issued. -/
def ScriptSettles (env : Env) (workers : Dict NodeName Worker) (id : JobId) (job : Job)
    (r : TaskResult) : Prop :=
  match scriptOf env r with
  | .ok (some _) => Answers (env.writeScript id)
  | .ok none => job.scriptAttempt + 1 ≤ job.maxRetries →
      Answers (env.loadCharacter id) ∧ ScriptIssues env workers id
  | .error _ => False

lemma retryScript_returns {spent : Act Unit} (h : ∀ s, Returns spent s) :
    Returns (retryScript env spent) s ↔ (s.job.scriptAttempt + 1 ≤ s.job.maxRetries →
      Answers (env.loadCharacter s.jobId) ∧ ScriptIssues env s.workers s.jobId) := by
  simp only [retryScript, returns_modifyJob_bind, returns_theJob_bind, returns_ite, h,
    returns_theId_bind, returns_answer_bind, enqueueScriptTask_returns, Answers]
  by_cases left : s.job.scriptAttempt + 1 ≤ s.job.maxRetries
  · simp [left]
  · simp [left]

lemma handleScriptResult_returns :
    Returns (handleScriptResult env r) s ↔ ScriptSettles env s.workers s.jobId s.job r := by
  simp only [handleScriptResult, returns_modifyJob_bind, ScriptSettles, scriptOf]
  cases success : r.success with
  | false =>
    simp only [Bool.false_eq_true, not_false_eq_true, if_true, returns_modifyJob_bind]
    rw [retryScript_returns]
    intro s
    simp [scriptDeadLetter, deadLetter]
  | true =>
    simp only [not_true_eq_false, if_false]
    cases r.artifacts.find? (·.kind = .script) with
    | none =>
      simp only
      rw [retryScript_returns]
      intro s
      simp [scriptDeadLetter, deadLetter]
    | some artifact =>
      simp only
      cases env.scriptPayload artifact.blob with
      | ok script => simp [returns_answer_bind, Answers]
      | error e =>
        cases e with
        | key | value =>
          simp only
          rw [retryScript_returns]
          intro s
          simp [scriptDeadLetter, deadLetter]
        | _ => simp

/-- An attempt that is spent leaves one that can be issued, or the stage can fail. -/
def AssemblyRetries (env : Env) (id : JobId) (job : Job) : Prop :=
  match if job.assemblyAttempt + 1 ≤ job.maxRetries then assemblyRetryTask env id job else .ok none with
  | .error _ => False
  | .ok (some _) => True
  | .ok none => (job.stage .assembly).mayBecome .failed

/-- The first thing that raises while a checked render is imported. -/
def importProblem (env : Env) (id : JobId) (version : ℕ) : Except Err Unit := do
  env.makeFolder
  match env.writeFiles with
    | .error (.os _) => .error (.runtime "Could not import the assembled video")
    | x => x
  match env.register (.video version) 0 with
    | some (_, e) => .error e
    | none => .ok ()
  let _ ← env.finishVersion id
  .ok ()

def assemblyProblem (env : Env) (id : JobId) (job : Job) (r : TaskResult) : Except Err Unit := do
  let (version, _) ← checkAssembly env job r.taskId r.artifacts
  importProblem env id version

/-- A render result is taken: the video is imported and the stage closes, or the attempt it spends
leaves one that can be issued. -/
def AssemblySettles (env : Env) (id : JobId) (job : Job) (r : TaskResult) : Prop :=
  if ¬ r.success then AssemblyRetries env id job
  else
    match assemblyProblem env id job r with
    | .ok _ => (job.stage .assembly).mayBecome .ready ∧ Answers (env.notify id)
    | .error (.value _) | .error (.runtime _) => AssemblyRetries env id job
    | .error _ => False

lemma mayTransition_of_ne {name : StageName} (h : name ≠ .script) (job : Job) (status : StageStatus) :
    job.mayTransition name status = (job.stage name).mayBecome status := by
  rw [Job.mayTransition, initializePlan_stage job h]

/-- What a retry of an assembly reads of its Job. -/
def assemblyView (env : Env) (s : Ctx) : Option EngineSnapshot × List ArtifactId × ℕ × ℕ × Option Stages × JobId :=
  (s.job.videoEngineSnapshot, orderedSceneFiles env s.job, s.job.assemblyAttempt, s.job.maxRetries,
    s.job.stages, s.jobId)

lemma assemblyRetryTask_congr {id : JobId} {job job' : Job}
    (snapshot : job'.videoEngineSnapshot = job.videoEngineSnapshot)
    (files : orderedSceneFiles env job' = orderedSceneFiles env job)
    (versions : job'.videoVersions = job.videoVersions) :
    assemblyRetryTask env id job' = assemblyRetryTask env id job := by
  have plan : planVersion job' = planVersion job := by rw [planVersion, planVersion, versions]
  unfold assemblyRetryTask
  rw [snapshot, files, plan]

lemma orderedSceneFiles_append (job : Job) {artifact : Artifact} (image : artifact.kind ≠ .image)
    (video : artifact.kind ≠ .videoScene) :
    orderedSceneFiles env { job with artifacts := job.artifacts ++ [artifact] } =
      orderedSceneFiles env job := by
  simp only [orderedSceneFiles, List.any_append, List.any_cons, List.any_nil, Bool.or_false]
  congr 1
  funext scene
  congr 1
  funext a
  cases job.taskType <;> simp [image, video]

instance (version : ℕ) (r : TaskResult) : Keeps (assemblyView env)
    (registerArtifact env (.video version) 0 none (some r.taskId) (some r.nodeName)) := by
  constructor
  intro s
  simp only [registerArtifact]
  have kept : assemblyView env
      { s with
        nextId := s.nextId + 1
        job := { s.job with
          artifacts := s.job.artifacts ++ [⟨s.nextId, .video version, none, some r.taskId, some r.nodeName⟩] } } =
      assemblyView env s := by
    simp only [assemblyView]
    rw [orderedSceneFiles_append _ (by simp) (by simp)]
  cases env.register (.video version) 0 with
  | none => exact kept
  | some x =>
    obtain ⟨_ | _, e⟩ := x
    · rfl
    · exact kept

instance keepsAssembly_handle (r : TaskResult) : Keeps (assemblyView env) (handleAssemblyResult env r) := by
  have theJob : Keeps (assemblyView env) theJob := ⟨fun _ => rfl⟩
  have finish (version sha256 : ℕ) : Keeps (assemblyView env)
      (modifyJob fun job => finishVideoVersion job version sha256) := ⟨fun _ => rfl⟩
  have drop : Keeps (assemblyView env) (dropAssembly r.taskId) := ⟨fun _ => rfl⟩
  have theId : Keeps (assemblyView env) theId := ⟨fun _ => rfl⟩
  unfold handleAssemblyResult
  refine .next fun _ => ?_
  refine .next fun _ => ?_
  refine .next fun _ => ?_
  refine .bind ?_ fun _ => inferInstance
  refine .handle inferInstance fun e => ?_
  split <;> infer_instance

lemma handleAssemblyResult_outcome :
    (handleAssemblyResult env r s).1 = assemblyProblem env s.jobId s.job r := by
  simp only [handleAssemblyResult, theJob_bind, assemblyProblem]
  cases checkAssembly env s.job r.taskId r.artifacts with
  | error e => rfl
  | ok checked =>
    obtain ⟨version, data⟩ := checked
    change _ = importProblem env s.jobId version
    simp only [importProblem, answer_ok_bind]
    cases env.makeFolder with
    | error e => rfl
    | ok _ =>
      cases env.writeFiles with
      | error e => cases e <;> rfl
      | ok _ =>
        simp only [registerArtifact]
        cases env.register (.video version) 0 with
        | some x => obtain ⟨_ | _, e⟩ := x <;> rfl
        | none =>
          change ((answer (env.finishVersion s.jobId) >>= _ : Act Unit) _).1 = _
          cases env.finishVersion s.jobId <;> rfl

lemma handleAssemblyResult_versions {e : Err} (h : (handleAssemblyResult env r s).1 = .error e) :
    (handleAssemblyResult env r s).2.job.videoVersions = s.job.videoVersions := by
  revert h
  simp only [handleAssemblyResult, theJob_bind]
  cases checkAssembly env s.job r.taskId r.artifacts with
  | error e => exact fun _ => rfl
  | ok checked =>
    obtain ⟨version, data⟩ := checked
    simp only [answer_ok_bind]
    cases env.makeFolder with
    | error e => exact fun _ => rfl
    | ok _ =>
      cases env.writeFiles with
      | error e => cases e <;> exact fun _ => rfl
      | ok _ =>
        simp only [registerArtifact]
        cases env.register (.video version) 0 with
        | some x => obtain ⟨_ | _, e⟩ := x <;> exact fun _ => rfl
        | none =>
          change ((answer (env.finishVersion s.jobId) >>= _ : Act Unit) _).1 = _ →
            ((answer (env.finishVersion s.jobId) >>= _ : Act Unit) _).2.job.videoVersions = _
          cases env.finishVersion s.jobId with
          | error e => exact fun _ => rfl
          | ok sha256 => exact fun h => by cases h

lemma retryAssembly_returns {before before' : Act Unit} (h : ∀ s, Returns before s)
    (h' : ∀ s, before' s = (.ok (), { s with queue := (before' s).2.queue })) :
    Returns (retryAssembly env before before') s ↔
      match if s.job.assemblyAttempt ≤ s.job.maxRetries then assemblyRetryTask env s.jobId s.job
        else .ok none with
      | .error _ => False
      | .ok (some _) => True
      | .ok none => (s.job.stage .assembly).mayBecome .failed := by
  simp only [retryAssembly, returns_read_bind]
  generalize (if s.job.assemblyAttempt ≤ s.job.maxRetries then assemblyRetryTask env s.jobId s.job
    else .ok none) = retry
  cases retry with
  | error e => simp [answer_error_bind]
  | ok retry =>
    cases retry with
    | some body =>
      simp only [answer_ok_bind, iff_true]
      obtain ⟨x, e⟩ := h s
      refine returns_bind.2 ⟨x, e, ?_⟩
      simp [enqueueAssemblyTask]
    | none =>
      simp only [answer_ok_bind]
      rw [returns_bind, h']
      simp only [returns_transitionStage_bind, returns_update, and_true]
      rw [mayTransition_of_ne (by decide)]
      exact ⟨by rintro ⟨_, _, h⟩; exact h, fun h => ⟨(), trivial, h⟩⟩

lemma assemblyRetries_of_view {s s' : Ctx} (h : assemblyView env s' = assemblyView env s)
    (versions : s'.job.videoVersions = s.job.videoVersions) :
    (match if s'.job.assemblyAttempt + 1 ≤ s'.job.maxRetries then assemblyRetryTask env s'.jobId s'.job
        else .ok none with
      | .error _ => False
      | .ok (some _) => True
      | .ok none => ((s'.job.stage .assembly).mayBecome .failed : Prop)) ↔
      AssemblyRetries env s.jobId s.job := by
  simp only [assemblyView, Prod.mk.injEq] at h
  obtain ⟨snapshot, files, attempt, most, stages, id⟩ := h
  simp only [AssemblyRetries, attempt, most, id, assemblyRetryTask_congr snapshot files versions,
    Job.stage, stages]

lemma importAssembly_apply : importAssembly env r s =
    (match assemblyProblem env s.jobId s.job r with
      | .ok _ => .ok none
      | .error (.value detail) | .error (.runtime detail) => .ok (some detail)
      | .error e => .error e, (handleAssemblyResult env r s).2) := by
  have outcome := @handleAssemblyResult_outcome env s r
  simp only [importAssembly, handle, bind_apply]
  rcases run : handleAssemblyResult env r s with ⟨x, s'⟩
  rw [run] at outcome
  simp only at outcome
  subst outcome
  cases assemblyProblem env s.jobId s.job r with
  | ok _ => rfl
  | error e => cases e <;> rfl

lemma takeAssembly_returns : Returns (takeAssembly env r) s ↔ AssemblySettles env s.jobId s.job r := by
  have dead (r : TaskResult) (s : Ctx) : assemblyDeadLetter env r s =
      (.ok (), { s with queue := (assemblyDeadLetter env r s).2.queue }) := rfl
  simp only [takeAssembly, AssemblySettles]
  cases success : r.success with
  | false =>
    simp only [Bool.false_eq_true, not_false_eq_true, if_true, Act.ack, returns_modifyQueue_bind, dropAssembly,
      returns_modifyJob_bind]
    rw [retryAssembly_returns (fun s => ⟨(), rfl⟩) (dead r)]
    exact @assemblyRetries_of_view env s s rfl rfl
  | true =>
    simp only [not_true_eq_false, if_false]
    rw [returns_bind, importAssembly_apply]
    generalize run : (handleAssemblyResult env r s).2 = s'
    have view : assemblyView env s' = assemblyView env s := by
      rw [← run]
      exact (keepsAssembly_handle r).keeps s
    have same : s'.jobId = s.jobId ∧ s'.job.stage .assembly = s.job.stage .assembly := by
      simp only [assemblyView, Prod.mk.injEq] at view
      exact ⟨view.2.2.2.2.2, by rw [Job.stage, Job.stage, view.2.2.2.2.1]⟩
    have refused (versions : s'.job.videoVersions = s.job.videoVersions) (detail : String) : Returns (do
          ack r.taskId
          dropAssembly r.taskId
          modifyJob fun job =>
            { job with assemblyError := some detail, assemblyAttempt := job.assemblyAttempt + 1 }
          retryAssembly env (pure ()) (pure ())) s' ↔ AssemblyRetries env s.jobId s.job := by
      simp only [Act.ack, returns_modifyQueue_bind, dropAssembly, returns_modifyJob_bind]
      rw [retryAssembly_returns (fun s => ⟨(), rfl⟩) (fun s => rfl)]
      exact assemblyRetries_of_view view versions
    have outcome := @handleAssemblyResult_outcome env s r
    cases problem : assemblyProblem env s.jobId s.job r with
    | ok _ =>
      simp only [Except.ok.injEq, exists_eq_left', Act.ack, returns_modifyQueue_bind, returns_modifyJob_bind,
        returns_transitionStage_bind, returns_update_bind, returns_theId_bind, returns_answer, Answers]
      rw [mayTransition_of_ne (by decide)]
      simp only [Job.stage] at same ⊢
      rw [same.2, same.1]
    | error e =>
      have versions := handleAssemblyResult_versions (outcome.trans problem)
      rw [run] at versions
      cases e with
      | value detail | runtime detail => simpa using refused versions detail
      | _ => simp

/-! ## Publish -/

/-- The status that closes the publish stage over the results of all channels. -/
def closing (results : List ReceiptStatus) : Option StageStatus :=
  if results.all (· = .published) ∧ results ≠ [] then some .ready
  else if .notConfigured ∈ results ∧ .failed ∉ results ∧ ¬ results.all (· = .published) then some .failed
  else if .failed ∈ results then some .failed
  else none

/-- With no channel pending, the stage takes the status that closes it. -/
def PublishCloses (stage : StageStatus) (pending : Dict TaskId Channel)
    (results : Dict Channel ReceiptStatus) : Prop :=
  pending.entries = [] → ∀ status, closing results.values = some status → stage.mayBecome status

lemma settlePublish_returns : Returns settlePublish s ↔
    PublishCloses (s.job.stage .publish) s.job.publishTaskIds s.job.publicationResults := by
  have ne : StageName.publish ≠ .script := by decide
  simp only [settlePublish, returns_theJob_bind, returns_ite, PublishCloses, closing,
    returns_transitionStage_bind, mayTransition_of_ne ne, returns_update, and_true, returns_pure]
  by_cases pending : s.job.publishTaskIds.entries = []
  · simp only [pending, if_true, forall_const]
    split
    · simp
    · split
      · simp
      · split <;> simp
  · simp [pending]

/-- What becomes of a channel: nothing new, a result that stands, or another attempt, with the failure
on record already or not. -/
inductive Course where
  | skipped | rejected | recorded (status : ReceiptStatus) | retry (recorded : Bool)

def publishCourse (env : Env) (job : Job) (r : TaskResult) (channel : Channel) : Except Err Course :=
  if ¬ r.success then .ok (.retry false)
  else
    match r.artifacts.find? (·.kind = .publicationReceipt) with
    | none => .ok (.retry false)
    | some artifact =>
      match env.redactedReceipt artifact.blob with
      | .error .key | .error (.value _) => .ok (.retry false)
      | .error e => .error e
      | .ok receipt =>
        if (receiptProblem env receipt channel).isSome then .ok (.retry false)
        else
          match matchPublishReceipt job channel receipt, receipt.status with
          | .reject, _ => .ok .rejected
          | .skip, _ => .ok .skipped
          | .accept, some .published => .ok (.recorded .published)
          | .accept, some .notConfigured => .ok (.recorded .notConfigured)
          | .accept, _ =>
            if receipt.retryable = some false then .ok (.recorded .failed) else .ok (.retry true)

/-- `setdefault` of a failure. -/
def orFailed (results : Dict Channel ReceiptStatus) (channel : Channel) : Dict Channel ReceiptStatus :=
  if results.contains channel then results else results.set channel .failed

/-- Another attempt of a channel can be issued, or its end closes the stage. -/
def PublishRetries (env : Env) (workers : Dict NodeName Worker) (id : JobId) (job : Job)
    (channel : Channel) (closes : Dict Channel ReceiptStatus → Prop)
    (results : Dict Channel ReceiptStatus) : Prop :=
  if (job.publishRetryCount.get? channel).getD 0 + 1 ≤ job.maxRetries then
    if ¬ workers.values.any Worker.publisher ∧ env.localFallback then
      ∃ status, env.publishSingle id channel = .ok status ∧ closes (results.set channel status)
    else channel = .threads ∨ channel = .telegram → Answers (env.publishSettings channel)
  else closes (orFailed results channel)

/-- A publish result is taken. -/
def PublishSettles (env : Env) (workers : Dict NodeName Worker) (id : JobId) (job : Job)
    (r : TaskResult) (channel : Channel) : Prop :=
  let closes := PublishCloses (job.stage .publish) (job.publishTaskIds.pop r.taskId)
  let results := job.publicationResults
  match publishCourse env job r channel with
  | .error _ => False
  | .ok .skipped => closes results
  | .ok .rejected => closes (orFailed results channel)
  | .ok (.recorded status) => closes (results.set channel status)
  | .ok (.retry recorded) => PublishRetries env workers id job channel closes
      (if recorded then results.set channel .failed else results)

lemma publishCloses_of_pending {stage : StageStatus} {pending : Dict TaskId Channel} {id : TaskId}
    {results : Dict Channel ReceiptStatus} :
    PublishCloses stage (pending.set id channel) results := by
  intro none
  have mem : id ∈ (pending.set id channel).keys := by simp
  rw [Dict.keys, none] at mem
  cases mem

/-- What follows a publish result in its branch: it reads the Job only for the end of the stage. -/
def Closes (k : Act Unit) : Prop :=
  ∀ s, Returns k s ↔
    PublishCloses (s.job.stage .publish) s.job.publishTaskIds s.job.publicationResults

lemma enqueueWithBackoff_returns {k : Act Unit} (hk : Closes k) {taskId : TaskId}
    (h : s.job.publishTaskIds.get? taskId = some channel ∨
      s.job.publishTaskIds.get? taskId = none) :
    Returns (enqueueWithBackoff env taskId channel >>= fun _ => k) s ↔
      PublishRetries env s.workers s.jobId s.job channel
        (PublishCloses (s.job.stage .publish) (s.job.publishTaskIds.pop taskId))
        s.job.publicationResults := by
  have gone : (if s.job.publishTaskIds.get? taskId = some channel then s.job.publishTaskIds.pop taskId
      else s.job.publishTaskIds) = s.job.publishTaskIds.pop taskId := by
    rcases h with h | h
    · simp [h]
    · simp only [h, reduceCtorEq, if_false]
      exact (Dict.pop_of_not_mem (Dict.get?_eq_none.1 h)).symm
  simp only [enqueueWithBackoff, dropPublish, bind_bind, returns_modifyJob_bind, returns_theJob_bind,
    gone, PublishRetries, ite_bind, returns_ite]
  split
  · rw [returns_update_bind]
    simp only [enqueuePublishTask, publishLocal, bind_bind, returns_read_bind, ite_bind, returns_ite,
      returns_when_bind, raise_bind, not_returns_raise, returns_theId_bind, returns_answer_bind,
      returns_modifyJob_bind, returns_enqueue_bind]
    split
    · rename_i local_
      simp only [local_.2, not_true_eq_false, if_false]
      exact exists_congr fun status => and_congr_right fun _ => hk _
    · have pending (s : Ctx) (id : TaskId) : Returns k { s with job := { s.job with
          publishTaskIds := s.job.publishTaskIds.set id channel } } := (hk _).2 publishCloses_of_pending
      split
      · rename_i reads
        simp only [reads, forall_const, Answers]
        exact exists_congr fun a => and_iff_left ((hk _).2 publishCloses_of_pending)
      · rename_i reads
        simp only [reads, false_implies, iff_true]
        exact (hk _).2 publishCloses_of_pending
  · simp only [returns_update_bind]
    rw [hk]
    rfl

lemma retryCount_initial (count : Dict Channel ℕ) (channel : Channel) :
    ((if count.contains channel then count else count.set channel 0).get? channel).getD 0 =
      (count.get? channel).getD 0 := by
  cases h : count.get? channel with
  | none | some n => simp [Dict.contains, h]

lemma handlePublishResult_returns {k : Act Unit} (hk : Closes k)
    (h : s.job.publishTaskIds.get? r.taskId = some channel) :
    Returns (handlePublishResult env r channel >>= fun _ => k) s ↔
      PublishSettles env s.workers s.jobId s.job r channel := by
  have retry (results : Dict Channel ReceiptStatus) (pending : Dict TaskId Channel)
      (same : pending = s.job.publishTaskIds ∨ pending = s.job.publishTaskIds.pop r.taskId)
      (job : Job) (hj : job.publishTaskIds = pending ∧ job.publicationResults = results ∧
        job.maxRetries = s.job.maxRetries ∧ job.stages = s.job.stages ∧
        (job.publishRetryCount.get? channel).getD 0 = (s.job.publishRetryCount.get? channel).getD 0) :
      Returns (enqueueWithBackoff env r.taskId channel >>= fun _ => k) { s with job := job } ↔
        PublishRetries env s.workers s.jobId s.job channel
          (PublishCloses (s.job.stage .publish) (s.job.publishTaskIds.pop r.taskId)) results := by
    obtain ⟨hp, hr, hm, hs, hc⟩ := hj
    have found : job.publishTaskIds.get? r.taskId = some channel ∨ job.publishTaskIds.get? r.taskId = none := by
      rcases same with e | e
      · exact .inl (by rw [hp, e, h])
      · exact .inr (by rw [hp, e, Dict.get?_pop, if_pos rfl])
    have left : job.publishTaskIds.pop r.taskId = s.job.publishTaskIds.pop r.taskId := by
      rcases same with e | e
      · rw [hp, e]
      · rw [hp, e, Dict.pop_of_not_mem (Dict.get?_eq_none.1 (by rw [Dict.get?_pop, if_pos rfl]))]
    rw [enqueueWithBackoff_returns hk found]
    have stage : job.stage .publish = s.job.stage .publish := by rw [Job.stage, Job.stage, hs]
    simp only [PublishRetries, hc, hm, hr, left, stage]
  simp only [handlePublishResult, bind_bind, returns_modifyJob_bind, PublishSettles, publishCourse,
    ite_bind, returns_ite]
  cases success : r.success with
  | false =>
    simp only [Bool.false_eq_true, not_false_eq_true, if_true]
    exact retry _ _ (.inl rfl) _ ⟨rfl, rfl, rfl, rfl, retryCount_initial _ _⟩
  | true =>
    simp only [not_true_eq_false, if_false]
    cases r.artifacts.find? (·.kind = .publicationReceipt) with
    | none => exact retry _ _ (.inl rfl) _ ⟨rfl, rfl, rfl, rfl, retryCount_initial _ _⟩
    | some artifact =>
      simp only
      cases env.redactedReceipt artifact.blob with
      | error e =>
        cases e with
        | key | value => exact retry _ _ (.inl rfl) _ ⟨rfl, rfl, rfl, rfl, retryCount_initial _ _⟩
        | _ => simp
      | ok receipt =>
        simp only [bind_bind, returns_theJob_bind, ite_bind, returns_ite]
        split
        · exact retry _ _ (.inl rfl) _ ⟨rfl, rfl, rfl, rfl, retryCount_initial _ _⟩
        · have same : matchPublishReceipt { s.job with
              activeTaskId := if s.job.activeTaskId = some r.taskId then none else s.job.activeTaskId
              publishRetryCount := if s.job.publishRetryCount.contains channel then s.job.publishRetryCount
                else s.job.publishRetryCount.set channel 0 } channel receipt =
              matchPublishReceipt s.job channel receipt := rfl
          rw [same]
          cases matchPublishReceipt s.job channel receipt with
          | reject =>
            simp only [dropPublish, bind_bind, returns_modifyJob_bind, returns_update_bind, h, if_true]
            exact hk _
          | skip =>
            simp only [dropPublish, returns_modifyJob_bind, h, if_true]
            exact hk _
          | accept =>
            cases receipt.status with
            | none =>
              simp only [dropPublish, bind_bind, returns_modifyJob_bind, h, if_true, ite_bind, returns_ite]
              split
              · exact hk _
              · exact retry _ _ (.inr rfl) _ ⟨rfl, rfl, rfl, rfl, retryCount_initial _ _⟩
            | some status =>
              cases status with
              | published =>
                simp only [dropPublish, bind_bind, returns_modifyJob_bind, returns_update_bind, h, if_true]
                exact hk _
              | notConfigured =>
                simp only [dropPublish, bind_bind, returns_modifyJob_bind, h, if_true]
                exact hk _
              | failed =>
                simp only [dropPublish, bind_bind, returns_modifyJob_bind, h, if_true, ite_bind, returns_ite]
                split
                · exact hk _
                · exact retry _ _ (.inr rfl) _ ⟨rfl, rfl, rfl, rfl, retryCount_initial _ _⟩

lemma takePublish_returns (h : s.job.publishTaskIds.get? r.taskId = some channel) :
    Returns (takePublish env r channel) s ↔ PublishSettles env s.workers s.jobId s.job r channel := by
  rw [takePublish, returns_handle_raise_bind]
  refine handlePublishResult_returns ?_ h
  intro s
  simp only [Act.ack, returns_modifyQueue_bind, returns_theId_bind, returns_when_bind, deadLetter,
    settlePublish_returns, ite_self]

lemma takePreview_returns {sceneId : SceneId} (h : s.job.imageStoryboardTaskIds.get? r.taskId = some sceneId) :
    Returns (takePreview env r) s ↔ PreviewSettles env s.job r.taskId sceneId r.success r.imageBase64
      (if r.artifacts = [] then r.images else r.artifacts) := by
  rw [takePreview, returns_handle_raise_bind, returns_bind_of, handleImageResult_returns h]
  intro _ s
  simp only [Act.ack, returns_modifyQueue_bind, returns_theId_bind]
  rw [when]
  split
  · exact ⟨(), rfl⟩
  · exact ⟨(), rfl⟩

lemma takeScript_returns :
    Returns (takeScript env r) s ↔ ScriptSettles env s.workers s.jobId s.job r := by
  rw [takeScript, returns_handle_raise_bind, returns_bind_of, handleScriptResult_returns]
  intro _ s
  simp only [Act.ack, returns_modifyQueue_bind, returns_theJob_bind]
  rw [when]
  split
  · exact ⟨(), rfl⟩
  · exact ⟨(), rfl⟩

end

end Vertep.Core
