import Vertep.Core.SceneSettle

/-!
# Results that are refused (`core/api/tasks.py`)

A result of the node that holds the lease ends in an error, and then everything the node needs for its
next answer should stand as before. The branches free the worker before they look at the payload, so
for most of them that is the case exactly when they do not raise at all; what is asked before the worker
is freed (the receipt of a publication, the audio of a voice, the storyboard) may be refused freely.
-/

namespace Vertep.Core
open Lib Queue
open Command Act

/-- Of a Job what a refused result may not touch: its status, stages, scenes, artifacts, task pointers
and budgets. -/
def Job.standing (job : Job) : Job :=
  { status := job.status
    stages := job.stages
    scenes := job.scenes
    artifacts := job.artifacts
    activeTaskId := job.activeTaskId
    activeTaskIds := job.activeTaskIds
    ttsActiveTaskIds := job.ttsActiveTaskIds
    scriptTaskId := job.scriptTaskId
    storyboardTaskId := job.storyboardTaskId
    imageStoryboardTaskIds := job.imageStoryboardTaskIds
    publishTaskIds := job.publishTaskIds
    assemblyTaskId := job.assemblyTaskId
    assemblyTaskIds := job.assemblyTaskIds
    retries := job.retries
    maxRetries := job.maxRetries
    scriptAttempt := job.scriptAttempt
    storyboardAttempt := job.storyboardAttempt
    ttsAttempts := job.ttsAttempts
    ttsMaxRetries := job.ttsMaxRetries
    publishRetryCount := job.publishRetryCount
    assemblyAttempt := job.assemblyAttempt }

def Worker.standing (w : Worker) : WorkerState × Option TaskId × Option JobId :=
  (w.status, w.currentTask, w.currentJob)

def Ctx.standing (node : NodeName) (s : Ctx) :
    Job × LocalQueue TaskBody × Option (WorkerState × Option TaskId × Option JobId) :=
  (s.job.standing, s.queue, (s.workers.get? node).map Worker.standing)

/-- The result is taken, or it is refused and leaves everything as it was. -/
def Clean (node : NodeName) (m : Act Unit) (s : Ctx) : Prop :=
  Returns m s ∨ (m s).2.standing node = s.standing node

section
variable {env : Env} {s : Ctx} {r : TaskResult}

lemma clean_of_same {node : NodeName} {m : Act Unit} (h : (m s).2 = s) : Clean node m s :=
  .inr (by rw [h])

lemma clean_of_freed {m : Act Unit} (own : workerOwns s.workers s.jobId r.taskId r.nodeName)
    (freed : ∀ w, (m s).2.workers.get? r.nodeName = some w → w.currentTask = none) :
    Clean r.nodeName m s ↔ Returns m s := by
  refine or_iff_left fun same => ?_
  simp only [workerOwns, Option.any_eq_true, decide_eq_true_eq] at own
  obtain ⟨w, found, task, _⟩ := own
  have record := congrArg (fun x => x.2.2) same
  simp only [Ctx.standing, found, Option.map_some] at record
  obtain ⟨w', found', same'⟩ := Option.map_eq_some_iff.1 record
  have none := freed w' found'
  simp only [Worker.standing, Prod.mk.injEq] at same'
  rw [none, task] at same'
  exact absurd same'.2.1 (by simp)

lemma modifyWorker_get? (node : NodeName) (f : Worker → Worker) :
    (modifyWorker node f s).2.workers.get? node = (s.workers.get? node).map f := by
  cases found : s.workers.get? node with
  | none | some w => simp [modifyWorker, write, found]

lemma clean_releaseWorker_bind {m : Act Unit} [keeps : Keeps Ctx.workers m]
    (own : workerOwns s.workers s.jobId r.taskId r.nodeName) :
    Clean r.nodeName (releaseWorker env r.nodeName >>= fun _ => m) s ↔
      Returns m (s.freeing env r.nodeName) := by
  refine clean_of_freed own ?_
  intro w found
  have run : (releaseWorker env r.nodeName >>= fun _ => m) s = m (s.freeing env r.nodeName) := rfl
  rw [run, keeps.keeps, Ctx.freeing, releaseWorker, modifyWorker_get?] at found
  obtain ⟨_, _, rfl⟩ := Option.map_eq_some_iff.1 found
  rfl

lemma freeing_any (p : Worker → Bool) (h : ∀ w, p (w.freed env.now) = p w) (node : NodeName) :
    (s.freeing env node).workers.values.any p = s.workers.values.any p := by
  cases found : s.workers.get? node with
  | none => simp [Ctx.freeing, releaseWorker, modifyWorker, write, found]
  | some w =>
    have run : (s.freeing env node).workers = s.workers.set node (w.freed env.now) := by
      simp [Ctx.freeing, releaseWorker, modifyWorker, write, found]
    rw [run]
    have before := (Dict.entries_perm_pop found).map Prod.snd
    have after := (s.workers.entries_set_perm node (w.freed env.now)).map Prod.snd
    simp only [Dict.values]
    rw [before.any_eq, after.any_eq]
    simp [h]

/-! ## The branches -/

lemma imageStoryboardResult_clean {sceneId : SceneId}
    (own : workerOwns s.workers s.jobId r.taskId r.nodeName)
    (h : s.job.imageStoryboardTaskIds.get? r.taskId = some sceneId) :
    Clean r.nodeName (imageStoryboardResult env r) s ↔
      PreviewSettles env s.job r.taskId sceneId r.success r.imageBase64
        (if r.artifacts = [] then r.images else r.artifacts) := by
  rw [imageStoryboardResult, clean_releaseWorker_bind own]
  exact takePreview_returns h

lemma scriptResult_clean (lease : textTaskLease env.now s r.taskId r.nodeName) :
    Clean r.nodeName (scriptResult env r) s ↔
      r.cancelled ∨ ScriptSettles env s.workers s.jobId s.job r := by
  have own : workerOwns s.workers s.jobId r.taskId r.nodeName := by
    simp only [textTaskLease, Bool.and_eq_true] at lease
    exact lease.1
  simp only [Clean, Returns, scriptResult, read_bind, lease, not_true_eq_false, if_false]
  cases cancelled : r.cancelled with
  | true => simp
  | false =>
    simp only [Bool.false_eq_true, if_false, false_or]
    refine (clean_releaseWorker_bind own).trans (takeScript_returns.trans ?_)
    simp only [ScriptSettles, ScriptIssues, freeing_any Worker.text (fun _ => rfl), freeing_job,
      freeing_jobId]

lemma assemblyResult_clean (own : workerOwns s.workers s.jobId r.taskId r.nodeName) :
    Clean r.nodeName (assemblyResult env r) s ↔
      s.job.assemblyCancelRequested ∨ AssemblySettles env s.jobId s.job r := by
  cases requested : s.job.assemblyCancelRequested with
  | true =>
    simp only [true_or, iff_true]
    refine .inl ?_
    simp only [assemblyResult, returns_read_bind, own, requested, not_true_eq_false, if_false, if_true,
      Act.ack, returns_modifyQueue_bind, dropAssembly, returns_modifyJob_bind]
    exact ⟨(), rfl⟩
  | false =>
    have run : assemblyResult env r s =
        (releaseWorker env r.nodeName >>= fun _ => takeAssembly env r) s := by
      simp [assemblyResult, own, requested]
    rw [Clean, Returns, run]
    simp only [Bool.false_eq_true, false_or]
    exact (clean_releaseWorker_bind own).trans takeAssembly_returns

lemma publishResult_clean {channel : Channel} (lease : textTaskLease env.now s r.taskId r.nodeName)
    (h : s.job.publishTaskIds.get? r.taskId = some channel) :
    Clean r.nodeName (publishResult env r) s ↔
      r.success ∧ ¬ Answers (checkReceipt env s.jobId s.job r channel) ∨
        PublishSettles env s.workers s.jobId s.job r channel := by
  simp only [textTaskLease, Bool.and_eq_true] at lease
  have run : publishResult env r s =
      (answer (if r.success then checkReceipt env s.jobId s.job r channel else .ok ()) >>= fun _ =>
        releaseWorker env r.nodeName >>= fun _ => takePublish env r channel) s := by
    simp [publishResult, h, lease]
  have taken : Clean r.nodeName (releaseWorker env r.nodeName >>= fun _ => takePublish env r channel) s ↔
      PublishSettles env s.workers s.jobId s.job r channel := by
    refine (clean_releaseWorker_bind lease.1).trans
      ((takePublish_returns (s := s.freeing env r.nodeName) h).trans ?_)
    simp only [PublishSettles, PublishRetries, freeing_any Worker.publisher (fun _ => rfl), freeing_job,
      freeing_jobId]
  rw [Clean, Returns, run]
  cases success : r.success with
  | false =>
    simp only [Bool.false_eq_true, if_false, false_and, false_or, answer_ok_bind]
    exact taken
  | true =>
    simp only [if_true, true_and]
    cases checkReceipt env s.jobId s.job r channel with
    | error e => simp [answer_error_bind, Answers]
    | ok _ =>
      rw [answer_ok_bind, or_iff_right (not_not_intro ⟨_, rfl⟩)]
      exact taken

/-! ## Storyboards -/

/-- A storyboard newer than the active one was made. -/
def StoryboardSuperseded (job : Job) : Prop :=
  job.activeStoryboardVersion.isSome ∧
    job.activeStoryboardVersion ≠ job.storyboards.getLast?.map StoryboardVersion.version

/-- A storyboard result counts: it is not cancelled and not superseded. -/
def StoryboardCounts (job : Job) (r : TaskResult) : Prop :=
  r.cancelled = false ∧ ¬ StoryboardSuperseded job

def storyboardRetries (env : Env) (job : Job) : Bool :=
  job.storyboardAttempt + 1 < max 1 env.storyboardMaxRetries

def StoryboardIssues (env : Env) (id : JobId) : Prop :=
  Answers (env.loadCharacter id) ∧ Answers (env.storyboardPrompt id)

/-- The Job stands where a retry of its storyboard puts it, with no attempt counted. -/
def StoryboardUnmoved (job : Job) : Prop :=
  job.status = .storyboardQueued ∧ job.storyboardAttempt = 0 ∧
    job.storyboardAttemptVersion ≠ some job.nextStoryboard

/-- The terminal storyboard failure. -/
def TerminalStoryboard (env : Env) (job : Job) (r : TaskResult) : Prop :=
  job.branch r.taskId = .storyboard ∧ StoryboardCounts job r ∧ r.success = false ∧
    storyboardRetries env job = false

lemma queueStoryboard_raises (h : ¬ StoryboardIssues env s.jobId) :
    ∃ e, queueStoryboard env s = (.error e, { s with job := { s.job with
      storyboardError := none
      storyboardAttempt :=
        if s.job.storyboardAttemptVersion = some s.job.nextStoryboard then s.job.storyboardAttempt else 0
      storyboardAttemptVersion := some s.job.nextStoryboard
      status := .storyboardQueued } }) := by
  simp only [StoryboardIssues, Answers] at h
  cases character : env.loadCharacter s.jobId with
  | error e =>
    refine ⟨e, ?_⟩
    simp only [queueStoryboard, modifyJob_bind, update_bind, theId_bind, theJob_bind, character,
      answer_error_bind, raise_apply]
  | ok c =>
    cases prompt : env.storyboardPrompt s.jobId with
    | ok _ => exact absurd ⟨⟨c, character⟩, ⟨_, prompt⟩⟩ h
    | error e =>
      refine ⟨e, ?_⟩
      simp only [queueStoryboard, modifyJob_bind, update_bind, theId_bind, theJob_bind, character, prompt,
        answer_ok_bind, answer_error_bind, raise_apply]

lemma queueStoryboard_returns (h : StoryboardIssues env s.jobId) : Returns (queueStoryboard env) s := by
  obtain ⟨⟨character, loaded⟩, ⟨_, built⟩⟩ := h
  simp only [queueStoryboard, returns_modifyJob_bind, returns_update_bind, returns_theJob_bind,
    returns_theId_bind, returns_answer_bind]
  exact ⟨_, loaded, (), built, ⟨(), rfl⟩⟩

lemma storyboardResult_returns {accepted : Bool} {s' : Ctx}
    (lease : textTaskLease env.now s r.taskId r.nodeName)
    (run : handleStoryboardResult env r s = (.ok accepted, s')) : Returns (storyboardResult env r) s := by
  have inner : (handleStoryboardResult env r >>= fun accepted =>
      pure (accepted, (none : Option String))) s = (.ok (accepted, none), s') := bind_of_ok run _
  simp only [storyboardResult, returns_read_bind, lease, not_true_eq_false, if_false]
  rw [Returns, bind_of_ok (handle_of_ok inner _), ← Returns]
  simp only [returns_ite, returns_modifyJob_bind, returns_releaseWorker_bind, Act.ack, returns_modifyQueue_bind,
    returns_when_bind, deadLetter]
  cases accepted <;> simp

lemma storyboardResult_raises {e : Err} {s' : Ctx}
    (lease : textTaskLease env.now s r.taskId r.nodeName)
    (run : handleStoryboardResult env r s = (.error e, s'))
    (unfinished : r.success ∨ s'.job.status ≠ .storyboardFailed) :
    ∃ e', storyboardResult env r s = (.error e', s') := by
  have inner : (handleStoryboardResult env r >>= fun accepted =>
      pure (accepted, (none : Option String))) s = (.error e, s') := bind_of_error run _
  simp only [storyboardResult, read_bind, lease, not_true_eq_false, if_false]
  cases e with
  | runtime detail =>
    refine ⟨.http 400 detail, bind_of_error ((handle_of_error inner _).trans ?_) _⟩
    simp only [theJob_bind, unfinished, if_true]
    rfl
  | _ => exact ⟨_, bind_of_error ((handle_of_error inner _).trans rfl) _⟩

lemma handleStoryboardResult_ignored (mine : s.job.storyboardTaskId = some r.taskId)
    (own : workerOwns s.workers s.jobId r.taskId r.nodeName) (h : ¬ StoryboardCounts s.job r) :
    handleStoryboardResult env r s = (.ok false, s) := by
  simp only [handleStoryboardResult, read_bind, mine, not_true_eq_false, if_false, own, ne_eq]
  cases cancelled : r.cancelled with
  | true => rfl
  | false =>
    have superseded : StoryboardSuperseded s.job := by
      simpa [StoryboardCounts, cancelled] using h
    simp only [StoryboardSuperseded, ne_eq] at superseded
    simp only [Bool.false_eq_true, if_false]
    rw [if_pos superseded]
    rfl

lemma handle_pure_returns {α : Type} (m : Act α) (a : α) (s : Ctx) :
    ∃ b s', handle m (fun _ => pure a) s = (.ok b, s') := by
  rcases run : m s with ⟨e | b, s'⟩
  · exact ⟨a, s', handle_of_error run _⟩
  · exact ⟨b, s', handle_of_ok run _⟩

lemma handleStoryboardResult_success (mine : s.job.storyboardTaskId = some r.taskId)
    (own : workerOwns s.workers s.jobId r.taskId r.nodeName) (h : StoryboardCounts s.job r)
    (success : r.success) :
    (∃ accepted s', handleStoryboardResult env r s = (.ok accepted, s')) ∨
      ∃ e, handleStoryboardResult env r s = (.error e, s) := by
  simp only [handleStoryboardResult, read_bind, mine, not_true_eq_false, if_false, own, h.1, success,
    Bool.false_eq_true, ne_eq]
  have current := h.2
  simp only [StoryboardSuperseded, ne_eq] at current
  rw [if_neg current]
  cases r.artifacts.find? (·.kind = .storyboard) with
  | none => exact .inr ⟨_, rfl⟩
  | some artifact =>
    simp only
    cases env.storyboardPayload artifact.blob with
    | error e => exact .inr ⟨_, rfl⟩
    | ok payload =>
      rw [bind_of_ok (handle_of_ok (rfl : answer (.ok payload) s = (.ok payload, s)) _)]
      split
      · exact .inl ⟨false, s, rfl⟩
      · cases payload.complete with
        | error e => exact .inr ⟨_, rfl⟩
        | ok _ =>
          refine .inl ?_
          rw [bind_of_ok (handle_of_ok (rfl : answer (.ok ()) s = (.ok (), s)) _)]
          simp only [modifyJob_bind, update_bind]
          obtain ⟨_, s', run⟩ := handle_pure_returns (queueImageStoryboard env s.job.nextStoryboard [] >>=
            fun _ => if env.localFallback then drawPreviews env else pure ()) () _
          exact ⟨true, s', bind_of_ok run _⟩

/-- A failed attempt with attempts left goes through `queue`. -/
lemma handleStoryboardResult_retry (mine : s.job.storyboardTaskId = some r.taskId)
    (own : workerOwns s.workers s.jobId r.taskId r.nodeName) (h : StoryboardCounts s.job r)
    (failed : r.success = false) (left : storyboardRetries env s.job) :
    handleStoryboardResult env r s = (queueStoryboard env >>= fun _ => pure true)
      { s with job := { s.job with
        storyboardAttempt := s.job.storyboardAttempt + 1
        storyboardError := r.error } } := by
  have current := h.2
  simp only [StoryboardSuperseded, ne_eq] at current
  simp only [storyboardRetries, decide_eq_true_eq] at left
  simp only [handleStoryboardResult, read_bind]
  rw [if_neg (not_not_intro mine)]
  simp only [not_true_eq_false, if_false, own, h.1, failed, Bool.false_eq_true, ne_eq]
  rw [if_neg current]
  simp only [not_false_eq_true, if_true, modifyJob_bind, left]

lemma handleStoryboardResult_refused (mine : s.job.storyboardTaskId = some r.taskId)
    (own : workerOwns s.workers s.jobId r.taskId r.nodeName) (h : StoryboardCounts s.job r)
    (failed : r.success = false) (left : storyboardRetries env s.job)
    (stuck : ¬ StoryboardIssues env s.jobId) :
    ∃ e, handleStoryboardResult env r s = (.error e, { s with job := { s.job with
      storyboardError := none
      storyboardAttempt :=
        if s.job.storyboardAttemptVersion = some s.job.nextStoryboard then s.job.storyboardAttempt + 1
        else 0
      storyboardAttemptVersion := some s.job.nextStoryboard
      status := .storyboardQueued } }) := by
  obtain ⟨e, raised⟩ := @queueStoryboard_raises env { s with job := { s.job with
    storyboardAttempt := s.job.storyboardAttempt + 1, storyboardError := r.error } } stuck
  exact ⟨e, (handleStoryboardResult_retry mine own h failed left).trans (bind_of_error raised _)⟩

lemma standing_job {node : NodeName} (job : Job) :
    ({ s with job := job } : Ctx).standing node = s.standing node ↔ job.standing = s.job.standing := by
  simp [Ctx.standing]

lemma standing_retry {job : Job} {attempt : ℕ} {error : Option String} {version : Option ℕ} :
    ({ job with
      storyboardError := error
      storyboardAttempt := attempt
      storyboardAttemptVersion := version
      status := .storyboardQueued } : Job).standing = job.standing ↔
      .storyboardQueued = job.status ∧ attempt = job.storyboardAttempt := by
  simp only [Job.standing, Job.mk.injEq, true_and, and_true]

lemma storyboardResult_clean (lease : textTaskLease env.now s r.taskId r.nodeName)
    (mine : s.job.storyboardTaskId = some r.taskId)
    (retries : StoryboardCounts s.job r → r.success = false → storyboardRetries env s.job) :
    Clean r.nodeName (storyboardResult env r) s ↔
      (StoryboardCounts s.job r → r.success = false →
        StoryboardIssues env s.jobId ∨ StoryboardUnmoved s.job) := by
  have own : workerOwns s.workers s.jobId r.taskId r.nodeName := by
    simp only [textTaskLease, Bool.and_eq_true] at lease
    exact lease.1
  by_cases counts : StoryboardCounts s.job r
  · cases success : r.success with
    | true =>
      simp only [reduceCtorEq, false_implies, implies_true, iff_true]
      rcases @handleStoryboardResult_success env _ _ mine own counts success with ⟨_, _, run⟩ | ⟨e, run⟩
      · exact .inl (storyboardResult_returns lease run)
      · obtain ⟨_, refused⟩ := storyboardResult_raises lease run (.inl success)
        exact clean_of_same (by rw [refused])
    | false =>
      rw [imp_iff_right counts, imp_iff_right rfl]
      have retry := handleStoryboardResult_retry mine own counts success (retries counts success)
      by_cases issues : StoryboardIssues env s.jobId
      · simp only [issues, true_or, iff_true]
        refine .inl ?_
        obtain ⟨_, queued⟩ := @queueStoryboard_returns env { s with job := { s.job with
          storyboardAttempt := s.job.storyboardAttempt + 1, storyboardError := r.error } } issues
        rcases run : queueStoryboard env { s with job := { s.job with
          storyboardAttempt := s.job.storyboardAttempt + 1, storyboardError := r.error } } with ⟨x, s'⟩
        rw [run] at queued
        subst queued
        exact storyboardResult_returns lease (retry.trans (bind_of_ok run _))
      · obtain ⟨e, raised⟩ := handleStoryboardResult_refused mine own counts success
          (retries counts success) issues
        obtain ⟨e', refused⟩ := storyboardResult_raises lease raised (.inr (by simp))
        rw [Clean, Returns, refused]
        simp only [issues, false_or, reduceCtorEq, exists_false]
        refine (standing_job _).trans (standing_retry.trans ?_)
        rw [StoryboardUnmoved, eq_comm]
        refine and_congr_right fun _ => ?_
        split
        · rename_i counted
          simp [counted]
        · rename_i fresh
          simp [fresh, eq_comm]
  · simp only [counts, false_implies, iff_true]
    exact .inl (storyboardResult_returns lease (handleStoryboardResult_ignored mine own counts))

/-! ## Scenes -/

/-- The scene branch looks at the result: the task is active for a scene of this node. -/
structure SceneOpen (job : Job) (r : TaskResult) (scene : Scene) : Prop where
  unanswered : r.taskId ∉ job.completedTaskIds
  current : cancelledAttemptRelease job r.taskId = none
  active : sceneForTask job r.taskId = some scene
  assigned : scene.assignedWorker = some r.nodeName
  running : job.status.halted = false

lemma sceneResult_clean (own : workerOwns s.workers s.jobId r.taskId r.nodeName) (fresh : VoiceFresh s) :
    Clean r.nodeName (sceneResult env r) s ↔
      ∀ scene, SceneOpen s.job r scene → SceneTaken env s.workers s.jobId s.job r scene := by
  have closed (h : ∀ scene, ¬ SceneOpen s.job r scene)
      (same : (sceneResult env r s).2.standing r.nodeName = s.standing r.nodeName) :
      Clean r.nodeName (sceneResult env r) s ↔
        ∀ scene, SceneOpen s.job r scene → SceneTaken env s.workers s.jobId s.job r scene :=
    ⟨fun _ scene opened => absurd opened (h scene), fun _ => .inr same⟩
  by_cases unanswered : r.taskId ∈ s.job.completedTaskIds
  · refine closed (fun _ opened => opened.unanswered unanswered) ?_
    simp [sceneResult, unanswered]
  cases current : cancelledAttemptRelease s.job r.taskId with
  | some e =>
    refine closed (fun _ opened => by simpa [current] using opened.current) ?_
    have run : (sceneResult env r s).2 = { s with job := s.job.releaseHold e.1 } := by
      simp [sceneResult, unanswered, current, releaseAssemblyHold]
    rw [run]
    refine (standing_job _).2 ?_
    simp only [Job.releaseHold]
    split
    · split <;> rfl
    · rfl
  | none =>
    cases active : sceneForTask s.job r.taskId with
    | none =>
      refine closed (fun _ opened => by simpa [active] using opened.active) ?_
      simp [sceneResult, unanswered, current, active]
    | some scene =>
      by_cases assigned : scene.assignedWorker = some r.nodeName
      · cases running : s.job.status.halted with
        | true =>
          refine closed (fun _ opened => by simpa [running] using opened.running) ?_
          simp [sceneResult, unanswered, current, active, assigned, running]
        | false =>
          have run : sceneResult env r s =
              (releaseWorker env r.nodeName >>= fun _ => takeScene env r scene) s := by
            simp [sceneResult, unanswered, current, active, assigned, running]
          have taken : Clean r.nodeName (sceneResult env r) s ↔
              SceneTaken env s.workers s.jobId s.job r scene := by
            rw [Clean, Returns, run]
            refine (clean_releaseWorker_bind own).trans
              ((takeScene_returns (s := s.freeing env r.nodeName) fresh).trans ?_)
            simp only [SceneTaken, SceneSettles, ScenesSettle, VoicesNext, hasVoiceWorker,
              freeing_any Worker.voice (fun _ => rfl), freeing_job, freeing_jobId]
          rw [taken]
          constructor
          · intro h scene' opened
            cases Option.some.inj (active.symm.trans opened.active)
            exact h
          · intro h
            exact h scene ⟨unanswered, current, active, assigned, running⟩
      · refine closed (fun scene' opened => ?_) ?_
        · cases Option.some.inj (active.symm.trans opened.active)
          exact assigned opened.assigned
        · simp [sceneResult, unanswered, current, active, assigned]

/-! ## Voices -/

lemma handleTtsFailure_clean {scene : Scene} (own : workerOwns s.workers s.jobId r.taskId r.nodeName) :
    Clean r.nodeName (handleTtsFailure env r.taskId (some r.nodeName) r.error scene) s ↔
      VoiceFailureSettles env s.jobId s.job scene.sceneId := by
  refine (clean_of_freed own ?_).trans handleTtsFailure_returns
  intro w found
  have run : ∃ s₁, s₁.workers = (modifyWorker r.nodeName (·.dismissed env.now) s).2.workers ∧
      handleTtsFailure env r.taskId (some r.nodeName) r.error scene s =
        retryTts env r.taskId r.error scene (ttsAttemptsUsed s.job scene.sceneId + 1)
          s.job.ttsMaxRetries s₁ := by
    refine ⟨_, ?_, rfl⟩
    rfl
  obtain ⟨s₁, workers, run⟩ := run
  rw [run, (keepsWorkers (retryTts env r.taskId r.error scene _ _)).keeps, workers, modifyWorker_get?] at found
  obtain ⟨_, _, rfl⟩ := Option.map_eq_some_iff.1 found
  rfl

/-- The audio files of a result are registered, each with its contract. -/
def AudioRegisters (env : Env) (index : ℕ) : Prop :=
  env.register .audio index = none ∧ Answers (env.writeContract index) ∧
    env.register .audioContract index = none

/-- The voice result is taken, once its files are written. -/
def VoiceTaken (env : Env) (id : JobId) (job : Job) (r : TaskResult) : Prop :=
  (∀ index < r.artifacts.length, AudioRegisters env index) ∧ Answers (env.loadCharacter id) ∧
    ((job.ttsActiveTaskIds.pop r.taskId).entries = [] → VoicesSettle env job)

/-- A context with one artifact more. -/
def Ctx.appended (s : Ctx) (kind : ArtifactKind) (scene : Option SceneId) (task : Option TaskId)
    (node : Option NodeName) : Ctx :=
  { s with
    nextId := s.nextId + 1
    job := { s.job with artifacts := s.job.artifacts ++ [⟨s.nextId, kind, scene, task, node⟩] } }

/-- Only artifacts that are no scene files were written. -/
structure Recorded (env : Env) (s s' : Ctx) : Prop where
  kept : s'.unregistered = s.unregistered
  files : orderedSceneFiles env s'.job = orderedSceneFiles env s.job
  grown : s.job.artifacts.length ≤ s'.job.artifacts.length

lemma Recorded.refl (s : Ctx) : Recorded env s s := ⟨rfl, rfl, Nat.le_refl _⟩

lemma Recorded.trans {s s' s'' : Ctx} (h : Recorded env s s') (h' : Recorded env s' s'') :
    Recorded env s s'' :=
  ⟨h'.kept.trans h.kept, h'.files.trans h.files, h.grown.trans h'.grown⟩

lemma recorded_appended {kind : ArtifactKind} (image : kind ≠ .image) (video : kind ≠ .videoScene)
    (scene : Option SceneId) (task : Option TaskId) (node : Option NodeName) :
    Recorded env s (s.appended kind scene task node) :=
  ⟨rfl, orderedSceneFiles_append _ image video, by simp [Ctx.appended]⟩

lemma registerContract_step (scene : Scene) (index : ℕ) :
    let m : Act Unit := do
      answer (env.writeContract index)
      let _ ← registerArtifact env .audioContract index (some scene.sceneId) (some r.taskId)
        (some r.nodeName)
      pure ()
    (Returns m s ↔ Answers (env.writeContract index) ∧ env.register .audioContract index = none) ∧
      Recorded env s (m s).2 := by
  cases env.writeContract index with
  | error e => exact ⟨by simp [answer_error_bind, Answers], .refl s⟩
  | ok _ =>
    have second := @registerArtifact_apply env s .audioContract index (some scene.sceneId)
      (some r.taskId) (some r.nodeName)
    simp only [answer_ok_bind]
    cases contract : env.register .audioContract index with
    | none =>
      rw [contract] at second
      rw [Returns, bind_of_ok second]
      exact ⟨by simp [Answers], recorded_appended (by simp) (by simp) _ _ _⟩
    | some x =>
      obtain ⟨_ | _, e⟩ := x
      · rw [contract] at second
        rw [Returns, bind_of_error second]
        exact ⟨by simp, .refl s⟩
      · rw [contract] at second
        rw [Returns, bind_of_error second]
        exact ⟨by simp, recorded_appended (by simp) (by simp) _ _ _⟩

lemma registerAudio_step (scene : Scene) (index : ℕ) :
    let s' := (registerAudio env r scene index s).2
    (Returns (registerAudio env r scene index) s ↔ AudioRegisters env index) ∧ Recorded env s s' ∧
      ((∀ e, env.register .audio index ≠ some (false, e)) →
        s.job.artifacts.length < s'.job.artifacts.length) := by
  simp only [registerAudio, AudioRegisters]
  have first := @registerArtifact_apply env s .audio index (some scene.sceneId) (some r.taskId)
    (some r.nodeName)
  cases audio : env.register .audio index with
  | some x =>
    obtain ⟨_ | _, e⟩ := x
    · rw [audio] at first
      rw [Returns, bind_of_error first]
      simp [Recorded.refl]
    · rw [audio] at first
      rw [Returns, bind_of_error first]
      refine ⟨by simp, recorded_appended (by simp) (by simp) _ _ _, fun _ => by simp⟩
  | none =>
    have first : registerArtifact env .audio index (some scene.sceneId) (some r.taskId)
        (some r.nodeName) s =
        (.ok s.nextId, s.appended .audio (some scene.sceneId) (some r.taskId) (some r.nodeName)) := by
      rw [first, audio]
      rfl
    have appended := @recorded_appended env s .audio (by simp) (by simp) (some scene.sceneId)
      (some r.taskId) (some r.nodeName)
    obtain ⟨answers, recorded⟩ := @registerContract_step env
      (s.appended .audio (some scene.sceneId) (some r.taskId) (some r.nodeName)) r scene index
    rw [Returns, bind_of_ok first, ← Returns, returns_handle_raise, handle_raise_state]
    refine ⟨answers.trans (and_iff_right rfl).symm, appended.trans recorded, fun _ => ?_⟩
    refine lt_of_lt_of_le ?_ recorded.grown
    simp [Ctx.appended]

lemma registerAudios_step (scene : Scene) (indexes : List ℕ) :
    let m := forEach (registerAudio env r scene) indexes
    (Returns m s ↔ ∀ index ∈ indexes, AudioRegisters env index) ∧ Recorded env s (m s).2 := by
  induction indexes generalizing s with
  | nil => exact ⟨by simp [forEach], .refl s⟩
  | cons index indexes ih =>
    obtain ⟨returns, recorded, _⟩ := @registerAudio_step env s r scene index
    simp only [forEach, List.forall_mem_cons] at ih ⊢
    rcases run : registerAudio env r scene index s with ⟨x, s'⟩
    rw [Returns, run] at returns
    rw [run] at recorded
    obtain ⟨returns', recorded'⟩ := @ih s'
    cases x with
    | error e =>
      rw [Returns, bind_of_error run]
      simp only [reduceCtorEq, exists_false, false_iff] at returns
      exact ⟨by simp [returns], recorded⟩
    | ok _ =>
      rw [Returns, bind_of_ok run, ← Returns]
      exact ⟨by rw [returns', and_iff_right (returns.1 ⟨_, rfl⟩)], recorded.trans recorded'⟩

lemma registerAudios_grow (scene : Scene) (indexes : List ℕ) {index : ℕ}
    (h : ∀ e, env.register .audio index ≠ some (false, e)) :
    s.job.artifacts.length <
      (forEach (registerAudio env r scene) (index :: indexes) s).2.job.artifacts.length := by
  obtain ⟨_, _, grown⟩ := @registerAudio_step env s r scene index
  have grown := grown h
  simp only [forEach]
  rcases run : registerAudio env r scene index s with ⟨x, s'⟩
  rw [run] at grown
  cases x with
  | error e =>
    rw [bind_of_error run]
    exact grown
  | ok _ =>
    rw [bind_of_ok run]
    exact grown.trans_le (registerAudios_step scene indexes).2.grown

lemma takeVoice_returns (planned : s.job.scenes ≠ []) :
    Returns (takeVoice env r) s ↔ Answers (env.loadCharacter s.jobId) ∧
      ((s.job.ttsActiveTaskIds.pop r.taskId).entries = [] → VoicesSettle env s.job) := by
  simp only [takeVoice, Act.ack, returns_modifyQueue_bind, readVoice_returns, returns_modifyJob_bind,
    returns_theJob_bind, returns_ite]
  refine and_congr_right fun _ => ?_
  split
  · rename_i last
    rw [imp_iff_right last]
    refine (settleTts_returns ?_).trans Iff.rfl
    exact planned
  · rename_i more
    simp [more]

lemma voicesSettle_of_recorded {s s' : Ctx} (h : Recorded env s s') :
    VoicesSettle env s'.job ↔ VoicesSettle env s.job := by
  have files := h.files
  rw [eq_of_unregistered h.kept] at files ⊢
  simp only [VoicesSettle] at files ⊢
  rw [files]
  rfl

lemma registerAudios_clean {scene : Scene} (files : r.artifacts ≠ []) (planned : s.job.scenes ≠ [])
    (own : workerOwns s.workers s.jobId r.taskId r.nodeName) :
    Clean r.nodeName (do
        forEach (registerAudio env r scene) (List.range r.artifacts.length)
        releaseWorker env r.nodeName
        takeVoice env r) s ↔
      (∃ e, env.register .audio 0 = some (false, e)) ∨ VoiceTaken env s.jobId s.job r := by
  obtain ⟨n, length⟩ : ∃ n, r.artifacts.length = n + 1 :=
    Nat.exists_eq_succ_of_ne_zero (fun h => files (List.eq_nil_of_length_eq_zero h))
  have indexes : List.range r.artifacts.length = 0 :: (List.range n).map Nat.succ := by
    rw [length, List.range_succ_eq_map]
  obtain ⟨returns, recorded⟩ := @registerAudios_step env s r scene (List.range r.artifacts.length)
  simp only [List.mem_range] at returns
  by_cases untouched : ∃ e, env.register .audio 0 = some (false, e)
  · refine iff_of_true (clean_of_same ?_) (.inl untouched)
    obtain ⟨e, refused⟩ := untouched
    have first : registerAudio env r scene 0 s = (.error e, s) := by
      rw [registerAudio]
      refine bind_of_error ?_ _
      rw [registerArtifact_apply, refused]
    rw [bind_of_error]
    rw [indexes]
    exact bind_of_error first _
  · have grown : s.job.artifacts.length <
        (forEach (registerAudio env r scene) (List.range r.artifacts.length) s).2.job.artifacts.length := by
      rw [indexes]
      exact registerAudios_grow scene _ fun e h => untouched ⟨e, h⟩
    rw [or_iff_right untouched, VoiceTaken, ← returns]
    rcases run : forEach (registerAudio env r scene) (List.range r.artifacts.length) s with ⟨x, s'⟩
    rw [run] at grown recorded
    rw [Returns, run]
    cases x with
    | error e =>
      rw [Clean, Returns, bind_of_error run]
      simp only [reduceCtorEq, exists_false, false_or, false_and, iff_false]
      intro same
      have artifacts := congrArg (fun x => x.1.artifacts.length) same
      exact grown.ne' artifacts
    | ok _ =>
      have same : s' = { s with nextId := s'.nextId, job := { s.job with artifacts := s'.job.artifacts } } :=
        eq_of_unregistered recorded.kept
      have rest : Clean r.nodeName (do
          forEach (registerAudio env r scene) (List.range r.artifacts.length)
          releaseWorker env r.nodeName
          takeVoice env r) s ↔ Returns (takeVoice env r) (s'.freeing env r.nodeName) := by
        refine (clean_of_freed own ?_).trans ?_
        · intro w found
          have after : (releaseWorker env r.nodeName >>= fun _ => takeVoice env r) s' =
              takeVoice env r (s'.freeing env r.nodeName) := rfl
          rw [bind_of_ok run, after, (keepsWorkers (takeVoice env r)).keeps, Ctx.freeing, releaseWorker,
            modifyWorker_get?] at found
          obtain ⟨_, _, rfl⟩ := Option.map_eq_some_iff.1 found
          rfl
        · rw [Returns, bind_of_ok run]
          rfl
      have settle := voicesSettle_of_recorded recorded
      have planned' : (s'.freeing env r.nodeName).job.scenes ≠ [] := by
        rw [freeing_job, same]
        exact planned
      rw [rest, takeVoice_returns planned', freeing_job, freeing_jobId, settle, same]
      exact (and_iff_right ⟨_, rfl⟩).symm

/-- The voice branch looks at the result. -/
structure VoiceOpen (job : Job) (r : TaskResult) (scene : Scene) (task : VoiceConfig) : Prop where
  active : sceneForTask job r.taskId = some scene
  assigned : scene.assignedWorker = some r.nodeName
  issued : job.voiceTaskSnapshot.get? r.taskId = some task
  running : job.status.halted = false

/-- What becomes of a voice result leaves no trace of a refusal: a failure is taken; audio is refused
before the first file is registered, or taken. -/
def VoiceClean (env : Env) (id : JobId) (job : Job) (r : TaskResult) (scene : Scene)
    (task : VoiceConfig) : Prop :=
  if r.success = false then VoiceFailureSettles env id job scene.sceneId
  else
    r.artifacts = [] ∨ ¬ Answers (checkAudios env task 0 r.artifacts) ∨ ¬ Answers env.writeFiles ∨
      (∃ e, env.register .audio 0 = some (false, e)) ∨ VoiceTaken env id job r

lemma voiceResult_clean_of_open {scene : Scene} {task : VoiceConfig}
    (lease : textTaskLease env.now s r.taskId r.nodeName) (h : VoiceOpen s.job r scene task) :
    Clean r.nodeName (voiceResult env r) s ↔ VoiceClean env s.jobId s.job r scene task := by
  have own : workerOwns s.workers s.jobId r.taskId r.nodeName := by
    simp only [textTaskLease, Bool.and_eq_true] at lease
    exact lease.1
  have planned : s.job.scenes ≠ [] := by
    have active := h.active
    simp only [sceneForTask, Option.bind_eq_some_iff] at active
    obtain ⟨_, _, found⟩ := active
    exact List.ne_nil_of_mem (List.mem_of_find?_eq_some found)
  simp only [Clean, Returns, VoiceClean, voiceResult, read_bind, h.active, h.assigned, h.issued, h.running, lease,
    ne_eq, not_true_eq_false, if_false, Bool.false_eq_true]
  cases success : r.success with
  | false =>
    simp only [Bool.false_eq_true, not_false_eq_true, if_true]
    exact handleTtsFailure_clean own
  | true =>
    simp only [not_true_eq_false, if_false, reduceCtorEq]
    by_cases files : r.artifacts = []
    · simp [files]
    · simp only [files, if_false, false_or]
      cases checkAudios env task 0 r.artifacts with
      | error e => simp [answer_error_bind, Answers]
      | ok _ =>
        rw [answer_ok_bind, or_iff_right (not_not_intro ⟨_, rfl⟩)]
        cases env.writeFiles with
        | error e => simp [Except.mapError, answer_error_bind, Answers]
        | ok _ =>
          rw [or_iff_right (not_not_intro ⟨_, rfl⟩)]
          exact registerAudios_clean files planned own

lemma voiceResult_clean (lease : textTaskLease env.now s r.taskId r.nodeName) :
    Clean r.nodeName (voiceResult env r) s ↔
      ∀ scene task, VoiceOpen s.job r scene task → VoiceClean env s.jobId s.job r scene task := by
  have closed (h : ∀ scene task, ¬ VoiceOpen s.job r scene task) (same : (voiceResult env r s).2 = s) :
      Clean r.nodeName (voiceResult env r) s ↔
        ∀ scene task, VoiceOpen s.job r scene task → VoiceClean env s.jobId s.job r scene task :=
    iff_of_true (clean_of_same same) fun scene task opened => absurd opened (h scene task)
  cases active : sceneForTask s.job r.taskId with
  | none =>
    refine closed (fun _ _ opened => by simpa [active] using opened.active) ?_
    simp [voiceResult, active]
  | some scene =>
    by_cases assigned : scene.assignedWorker = some r.nodeName
    · cases issued : s.job.voiceTaskSnapshot.get? r.taskId with
      | none =>
        refine closed (fun _ _ opened => by simpa [issued] using opened.issued) ?_
        simp [voiceResult, active, assigned, lease, issued]
      | some task =>
        cases running : s.job.status.halted with
        | true =>
          refine closed (fun _ _ opened => by simpa [running] using opened.running) ?_
          simp [voiceResult, active, assigned, lease, issued, running]
        | false =>
          rw [voiceResult_clean_of_open lease ⟨active, assigned, issued, running⟩]
          constructor
          · intro h scene' task' opened
            cases Option.some.inj (active.symm.trans opened.active)
            cases Option.some.inj (issued.symm.trans opened.issued)
            exact h
          · intro h
            exact h scene task ⟨active, assigned, issued, running⟩
    · refine closed (fun scene' _ opened => ?_) ?_
      · cases Option.some.inj (active.symm.trans opened.active)
        exact assigned opened.assigned
      · simp [voiceResult, active, assigned]

end

/-! ## The request -/

/-- No refusal of this result leaves a trace: the condition of its branch. -/
def RefusesCleanly (env : Env) (workers : Dict NodeName Worker) (id : JobId) (job : Job)
    (r : TaskResult) : Prop :=
  match job.branch r.taskId with
  | .imageStoryboard => ∀ sceneId, job.imageStoryboardTaskIds.get? r.taskId = some sceneId →
      PreviewSettles env job r.taskId sceneId r.success r.imageBase64
        (if r.artifacts = [] then r.images else r.artifacts)
  | .storyboard => StoryboardCounts job r → r.success = false →
      StoryboardIssues env id ∨ StoryboardUnmoved job
  | .script => r.cancelled ∨ ScriptSettles env workers id job r
  | .assembly => job.assemblyCancelRequested ∨ AssemblySettles env id job r
  | .publish => ∀ channel, job.publishTaskIds.get? r.taskId = some channel →
      r.success ∧ ¬ Answers (checkReceipt env id job r channel) ∨
        PublishSettles env workers id job r channel
  | .voice => ∀ scene task, VoiceOpen job r scene task → VoiceClean env id job r scene task
  | .scene => ∀ scene, SceneOpen job r scene → SceneTaken env workers id job r scene

section
variable {job : Job} {id : TaskId}

lemma recorded_of_imageStoryboard (h : job.branch id = .imageStoryboard) :
    ∃ sceneId, job.imageStoryboardTaskIds.get? id = some sceneId := by
  cases contains : job.imageStoryboardTaskIds.contains id with
  | true => exact Option.isSome_iff_exists.1 contains
  | false =>
    simp only [Job.branch, contains, Bool.false_eq_true, if_false] at h
    repeat' split at h
    all_goals cases h

lemma recorded_of_storyboard (h : job.branch id = .storyboard) : job.storyboardTaskId = some id := by
  simp only [Job.branch] at h
  split at h
  · cases h
  · split at h
    · assumption
    · repeat' split at h
      all_goals cases h

lemma recorded_of_publish (h : job.branch id = .publish) :
    ∃ channel, job.publishTaskIds.get? id = some channel := by
  cases contains : job.publishTaskIds.contains id with
  | true => exact Option.isSome_iff_exists.1 contains
  | false =>
    simp only [Job.branch, contains, Bool.false_eq_true, if_false] at h
    repeat' split at h
    all_goals cases h

end

lemma result_clean {env : Env} {r : TaskResult} {s : Ctx}
    (lease : textTaskLease env.now s r.taskId r.nodeName) (fresh : VoiceFresh s)
    (retries : ¬ TerminalStoryboard env s.job r) :
    Clean r.nodeName (result env r) s ↔ RefusesCleanly env s.workers s.jobId s.job r := by
  have own : workerOwns s.workers s.jobId r.taskId r.nodeName := by
    simp only [textTaskLease, Bool.and_eq_true] at lease
    exact lease.1
  rw [Clean, Returns, result_eq_handler, ← Returns, ← Clean, RefusesCleanly]
  cases branch : s.job.branch r.taskId with
  | imageStoryboard =>
    obtain ⟨sceneId, found⟩ := recorded_of_imageStoryboard branch
    refine (imageStoryboardResult_clean own found).trans ?_
    simp only [found, Option.some.injEq, forall_eq']
  | storyboard =>
    refine storyboardResult_clean lease (recorded_of_storyboard branch) fun counts failed => ?_
    cases left : storyboardRetries env s.job with
    | true => rfl
    | false => exact absurd ⟨branch, counts, failed, left⟩ retries
  | script => exact scriptResult_clean lease
  | assembly => exact assemblyResult_clean own
  | publish =>
    obtain ⟨channel, found⟩ := recorded_of_publish branch
    refine (publishResult_clean lease found).trans ?_
    simp only [found, Option.some.injEq, forall_eq']
  | voice => exact voiceResult_clean lease
  | scene => exact sceneResult_clean own fresh

/-- What a refused result of a node for a Job may not touch. -/
def System.standing (c : System) (id : JobId) (node : NodeName) :
    Option Job × LocalQueue TaskBody × Option (WorkerState × Option TaskId × Option JobId) :=
  ((c.jobs.get? id).map Job.standing, c.queue, (c.workers.get? node).map Worker.standing)

/-- An error other than the terminal storyboard failure leaves everything as it was. -/
def RefusalChangesNothing (env : Env) (r : TaskResult) (c : System) : Prop :=
  ∀ e, (taskResult env r c).1 = .error e →
    (∀ job, c.jobs.get? r.jobId = some job → ¬ TerminalStoryboard env job r) →
    (taskResult env r c).2.standing r.jobId r.nodeName = c.standing r.jobId r.nodeName

lemma refusalChangesNothing_iff {env : Env} {r : TaskResult} {c : System}
    (lease : LiveLease env.now c r)
    (fresh : ∀ job, c.jobs.get? r.jobId = some job → ∀ id ∈ job.ttsActiveTaskIds.keys, id < c.nextId) :
    RefusalChangesNothing env r c ↔ (env.authorized → ∀ job, c.jobs.get? r.jobId = some job →
      ¬ TerminalStoryboard env job r → RefusesCleanly env c.workers r.jobId job r) := by
  cases authorized : env.authorized with
  | false => simp [RefusalChangesNothing, taskResult, authorized]
  | true =>
    cases present : c.jobs.get? r.jobId with
    | none => simp [RefusalChangesNothing, taskResult, authorized, present]
    | some job =>
      simp only [RefusalChangesNothing, forall_const, present, Option.some.injEq, forall_eq']
      have run : taskResult env r c = c.on r.jobId job (result env r) := by
        simp [taskResult, authorized, present]
      by_cases terminal : TerminalStoryboard env job r
      · simp [terminal]
      have live : textTaskLease env.now (c.ctx r.jobId job) r.taskId r.nodeName := by
        simpa [textTaskLease, LiveLease, System.ctx] using lease
      have clean := @result_clean env r (c.ctx r.jobId job) live (fresh job present) terminal
      refine Iff.trans ?_ (clean.trans (imp_iff_right terminal).symm)
      rw [run]
      simp only [terminal, not_false_eq_true, forall_const]
      rcases step : result env r (c.ctx r.jobId job) with ⟨x, s'⟩
      have on : c.on r.jobId job (result env r) =
          (x, { jobs := c.jobs.set r.jobId s'.job, workers := s'.workers, queue := s'.queue,
                nextId := s'.nextId,
                submitted := c.submitted ++ s'.submitted.map fun b => (r.jobId, b)
                rendering := c.rendering }) := by
        simp only [System.ctx] at step
        simp only [System.on, step]
      rw [on, Clean, Returns, step]
      cases x with
      | ok a => simp
      | error e =>
        simp [System.standing, Ctx.standing, System.ctx, present]

end Vertep.Core
