import Vertep.Core.Settle

/-!
# When a result is taken: scenes and voices (`core/api/tasks.py`)
-/

namespace Vertep.Core
open Lib Queue
open Command Act

variable {α : Type} {scene : Scene}

section
variable {env : Env} {s : Ctx} {r : TaskResult}

/-! ## Scenes -/

def ReferencesRead (env : Env) (id : JobId) (job : Job) : Prop :=
  job.taskType = .image → Answers (env.listReferences id)

lemma readReferences_returns {k : Unit → Act α} :
    Returns (readReferences env >>= k) s ↔ ReferencesRead env s.jobId s.job ∧ Returns (k ()) s := by
  simp only [readReferences, bind_bind, returns_theJob_bind, ite_bind, returns_ite, returns_theId_bind,
    returns_answer_bind, pure_bind_eq, ReferencesRead, Answers]
  by_cases h : s.job.taskType = .image
  · simp only [h, if_true, forall_const]
    constructor
    · rintro ⟨a, e, r⟩
      exact ⟨⟨a, e⟩, r⟩
    · rintro ⟨⟨a, e⟩, r⟩
      exact ⟨a, e, r⟩
  · simp [h]

lemma readReferences_returns_iff : Returns (readReferences env) s ↔ ReferencesRead env s.jobId s.job := by
  simp only [readReferences, returns_theJob_bind, returns_ite, returns_theId_bind, returns_answer,
    returns_pure, ReferencesRead, Answers]
  by_cases h : s.job.taskType = .image <;> simp [h]

lemma sceneCancelled_returns :
    Returns (sceneCancelled env r scene) s ↔ ReferencesRead env s.jobId s.job := by
  simp only [sceneCancelled, Act.ack, returns_modifyQueue_bind, readReferences_returns,
    returns_modifyJob_bind, returns_modifyScene, and_true]

lemma enqueueJobTask_returns {newAttempt : Bool} {delay : ℚ} :
    Returns (enqueueJobTask env scene newAttempt delay) s ↔ ReferencesRead env s.jobId s.job := by
  simp only [enqueueJobTask, taskFor, bind_bind, readReferences_returns, returns_theJob_bind,
    returns_theId_bind, pure_bind_eq, returns_enqueue_bind, returns_modifyJob_bind,
    returns_modifyScene_bind, returns_pure, and_true]

/-- A failed scene result is taken: another attempt can be issued, or the stage can fail. -/
def SceneFailureSettles (env : Env) (id : JobId) (job : Job) (scene : Scene) : Prop :=
  ReferencesRead env id job ∧
    (scene.attempts.length < job.maxRetries ∨ (job.stage .assets).mayBecome .failed)

def stageView (s : Ctx) : JobId × TaskType × Option Stages := (s.jobId, s.job.taskType, s.job.stages)

instance keepsStages_cancelSibling (sibling : TaskId × SceneId) :
    Keeps stageView (cancelSibling env sibling) := by
  have discard : Keeps stageView (Act.discard sibling.1) := ⟨fun _ => rfl⟩
  have scene : Keeps stageView (modifyScene sibling.2 cancelScene) := ⟨fun _ => rfl⟩
  have theJob : Keeps stageView theJob := ⟨fun _ => rfl⟩
  have theId : Keeps stageView theId := ⟨fun _ => rfl⟩
  unfold cancelSibling readReferences
  infer_instance

lemma referencesRead_of_view {s s' : Ctx} (h : stageView s' = stageView s) :
    ReferencesRead env s'.jobId s'.job ↔ ReferencesRead env s.jobId s.job := by
  simp only [stageView, Prod.mk.injEq] at h
  rw [ReferencesRead, ReferencesRead, h.1, h.2.1]

lemma siblings_return (siblings : List (TaskId × SceneId)) (h : ReferencesRead env s.jobId s.job) :
    Returns (forEach (cancelSibling env) siblings) s := by
  induction siblings generalizing s with
  | nil => exact returns_pure () s
  | cons sibling siblings ih =>
    have first : Returns (cancelSibling env sibling) s := by
      simp only [cancelSibling, Act.discard, returns_modifyQueue_bind, returns_modifyScene_bind]
      exact readReferences_returns_iff.2 h
    obtain ⟨x, e⟩ := first
    refine returns_bind.2 ⟨x, e, ih ?_⟩
    exact (referencesRead_of_view ((keepsStages_cancelSibling sibling).keeps s)).2 h

lemma stage_of_view {s s' : Ctx} (h : stageView s' = stageView s) (name : StageName) :
    s'.job.stage name = s.job.stage name := by
  simp only [stageView, Prod.mk.injEq] at h
  rw [Job.stage, Job.stage, h.2.2]

lemma failAssets_returns (refs : ReferencesRead env s.jobId s.job) :
    Returns (failAssets env r scene) s ↔ (s.job.stage .assets).mayBecome .failed := by
  simp only [failAssets, returns_modifyJob_bind, returns_theJob_bind]
  generalize start : ({ s with job := { s.job with activeTaskId := none, assignedWorker := none } } : Ctx) = s₁
  have view₁ : stageView s₁ = stageView s := by rw [← start]; rfl
  rw [returns_bind_unit,
    and_iff_right (siblings_return s.job.activeTaskIds.entries ((referencesRead_of_view view₁).2 refs))]
  generalize rest : (forEach (cancelSibling env) s.job.activeTaskIds.entries s₁).2 = s₂
  have view : stageView s₂ = stageView s := by
    rw [← rest, ← view₁]
    exact (within_forEach s.job.activeTaskIds.entries).keeps s₁
  simp only [returns_modifyJob_bind, returns_transitionStage_bind, readReferences_returns,
    returns_theId_bind, deadLetter, returns_modifyQueue_bind, returns_update, and_true,
    mayTransition_of_ne (by decide : StageName.assets ≠ .script)]
  rw [← stage_of_view view]
  exact and_iff_left ((referencesRead_of_view view).2 refs)

lemma sceneFailed_returns :
    Returns (sceneFailed env r scene) s ↔ SceneFailureSettles env s.jobId s.job scene := by
  simp only [sceneFailed, Act.ack, returns_modifyQueue_bind, readReferences_returns,
    returns_modifyJob_bind, returns_modifyScene_bind, returns_theJob_bind, returns_ite,
    SceneFailureSettles]
  refine and_congr_right fun refs => ?_
  split
  · rename_i more
    simp only [more, true_or, iff_true]
    rw [returns_bind_of (fun _ s => returns_pure _ s), enqueueJobTask_returns]
    exact refs
  · rename_i spent
    simp only [spent, false_or]
    exact failAssets_returns refs

/-! ## Voices of a Job -/

def Scene.voiceView (scene : Scene) : StageStatus × SceneId × Bool :=
  (scene.status, scene.sceneId, scene.voiceover)

lemma exists_pendingVoice {job : Job} {p : SceneId → Prop} :
    (∃ scene ∈ pendingVoiceScenes job, p scene.sceneId) ↔
      ∃ v ∈ job.scenes.map Scene.voiceView, (v.1 = .ready ∨ v.1 = .pending) ∧
        v.2.1 ∉ job.ttsActiveTaskIds.values ∧ v.2.2 = true ∧ p v.2.1 := by
  simp only [pendingVoiceScenes, List.mem_filter, List.mem_map, Scene.voiceView, decide_eq_true_eq]
  constructor
  · rintro ⟨scene, ⟨mem, status, idle, voice⟩, hp⟩
    exact ⟨_, ⟨scene, mem, rfl⟩, status, idle, voice, hp⟩
  · rintro ⟨_, ⟨scene, mem, rfl⟩, status, idle, voice, hp⟩
    exact ⟨scene, ⟨mem, status, idle, voice⟩, hp⟩

def VoiceFresh (s : Ctx) : Prop := ∀ id ∈ s.job.ttsActiveTaskIds.keys, id < s.nextId

/-- What `_dispatch_tts` reads of a Job besides its voice tasks. -/
def voiceView (s : Ctx) :
    JobId × Option Stages × Dict SceneId ℕ × ℕ × List (StageStatus × SceneId × Bool) :=
  (s.jobId, s.job.stages, s.job.ttsAttempts, s.job.ttsMaxRetries, s.job.scenes.map Scene.voiceView)

/-- One voice task more: what `_enqueue_tts_task` leaves of a Job. -/
lemma enqueueTtsTask_apply {character : Character} (known : env.loadCharacter s.jobId = .ok character)
    (delay : ℚ) (scene : Scene) :
    enqueueTtsTask env delay scene s = (.ok (),
      { s with
        queue := (enqueueTtsTask env delay scene s).2.queue
        nextId := s.nextId + 1
        job := { s.job with
          scenes := s.job.scenes.map fun x =>
            if x.sceneId = scene.sceneId then { x with taskId := some s.nextId } else x
          ttsActiveTaskIds := s.job.ttsActiveTaskIds.set s.nextId scene.sceneId
          voiceTaskSnapshot := s.job.voiceTaskSnapshot.set s.nextId character.voice } }) := by
  simp only [enqueueTtsTask, ttsTaskFor, theId_bind, bind_bind, theJob_bind, known]
  rfl

lemma enqueueTtsTask_step (known : Answers (env.loadCharacter s.jobId)) (fresh : VoiceFresh s)
    (scene : Scene) :
    Returns (enqueueTtsTask env 0 scene) s ∧
      voiceView (enqueueTtsTask env 0 scene s).2 = voiceView s ∧
      VoiceFresh (enqueueTtsTask env 0 scene s).2 ∧
      (enqueueTtsTask env 0 scene s).2.job.ttsActiveTaskIds.values =
        s.job.ttsActiveTaskIds.values ++ [scene.sceneId] := by
  obtain ⟨character, ok⟩ := known
  have new : s.nextId ∉ s.job.ttsActiveTaskIds.keys := fun mem => (fresh _ mem).false
  rw [Returns, enqueueTtsTask_apply ok]
  refine ⟨⟨(), rfl⟩, ?_, ?_, ?_⟩
  · simp only [voiceView, List.map_map]
    congr 5
    funext x
    simp only [Function.comp]
    split <;> rfl
  · intro id mem
    simp only [Dict.mem_keys_set] at mem
    rcases mem with rfl | mem
    · exact Nat.lt_succ_self _
    · exact Nat.lt_succ_of_lt (fresh id mem)
  · simp [Dict.values, Dict.entries_set_of_not_mem new]

lemma enqueueTts_loop (scenes : List Scene) (known : Answers (env.loadCharacter s.jobId))
    (fresh : VoiceFresh s) :
    Returns (forEach (enqueueTtsTask env 0) scenes) s ∧
      voiceView (forEach (enqueueTtsTask env 0) scenes s).2 = voiceView s ∧
      (forEach (enqueueTtsTask env 0) scenes s).2.job.ttsActiveTaskIds.values =
        s.job.ttsActiveTaskIds.values ++ scenes.map Scene.sceneId := by
  induction scenes generalizing s with
  | nil => exact ⟨returns_pure () s, rfl, by simp [forEach]⟩
  | cons scene scenes ih =>
    obtain ⟨⟨x, ok⟩, view, fresh', active⟩ := enqueueTtsTask_step known fresh scene
    have same : (enqueueTtsTask env 0 scene s).2.jobId = s.jobId := congrArg Prod.fst view
    obtain ⟨returns, view', active'⟩ := ih (same ▸ known) fresh'
    have run : forEach (enqueueTtsTask env 0) (scene :: scenes) s =
        forEach (enqueueTtsTask env 0) scenes (enqueueTtsTask env 0 scene s).2 := by
      rcases step : enqueueTtsTask env 0 scene s with ⟨x', s'⟩
      rw [step] at ok
      cases ok
      exact bind_of_ok step _
    rw [Returns, run]
    refine ⟨returns, view'.trans view, ?_⟩
    rw [active', active, List.append_assoc]
    rfl

lemma exhaustTts_loop (scenes : List Scene) :
    Returns (forEach (exhaustTts env) scenes) s ↔
      scenes = [] ∨ (s.job.stage .tts).mayBecome .failed := by
  have ne : StageName.tts ≠ .script := by decide
  induction scenes generalizing s with
  | nil => simp [forEach]
  | cons scene scenes ih =>
    simp only [forEach, exhaustTts, bind_bind, returns_modifyJob_bind, returns_transitionStage_bind,
      returns_theId_bind, deadLetter, returns_modifyQueue_bind, returns_update_bind,
      mayTransition_of_ne ne, reduceCtorEq, false_or]
    refine and_iff_left (ih.2 (.inr ?_))
    have failed : (({ s.job with
        ttsAttempts := s.job.ttsAttempts.set scene.sceneId s.job.ttsMaxRetries } : Job).initializePlan.setStage
          .tts .failed).stage .tts = .failed := Job.stage_setStage _ _ _
    simp only [Job.stage] at failed ⊢
    rw [failed]
    rfl

lemma initializePlan_of_scenes {job : Job} (h : job.scenes ≠ []) :
    job.initializePlan = { job with stages := job.initializePlan.stages } := by
  rw [Job.initializePlan]
  cases job.script with
  | none => rfl
  | some script => simp [h]

lemma setStage_of_scenes {job : Job} (h : job.scenes ≠ []) (name : StageName) (status : StageStatus) :
    ∃ stages, job.initializePlan.setStage name status = { job with stages := stages } := by
  rw [initializePlan_of_scenes h]
  exact ⟨_, rfl⟩

def VoiceSpent (env : Env) (job : Job) : Prop :=
  ∃ scene ∈ pendingVoiceScenes job, ¬ ttsAttemptsUsed job scene.sceneId < env.ttsMaxRetries

/-- The voice tasks can be issued: the stage may fail where a budget is spent. -/
def VoicesIssue (env : Env) (job : Job) : Prop :=
  VoiceSpent env job → job.stage .tts = .pending ∨ (job.stage .tts).mayBecome .failed

lemma voiceSpent_of_view {s s' : Ctx} (view : voiceView s' = voiceView s)
    (most : s.job.ttsMaxRetries = env.ttsMaxRetries) {scenes : List Scene}
    (left : ∀ scene ∈ scenes, ttsAttemptsUsed s.job scene.sceneId < s.job.ttsMaxRetries)
    (active : s'.job.ttsActiveTaskIds.values = s.job.ttsActiveTaskIds.values ++ scenes.map Scene.sceneId) :
    ((pendingVoiceScenes s'.job).filter fun x =>
      ¬ ttsAttemptsUsed s'.job x.sceneId < s'.job.ttsMaxRetries) = [] ↔ ¬ VoiceSpent env s.job := by
  simp only [voiceView, Prod.mk.injEq] at view
  obtain ⟨_, _, attempts, most', seen⟩ := view
  have spent : (∃ scene ∈ pendingVoiceScenes s'.job,
      ¬ ttsAttemptsUsed s.job scene.sceneId < s.job.ttsMaxRetries) ↔ VoiceSpent env s.job := by
    rw [VoiceSpent, ← most]
    rw [@exists_pendingVoice s'.job (fun id => ¬ ttsAttemptsUsed s.job id < s.job.ttsMaxRetries),
      @exists_pendingVoice s.job (fun id => ¬ ttsAttemptsUsed s.job id < s.job.ttsMaxRetries), seen,
      active]
    refine exists_congr fun v => and_congr_right fun _ => and_congr_right fun _ => ?_
    constructor
    · rintro ⟨idle, voice, out⟩
      exact ⟨fun mem => idle (List.mem_append_left _ mem), voice, out⟩
    · rintro ⟨idle, voice, out⟩
      refine ⟨fun mem => ?_, voice, out⟩
      rcases List.mem_append.1 mem with mem | mem
      · exact idle mem
      · obtain ⟨scene, mem, e⟩ := List.mem_map.1 mem
        exact out (e ▸ left scene mem)
  rw [← spent, List.filter_eq_nil_iff]
  simp only [ttsAttemptsUsed, attempts, most', not_exists, not_and, decide_eq_true_eq]

/-- `_dispatch_tts` once the stage runs with the configured budget. -/
lemma dispatchTts_rest (waiting : pendingVoiceScenes s.job ≠ []) (enabled : characterVoiceEnabled env s.jobId)
    (fresh : VoiceFresh s) (most : s.job.ttsMaxRetries = env.ttsMaxRetries) :
    Returns (do
      let job ← theJob
      if pendingVoiceScenes job ≠ [] ∧ ¬ characterVoiceEnabled env (← theId) ∨
          job.ttsActiveTaskIds.entries = [] ∧ pendingVoiceScenes job = [] then
        transitionStage .tts .ready
        if job.taskType = .image ∨ job.taskType = .video then transition .assetsReady
      else
        forEach (enqueueTtsTask env 0)
          ((pendingVoiceScenes job).filter fun s => ttsAttemptsUsed job s.sceneId < job.ttsMaxRetries)
        let job ← theJob
        forEach (exhaustTts env)
          ((pendingVoiceScenes job).filter fun s => ¬ ttsAttemptsUsed job s.sceneId < job.ttsMaxRetries)) s ↔
      (VoiceSpent env s.job → (s.job.stage .tts).mayBecome .failed) := by
  have known : Answers (env.loadCharacter s.jobId) := by
    cases answer : env.loadCharacter s.jobId with
    | ok character => exact ⟨character, rfl⟩
    | error e => simp [characterVoiceEnabled, answer] at enabled
  rw [returns_theJob_bind, returns_theId_bind, if_neg (by simp [waiting, enabled])]
  obtain ⟨returns, view, active⟩ := enqueueTts_loop
    ((pendingVoiceScenes s.job).filter fun x => ttsAttemptsUsed s.job x.sceneId < s.job.ttsMaxRetries)
    known fresh
  rw [returns_bind_unit, and_iff_right returns, returns_theJob_bind, exhaustTts_loop,
    voiceSpent_of_view view most (by simp) active]
  simp only [voiceView, Prod.mk.injEq] at view
  rw [Job.stage, Job.stage, view.2.1]
  exact imp_iff_not_or.symm

lemma dispatchTts_returns (planned : s.job.scenes ≠ []) (waiting : pendingVoiceScenes s.job ≠ [])
    (enabled : characterVoiceEnabled env s.jobId) (fresh : VoiceFresh s) :
    Returns (dispatchTts env) s ↔ VoicesIssue env s.job := by
  have ne : StageName.tts ≠ .script := by decide
  have rest (stages : Option Stages) := @dispatchTts_rest env
    { s with job := { s.job with stages := stages, ttsMaxRetries := env.ttsMaxRetries } } waiting enabled fresh rfl
  simp only [dispatchTts, returns_modifyJob_bind, returns_theJob_bind, returns_when_bind,
    returns_transitionStage_bind, VoicesIssue]
  rw [initializePlan_stage _ ne]
  split
  · rename_i pending
    simp only [pending, true_or, implies_true, iff_true]
    refine ⟨by rw [mayTransition_of_ne ne, initializePlan_stage _ ne, pending]; rfl, ?_⟩
    rw [initializePlan_of_scenes planned]
    obtain ⟨stages, running⟩ := @setStage_of_scenes { s.job with stages := s.job.initializePlan.stages } planned .tts .running
    rw [running]
    refine (rest _).2 fun _ => ?_
    change (Job.stage { s.job with stages := stages } .tts).mayBecome .failed
    rw [← running, Job.stage_setStage]
    rfl
  · rename_i begun
    simp only [begun, false_or]
    rw [initializePlan_of_scenes planned]
    refine (rest _).trans (imp_congr_right fun _ => ?_)
    change (s.job.initializePlan.stage .tts).mayBecome .failed ↔ _
    rw [initializePlan_stage _ ne]

/-- After its last scene a Job goes on to its voices. -/
def VoicesNext (env : Env) (workers : Dict NodeName Worker) (id : JobId) (job : Job) : Prop :=
  (job.taskType = .image ∨ job.taskType = .video) ∧
    pendingVoiceScenes job ≠ [] ∧ characterVoiceEnabled env id ∧ hasVoiceWorker workers

/-- The Job can go on after its last scene. -/
def ScenesSettle (env : Env) (workers : Dict NodeName Worker) (id : JobId) (job : Job) : Prop :=
  (job.stage .assets).mayBecome .ready ∧
    (VoicesNext env workers id job →
      jobTransitionAllowed job.status .ttsGenerating ∧ VoicesIssue env job)

lemma settleScenes_returns (planned : s.job.scenes ≠ []) (fresh : VoiceFresh s) :
    Returns (settleScenes env) s ↔ ScenesSettle env s.workers s.jobId s.job := by
  have ne : StageName.assets ≠ .script := by decide
  simp only [settleScenes, returns_transitionStage_bind, mayTransition_of_ne ne, returns_read_bind,
    ScenesSettle]
  refine and_congr_right fun _ => ?_
  obtain ⟨stages, shape⟩ := setStage_of_scenes planned .assets .ready
  generalize done : s.job.initializePlan.setStage .assets .ready = job at shape ⊢
  have tts : job.stage .tts = s.job.stage .tts := by
    rw [← done, Job.stage_setStage_ne _ _ (by decide), initializePlan_stage _ (by decide)]
  have issue : VoicesIssue env job ↔ VoicesIssue env s.job := by
    rw [VoicesIssue, VoicesIssue, tts, shape]
    rfl
  have type : job.taskType = s.job.taskType := by rw [shape]
  have media : Returns
      (if pendingVoiceScenes job ≠ [] ∧ characterVoiceEnabled env s.jobId ∧ hasVoiceWorker s.workers then
        transition .ttsGenerating >>= fun _ => dispatchTts env
      else submit .finalizeAndNotify) { s with job := job } ↔
      (pendingVoiceScenes s.job ≠ [] ∧ characterVoiceEnabled env s.jobId ∧ hasVoiceWorker s.workers →
        jobTransitionAllowed s.job.status .ttsGenerating ∧ VoicesIssue env s.job) := by
    rw [returns_ite, ← issue]
    subst shape
    split
    · rename_i go
      refine Iff.trans ?_ (imp_iff_right go).symm
      rw [returns_transition_bind]
      exact and_congr_right fun _ => dispatchTts_returns planned go.1 go.2.1 fresh
    · rename_i stop
      exact iff_of_true (returns_submit _) fun go => absurd go stop
  rw [VoicesNext, ← type]
  cases kind : job.taskType with
  | image | video => simpa using media
  | _ => simp

lemma answers_mapError {f : Err → Err} {x : Except Err α} :
    Answers (Except.mapError f x) ↔ Answers x := by
  cases x <;> simp [Answers, Except.mapError]

/-- A context without what `register_artifact` writes. -/
def Ctx.unregistered (s : Ctx) : Ctx := { s with nextId := 0, job := { s.job with artifacts := [] } }

lemma eq_of_unregistered {s s' : Ctx} (h : s'.unregistered = s.unregistered) :
    s' = { s with nextId := s'.nextId, job := { s.job with artifacts := s'.job.artifacts } } := by
  obtain ⟨id, job, workers, queue, next, submitted⟩ := s
  obtain ⟨id', job', workers', queue', next', submitted'⟩ := s'
  simp only [Ctx.unregistered, Ctx.mk.injEq] at h ⊢
  obtain ⟨rfl, sameJob, rfl, rfl, -, rfl⟩ := h
  simp only [true_and, and_true]
  cases job
  cases job'
  simp only [Job.mk.injEq] at sameJob ⊢
  simp only [sameJob, and_self]

lemma registerArtifact_apply (kind : ArtifactKind) (index : ℕ) (scene : Option SceneId)
    (task : Option TaskId) (node : Option NodeName) :
    registerArtifact env kind index scene task node s =
      (match env.register kind index with
        | none => .ok s.nextId
        | some (_, e) => .error e,
      match env.register kind index with
        | some (false, _) => s
        | _ =>
          { s with
            nextId := s.nextId + 1
            job := { s.job with
              artifacts := s.job.artifacts ++ [⟨s.nextId, kind, scene, task, node⟩] } }) := by
  simp only [registerArtifact]
  cases env.register kind index with
  | none => rfl
  | some x => obtain ⟨_ | _, e⟩ := x <;> rfl

lemma registerArtifact_step (kind : ArtifactKind) (index : ℕ) (scene : Option SceneId)
    (task : Option TaskId) (node : Option NodeName) :
    (Returns (registerArtifact env kind index scene task node) s ↔ env.register kind index = none) ∧
      (registerArtifact env kind index scene task node s).2.unregistered = s.unregistered ∧
      s.nextId ≤ (registerArtifact env kind index scene task node s).2.nextId := by
  simp only [Returns, registerArtifact_apply]
  cases env.register kind index with
  | none => simp [Ctx.unregistered]
  | some x => obtain ⟨_ | _, e⟩ := x <;> simp [Ctx.unregistered]

lemma registers_step (kind : ArtifactKind) (scene : Option SceneId) (task : Option TaskId)
    (node : Option NodeName) (indexes : List ℕ) :
    let m := collect (fun index => registerArtifact env kind index scene task node) indexes
    (Returns m s ↔ ∀ index ∈ indexes, env.register kind index = none) ∧
      (m s).2.unregistered = s.unregistered ∧ s.nextId ≤ (m s).2.nextId := by
  induction indexes generalizing s with
  | nil => exact ⟨⟨fun _ _ mem => absurd mem List.not_mem_nil, fun _ => ⟨[], rfl⟩⟩, rfl, Nat.le_refl _⟩
  | cons index indexes ih =>
    obtain ⟨returns, kept, later⟩ := @registerArtifact_step env s kind index scene task node
    simp only [collect, List.forall_mem_cons] at ih ⊢
    rcases run : registerArtifact env kind index scene task node s with ⟨x, s'⟩
    rw [Returns, run] at returns
    rw [run] at kept later
    obtain ⟨returns', kept', later'⟩ := @ih s'
    cases x with
    | error e =>
      simp only [reduceCtorEq, exists_false, false_iff] at returns
      rw [Returns, bind_of_error run]
      exact ⟨⟨by rintro ⟨_, ⟨⟩⟩, fun h => absurd h.1 returns⟩, kept, later⟩
    | ok a =>
      have ok := returns.1 ⟨a, rfl⟩
      rw [Returns, bind_of_ok run]
      rcases run' : collect (fun index => registerArtifact env kind index scene task node) indexes s' with
        ⟨y, s''⟩
      rw [Returns, run'] at returns'
      rw [run'] at kept' later'
      cases y with
      | error e =>
        rw [bind_of_error run']
        simp only [reduceCtorEq, exists_false, false_iff] at returns'
        exact ⟨⟨by rintro ⟨_, ⟨⟩⟩, fun h => absurd h.2 returns'⟩, kept'.trans kept,
          later.trans later'⟩
      | ok as =>
        rw [bind_of_ok run']
        exact ⟨⟨fun _ => ⟨ok, returns'.1 ⟨as, rfl⟩⟩, fun _ => ⟨_, rfl⟩⟩, kept'.trans kept,
          later.trans later'⟩

/-- The Job with one scene ready. -/
def Job.finished (job : Job) (id : SceneId) : Job :=
  { job with
    scenes := job.scenes.map fun x => if x.sceneId = id then { x with status := .ready } else x }

/-- The result of a scene task that is done is taken. -/
def SceneSettles (env : Env) (workers : Dict NodeName Worker) (id : JobId) (job : Job)
    (r : TaskResult) (scene : Scene) : Prop :=
  r.files ≠ [] ∧ Answers (checkSceneFiles env job.taskType 0 r.files) ∧ Answers env.writeFiles ∧
    (∀ index < r.files.length, env.register (sceneArtifactKind job.taskType) index = none) ∧
    ReferencesRead env id job ∧
    (allScenesReady (job.finished scene.sceneId) →
      ScenesSettle env workers id (job.finished scene.sceneId))

/-- What the end of the scenes reads of a Job. -/
def Job.scenesView (job : Job) : TaskType × JobStatus × Option Stages × Dict TaskId SceneId × Dict SceneId ℕ ×
    List (StageStatus × SceneId × Bool) :=
  (job.taskType, job.status, job.stages, job.ttsActiveTaskIds, job.ttsAttempts,
    job.scenes.map Scene.voiceView)

lemma allScenesReady_iff {job : Job} : allScenesReady job ↔
    job.scenes.map Scene.voiceView ≠ [] ∧ ∀ v ∈ job.scenes.map Scene.voiceView, v.1 = .ready := by
  simp [allScenesReady, Scene.voiceView]

lemma scenesSettle_of_view {workers : Dict NodeName Worker} {id : JobId} {job job' : Job}
    (h : job'.scenesView = job.scenesView) :
    (allScenesReady job' ↔ allScenesReady job) ∧
      (ScenesSettle env workers id job' ↔ ScenesSettle env workers id job) := by
  simp only [Job.scenesView, Prod.mk.injEq] at h
  obtain ⟨type, status, stages, active, attempts, seen⟩ := h
  have stage (name : StageName) : job'.stage name = job.stage name := by rw [Job.stage, Job.stage, stages]
  have waiting (p : SceneId → Prop) : (∃ scene ∈ pendingVoiceScenes job', p scene.sceneId) ↔
      ∃ scene ∈ pendingVoiceScenes job, p scene.sceneId := by
    rw [exists_pendingVoice, exists_pendingVoice, seen, active]
  have some : pendingVoiceScenes job' ≠ [] ↔ pendingVoiceScenes job ≠ [] := by
    have h := waiting fun _ => True
    simp only [and_true] at h
    constructor
    · intro some
      obtain ⟨scene, mem⟩ := h.1 (List.exists_mem_of_ne_nil _ some)
      exact List.ne_nil_of_mem mem
    · intro some
      obtain ⟨scene, mem⟩ := h.2 (List.exists_mem_of_ne_nil _ some)
      exact List.ne_nil_of_mem mem
  refine ⟨by rw [allScenesReady_iff, allScenesReady_iff, seen], ?_⟩
  have spent : VoiceSpent env job' ↔ VoiceSpent env job := by
    have h := waiting fun id => ¬ ttsAttemptsUsed job id < env.ttsMaxRetries
    rw [VoiceSpent, VoiceSpent, ← h]
    simp only [ttsAttemptsUsed, attempts]
  simp only [ScenesSettle, VoicesNext, VoicesIssue, stage, type, status, some, spent]

lemma settleWhenReady_returns {job : Job} (view : s.job.scenesView = job.scenesView)
    (fresh : VoiceFresh s) :
    Returns (do
      let job ← theJob
      if allScenesReady job then settleScenes env) s ↔
      (allScenesReady job → ScenesSettle env s.workers s.jobId job) := by
  obtain ⟨ready, settle⟩ := @scenesSettle_of_view env s.workers s.jobId _ _ view
  rw [returns_theJob_bind, returns_ite, ← ready, ← settle]
  split
  · rename_i all
    have planned : s.job.scenes ≠ [] := by
      simp only [allScenesReady, decide_eq_true_eq] at all
      exact all.1
    rw [imp_iff_right all, settleScenes_returns planned fresh]
  · rename_i some
    simp [some]

lemma sceneDone_returns (fresh : VoiceFresh s) :
    Returns (sceneDone env r scene) s ↔ SceneSettles env s.workers s.jobId s.job r scene := by
  simp only [sceneDone, returns_theJob_bind, returns_when_bind, raise_bind, not_returns_raise,
    if_false_left, SceneSettles]
  refine and_congr_right fun _ => ?_
  rw [returns_answer_bind, Answers, ← exists_and_right]
  refine exists_congr fun _ => and_congr_right fun _ => ?_
  rw [returns_answer_bind, exists_and_right, ← Answers, answers_mapError]
  refine and_congr_right fun _ => ?_
  obtain ⟨registered, kept, later⟩ := @registers_step env s (sceneArtifactKind s.job.taskType)
    (some scene.sceneId) (some r.taskId) (some r.nodeName) (List.range r.files.length)
  simp only [List.mem_range] at registered
  rw [returns_bind, ← registered]
  have rest (saved : List ArtifactId) (s' : Ctx) (kept : s'.unregistered = s.unregistered)
      (later : s.nextId ≤ s'.nextId) :
      Returns (do
        ack r.taskId
        readReferences env
        modifyScene scene.sceneId (finishScene saved)
        modifyJob fun job =>
          { job with
            completedTaskIds := job.completedTaskIds ++ [r.taskId]
            activeTaskIds := job.activeTaskIds.pop r.taskId
            activeTaskId := (job.activeTaskIds.pop r.taskId).keys.head?
            assignedWorker := none }
        let job ← theJob
        if allScenesReady job then settleScenes env) s' ↔
      ReferencesRead env s.jobId s.job ∧ (allScenesReady (s.job.finished scene.sceneId) →
        ScenesSettle env s.workers s.jobId (s.job.finished scene.sceneId)) := by
    rw [eq_of_unregistered kept]
    simp only [Act.ack, returns_modifyQueue_bind, readReferences_returns, returns_modifyScene_bind,
      returns_modifyJob_bind]
    refine and_congr_right fun _ => ?_
    refine settleWhenReady_returns ?_ ?_
    · simp only [Job.scenesView, Job.finished, List.map_map]
      congr 6
      funext x
      simp only [Function.comp]
      split <;> rfl
    · intro id mem
      exact (fresh id mem).trans_le later
  constructor
  · rintro ⟨saved, ok, more⟩
    exact ⟨⟨saved, ok⟩, (rest saved _ kept later).1 more⟩
  · rintro ⟨⟨saved, ok⟩, more⟩
    exact ⟨saved, ok, (rest saved _ kept later).2 more⟩

/-- A scene result is taken. -/
def SceneTaken (env : Env) (workers : Dict NodeName Worker) (id : JobId) (job : Job)
    (r : TaskResult) (scene : Scene) : Prop :=
  if r.cancelled then ReferencesRead env id job
  else if ¬ r.success then SceneFailureSettles env id job scene
  else SceneSettles env workers id job r scene

lemma takeScene_returns (fresh : VoiceFresh s) :
    Returns (takeScene env r scene) s ↔ SceneTaken env s.workers s.jobId s.job r scene := by
  simp only [takeScene, returns_ite, SceneTaken, sceneCancelled_returns, sceneFailed_returns,
    sceneDone_returns fresh]

/-! ## Voice results -/

/-- A failed voice result is taken: the next attempt can be issued, or the stage can fail. -/
def VoiceFailureSettles (env : Env) (id : JobId) (job : Job) (scene : SceneId) : Prop :=
  Answers (env.loadCharacter id) ∧
    (ttsAttemptsUsed job scene + 1 < job.ttsMaxRetries ∨ (job.stage .tts).mayBecome .failed)

lemma readVoice_returns {k : Unit → Act α} :
    Returns (readVoice env >>= k) s ↔ Answers (env.loadCharacter s.jobId) ∧ Returns (k ()) s := by
  simp only [readVoice, bind_bind, returns_theId_bind, returns_answer_bind, pure_bind_eq, Answers]
  exact exists_and_right

lemma enqueueTtsTask_returns {delay : ℚ} (known : Answers (env.loadCharacter s.jobId)) :
    Returns (enqueueTtsTask env delay scene) s := by
  obtain ⟨character, ok⟩ := known
  rw [Returns, enqueueTtsTask_apply ok]
  exact ⟨(), rfl⟩

@[simp] lemma returns_modifyWorker_bind (node : NodeName) (f : Worker → Worker)
    (k : Unit → Act α) :
    Returns (modifyWorker node f >>= k) s ↔ Returns (k ()) (modifyWorker node f s).2 := Iff.rfl

lemma handleTtsFailure_returns {taskId : TaskId} {node : NodeName} {error : Option String}
    :
    Returns (handleTtsFailure env taskId (some node) error scene) s ↔
      VoiceFailureSettles env s.jobId s.job scene.sceneId := by
  have ne : StageName.tts ≠ .script := by decide
  simp only [handleTtsFailure, returns_theJob_bind, returns_modifyJob_bind, Act.discard,
    returns_modifyQueue_bind, returns_modifyScene_bind, Option.toList_some, forEach, bind_bind,
    pure_bind_eq, returns_modifyWorker_bind, retryTts, readVoice_returns, VoiceFailureSettles]
  refine and_congr_right fun known => ?_
  rw [returns_ite]
  split
  · rename_i left
    simp only [left, true_or, iff_true]
    exact enqueueTtsTask_returns known
  · rename_i spent
    simp only [spent, false_or, returns_transitionStage_bind, mayTransition_of_ne ne, returns_theId_bind,
      deadLetter, returns_modifyQueue_bind, returns_update, and_true]
    rfl

/-- The Job can go on after its last voice. -/
def VoicesSettle (env : Env) (job : Job) : Prop :=
  (job.stage .tts).mayBecome .ready ∧ jobTransitionAllowed job.status .ttsReady ∧
    (job.taskType = .image ∨ job.taskType = .video →
      orderedSceneFiles env job ≠ [] ∨ (job.stage .assembly).mayBecome .failed)

lemma settleTts_returns (planned : s.job.scenes ≠ []) :
    Returns (settleTts env) s ↔ VoicesSettle env s.job := by
  have tts : StageName.tts ≠ .script := by decide
  have assembly : StageName.assembly ≠ .script := by decide
  simp only [settleTts, returns_transitionStage_bind, mayTransition_of_ne tts,
    returns_transition_bind, returns_theJob_bind, VoicesSettle]
  refine and_congr_right fun _ => ?_
  obtain ⟨stages, done⟩ := setStage_of_scenes planned .tts .ready
  have stage : Job.stage { s.job with stages := stages } .assembly = s.job.stage .assembly := by
    rw [← done, Job.stage_setStage_ne _ _ (by decide), initializePlan_stage _ assembly]
  rw [done]
  refine and_congr_right fun _ => ?_
  have files : orderedSceneFiles env { s.job with status := .ttsReady, stages := stages } = orderedSceneFiles env s.job :=
    rfl
  rw [returns_ite, files]
  split
  · rename_i media
    rw [imp_iff_right media, returns_ite]
    split
    · rename_i some
      simp [some]
    · rename_i none
      rw [or_iff_right none, returns_bind_of (fun _ s => returns_update _),
        returns_transitionStage, mayTransition_of_ne assembly, ← stage]
      rfl
  · rename_i other
    simp only [other, false_implies, iff_true, returns_ite]
    split <;> simp

end

end Vertep.Core
