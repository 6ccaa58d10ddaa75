import Vertep.Core.PublishBudget

/-!
# The voices of a TTS stage (`core/api/job_helpers.py`)

While a Job is `TTS_GENERATING` each of its scenes waits for a voice task, and `tts_attempts` charges what a scene has
failed. A failure issues the scene again within the budget; a lost worker charges its scene and has `_dispatch_tts`
issue every scene that looks pending. A `Run` strings such steps together, for all scenes at once, and its `Tally`
counts the tasks of each scene and remembers whose result was accepted.
-/

namespace Vertep.Core.Voices
open Lib Queue
open Command Act
open Publication (jobCtx jobCtx_ordered)

set_option synthInstance.maxSize 2000

/-! ## What is counted -/

def voiceOf (id : JobId) (x : SceneId) (item : Item TaskBody) : Bool :=
  item.payload.jobId = id ∧ item.payload.task = some .voice ∧ item.payload.sceneId = some x

def enqueued (s s' : Ctx) (x : SceneId) : ℕ := s'.queue.newTasks s.nextId (voiceOf s.jobId x)

def Out (s : Ctx) (x : SceneId) (task : TaskId) : Prop := s.job.ttsActiveTaskIds.get? task = some x

instance (s : Ctx) (x : SceneId) (task : TaskId) : Decidable (Out s x task) := inferInstanceAs (Decidable (_ = _))

def charged (most : ℕ) (s : Ctx) (x : SceneId) : ℕ := min (ttsAttemptsUsed s.job x) most

/-! ## What leaves the voices alone -/

def voices (s : Ctx) : JobId × Dict TaskId SceneId × Dict SceneId ℕ × ℕ × List TaskId × List (Row TaskBody) :=
  (s.jobId, s.job.ttsActiveTaskIds, s.job.ttsAttempts, s.job.ttsMaxRetries, s.job.completedTaskIds, s.queue.ready)

/-- A step that does nothing about any voice. -/
structure Quiet (s s' : Ctx) : Prop where
  voices : voices s' = voices s
  later : s.nextId ≤ s'.nextId

instance : Std.Refl Quiet := ⟨fun _ => ⟨rfl, le_rfl⟩⟩

instance : IsTrans Ctx Quiet := ⟨fun _ _ _ q q' => ⟨q'.voices.trans q.voices, q.later.trans q'.later⟩⟩

section
variable (env : Env)

instance quiet_theJob : Within Quiet theJob := ⟨fun s => refl_of Quiet s⟩

instance quiet_theId : Within Quiet theId := ⟨fun s => refl_of Quiet s⟩

instance (status : JobStatus) : Within Quiet (update status) := ⟨fun _ => ⟨rfl, le_rfl⟩⟩

instance (b : Background) : Within Quiet (submit b) := ⟨fun _ => ⟨rfl, le_rfl⟩⟩

instance quiet_ack (id : TaskId) : Within Quiet (ack id) := ⟨fun _ => ⟨rfl, le_rfl⟩⟩

instance quiet_deadLetter (task : Queue.Task TaskBody) (error : Option String) :
    Within Quiet (deadLetter env task error) := ⟨fun _ => ⟨rfl, le_rfl⟩⟩

instance quiet_modifyWorker (node : NodeName) (f : Worker → Worker) : Within Quiet (modifyWorker node f) :=
  ⟨fun _ => ⟨rfl, le_rfl⟩⟩

instance quiet_releaseWorker (node : NodeName) : Within Quiet (releaseWorker env node) := ⟨fun _ => ⟨rfl, le_rfl⟩⟩

instance : Within Quiet (modifyJob Job.initializePlan) := ⟨fun _ => ⟨rfl, le_rfl⟩⟩

instance (status : JobStatus) : Within Quiet (transition status) := by
  unfold transition
  infer_instance

instance (name : StageName) (status : StageStatus) :
    Within Quiet (modifyJob (·.setStage name status)) := ⟨fun _ => ⟨rfl, le_rfl⟩⟩

instance quiet_transitionStage (name : StageName) (status : StageStatus) :
    Within Quiet (transitionStage name status) := by
  unfold transitionStage
  infer_instance

instance quiet_registerArtifact (kind : ArtifactKind) (index : ℕ) (scene : Option SceneId) (task : Option TaskId)
    (node : Option NodeName) : Within Quiet (registerArtifact env kind index scene task node) := by
  constructor
  intro s
  simp only [registerArtifact]
  cases env.register kind index with
  | none => exact ⟨rfl, Nat.le_succ _⟩
  | some x =>
    obtain ⟨_ | _, e⟩ := x
    · exact ⟨rfl, le_rfl⟩
    · exact ⟨rfl, Nat.le_succ _⟩

instance : Within Quiet (readVoice env) := by
  unfold readVoice
  infer_instance

instance (r : TaskResult) (scene : Scene) (index : ℕ) :
    Within Quiet (registerAudio env r scene index) := by
  unfold registerAudio
  infer_instance

instance : Within Quiet (settleTts env) := by
  unfold settleTts
  infer_instance

instance (node : NodeName) : Within Quiet (unassign node) := by
  unfold unassign
  infer_instance

end

/-! ## What issues a task -/

section
variable {env : Env} {most : ℕ} {x : SceneId} {may : Prop} {s s₁ s' : Ctx}

/-- The task `new` of the scene is issued, if there is one: the scene had none, and its budget was not spent. -/
structure Issued (most : ℕ) (x : SceneId) (may : Prop) (new : Option TaskId) (s s' : Ctx) : Prop where
  jobId : s'.jobId = s.jobId
  later : s.nextId ≤ s'.nextId
  fresh : VoiceFresh s'
  maxRetries : s'.job.ttsMaxRetries = s.job.ttsMaxRetries ∨ s'.job.ttsMaxRetries = most
  charges : charged most s' x = charged most s x
  allowed : new.isSome → may ∧ (∀ task, ¬ Out s x task) ∧ charged most s x < most ∧ s'.job.ttsMaxRetries = most
  out : ∀ task, Out s' x task ↔ Out s x task ∨ new = some task
  count : ∀ next ≤ s.nextId, s'.queue.newTasks next (voiceOf s.jobId x) =
    s.queue.newTasks next (voiceOf s.jobId x) + new.isSome.toNat

def Issues (most : ℕ) (x : SceneId) (may : Prop) (s s' : Ctx) : Prop :=
  VoiceFresh s → ∃ new, Issued most x may new s s'

lemma Quiet.fresh (quiet : Quiet s s') (fresh : VoiceFresh s) : VoiceFresh s' := by
  have same := quiet.voices
  simp only [Voices.voices, Prod.mk.injEq] at same
  intro id within
  rw [same.2.1] at within
  exact (fresh id within).trans_le quiet.later

lemma Quiet.issues (quiet : Quiet s s') : Issues most x may s s' := by
  intro fresh
  have same := quiet.voices
  simp only [Voices.voices, Prod.mk.injEq] at same
  obtain ⟨jobId, active, attempts, maxRetries, -, ready⟩ := same
  refine
    ⟨none,
      { jobId := jobId
        later := quiet.later
        fresh := quiet.fresh fresh
        maxRetries := .inl maxRetries
        charges := by rw [charged, charged, ttsAttemptsUsed, ttsAttemptsUsed, attempts]
        allowed := fun some_ => absurd some_ Bool.false_ne_true
        out := fun task => ?_
        count := fun next _ => ?_ }⟩
  · rw [Out, Out, active]
    exact ⟨.inl, fun h => h.resolve_right fun none_ => Option.some_ne_none task none_.symm⟩
  · rw [LocalQueue.newTasks, LocalQueue.newTasks, ready]
    rfl

instance : Std.Refl (Issues most x may) := ⟨fun s => (refl_of Quiet s).issues⟩

lemma Issued.trans {new new' : Option TaskId} (i : Issued most x may new s s₁) (i' : Issued most x may new' s₁ s') :
    Issued most x may (new.or new') s s' := by
  have one : new = none ∨ new' = none := by
    cases new with
    | none => exact .inl rfl
    | some task =>
      cases new' with
      | none => exact .inr rfl
      | some task' => exact absurd ((i.out task).2 (.inr rfl)) ((i'.allowed rfl).2.1 task)
  refine
    { jobId := i'.jobId.trans i.jobId
      later := i.later.trans i'.later
      fresh := i'.fresh
      maxRetries := ?_
      charges := i'.charges.trans i.charges
      allowed := ?_
      out := fun task => ?_
      count := fun next le => ?_ }
  · rcases i'.maxRetries with same | set
    · rw [same]
      exact i.maxRetries
    · exact .inr set
  · rcases one with rfl | rfl
    · intro some_
      obtain ⟨can, idle, budget, pinned⟩ := i'.allowed some_
      refine ⟨can, fun task out => idle task ((i.out task).2 (.inl out)), i.charges ▸ budget, pinned⟩
    · rw [Option.or_none]
      intro some_
      obtain ⟨can, idle, budget, pinned⟩ := i.allowed some_
      refine ⟨can, idle, budget, i'.maxRetries.elim (fun same => same.trans pinned) id⟩
  · rw [i'.out, i.out, or_assoc]
    rcases one with rfl | rfl
    · simp
    · simp
  · rw [← i.jobId, i'.count next (le.trans i.later), i.jobId, i.count next le]
    rcases one with rfl | rfl
    · simp
    · simp

instance : IsTrans Ctx (Issues most x may) where
  trans _ _ _ i i' fresh := by
    obtain ⟨new, first⟩ := i fresh
    obtain ⟨new', next⟩ := i' first.fresh
    exact ⟨_, first.trans next⟩

lemma enqueueTtsTask_runs {character : Character} (known : env.loadCharacter s.jobId = .ok character) (delay : ℚ)
    (scene : Scene) : ∃ item, voiceOf s.jobId scene.sceneId item ∧ item.taskId = s.nextId ∧
      enqueueTtsTask env delay scene s = (.ok (),
        { s with
          queue := s.queue.push item
          nextId := s.nextId + 1
          job := { s.job with
            scenes := s.job.scenes.map fun scene' =>
              if scene'.sceneId = scene.sceneId then { scene' with taskId := some s.nextId } else scene'
            ttsActiveTaskIds := s.job.ttsActiveTaskIds.set s.nextId scene.sceneId
            voiceTaskSnapshot := s.job.voiceTaskSnapshot.set s.nextId character.voice } }) := by
  simp only [enqueueTtsTask, ttsTaskFor, theId_bind, bind_bind, theJob_bind, known, answer_ok_bind, pure_bind_eq]
  rw [bind_of_ok (enqueue_fresh env (.inr rfl))]
  refine ⟨_, ?_, stamp_fresh (.inr rfl), rfl⟩
  simp [voiceOf, Queue.stamp]

lemma enqueueTtsTask_issues (delay : ℚ) (scene : Scene)
    (can : scene.sceneId = x → may ∧ (∀ task, ¬ Out s x task) ∧ charged most s x < most ∧ s.job.ttsMaxRetries = most) :
    Issues most x may s (enqueueTtsTask env delay scene s).2 ∧
      (scene.sceneId ≠ x → VoiceFresh s → ∀ task, Out (enqueueTtsTask env delay scene s).2 x task → Out s x task) := by
  cases known : env.loadCharacter s.jobId with
  | error e =>
    have raised : enqueueTtsTask env delay scene s = (.error e, s) := by
      simp only [enqueueTtsTask, ttsTaskFor, theId_bind, bind_bind, theJob_bind, known, answer_error_bind]
      rfl
    rw [raised]
    exact ⟨refl_of (Issues most x may) s, fun _ _ _ => id⟩
  | ok character =>
    obtain ⟨item, voice, name, run⟩ := enqueueTtsTask_runs known delay scene
    rw [run]
    have lookup (fresh : VoiceFresh s) (task : TaskId) :
        (s.job.ttsActiveTaskIds.set s.nextId scene.sceneId).get? task = some x ↔
          Out s x task ∨ scene.sceneId = x ∧ s.nextId = task := by
      rw [Dict.get?_set, Out]
      split
      · rename_i here
        subst here
        have absent : s.job.ttsActiveTaskIds.get? s.nextId ≠ some x := fun held =>
          lt_irrefl _ (fresh _ (Dict.mem_keys_iff.2 ⟨x, held⟩))
        simp [absent]
      · rename_i other
        simp [other]
    have same (next : ℕ) (old : next ≤ s.nextId) :
        (next ≤ item.taskId ∧ voiceOf s.jobId x item = true) ↔ scene.sceneId = x := by
      simp only [voiceOf, decide_eq_true_eq] at voice ⊢
      rw [voice.1, voice.2.1, voice.2.2, name, Option.some.injEq]
      exact ⟨fun h => Option.some.inj h.2.2.2, fun h => ⟨old, rfl, rfl, congrArg some h⟩⟩
    constructor
    · intro fresh
      refine
        ⟨if scene.sceneId = x then some s.nextId else none,
          { jobId := rfl
            later := Nat.le_succ _
            fresh := fun id within => ?_
            maxRetries := .inl rfl
            charges := rfl
            allowed := fun some_ => ?_
            out := fun task => ?_
            count := fun next old => ?_ }⟩
      · rcases Dict.mem_keys_set.1 within with rfl | within
        · exact Nat.lt_succ_self _
        · exact (fresh id within).trans (Nat.lt_succ_self _)
      · split at some_
        · rename_i here
          exact can here
        · exact absurd some_ Bool.false_ne_true
      · refine (lookup fresh task).trans (or_congr_right ?_)
        split
        · rename_i here
          simp [here]
        · rename_i other
          simp [other]
      · rw [LocalQueue.newTasks_push]
        simp only [same next old]
        split
        · rfl
        · rfl
    · intro other fresh task out
      exact ((lookup fresh task).1 out).resolve_right fun here => other here.1

def Waits (most : ℕ) (x : SceneId) (s : Ctx) : Prop :=
  (∀ task, ¬ Out s x task) ∧ charged most s x < most ∧ s.job.ttsMaxRetries = most

lemma enqueueTts_issues (can : may) (scenes : List Scene) (fresh : VoiceFresh s) (distinct : Distinct scenes)
    (waits : ∀ scene ∈ scenes, scene.sceneId = x → Waits most x s) :
    Issues most x may s (forEach (enqueueTtsTask env 0) scenes s).2 := by
  induction scenes generalizing s with
  | nil => exact refl_of (Issues most x may) s
  | cons scene scenes ih =>
    obtain ⟨absent, distinct⟩ := List.nodup_cons.1 distinct
    obtain ⟨first, others⟩ : Issues most x may s (enqueueTtsTask env 0 scene s).2 ∧ _ :=
      enqueueTtsTask_issues 0 scene fun here => ⟨can, waits scene List.mem_cons_self here⟩
    refine leads_bind first fun _ s₁ run => ?_
    obtain ⟨new, issued⟩ := first fresh
    rw [run] at issued others
    apply ih issued.fresh distinct
    intro scene' within here
    obtain ⟨idle, budget, pinned⟩ := waits scene' (List.mem_cons_of_mem _ within) here
    have other : scene.sceneId ≠ x := by
      rw [← here]
      exact fun same => absent (List.mem_map.2 ⟨scene', within, same.symm⟩)
    refine ⟨fun task out => idle task (others other fresh task out), issued.charges ▸ budget, ?_⟩
    exact issued.maxRetries.elim (fun same => same.trans pinned) id

lemma Quiet.used (quiet : Quiet s s') (y : SceneId) : ttsAttemptsUsed s'.job y = ttsAttemptsUsed s.job y := by
  have same := quiet.voices
  simp only [Voices.voices, Prod.mk.injEq] at same
  rw [ttsAttemptsUsed, same.2.2.1, ttsAttemptsUsed]

lemma Quiet.maxRetries (quiet : Quiet s s') : s'.job.ttsMaxRetries = s.job.ttsMaxRetries := by
  have same := quiet.voices
  simp only [Voices.voices, Prod.mk.injEq] at same
  exact same.2.2.2.1

lemma exhaustTts_issues (scenes : List Scene) (pinned : s.job.ttsMaxRetries = most)
    (spent : ∀ scene ∈ scenes, most ≤ ttsAttemptsUsed s.job scene.sceneId) :
    Issues most x may s (forEach (exhaustTts env) scenes s).2 := by
  apply (leads_forEach (fun s => s.job.ttsMaxRetries = most ∧
    ∀ scene ∈ scenes, most ≤ ttsAttemptsUsed s.job scene.sceneId) scenes ?_ ⟨pinned, spent⟩).1
  intro scene within s ⟨pinned, spent⟩
  let s₁ : Ctx :=
    { s with job := { s.job with ttsAttempts := s.job.ttsAttempts.set scene.sceneId s.job.ttsMaxRetries } }
  have used (y : SceneId) : ttsAttemptsUsed s₁.job y = if scene.sceneId = y then most else ttsAttemptsUsed s.job y := by
    change ((s.job.ttsAttempts.set scene.sceneId s.job.ttsMaxRetries).get? y).getD 0 = _
    rw [Dict.get?_set, pinned]
    split
    · rfl
    · rfl
  have rest : Quiet s₁ (exhaustTts env scene s).2 := by
    have quiet : Within Quiet (do
        transitionStage .tts .failed
        deadLetter env
          { payload := { jobId := ← theId, task := some .voice, sceneId := some scene.sceneId } }
          (some "TTS budget exhausted")
        update .failed : Act Unit) := inferInstance
    exact quiet.leads s₁
  have set : Issues most x may s s₁ := fun fresh =>
    ⟨none,
      { jobId := rfl
        later := le_rfl
        fresh := fresh
        maxRetries := .inl rfl
        charges := by
          have low := spent scene within
          rw [charged, charged, used]
          split
          · rename_i here
            rw [here] at low
            rw [min_self, min_eq_right low]
          · rfl
        allowed := fun some_ => absurd some_ Bool.false_ne_true
        out := fun task => ⟨.inl, fun h => h.resolve_right fun none_ => Option.some_ne_none task none_.symm⟩
        count := fun _ _ => rfl }⟩
  refine ⟨trans_of (Issues most x may) set rest.issues, rest.maxRetries.trans pinned, fun scene' within' => ?_⟩
  rw [rest.used, used]
  split
  · exact le_rfl
  · exact spent scene' within'

lemma fresh_of_ordered (o : s.Ordered) : VoiceFresh s := fun id within => o.below id .voice within

/-- `_dispatch_tts` issues a task for a scene that waits for one. -/
lemma dispatchTts_issues (budget : env.ttsMaxRetries = most) (can : may) (fresh : VoiceFresh s)
    (distinct : Distinct s.job.scenes) : Issues most x may s (dispatchTts env s).2 := by
  have plan : Quiet s (modifyJob Job.initializePlan s).2 := Within.leads s
  refine leads_bind plan.issues fun _ s₁ planned => ?_
  rw [planned] at plan
  have fresh := plan.fresh fresh
  have distinct := (touched_run .any planned).distinct distinct
  rw [theJob_bind]
  have begin_ : Quiet s₁ (when (s₁.job.stage .tts = .pending) (transitionStage .tts .running) s₁).2 := Within.leads s₁
  refine leads_bind begin_.issues fun _ s₂ begun => ?_
  rw [begun] at begin_
  have fresh := begin_.fresh fresh
  have distinct := (touched_run .any begun).distinct distinct
  rw [modifyJob_bind, theJob_bind, theId_bind]
  have pin : Issues most x may s₂ { s₂ with job := { s₂.job with ttsMaxRetries := env.ttsMaxRetries } } := fun fresh =>
    ⟨none,
      { jobId := rfl
        later := le_rfl
        fresh := fresh
        maxRetries := .inr budget
        charges := rfl
        allowed := fun some_ => absurd some_ Bool.false_ne_true
        out := fun task => ⟨.inl, fun h => h.resolve_right fun none_ => Option.some_ne_none task none_.symm⟩
        count := fun _ _ => rfl }⟩
  apply trans_of (Issues most x may) pin
  generalize start : ({ s₂ with job := { s₂.job with ttsMaxRetries := env.ttsMaxRetries } } : Ctx) = s₃
  have pinned : s₃.job.ttsMaxRetries = most := by rw [← start, ← budget]
  have fresh : VoiceFresh s₃ := by rw [← start]; exact fresh
  have distinct : Distinct s₃.job.scenes := by rw [← start]; exact distinct
  split
  · have quiet : Within Quiet (do
        transitionStage .tts .ready
        if s₃.job.taskType = .image ∨ s₃.job.taskType = .video then transition .assetsReady : Act Unit) := inferInstance
    exact (quiet.leads s₃).issues
  · have first : Issues most x may s₃ (forEach (enqueueTtsTask env 0) ((pendingVoiceScenes s₃.job).filter fun scene =>
        ttsAttemptsUsed s₃.job scene.sceneId < s₃.job.ttsMaxRetries) s₃).2 := by
      apply enqueueTts_issues can _ fresh
      case distinct =>
        exact ((List.filter_sublist.trans List.filter_sublist).map Scene.sceneId).nodup distinct
      case waits =>
        intro scene within here
        rw [pendingVoiceScenes, List.mem_filter, List.mem_filter, here, pinned] at within
        simp only [decide_eq_true_eq] at within
        obtain ⟨⟨-, -, idle, -⟩, left⟩ := within
        refine ⟨fun task out => idle (Dict.mem_values_iff.2 ⟨task, out⟩), ?_, pinned⟩
        rw [charged]
        exact min_lt_of_left_lt left
    refine leads_bind first fun _ s₄ run => ?_
    obtain ⟨new, issued⟩ := first fresh
    rw [run] at issued
    have pinned : s₄.job.ttsMaxRetries = most := issued.maxRetries.elim (fun same => same.trans pinned) id
    rw [theJob_bind]
    apply exhaustTts_issues _ pinned
    intro scene within
    rw [← pinned]
    simpa using (List.mem_filter.1 within).2

end

/-! ## What becomes of a task -/

/-- What CORE makes of a task: nothing, a failed attempt of its scene, or an accepted result. -/
inductive Ending where
  | kept
  | failed
  | accepted
deriving DecidableEq

namespace Ending

/-- The task that is outstanding no more. -/
def gone (task : TaskId) : Ending → Option TaskId
  | .kept => none
  | .failed | .accepted => some task

/-- What is charged. -/
def cost : Ending → ℕ
  | .failed => 1
  | .kept | .accepted => 0

end Ending

/-- A task of the scene `y` came to an end, before another one is issued: what that does to the scene `x`. -/
structure Ended (x y : SceneId) (ending : Ending) (task : TaskId) (s s' : Ctx) : Prop where
  jobId : s'.jobId = s.jobId
  later : s.nextId ≤ s'.nextId
  fresh : VoiceFresh s'
  maxRetries : s'.job.ttsMaxRetries = s.job.ttsMaxRetries
  used : ttsAttemptsUsed s'.job x = ttsAttemptsUsed s.job x + if y = x then ending.cost else 0
  out : ∀ t, Out s' x t ↔ Out s x t ∧ ending.gone task ≠ some t
  old : s'.queue.newTasks s.nextId (voiceOf s.jobId x) = 0

/-- What a step of CORE does to the scene `x`: a task of the scene `y` came to an end, and `new` is issued. -/
structure Effect (most : ℕ) (x y : SceneId) (ending : Ending) (task : TaskId) (may : Prop) (new : Option TaskId)
    (s s' : Ctx) : Prop where
  jobId : s'.jobId = s.jobId
  maxRetries : s'.job.ttsMaxRetries = s.job.ttsMaxRetries ∨ s'.job.ttsMaxRetries = most
  charges : charged most s' x = min (ttsAttemptsUsed s.job x + if y = x then ending.cost else 0) most
  out : ∀ t, Out s' x t ↔ Out s x t ∧ ending.gone task ≠ some t ∨ new = some t
  enqueued : enqueued s s' x = new.isSome.toNat
  allowed : new.isSome → may ∧ (∀ t, Out s x t → ending.gone task = some t) ∧ charged most s' x < most ∧
    s'.job.ttsMaxRetries = most

variable {scene : Scene}

section
variable {env : Env} {most : ℕ} {x y : SceneId} {ending : Ending} {task : TaskId} {may : Prop} {s s₁ s' : Ctx}

lemma Ended.effect (e : Ended x y ending task s s₁) (issues : Issues most x may s₁ s') :
    ∃ new, Effect most x y ending task may new s s' := by
  obtain ⟨new, i⟩ := issues e.fresh
  have charges : charged most s' x = min (ttsAttemptsUsed s.job x + if y = x then ending.cost else 0) most := by
    rw [i.charges, charged, e.used]
  refine
    ⟨new,
      { jobId := i.jobId.trans e.jobId
        maxRetries := by rw [← e.maxRetries]; exact i.maxRetries
        charges := charges
        out := fun t => by rw [i.out, e.out]
        enqueued := ?_
        allowed := fun some_ => ?_ }⟩
  · rw [enqueued, ← e.jobId, i.count _ e.later, e.jobId, e.old, Nat.zero_add]
  · obtain ⟨can, idle, budget, pinned⟩ := i.allowed some_
    refine ⟨can, fun t out => ?_, by rwa [i.charges], pinned⟩
    by_contra other
    exact idle t ((e.out t).2 ⟨out, other⟩)

lemma Ended.kept (o : s.Ordered) (task : TaskId) : Ended x y .kept task s s where
  jobId := rfl
  later := le_rfl
  fresh := fresh_of_ordered o
  maxRetries := rfl
  used := by rw [Ending.cost, ite_self, Nat.add_zero]
  out t := ⟨fun out => ⟨out, Option.some_ne_none t ∘ Eq.symm⟩, And.left⟩
  old := o.coherent.newTasks _

lemma Quiet.out (quiet : Quiet s s') (t : TaskId) : Out s' x t ↔ Out s x t := by
  have same := quiet.voices
  simp only [Voices.voices, Prod.mk.injEq] at same
  rw [Out, same.2.1, Out]

/-! ## A failed attempt -/

lemma retryTts_issues (id : TaskId) (error : Option String) (scene : Scene) (pinned : s.job.ttsMaxRetries = most)
    (idle : ∀ task, ¬ Out s scene.sceneId task) :
    Issues most x (scene.sceneId = x) s
      (retryTts env id error scene (ttsAttemptsUsed s.job scene.sceneId) most s).2 := by
  have read : Quiet s (readVoice env s).2 := Within.leads s
  refine leads_bind read.issues fun _ s₁ run => ?_
  rw [run] at read
  split
  · rename_i left
    apply (enqueueTtsTask_issues _ scene _).1
    intro here
    subst here
    refine ⟨rfl, fun task out => idle task ((read.out task).1 out), ?_, read.maxRetries.trans pinned⟩
    rw [charged, read.used]
    exact min_lt_of_left_lt left
  · have quiet : Within Quiet (do
        transitionStage .tts .failed
        deadLetter env
          { taskId := some id
            payload := { jobId := ← theId, task := some .voice, sceneId := some scene.sceneId } }
          error
        update .failed : Act Unit) := inferInstance
    exact (quiet.leads s₁).issues

lemma ended_failed (o : s.Ordered) (jobId : s₁.jobId = s.jobId)
    (later : s₁.nextId = s.nextId) (maxRetries : s₁.job.ttsMaxRetries = s.job.ttsMaxRetries)
    (attempts : s₁.job.ttsAttempts =
      s.job.ttsAttempts.set scene.sceneId (ttsAttemptsUsed s.job scene.sceneId + 1))
    (active : s₁.job.ttsActiveTaskIds = s.job.ttsActiveTaskIds.pop task)
    (ready : s₁.queue.ready = (s.queue.discard task).ready) : Ended x scene.sceneId .failed task s s₁ where
  jobId := jobId
  later := later.ge
  fresh := by
    intro id within
    rw [active, Dict.mem_keys_pop] at within
    rw [later]
    exact fresh_of_ordered o id within.2
  maxRetries := maxRetries
  used := by
    rw [ttsAttemptsUsed, attempts, Dict.get?_set]
    split
    · rename_i here
      rw [← here]
      rfl
    · rfl
  out t := by
    rw [Out, active, Dict.get?_pop, Out]
    split
    · rename_i here
      simp [Ending.gone, here]
    · rename_i other
      simp [Ending.gone, other]
  old := by
    rw [LocalQueue.newTasks, ready]
    exact (o.coherent.discard task).newTasks _

lemma handleTtsFailure_effect (id : TaskId) (node : Option NodeName) (error : Option String)
    (o : s.Ordered) (pinned : s.job.ttsMaxRetries = most) (one : ∀ t, Out s scene.sceneId t → t = id) :
    ∃ new, Effect most x scene.sceneId .failed id (scene.sceneId = x) new s
      (handleTtsFailure env id node error scene s).2 := by
  let s₁ : Ctx :=
    { s with
      queue := s.queue.discard id
      job := { s.job with
        ttsAttempts := s.job.ttsAttempts.set scene.sceneId (ttsAttemptsUsed s.job scene.sceneId + 1)
        ttsActiveTaskIds := s.job.ttsActiveTaskIds.pop id
        voiceTaskSnapshot := s.job.voiceTaskSnapshot.pop id
        scenes := s.job.scenes.map fun scene' =>
          if scene'.sceneId = scene.sceneId then { scene' with assignedWorker := none } else scene' } }
  have ended (z : SceneId) : Ended z scene.sceneId .failed id s s₁ := ended_failed o rfl rfl rfl rfl rfl rfl
  have run : handleTtsFailure env id node error scene s =
      (forEach (fun node => modifyWorker node (·.dismissed env.now)) node.toList >>= fun _ =>
        retryTts env id error scene (ttsAttemptsUsed s.job scene.sceneId + 1) s.job.ttsMaxRetries) s₁ := rfl
  rw [run]
  apply (ended x).effect
  have freed : Quiet s₁ (forEach (fun node => modifyWorker node (·.dismissed env.now)) node.toList s₁).2 :=
    Within.leads s₁
  refine leads_bind freed.issues fun _ s₂ run => ?_
  rw [run] at freed
  have used : ttsAttemptsUsed s₂.job scene.sceneId = ttsAttemptsUsed s.job scene.sceneId + 1 := by
    rw [freed.used, (ended scene.sceneId).used, if_pos rfl]
    rfl
  rw [pinned, ← used]
  apply retryTts_issues id error scene (freed.maxRetries.trans pinned)
  intro t out
  obtain ⟨there, other⟩ := ((ended scene.sceneId).out t).1 ((freed.out t).1 out)
  exact other (congrArg some (one t there).symm)

/-! ## An accepted result -/

/-- The task of an accepted result is dropped, and it is completed. -/
def complete (task : TaskId) (s : Ctx) : Ctx :=
  { s with job := { s.job with
      completedTaskIds := s.job.completedTaskIds ++ [task]
      ttsActiveTaskIds := s.job.ttsActiveTaskIds.pop task } }

def Settled (task : TaskId) (s s' : Ctx) : Prop := Quiet s s' ∨ ∃ s₁, Quiet s s₁ ∧ Quiet (complete task s₁) s'

lemma Settled.bind {α β : Type} {m : Act α} {f : α → Act β} [Within Quiet m]
    (next : ∀ a s₁, Settled task s₁ (f a s₁).2) : Settled task s ((m >>= f) s).2 := by
  have first : Quiet s (m s).2 := Within.leads s
  rw [bind_apply]
  rcases run : m s with ⟨e | a, s₁⟩
  · rw [run] at first
    exact .inl first
  · rw [run] at first
    rcases next a s₁ with quiet | ⟨s₂, quiet, rest⟩
    · exact .inl (trans_of Quiet first quiet)
    · exact .inr ⟨s₂, trans_of Quiet first quiet, rest⟩

lemma takeVoice_settled (r : TaskResult) : Settled r.taskId s (takeVoice env r s).2 := by
  refine Settled.bind fun _ _ => Settled.bind fun _ s₁ => .inr ⟨s₁, refl_of Quiet s₁, ?_⟩
  have rest : Within Quiet (do
      let job ← theJob
      if job.ttsActiveTaskIds.entries = [] then settleTts env : Act Unit) := inferInstance
  exact rest.leads (complete r.taskId s₁)

lemma Quiet.completed (quiet : Quiet s s') : s'.job.completedTaskIds = s.job.completedTaskIds := by
  have same := quiet.voices
  simp only [Voices.voices, Prod.mk.injEq] at same
  exact same.2.2.2.2.1

lemma ended_accepted (o : s.Ordered) (quiet : Quiet s s₁) : Ended x y .accepted task s (complete task s₁) := by
  have same := quiet.voices
  simp only [Voices.voices, Prod.mk.injEq] at same
  obtain ⟨jobId, active, attempts, maxRetries, -, ready⟩ := same
  refine
    { jobId := jobId
      later := quiet.later
      fresh := fun id within => ?_
      maxRetries := maxRetries
      used := ?_
      out := fun t => ?_
      old := ?_ }
  · rw [complete, Dict.mem_keys_pop] at within
    exact quiet.fresh (fresh_of_ordered o) id within.2
  · rw [Ending.cost, ite_self, Nat.add_zero, ← quiet.used x]
    rfl
  · rw [Out, complete, Dict.get?_pop, active, Out]
    split
    · rename_i here
      simp [Ending.gone, here]
    · rename_i other
      simp [Ending.gone, other]
  · rw [LocalQueue.newTasks, complete, ready]
    exact o.coherent.newTasks _

/-! ## The handlers -/

/-- The task is the voice task of the scene. -/
structure Holds (s : Ctx) (task : TaskId) (scene : Scene) : Prop where
  found : sceneForTask s.job task = some scene
  out : Out s scene.sceneId task

/-- CORE has accepted the result: its task entered `completed_task_ids`. -/
def accepts (r : TaskResult) (s s' : Ctx) : Bool := r.success ∧ s'.job.completedTaskIds ≠ s.job.completedTaskIds

/-- A result is refused, is a failed attempt, or is accepted. -/
def Taken (most : ℕ) (r : TaskResult) (scene : Scene) (s s' : Ctx) : Prop :=
  ∃ ending, (accepts r s s' = true ↔ ending = .accepted) ∧ ∀ x, ∃ new,
    Effect most x scene.sceneId ending r.taskId (ending = .failed ∧ scene.sceneId = x) new s s'

lemma Taken.settled {r : TaskResult} (o : s.Ordered) (success : r.success = true)
    (settled : Settled r.taskId s s') : Taken most r scene s s' := by
  rcases settled with quiet | ⟨s₁, before, after⟩
  · refine ⟨.kept, ?_, fun x => (Ended.kept o r.taskId).effect quiet.issues⟩
    simp [accepts, quiet.completed]
  · refine ⟨.accepted, ?_, fun x => (ended_accepted o before).effect after.issues⟩
    have more : s'.job.completedTaskIds = s.job.completedTaskIds ++ [r.taskId] := by
      rw [after.completed, complete, before.completed]
    simp [accepts, success, more]

lemma Taken.refused (r : TaskResult) (scene : Scene) (o : s.Ordered) : Taken most r scene s s := by
  refine ⟨.kept, ?_, fun x => (Ended.kept o r.taskId).effect (refl_of (Issues most x _) s)⟩
  simp [accepts]

lemma voiceResult_taken {r : TaskResult} (o : s.Ordered) (held : Holds s r.taskId scene)
    (pinned : s.job.ttsMaxRetries = most) (one : ∀ t, Out s scene.sceneId t → t = r.taskId) :
    Taken most r scene s (voiceResult env r s).2 := by
  simp only [voiceResult, read_bind, held.found]
  split
  · exact .refused r scene o
  split
  · exact .refused r scene o
  cases s.job.voiceTaskSnapshot.get? r.taskId with
  | none => exact .refused r scene o
  | some task =>
    dsimp only
    split
    · exact .refused r scene o
    split
    · rename_i failed
      refine ⟨.failed, by simp [accepts, failed], fun x => ?_⟩
      obtain ⟨new, effect⟩ : ∃ new, Effect most x scene.sceneId .failed r.taskId (scene.sceneId = x) new s
          (handleTtsFailure env r.taskId (some r.nodeName) r.error scene s).2 :=
        handleTtsFailure_effect r.taskId (some r.nodeName) r.error o pinned one
      exact ⟨new, { effect with allowed := fun some_ => (effect.allowed some_).imp_left fun here => ⟨rfl, here⟩ }⟩
    split
    · exact .refused r scene o
    · rename_i success _
      apply Taken.settled o (of_not_not success)
      refine Settled.bind fun _ _ => Settled.bind fun _ _ => Settled.bind fun _ _ => Settled.bind fun _ _ => ?_
      exact takeVoice_settled r

lemma expireTask_effect {item : Item TaskBody} (o : s.Ordered) (held : Holds s item.taskId scene)
    (voice : item.payload.task = some .voice) (pinned : s.job.ttsMaxRetries = most)
    (one : ∀ t, Out s scene.sceneId t → t = item.taskId) :
    ∃ new, Effect most x scene.sceneId .failed item.taskId (scene.sceneId = x) new s (expireTask env item s).2 := by
  have active : s.job.ttsActiveTaskIds.contains item.taskId = true := by
    rw [Dict.contains, held.out]
    rfl
  have run : expireTask env item s =
      handleTtsFailure env item.taskId scene.assignedWorker (some "voice task lease expired") scene s := by
    simp only [expireTask, theJob_bind, active, voice, and_self, if_true, held.found, expireTask.expireRest,
      Option.some.injEq, reduceCtorEq, if_false]
    cases s.job.publishTaskIds.get? item.taskId with
    | none => rfl
    | some channel => rfl
  rw [run]
  exact handleTtsFailure_effect item.taskId scene.assignedWorker _ o pinned one

lemma recoverTask_effect (node : NodeName) (o : s.Ordered) (distinct : Distinct s.job.scenes)
    (held : Holds s task scene) (running : s.job.status = .ttsGenerating)
    (unpublished : s.job.publishTaskIds.get? task = none) (budget : env.ttsMaxRetries = most) (can : may) :
    ∃ new, Effect most x scene.sceneId .failed task may new s (recoverTask env node (some task) s).2 := by
  have found : s.job.scenes.find? (·.sceneId = scene.sceneId) = some scene := by
    have by_ := held.found
    rw [sceneForTask, Option.bind_eq_some_iff] at by_
    obtain ⟨id, -, is⟩ := by_
    have same : scene.sceneId = id := by simpa using List.find?_some is
    rwa [same]
  let s₁ : Ctx :=
    { s with
      queue := s.queue.discard task
      job := { s.job with
        ttsAttempts := s.job.ttsAttempts.set scene.sceneId (ttsAttemptsUsed s.job scene.sceneId + 1)
        ttsActiveTaskIds := s.job.ttsActiveTaskIds.pop task
        voiceTaskSnapshot := s.job.voiceTaskSnapshot.pop task
        assignedWorker := none
        scenes := s.job.scenes.map fun scene' =>
          if scene'.sceneId = scene.sceneId then interruptScene scene' else scene' } }
  have ended : Ended x scene.sceneId .failed task s s₁ := ended_failed o rfl rfl rfl rfl rfl rfl
  have run : recoverTask env node (some task) s = (dispatchTts env >>= fun _ => unassign node) s₁ := by
    have out : s.job.ttsActiveTaskIds.get? task = some scene.sceneId := held.out
    simp only [recoverTask, theJob_bind, running, Option.bind_some, unpublished, out, reduceCtorEq, and_false, if_false,
      or_self, if_true, recoverVoice, found]
    rfl
  rw [run]
  apply ended.effect
  have distinct₁ : Distinct s₁.job.scenes := by
    rw [Distinct, List.map_map, List.map_congr_left]
    · exact distinct
    · intro scene' _
      rw [Function.comp]
      split
      · rfl
      · rfl
  refine leads_bind (dispatchTts_issues budget can ended.fresh distinct₁) fun _ s₂ _ => ?_
  exact (Within.leads (R := Quiet) (m := unassign node) s₂).issues

end

/-! ## A stage -/

/-- The voice tasks enqueued for each scene, whose result was accepted, and the tasks enqueued since. -/
structure Tally where
  issued : SceneId → ℕ := fun _ => 0
  accepted : SceneId → Bool := fun _ => false
  after : SceneId → ℕ := fun _ => 0

/-- The tally with one step more, that enqueued so many tasks and may have accepted the result of a scene. -/
def Tally.note (t : Tally) (accepted : Option SceneId) (tasks : SceneId → ℕ) : Tally where
  issued x := t.issued x + tasks x
  accepted x := t.accepted x || accepted = some x
  after x := t.after x + if t.accepted x then tasks x else 0

@[simp] lemma Tally.note_accepted (t : Tally) (accepted : Option SceneId) (tasks : SceneId → ℕ) (x : SceneId) :
    (t.note accepted tasks).accepted x = (t.accepted x || accepted = some x) := rfl

@[simp] lemma Tally.note_after (t : Tally) (accepted : Option SceneId) (tasks : SceneId → ℕ) (x : SceneId) :
    (t.note accepted tasks).after x = t.after x + if t.accepted x then tasks x else 0 := rfl

/-- A step that does nothing about the voices. -/
structure Aside (s s' : Ctx) : Prop where
  jobId : s'.jobId = s.jobId
  maxRetries : s'.job.ttsMaxRetries = s.job.ttsMaxRetries
  used : ∀ x, ttsAttemptsUsed s'.job x = ttsAttemptsUsed s.job x
  out : ∀ x task, Out s' x task ↔ Out s x task
  enqueued : ∀ x, enqueued s s' x = 0
  ordered : s'.Ordered
  distinct : Distinct s'.job.scenes

/-- A TTS stage from `_dispatch_tts` on: results, expired leases and lost workers of voice tasks in any order, among
anything that is not about the voices. `TTS_MAX_RETRIES` is `most` throughout, and a worker is lost where `may` allows
it. -/
inductive Run (most : ℕ) (may : Tally → Prop) (s₀ : Ctx) : Tally → Ctx → Prop
  | dispatched (env : Env) (budget : env.ttsMaxRetries = most) :
    Run most may s₀ (({} : Tally).note none (enqueued s₀ (dispatchTts env s₀).2)) (dispatchTts env s₀).2
  | result {t : Tally} {s : Ctx} (reached : Run most may s₀ t s) (env : Env) (r : TaskResult) {scene : Scene}
      (held : Holds s r.taskId scene) :
    Run most may s₀
      (t.note (if accepts r s (voiceResult env r s).2 then some scene.sceneId else none)
        (enqueued s (voiceResult env r s).2)) (voiceResult env r s).2
  | expired {t : Tally} {s : Ctx} (reached : Run most may s₀ t s) (env : Env) (item : Item TaskBody) {scene : Scene}
      (held : Holds s item.taskId scene) (voice : item.payload.task = some .voice) :
    Run most may s₀ (t.note none (enqueued s (expireTask env item s).2)) (expireTask env item s).2
  | lost {t : Tally} {s : Ctx} (reached : Run most may s₀ t s) (env : Env) (node : NodeName) {task : TaskId}
      {scene : Scene} (held : Holds s task scene) (running : s.job.status = .ttsGenerating)
      (unpublished : s.job.publishTaskIds.get? task = none) (budget : env.ttsMaxRetries = most) (can : may t) :
    Run most may s₀ (t.note none (enqueued s (recoverTask env node (some task) s).2))
      (recoverTask env node (some task) s).2
  | aside {t : Tally} {s s' : Ctx} (reached : Run most may s₀ t s) (aside : Aside s s') : Run most may s₀ t s'

/-- What is kept of a scene: it has one task at most and its budget covers that task; once its result is accepted it has
none, and gets none. -/
structure Fair (most : ℕ) (x : SceneId) (t : Tally) (s : Ctx) : Prop where
  pinned : ∀ task, Out s x task → s.job.ttsMaxRetries = most
  one : ∀ task task', Out s x task → Out s x task' → task = task'
  waiting : t.accepted x = false → (∀ task, ¬ Out s x task) → t.issued x ≤ charged most s x
  running : ∀ task, Out s x task → t.accepted x = false ∧ t.issued x ≤ charged most s x + 1 ∧ charged most s x < most
  issued : t.issued x ≤ most
  after : t.after x = 0

section
variable {most : ℕ} {x y : SceneId} {ending : Ending} {task : TaskId} {may : Prop} {t : Tally} {s s' : Ctx}

lemma Fair.spent (fair : Fair most x t s) (held : ending ≠ .kept → Out s y task) (open_ : t.accepted x = false)
    (other : ¬ (ending = .accepted ∧ y = x)) (last : ∀ task', Out s x task' → ending.gone task = some task')
    {may : Prop} {new : Option TaskId} (effect : Effect most x y ending task may new s s') : t.issued x ≤ charged most s' x := by
  rw [effect.charges]
  by_cases idle : ∀ task', ¬ Out s x task'
  · have before := fair.waiting open_ idle
    rw [charged] at before
    omega
  · rw [not_forall_not] at idle
    obtain ⟨task', out⟩ := idle
    obtain ⟨-, count, budget⟩ := fair.running task' out
    -- the task that is gone is this one, so that this is its scene
    have gone := last task' out
    have same : y = x := by
      cases ending with
      | kept => cases gone
      | failed | accepted =>
        obtain rfl := Option.some.inj gone
        have there : Out s y task := held (by simp)
        exact Option.some.inj (there.symm.trans out)
    have failed : ending = .failed := by
      cases ending with
      | kept => cases gone
      | failed => rfl
      | accepted => exact absurd ⟨rfl, same⟩ other
    rw [if_pos same, failed, Ending.cost]
    rw [charged] at count budget
    omega

lemma Fair.step_none (fair : Fair most x t s) (held : ending ≠ .kept → Out s y task)
    (effect : Effect most x y ending task may none s s') :
    Fair most x (t.note (if ending = .accepted then some y else none) (enqueued s s')) s' := by
  have issued : (t.note (if ending = .accepted then some y else none) (enqueued s s')).issued x = t.issued x :=
    congrArg (t.issued x + ·) effect.enqueued
  have accepted : (t.note (if ending = .accepted then some y else none) (enqueued s s')).accepted x = false ↔
      t.accepted x = false ∧ ¬ (ending = .accepted ∧ y = x) := by
    rw [Tally.note_accepted, Bool.or_eq_false_iff, decide_eq_false_iff_not]
    split
    · rename_i is
      simp [is]
    · rename_i is
      simp [is]
  have out (task' : TaskId) : Out s' x task' ↔ Out s x task' ∧ ending.gone task ≠ some task' := by
    rw [effect.out]
    exact or_iff_left (Option.some_ne_none task' ∘ Eq.symm)
  refine
    { pinned := fun task' held' => ?_
      one := fun a b ha hb => fair.one a b ((out a).1 ha).1 ((out b).1 hb).1
      waiting := fun none_ idle => ?_
      running := fun task' held' => ?_
      issued := issued ▸ fair.issued
      after := ?_ }
  · have pinned := fair.pinned task' ((out task').1 held').1
    exact effect.maxRetries.elim (fun same => same.trans pinned) id
  · obtain ⟨open_, other⟩ := accepted.1 none_
    rw [issued]
    apply fair.spent held open_ other _ effect
    intro task' there
    by_contra kept
    exact idle task' ((out task').2 ⟨there, kept⟩)
  · obtain ⟨there, kept⟩ := (out task').1 held'
    obtain ⟨open_, count, budget⟩ := fair.running task' there
    -- a task of this scene that is gone would be this one
    have stays (same : y = x) : ending = .kept := by
      by_contra ended
      have this_ : task = task' := fair.one task task' (same ▸ held ended) there
      cases ending with
      | kept => exact ended rfl
      | failed | accepted => exact kept (congrArg some this_)
    have charges : charged most s' x = charged most s x := by
      rw [effect.charges]
      split
      · rename_i same
        rw [stays same]
        rfl
      · rfl
    rw [issued, charges]
    refine ⟨accepted.2 ⟨open_, fun ⟨is, same⟩ => ?_⟩, count, budget⟩
    rw [stays same] at is
    cases is
  · have none_ : enqueued s s' x = 0 := effect.enqueued
    rw [Tally.note_after, none_, fair.after, ite_self]

lemma Fair.step (fair : Fair most x t s) (held : ending ≠ .kept → Out s y task) (calm : may → t.accepted x = false)
    (quiet : ending = .accepted → ¬ may) {new : Option TaskId} (effect : Effect most x y ending task may new s s') :
    Fair most x (t.note (if ending = .accepted then some y else none) (enqueued s s')) s' := by
  cases new with
  | none => exact fair.step_none held effect
  | some n =>
    obtain ⟨can, last, budget, pinned⟩ := effect.allowed rfl
    have running : ending ≠ .accepted := fun is => quiet is can
    have spent : t.issued x ≤ charged most s' x := fair.spent held (calm can) (fun h => running h.1) last effect
    have one : enqueued s s' x = 1 := effect.enqueued
    have out (task' : TaskId) (held' : Out s' x task') : n = task' := by
      rcases (effect.out task').1 held' with ⟨there, kept⟩ | same
      · exact absurd (last task' there) kept
      · exact Option.some.inj same
    rw [if_neg running]
    have issued : (t.note none (enqueued s s')).issued x = t.issued x + 1 := congrArg (t.issued x + ·) one
    have accepted : (t.note none (enqueued s s')).accepted x = false := by
      rw [Tally.note_accepted, calm can]
      rfl
    exact
      { pinned := fun _ _ => pinned
        one := fun a b ha hb => (out a ha).symm.trans (out b hb)
        waiting := fun _ idle => absurd ((effect.out n).2 (.inr rfl)) (idle n)
        running := fun _ _ => ⟨accepted, issued ▸ Nat.succ_le_succ spent, budget⟩
        issued := by
          rw [issued]
          exact spent.trans_lt budget
        after := by
          rw [Tally.note_after, calm can, fair.after]
          rfl }

/-- What is kept in a stage. -/
structure Sound (most : ℕ) (t : Tally) (s : Ctx) : Prop where
  ordered : s.Ordered
  distinct : Distinct s.job.scenes
  fair : ∀ x, Fair most x t s

lemma Sound.step (sound : Sound most t s) {α : Type} {m : Act α} [moves : Moves (fun _ => True) m] [Touches .any m]
    (ending : Ending) (y : SceneId) (task : TaskId) (may : SceneId → Prop) (held : ending ≠ .kept → Out s y task)
    (calm : ∀ x, may x → t.accepted x = false) (quiet : ending = .accepted → ∀ x, ¬ may x)
    (effect : ∀ x, ∃ new, Effect most x y ending task (may x) new s (m s).2) :
    Sound most (t.note (if ending = .accepted then some y else none) (enqueued s (m s).2)) (m s).2 where
  ordered := (moves.leads s).ordered sound.ordered
  distinct := (touched .any m s).distinct sound.distinct
  fair x := by
    obtain ⟨new, effect⟩ := effect x
    exact (sound.fair x).step held (calm x) (fun is => quiet is x) effect

lemma Run.sound {s₀ : Ctx} (o : s₀.Ordered) (d : Distinct s₀.job.scenes) (idle : ∀ x task, ¬ Out s₀ x task)
    (run : Run most (fun t => ∀ x, t.accepted x = false) s₀ t s) : Sound most t s := by
  induction run with
  | dispatched env budget =>
    have start : Sound most {} s₀ := by
      refine ⟨o, d, fun x => ?_⟩
      exact
        { pinned := fun task out => absurd out (idle x task)
          one := fun task _ out => absurd out (idle x task)
          waiting := fun _ _ => Nat.zero_le _
          running := fun task out => absurd out (idle x task)
          issued := Nat.zero_le _
          after := rfl }
    apply start.step .kept 0 0 fun _ => True
    case held => exact fun h => absurd rfl h
    case calm => exact fun _ _ => rfl
    case quiet => exact fun h => by cases h
    case effect =>
      intro x
      exact (Ended.kept o 0).effect (dispatchTts_issues budget trivial (fresh_of_ordered o) d)
  | @result t s reached env r scene held ih =>
    have pinned := (ih.fair scene.sceneId).pinned r.taskId held.out
    have one (task : TaskId) (out : Out s scene.sceneId task) : task = r.taskId :=
      (ih.fair scene.sceneId).one task r.taskId out held.out
    have taken : Taken most r scene s (voiceResult env r s).2 := voiceResult_taken ih.ordered held pinned one
    obtain ⟨ending, accepted, effect⟩ := taken
    rw [show (if accepts r s (voiceResult env r s).2 then some scene.sceneId else none) =
      if ending = .accepted then some scene.sceneId else none by simp only [accepted]]
    apply ih.step ending scene.sceneId r.taskId _ fun _ => held.out
    case effect => exact effect
    case calm =>
      rintro x ⟨-, rfl⟩
      exact ((ih.fair scene.sceneId).running r.taskId held.out).1
    case quiet =>
      rintro rfl x ⟨failed, -⟩
      cases failed
  | @expired t s reached env item scene held voice ih =>
    have pinned := (ih.fair scene.sceneId).pinned item.taskId held.out
    have one (task : TaskId) (out : Out s scene.sceneId task) : task = item.taskId :=
      (ih.fair scene.sceneId).one task item.taskId out held.out
    apply ih.step .failed scene.sceneId item.taskId _ fun _ => held.out
    case effect => exact fun x => expireTask_effect ih.ordered held voice pinned one
    case calm =>
      rintro x rfl
      exact ((ih.fair scene.sceneId).running item.taskId held.out).1
    case quiet => exact fun h => by cases h
  | @lost t s reached env node task scene held running unpublished budget can ih =>
    apply ih.step .failed scene.sceneId task (fun _ => True) fun _ => held.out
    case effect => exact fun x => recoverTask_effect node ih.ordered ih.distinct held running unpublished budget trivial
    case calm => exact fun x _ => can x
    case quiet => exact fun h => by cases h
  | @aside t s s' reached aside ih =>
    refine ⟨aside.ordered, aside.distinct, fun x => ?_⟩
    have fair := ih.fair x
    have charges : charged most s' x = charged most s x := by rw [charged, aside.used, charged]
    exact
      { pinned := fun task out => aside.maxRetries.trans (fair.pinned task ((aside.out x task).1 out))
        one := fun a b ha hb => fair.one a b ((aside.out x a).1 ha) ((aside.out x b).1 hb)
        waiting := fun open_ idle => charges ▸ fair.waiting open_ fun task out => idle task ((aside.out x task).2 out)
        running := fun task out => charges ▸ fair.running task ((aside.out x task).1 out)
        issued := fair.issued
        after := fair.after }

/-- **The budget of a TTS stage.** In a stage that loses workers of voice tasks only before any result is accepted, each
scene has one outstanding task at most, is enqueued `most` times at most, and never after its result was accepted. -/
theorem tts_budget {s₀ : Ctx} (o : s₀.Ordered) (d : Distinct s₀.job.scenes) (idle : ∀ x task, ¬ Out s₀ x task)
    (run : Run most (fun t => ∀ x, t.accepted x = false) s₀ t s) (x : SceneId) :
    t.after x = 0 ∧ (∀ task task', Out s x task → Out s x task' → task = task') ∧ t.issued x ≤ most := by
  have fair := (run.sound o d idle).fair x
  exact ⟨fair.after, fair.one, fair.issued⟩

end

/-! ## One worker lost -/

instance (scenes : List Scene) : Decidable (Distinct scenes) := inferInstanceAs (Decidable (List.Nodup _))

def speaking (now : Time) : Env :=
  { Env.plain now with loadCharacter := fun _ => .ok ⟨⟨none, none, none, none, none⟩, true⟩ }

def drawn (node : NodeName) (task : TaskId) : TaskResult :=
  { TaskResult.bare 0 node task with artifacts := [{ suffix := some .png }] }

/-- A result with one audio file and its contract. -/
def spoken (node : NodeName) (task : TaskId) : TaskResult :=
  { TaskResult.bare 0 node task with
    artifacts :=
      [{ suffix := some .wav
         contract := .object
          { audioFormat := true, sha256 := some emptyBlob, provider := some 1, voice := some 1 } }] }

/-- Of the two scenes of a Job the first is drawn, and node 7 draws the second. -/
def scenesClaimed : System :=
  System.after {}
    [.create (speaking 1) ⟨.image, 5, 3⟩,
      .ask (speaking 1) 0 (.edit { script := some ⟨[true, true]⟩ }),
      .background (fun _ => speaking 1) (fun _ => speaking 1) 0,
      .heartbeat (speaking 1) (.free 7),
      .claim (speaking 2) ⟨7, true, true⟩,
      .result (speaking 3) (drawn 7 1),
      .claim (speaking 4) ⟨7, true, true⟩]

def scenesDrawn : System := scenesClaimed.after [.result (.plain 5) (drawn 7 2)]

def stageStart : Ctx := (transition .ttsGenerating (jobCtx scenesDrawn 0)).2

/-- Nodes 7 and 8 speak the scenes. -/
def voicesClaimed : System :=
  scenesClaimed.after
    [.result (speaking 5) (drawn 7 2),
      .heartbeat (speaking 5) (.free 8),
      .claim (speaking 6) ⟨7, true, true⟩,
      .claim (speaking 6) ⟨8, true, true⟩]

def firstSpoken : Ctx := (voiceResult (speaking 7) (spoken 7 5) (jobCtx voicesClaimed 0)).2

lemma stageStart_ordered : stageStart.Ordered := by
  have moves : Moves (fun _ => True) (transition .ttsGenerating) := inferInstance
  exact (moves.leads _).ordered (jobCtx_ordered ((reachable_after _).after _) (by decide +kernel))

lemma stageStart_idle (x : SceneId) (task : TaskId) : ¬ Out stageStart x task := by
  intro out
  have empty : stageStart.job.ttsActiveTaskIds.entries = [] := by decide +kernel
  rw [Out, Dict.get?_of_entries empty] at out
  cases out

lemma exists_holds (s : Ctx) (task : TaskId) (x : SceneId) (out : Out s x task)
    (found : (sceneForTask s.job task).map Scene.sceneId = some x) :
    ∃ scene, Holds s task scene ∧ scene.sceneId = x := by
  obtain ⟨scene, is, rfl⟩ := Option.map_eq_some_iff.1 found
  exact ⟨scene, ⟨is, out⟩, rfl⟩

lemma claimed_aside : Aside (dispatchTts (speaking 5) stageStart).2 (jobCtx voicesClaimed 0) := by
  have attempts : (jobCtx voicesClaimed 0).job.ttsAttempts =
      (dispatchTts (speaking 5) stageStart).2.job.ttsAttempts := by decide +kernel
  have active : (jobCtx voicesClaimed 0).job.ttsActiveTaskIds =
      (dispatchTts (speaking 5) stageStart).2.job.ttsActiveTaskIds := by decide +kernel
  have ready : (jobCtx voicesClaimed 0).queue.ready = [] := by decide +kernel
  exact
    { jobId := by decide +kernel
      maxRetries := by decide +kernel
      used := fun x => by rw [ttsAttemptsUsed, attempts, ttsAttemptsUsed]
      out := fun x task => by rw [Out, active, Out]
      enqueued := fun x => by rw [enqueued, LocalQueue.newTasks, ready, List.countP_nil]
      ordered := jobCtx_ordered ((reachable_after _).after _) (by decide +kernel)
      distinct := by decide +kernel }

lemma spoken_run (may : Tally → Prop) : ∃ t : Tally, t.accepted 1 = true ∧ t.after 1 = 0 ∧
    Run 3 may stageStart t firstSpoken := by
  obtain ⟨scene, held, first⟩ := exists_holds (jobCtx voicesClaimed 0) 5 1 (by decide +kernel) (by decide +kernel)
  have start : Run 3 may stageStart _ (dispatchTts (speaking 5) stageStart).2 := .dispatched (speaking 5) rfl
  have run := (start.aside claimed_aside).result (speaking 7) (spoken 7 5) held
  have accepted : accepts (spoken 7 5) (jobCtx voicesClaimed 0)
      (voiceResult (speaking 7) (spoken 7 5) (jobCtx voicesClaimed 0)).2 = true := by decide +kernel
  refine ⟨_, ?_, ?_, run⟩
  · rw [Tally.note_accepted, if_pos accepted, first]
    rfl
  · rfl

/-- A stage without any loss. -/
theorem tts_budget_spoken : ∃ t : Tally, Run 3 (fun t => ∀ x, t.accepted x = false) stageStart t firstSpoken ∧
    t.accepted 1 = true ∧ t.after 1 = 0 ∧
      (∀ task task', Out firstSpoken 1 task → Out firstSpoken 1 task' → task = task') ∧ t.issued 1 ≤ 3 := by
  obtain ⟨t, accepted, -, run⟩ := spoken_run fun t => ∀ x, t.accepted x = false
  exact ⟨t, run, accepted, tts_budget stageStart_ordered (by decide +kernel) stageStart_idle run 1⟩

/-- **A loss has a finished scene spoken again**: the first scene is accepted, the worker of the second is lost, and
both are enqueued. -/
theorem tts_budget_lost_worker : ¬ ∀ (most : ℕ) (s₀ s : Ctx) (t : Tally), s₀.Ordered → Distinct s₀.job.scenes →
    (∀ x task, ¬ Out s₀ x task) → Run most (fun _ => True) s₀ t s → ∀ x, t.after x = 0 := by
  intro all
  obtain ⟨t, accepted, none_, run⟩ := spoken_run fun _ => True
  obtain ⟨scene, held, -⟩ := exists_holds firstSpoken 6 2 (by decide +kernel) (by decide +kernel)
  have lost := run.lost (speaking 8) 8 held (by decide +kernel) (by decide +kernel) rfl trivial
  have again : enqueued firstSpoken (recoverTask (speaking 8) 8 (some 6) firstSpoken).2 1 = 1 := by decide +kernel
  have after := all _ _ _ _ stageStart_ordered (by decide +kernel) stageStart_idle lost 1
  rw [Tally.note_after, accepted, none_, again] at after
  cases after

end Vertep.Core.Voices
