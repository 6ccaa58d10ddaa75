import Vertep.Core.LateResults

/-!
# Retrying a dead letter (`core/api/tasks.py`)

`retry_dead_letter_task` takes the entry out of the list before it looks up the Job and the scene, and what it
then does to the Job is written for scene tasks only. So a retry is all or nothing exactly for the entries of
scene tasks whose Job still has the scene: the others are lost, or come back as a task no claim hands out.
-/

namespace Vertep.Core
open Lib Queue
open Command

/-! ## All or nothing -/

def System.deadLetterOf (c : System) (taskId : TaskId) : Option (DeadLetter TaskBody) :=
  c.queue.deadLetters.find? fun d => d.task.taskId = some taskId

/-- A claim hands the task out to every node that is selected for it, and a voice task as a voice task. -/
def System.Runnable (c : System) (item : Item TaskBody) : Prop :=
  ∃ job, c.jobs.get? item.payload.jobId = some job ∧
    (item.payload.task = some .voice → isTts job item.payload) ∧
    ∀ (env : Env) (worker : Worker), env.selects worker item.payload.jobId item.payload →
      verdict env worker c.jobs job item = .take

/-- A retry puts the entry into the ready queue as a new attempt that can run, or it raises and leaves the dead
letters, the ready queue and the Jobs as they were. -/
def AllOrNothing (env : Env) (taskId : TaskId) (c : System) : Prop :=
  match (retryDeadLetterTask env taskId c).1 with
  | .ok () => ∃ d, c.deadLetterOf taskId = some d ∧
      (∃ row ∈ (retryDeadLetterTask env taskId c).2.queue.ready, row.item = Queue.stamp env.now c.nextId true d.task) ∧
      (retryDeadLetterTask env taskId c).2.Runnable (Queue.stamp env.now c.nextId true d.task)
  | .error _ => (retryDeadLetterTask env taskId c).2.queue.deadLetters = c.queue.deadLetters ∧
      (retryDeadLetterTask env taskId c).2.queue.ready = c.queue.ready ∧
      (retryDeadLetterTask env taskId c).2.jobs = c.jobs

/-- A scene task of a Job that has begun and still has the scene. -/
structure System.Revivable (c : System) (body : TaskBody) : Prop where
  scene : body.claimKind = .scene
  voiceless : body.task ≠ some .voice
  job : ∃ job, c.jobs.get? body.jobId = some job ∧ job.stages.isSome ∧
    ∃ scene ∈ job.scenes, body.sceneId = some scene.sceneId

/-! ## Of one Job -/

namespace Act

variable (s : Ctx) (item : Item TaskBody)

lemma reviveTask_raises (gone : ∀ scene ∈ s.job.scenes, item.payload.sceneId ≠ some scene.sceneId) :
    reviveTask item s = (.error (.http 409 "Job or scene no longer exists"),
      { s with queue := s.queue.discard item.taskId }) := by
  have absent : (item.payload.sceneId.bind fun id => s.job.scenes.find? (·.sceneId = id)) = none := by
    rw [Option.bind_eq_none_iff]
    intro id named
    rw [List.find?_eq_none]
    intro scene within same
    apply gone scene within
    rw [named, of_decide_eq_true same]
  simp only [reviveTask, theJob_bind, absent]
  rfl

variable {scene : Scene} (within : scene ∈ s.job.scenes) (named : item.payload.sceneId = some scene.sceneId)

include within named

lemma revive_found : ∃ first, first.sceneId = scene.sceneId ∧
    (item.payload.sceneId.bind fun id => s.job.scenes.find? (·.sceneId = id)) = some first := by
  have there : (s.job.scenes.find? (·.sceneId = scene.sceneId)).isSome := by
    rw [List.find?_isSome]
    exact ⟨scene, within, decide_eq_true rfl⟩
  obtain ⟨first, found⟩ := Option.isSome_iff_exists.1 there
  refine ⟨first, ?_, ?_⟩
  · have same := List.find?_some found
    exact of_decide_eq_true same
  · rw [named, Option.bind_some, found]

lemma reviveTask_stageless (stages : s.job.stages = none) :
    ∃ job, reviveTask item s = (.error .key, { s with job := job }) := by
  obtain ⟨first, -, found⟩ := revive_found s item within named
  simp only [reviveTask, theJob_bind, found]
  rw [stages]
  exact ⟨_, rfl⟩

omit named in
lemma redrawn_found {id : SceneId} (same : scene.sceneId = id) {f : Scene → Scene}
    (keeps : ∀ other, (f other).sceneId = other.sceneId) :
    ((s.job.scenes.map fun other => if other.sceneId = id then f other else other).find?
      (·.sceneId = id)).isSome := by
  rw [List.find?_isSome]
  refine ⟨f scene, List.mem_map.2 ⟨scene, within, if_pos same⟩, ?_⟩
  rw [decide_eq_true_eq, keeps, same]

lemma reviveTask_runs (stages : s.job.stages.isSome) :
    ∃ job, reviveTask item s = (.ok (), { s with job := job }) ∧ job.status = .assetGeneration ∧
      (sceneForTask job item.taskId).isSome := by
  obtain ⟨first, is, found⟩ := revive_found s item within named
  have begun : s.job.stages.isNone = false := by
    rwa [← Option.not_isSome, Bool.not_eq_false']
  let put : Job :=
    { s.job with
      scenes := s.job.scenes.map fun other =>
        if other.sceneId = first.sceneId then { other with status := .failed, taskId := some item.taskId } else other
      activeTaskIds := s.job.activeTaskIds.set item.taskId first.sceneId
      activeTaskId := some item.taskId }
  have there := redrawn_found s within is.symm
    (f := fun other => { other with status := .failed, taskId := some item.taskId }) fun _ => rfl
  have active {job : Job} (tasks : job.activeTaskIds = put.activeTaskIds) (scenes : job.scenes = put.scenes) :
      (sceneForTask job item.taskId).isSome := by
    rw [sceneForTask, tasks, scenes, Dict.get?_set, if_pos rfl, Option.some_or, Option.bind_some]
    exact there
  have run : reviveTask item s = (do
      when (s.job.stages.isNone) (raise .key)
      when (s.job.stage .assets = .failed) (transitionStage .assets .running)
      update .assetGeneration : Act Unit) { s with job := put } := by
    simp only [reviveTask, theJob_bind, found, modifyScene, modifyJob_bind]
    rfl
  rw [run, when_raise_bind, begun, if_neg Bool.false_ne_true]
  by_cases failed : s.job.stage .assets = .failed
  · -- a stage that failed may run again
    have may : put.mayTransition .assets .running := by
      rw [Job.mayTransition, put.stage_initializePlan (by decide)]
      rw [show put.stage .assets = .failed from failed]
      rfl
    have planned : put.initializePlan.scenes = put.scenes := by
      have some_ : put.scenes ≠ [] := List.ne_nil_of_mem (List.mem_map_of_mem within)
      rw [Job.initializePlan]
      cases put.script with
      | none => rfl
      | some script => exact if_neg some_
    have goes : (when (s.job.stage .assets = .failed) (transitionStage .assets .running)) { s with job := put } =
        (.ok (), { s with job := put.initializePlan.setStage .assets .running }) := by
      rw [when, if_pos failed, transitionStage_apply, if_pos may]
    rw [bind_of_ok goes]
    exact ⟨_, rfl, rfl, active rfl planned⟩
  · rw [when, if_neg failed]
    exact ⟨_, rfl, rfl, active rfl rfl⟩

end Act

/-! ## Of the store -/

variable {d : DeadLetter TaskBody} {job : Job}

section
variable {env : Env} {taskId : TaskId} {c : System}

lemma retryDeadLetterTask_refused (env : Env) (h : c.queue.hasTask taskId ∨ c.deadLetterOf taskId = none) :
    ∃ e, retryDeadLetterTask env taskId c = (.error e, c) := by
  rw [retryDeadLetterTask, read_bind]
  split
  · exact ⟨_, rfl⟩
  · rename_i absent
    have none_ := h.resolve_left absent
    rw [LocalQueue.requeueDeadLetter, show c.queue.deadLetters.find? _ = none from none_]
    exact ⟨_, rfl⟩

/-- The entry is in the ready queue before the Job is looked up. -/
def System.requeued (c : System) (env : Env) (taskId : TaskId) (task : Queue.Task TaskBody) : System :=
  { c with
    queue := ({ c.queue with
      deadLetters := c.queue.deadLetters.eraseP fun d => d.task.taskId = some taskId } : LocalQueue TaskBody).push
        (Queue.stamp env.now c.nextId true task)
    nextId := c.nextId + 1 }

lemma requeueDeadLetter_entry (env : Env) (found : c.deadLetterOf taskId = some d) :
    c.queue.requeueDeadLetter taskId env.now c.nextId =
      (some (Queue.stamp env.now c.nextId true d.task), (c.requeued env taskId d.task).queue) := by
  rw [LocalQueue.requeueDeadLetter, show c.queue.deadLetters.find? _ = some d from found]
  rfl

lemma retryDeadLetterTask_jobless (env : Env) (absent : ¬ c.queue.hasTask taskId)
    (found : c.deadLetterOf taskId = some d) (gone : c.jobs.get? d.task.payload.jobId = none) :
    retryDeadLetterTask env taskId c = (.error (.http 409 "Job or scene no longer exists"),
      { c.requeued env taskId d.task with queue := (c.requeued env taskId d.task).queue.discard c.nextId }) := by
  rw [retryDeadLetterTask, read_bind, if_neg absent, requeueDeadLetter_entry env found]
  simp only [Queue.stamp, gone]
  rfl

lemma retryDeadLetterTask_job (env : Env) (absent : ¬ c.queue.hasTask taskId)
    (found : c.deadLetterOf taskId = some d) (known : c.jobs.get? d.task.payload.jobId = some job) :
    retryDeadLetterTask env taskId c = (c.requeued env taskId d.task).on d.task.payload.jobId job
      (Act.reviveTask (Queue.stamp env.now c.nextId true d.task)) := by
  rw [retryDeadLetterTask, read_bind, if_neg absent, requeueDeadLetter_entry env found]
  simp only [Queue.stamp, known]
  rfl

lemma requeued_loses (found : c.deadLetterOf taskId = some d) :
    (c.requeued env taskId d.task).queue.deadLetters ≠ c.queue.deadLetters := by
  intro same
  have is : d.task.taskId = some taskId := of_decide_eq_true
    (List.find?_some (p := fun d : DeadLetter TaskBody => decide (d.task.taskId = some taskId)) found)
  have less : (c.queue.deadLetters.eraseP fun d => d.task.taskId = some taskId).length + 1 =
      c.queue.deadLetters.length :=
    List.length_eraseP_add_one (List.mem_of_find?_eq_some found) (decide_eq_true is)
  have same := congrArg List.length same
  change (c.queue.deadLetters.eraseP fun d => d.task.taskId = some taskId).length = _ at same
  omega

/-! ## The claim of a task that came back -/

lemma verdict_other (env : Env) (worker : Worker) (jobs : Dict JobId Job) {item : Item TaskBody}
    (status : job.status = .assetGeneration) (other : item.payload.claimKind ≠ .scene) :
    verdict env worker jobs job item = .drop := by
  rw [verdict, status]
  cases kind : item.payload.claimKind with
  | scene => exact absurd kind other
  | _ => simp

lemma verdict_scene {worker : Worker} {jobs : Dict JobId Job} {item : Item TaskBody}
    (status : job.status = .assetGeneration) (kind : item.payload.claimKind = .scene)
    (scene : (sceneForTask job item.taskId).isSome) (selected : env.selects worker item.payload.jobId item.payload) :
    verdict env worker jobs job item = .take := by
  simp [verdict, kind, status, scene, selected]

lemma runnable_iff {item : Item TaskBody} (found : c.jobs.get? item.payload.jobId = some job)
    (status : job.status = .assetGeneration) (scene : (sceneForTask job item.taskId).isSome) :
    c.Runnable item ↔ item.payload.claimKind = .scene ∧ item.payload.task ≠ some .voice := by
  constructor
  · intro ⟨job', found', voice, taken⟩
    obtain rfl := Option.some.inj (found.symm.trans found')
    constructor
    · by_contra other
      have dropped := verdict_other (.plain 0) {} c.jobs status other
      have given := taken (Env.plain 0) {} rfl
      rw [dropped] at given
      cases given
    · intro is
      have voices := voice is
      rw [isTts, status] at voices
      simp at voices
  · intro ⟨kind, voiceless⟩
    refine ⟨job, found, fun is => absurd is voiceless, fun env worker selected => ?_⟩
    exact verdict_scene status kind scene selected

lemma System.on_run {id : JobId} {job' : Job} {m : Act Unit} {x : Except Err Unit} {queue : LocalQueue TaskBody}
    (run : m (c.ctx id job) = (x, { c.ctx id job with job := job', queue := queue })) :
    c.on id job m = (x, { c with jobs := c.jobs.set id job', queue := queue }) := by
  simp only [System.ctx] at run
  simp only [System.on, run, List.map_nil, List.append_nil]

lemma AllOrNothing.not_raised {c' : System} {e : Err} (found : c.deadLetterOf taskId = some d)
    (run : retryDeadLetterTask env taskId c = (.error e, c'))
    (left : c'.queue.deadLetters = (c.requeued env taskId d.task).queue.deadLetters) :
    ¬ AllOrNothing env taskId c := by
  rw [AllOrNothing, run]
  exact fun same => requeued_loses found (left.symm.trans same.1)

lemma allOrNothing_scene {scene : Scene} (absent : ¬ c.queue.hasTask taskId)
    (found : c.deadLetterOf taskId = some d) (known : c.jobs.get? d.task.payload.jobId = some job)
    (within : scene ∈ job.scenes) (named : d.task.payload.sceneId = some scene.sceneId) :
    AllOrNothing env taskId c ↔
      job.stages.isSome ∧ d.task.payload.claimKind = .scene ∧ d.task.payload.task ≠ some .voice := by
  have run := retryDeadLetterTask_job env absent found known
  let s : Ctx := (c.requeued env taskId d.task).ctx d.task.payload.jobId job
  let item : Item TaskBody := Queue.stamp env.now c.nextId true d.task
  cases begun : job.stages with
  | none =>
    obtain ⟨job', revived⟩ := Act.reviveTask_stageless s item within named begun
    have run := run.trans (System.on_run revived)
    exact iff_of_false (AllOrNothing.not_raised found run rfl) fun h => Bool.false_ne_true h.1
  | some stages =>
    obtain ⟨job', revived, status, active⟩ := Act.reviveTask_runs s item within named
      (Option.isSome_of_eq_some begun)
    have run := run.trans (System.on_run revived)
    have stored : ((c.requeued env taskId d.task).jobs.set d.task.payload.jobId job').get? item.payload.jobId =
        some job' := by
      rw [Dict.get?_set]
      exact if_pos rfl
    have ready : ∃ row ∈ (c.requeued env taskId d.task).queue.ready, row.item = item :=
      ⟨_, (heappush_perm _ _).mem_iff.2 List.mem_cons_self, rfl⟩
    have runs := runnable_iff (c := { c.requeued env taskId d.task with
      jobs := (c.requeued env taskId d.task).jobs.set d.task.payload.jobId job' }) stored status active
    rw [AllOrNothing, run]
    constructor
    · intro ⟨d', same, _, can⟩
      obtain rfl := Option.some.inj (found.symm.trans same)
      exact ⟨rfl, runs.1 can⟩
    · intro ⟨_, kind⟩
      exact ⟨d, found, ready, runs.2 kind⟩

variable (env taskId c)

/-- **A dead-letter retry is all or nothing** if and only if the queue still has the task, there is no such entry, or
the entry is a scene task whose Job has begun and still has the scene. -/
theorem retryDeadLetterTask_all_or_nothing : AllOrNothing env taskId c ↔
    c.queue.hasTask taskId ∨ ∀ d, c.deadLetterOf taskId = some d → c.Revivable d.task.payload := by
  by_cases absent : c.queue.hasTask taskId
  · obtain ⟨e, run⟩ := retryDeadLetterTask_refused env (.inl absent)
    rw [AllOrNothing, run]
    exact iff_of_true ⟨rfl, rfl, rfl⟩ (.inl absent)
  cases found : c.deadLetterOf taskId with
  | none =>
    obtain ⟨e, run⟩ := retryDeadLetterTask_refused env (.inr found)
    rw [AllOrNothing, run]
    refine iff_of_true ⟨rfl, rfl, rfl⟩ (.inr fun d is => ?_)
    cases is
  | some d =>
    have only : (c.queue.hasTask taskId ∨ ∀ d', some d = some d' → c.Revivable d'.task.payload) ↔
        c.Revivable d.task.payload := by
      simp [absent]
    rw [only]
    cases known : c.jobs.get? d.task.payload.jobId with
    | none =>
      have run := retryDeadLetterTask_jobless env absent found known
      refine iff_of_false (AllOrNothing.not_raised found run rfl) fun can => ?_
      obtain ⟨job, is, -⟩ := can.job
      rw [known] at is
      cases is
    | some job =>
      by_cases there : ∃ scene ∈ job.scenes, d.task.payload.sceneId = some scene.sceneId
      · obtain ⟨scene, within, named⟩ := there
        rw [allOrNothing_scene absent found known within named]
        constructor
        · intro ⟨begun, kind, voiceless⟩
          exact ⟨kind, voiceless, job, known, begun, scene, within, named⟩
        · intro can
          obtain ⟨job', is, begun, -⟩ := can.job
          obtain rfl := Option.some.inj (known.symm.trans is)
          exact ⟨begun, can.scene, can.voiceless⟩
      · -- the scene is gone, or the entry never named one
        have run := retryDeadLetterTask_job env absent found known
        have gone : ∀ scene ∈ job.scenes, d.task.payload.sceneId ≠ some scene.sceneId :=
          fun scene within named => there ⟨scene, within, named⟩
        have raised := Act.reviveTask_raises ((c.requeued env taskId d.task).ctx d.task.payload.jobId job)
          (Queue.stamp env.now c.nextId true d.task) gone
        have run := run.trans (System.on_run raised)
        refine iff_of_false (AllOrNothing.not_raised found run rfl) fun can => ?_
        obtain ⟨job', is, -, scene⟩ := can.job
        obtain rfl := Option.some.inj (known.symm.trans is)
        exact there scene

end

/-- The script of a Job was refused by node 7 once, which leaves a dead letter of the task. -/
def scriptLost : System :=
  (taskResult (.plain 3) { TaskResult.bare 0 7 1 with success := false } scriptClaimed).2

/-- **The dead letter of a script is lost** by a retry that answers 409. -/
theorem retryDeadLetterTask_loses_script : Reachable scriptLost ∧ (scriptLost.deadLetterOf 1).isSome ∧
    (retryDeadLetterTask (.plain 4) 1 scriptLost).1 = .error (.http 409 "Job or scene no longer exists") ∧
    (retryDeadLetterTask (.plain 4) 1 scriptLost).2.queue.deadLetters = [] ∧
    ¬ AllOrNothing (.plain 4) 1 scriptLost := by
  have some_ : (scriptLost.deadLetterOf 1).isSome := by decide +kernel
  have raised : (retryDeadLetterTask (.plain 4) 1 scriptLost).1 =
      .error (.http 409 "Job or scene no longer exists") := by decide +kernel
  have lost : (retryDeadLetterTask (.plain 4) 1 scriptLost).2.queue.deadLetters = [] := by decide +kernel
  refine ⟨?_, some_, raised, lost, fun same => ?_⟩
  · let lost : TaskResult := { TaskResult.bare 0 7 1 with success := false }
    exact (reachable_after _).step ⟨.result (.plain 3) lost, trivial, rfl⟩
  · rw [AllOrNothing, raised] at same
    have kept := same.1
    rw [lost] at kept
    rw [System.deadLetterOf, ← kept] at some_
    cases some_

end Vertep.Core
