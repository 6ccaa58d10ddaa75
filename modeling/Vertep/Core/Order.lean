import Vertep.Core.Moves
import Vertep.Core.Runs

/-!
# Names are issued in order

Jobs and tasks take their names from one source. In every state CORE reaches, what is named is below
the next name, no two live tasks share one, and a task is recorded by one field of one Job.
-/

namespace Vertep.Core
open Lib Queue
open Command Act

lemma moves_jobRequest {A : TaskId → Prop} [∀ id, Spends A id] (env : Env) (q : JobRequest) : Moves A (q.act env) := by
  cases q <;> simp only [JobRequest.act] <;> infer_instance

lemma Handler.moves (h : Handler) (dispatched : h.dispatched = true) :
    Moves (fun _ => True) h.act := by
  cases h with
  | promote env id submitted =>
    have promoted : Fewer fun job =>
        if job.status = .waitingForSystem then { job with status := .new } else job := by
      refine ⟨fun job id b h => ?_⟩
      split at h <;> exact h
    simp only [Handler.act]
    infer_instance
  | ask env q => exact moves_jobRequest env q
  | revive item => cases dispatched
  | _ =>
    simp only [Handler.act]
    infer_instance

lemma revive_moved {c : System} {env : Env} {task : TaskId} {item : Item TaskBody}
    {queue : LocalQueue TaskBody} {job : Job}
    (run : c.queue.requeueDeadLetter task env.now c.nextId = (some item, queue)) :
    Moved (fun _ => True) (c.ctx item.payload.jobId job)
      (reviveTask item ({ c with queue := queue, nextId := c.nextId + 1 }.ctx item.payload.jobId job)).2 := by
  rcases LocalQueue.requeueDeadLetter_cases c.queue task env.now c.nextId with
    ⟨eq, _⟩ | ⟨d, rest, _, _, _, eq, _⟩
  · cases eq.symm.trans run
  obtain ⟨same, rfl⟩ := Prod.mk.inj (eq.symm.trans run)
  obtain rfl := Option.some.inj same
  -- the dead letters are not among the tasks of the queue
  have left : Moved (fun _ => True) (c.ctx d.task.payload.jobId job)
      ({ c with queue := { c.queue with deadLetters := rest } }.ctx d.task.payload.jobId job) :=
    .of_queue rfl rfl le_rfl (fun h => h.subset (fun _ member => member) h.filed)
      (fun _ _ member _ => member) (fun _ _ member => member) fun _ => id
  refine IsTrans.trans _ _ _ left ?_
  -- the task is in the queue again, and the field of the scenes records it, or it is taken out
  have issued {f : TaskId → Act Unit} := @moved_issue (fun _ => True)
    ({ c with queue := { c.queue with deadLetters := rest } }.ctx d.task.payload.jobId job) d.task true env Unit
    f (.inl rfl) rfl .scene
  simp only [reviveTask, theJob_bind]
  cases found : d.task.payload.sceneId.bind fun id => job.scenes.find? (·.sceneId = id) with
  | none =>
    have put := issued (f := fun _ => pure ()) fun s₁ => ⟨rfl, rfl, rfl, fun _ _ h => .inl h⟩
    refine IsTrans.trans _ _ _ put ?_
    have taken : Moves (fun _ => True) (do
        Act.discard (Queue.stamp env.now c.nextId true d.task).taskId
        raise (.http 409 "Job or scene no longer exists") : Act Unit) := inferInstance
    simp only [System.ctx, Queue.stamp, found]
    exact taken.leads _
  | some scene =>
    let f (id : TaskId) : Act Unit := do
      modifyScene scene.sceneId ({ · with status := .failed, taskId := some id })
      modifyJob fun job =>
        { job with activeTaskIds := job.activeTaskIds.set id scene.sceneId, activeTaskId := some id }
    have put := issued (f := f) fun s₁ => ⟨rfl, rfl, rfl, fun id b h => by
      cases b with
      | scene => exact (Dict.mem_keys_set.1 h).symm.imp_right fun same => ⟨same, rfl⟩
      | _ => exact .inl h⟩
    refine IsTrans.trans _ _ _ put ?_
    have closed : Moves (fun _ => True) (do
        when (job.stages.isNone) (raise .key)
        when (job.stage .assets = .failed) (transitionStage .assets .running)
        update .assetGeneration) := inferInstance
    simp only [System.ctx, Queue.stamp, found]
    exact closed.leads _

/-! ## The order -/

/-- Names are issued in order: what is named is below the next name, and a task is recorded once. -/
structure System.Ordered (c : System) : Prop where
  coherent : c.queue.Coherent c.nextId
  jobs : ∀ id job, c.jobs.get? id = some job → id < c.nextId
  below : ∀ id job, c.jobs.get? id = some job → ∀ task b, job.records task b → task < c.nextId
  apart : ∀ id job, c.jobs.get? id = some job → ∀ id' job', c.jobs.get? id' = some job' →
    ∀ task b b', job.records task b → job'.records task b' → id = id' ∧ b = b'

variable {c c' : System}

lemma System.Ordered.ctx (o : c.Ordered) {id : JobId} {job : Job} (found : c.jobs.get? id = some job) :
    (c.ctx id job).Ordered := ⟨o.coherent, o.below id job found⟩

lemma System.Ordered.moved (o : c.Ordered) {id : JobId} {job : Job} {s : Ctx}
    (found : c.jobs.get? id = some job) (m : Moved (fun _ => True) (c.ctx id job) s)
    (jobs : c'.jobs = c.jobs.set id s.job) (queue : c'.queue = s.queue) (nextId : c'.nextId = s.nextId) :
    c'.Ordered := by
  have ordered := m.ordered (o.ctx found)
  have later : c.nextId ≤ s.nextId := m.later
  have entry (k : JobId) (job' : Job) (h : c'.jobs.get? k = some job') :
      k = id ∧ job' = s.job ∨ k ≠ id ∧ c.jobs.get? k = some job' := by
    rw [jobs, Dict.get?_set] at h
    split at h
    · rename_i same
      exact .inl ⟨same.symm, (Option.some.inj h).symm⟩
    · rename_i other
      exact .inr ⟨fun same => other same.symm, h⟩
  -- a task that another Job records was there before, so the handler did not issue it
  have old {k job' task b b'} (h : c.jobs.get? k = some job') (r : job'.records task b')
      (r' : s.job.records task b) : job.records task b :=
    (m.recorded task b r').resolve_right fun fresh =>
      absurd (o.below k job' h task b' r) (not_lt.2 fresh.1)
  refine ⟨by rw [queue, nextId]; exact ordered.coherent, fun k job' h => ?_, ?_, ?_⟩
  · rw [nextId]
    rcases entry k job' h with ⟨rfl, _⟩ | ⟨_, h⟩
    · exact (o.jobs k job found).trans_le later
    · exact (o.jobs k job' h).trans_le later
  · intro k job' h task b r
    rw [nextId]
    rcases entry k job' h with ⟨_, rfl⟩ | ⟨_, h⟩
    · exact ordered.below task b r
    · exact (o.below k job' h task b r).trans_le later
  · intro k job₁ h k' job₂ h' task b b' r r'
    rcases entry k job₁ h with ⟨rfl, rfl⟩ | ⟨ne, h⟩ <;> rcases entry k' job₂ h' with ⟨rfl, rfl⟩ | ⟨ne', h'⟩
    · refine ⟨rfl, ?_⟩
      by_cases fresh : c.nextId ≤ task
      · exact (m.stays (o.ctx found)).apart task b b' fresh r r'
      · have was {b} (r : s.job.records task b) : job.records task b :=
          (m.recorded task b r).resolve_right fun new => fresh new.1
        exact (o.apart _ _ found _ _ found task b b' (was r) (was r')).2
    · exact o.apart _ _ found _ _ h' task b b' (old h' r' r) r'
    · exact o.apart _ _ h _ _ found task b b' r (old h r r')
    · exact o.apart _ _ h _ _ h' task b b' r r'

lemma System.Ordered.subset (o : c.Ordered) (later : c.nextId ≤ c'.nextId)
    (coherent : c'.queue.Coherent c'.nextId)
    (jobs : ∀ id job', c'.jobs.get? id = some job' →
      ∃ job, c.jobs.get? id = some job ∧ ∀ task b, job'.records task b → job.records task b) :
    c'.Ordered := by
  refine ⟨coherent, fun id job' h => ?_, fun id job' h task b r => ?_, ?_⟩
  · obtain ⟨job, found, _⟩ := jobs id job' h
    exact (o.jobs id job found).trans_le later
  · obtain ⟨job, found, fewer⟩ := jobs id job' h
    exact (o.below id job found task b (fewer task b r)).trans_le later
  · intro id job₁ h id' job₂ h' task b b' r r'
    obtain ⟨job, found, fewer⟩ := jobs id job₁ h
    obtain ⟨job', found', fewer'⟩ := jobs id' job₂ h'
    exact o.apart _ _ found _ _ found' task b b' (fewer task b r) (fewer' task b' r')

lemma reload_records {video : Bool} {job : Job} {id : TaskId} {b : Branch}
    (h : (job.reload video).records id b) : job.records id b := by
  have recovered : Fewer Job.recoverAfterRestart := by
    unfold Job.recoverAfterRestart
    infer_instance
  simp only [Job.reload] at h
  repeat' split at h
  all_goals first | exact h | exact recovered.fewer _ id b h

lemma Small.ordered {H : JobId → Job → Handler → Prop} {K : Dict JobId Job → TaskId → Prop}
    (step : Small H K c c') (o : c.Ordered) : c'.Ordered := by
  have same {jobs : Dict JobId Job} (eq : jobs = c.jobs) (id : JobId) (job' : Job)
      (h : jobs.get? id = some job') :
      ∃ job, c.jobs.get? id = some job ∧ ∀ task b, job'.records task b → job.records task b :=
    ⟨job', eq ▸ h, fun _ _ r => r⟩
  cases step with
  | @handle id job h found _ own => exact o.moved found ((h.moves own).leads _) rfl rfl rfl
  | move m => exact o.subset m.later (m.coherent o.coherent) (same m.jobs)
  | drop _ w =>
    refine o.subset w.later ?_ (same w.jobs)
    exact (o.coherent.subset w.fewer (w.filed o.coherent.filed)).mono w.later
  | create job submitted fresh =>
    -- a new Job records nothing, and its name is new
    have nothing (task : TaskId) (b : Branch) : ¬ job.records task b := by
      obtain ⟨request, status, _, rfl⟩ := fresh
      cases b <;> exact nofun
    have entry (k : JobId) (job' : Job) (h : (c.jobs.set c.nextId job).get? k = some job') :
        k = c.nextId ∧ job' = job ∨ c.jobs.get? k = some job' := by
      rw [Dict.get?_set] at h
      split at h
      · rename_i same
        exact .inl ⟨same.symm, (Option.some.inj h).symm⟩
      · exact .inr h
    refine ⟨o.coherent.mono (Nat.le_succ _), fun k job' h => ?_, fun k job' h task b r => ?_, ?_⟩
    · rcases entry k job' h with ⟨rfl, _⟩ | h
      · exact Nat.lt_succ_self _
      · exact (o.jobs k job' h).trans (Nat.lt_succ_self _)
    · rcases entry k job' h with ⟨_, rfl⟩ | h
      · exact absurd r (nothing task b)
      · exact (o.below k job' h task b r).trans (Nat.lt_succ_self _)
    · intro k job₁ h k' job₂ h' task b b' r r'
      rcases entry k job₁ h with ⟨_, rfl⟩ | h
      · exact absurd r (nothing task b)
      · rcases entry k' job₂ h' with ⟨_, rfl⟩ | h'
        · exact absurd r' (nothing task b')
        · exact o.apart _ _ h _ _ h' task b b' r r'
  | @revive env task item queue job run found _ =>
    exact o.moved found (revive_moved run) rfl rfl rfl
  | reload env durable =>
    refine o.subset le_rfl ?_ fun id job' h => ?_
    · cases durable with
      | true => exact o.coherent
      | false => exact LocalQueue.coherent_empty.mono (Nat.zero_le _)
    · simp only [get?_reloadJobs, Option.map_eq_some_iff] at h
      obtain ⟨job, found, rfl⟩ := h
      exact ⟨job, found, fun _ _ => reload_records⟩

lemma Reachable.ordered (r : Reachable c) : c.Ordered := by
  refine r.invariant ⟨LocalQueue.coherent_empty, ?_, ?_, ?_⟩ fun c c' o step => step.ordered o
  · intro id job h
    cases h
  · intro id job h
    cases h
  · intro id job h
    cases h

/-- One Job along a path: what its handlers and a restart keep of it stays. -/
theorem Path.job {H : JobId → Job → Handler → Prop} {K : Dict JobId Job → TaskId → Prop} {I : Job → Prop}
    {id : JobId} (handle : ∀ (s : Ctx) h, s.jobId = id → (∀ task b, s.job.records task b → task < s.nextId) →
      I s.job → H id s.job h → I (h.act s).2.job)
    (reload : ∀ job video, I job → I (job.reload video)) (path : Path H K c c') (o : c.Ordered)
    (now : ∃ job, c.jobs.get? id = some job ∧ I job) : ∃ job, c'.jobs.get? id = some job ∧ I job := by
  suffices c'.Ordered ∧ ∃ job, c'.jobs.get? id = some job ∧ I job from this.2
  -- the Job a handler works on is this one or another
  have entry {jobs : Dict JobId Job} {k : JobId} {job' : Job} (kept : k = id → I job')
      (now : ∃ job, jobs.get? id = some job ∧ I job) :
      ∃ job, (jobs.set k job').get? id = some job ∧ I job := by
    rw [Dict.get?_set]
    split
    · rename_i same
      exact ⟨job', rfl, kept same⟩
    · exact now
  induction path with
  | refl => exact ⟨o, now⟩
  | tail _ step ih =>
    obtain ⟨o, job, found, holds⟩ := ih
    refine ⟨step.ordered o, ?_⟩
    cases step with
    | @handle k job' h found' allowed _ =>
      refine entry (fun same => ?_) ⟨job, found, holds⟩
      subst same
      obtain rfl := Option.some.inj (found.symm.trans found')
      exact handle (System.ctx _ k job) h rfl (o.below k job found) holds allowed
    | move m => exact ⟨job, m.jobs ▸ found, holds⟩
    | drop _ w => exact ⟨job, w.jobs ▸ found, holds⟩
    | create job' submitted new =>
      refine entry (fun same => ?_) ⟨job, found, holds⟩
      exact absurd (o.jobs id job found) (same ▸ lt_irrefl _)
    | @revive env task item queue job' _ found' allowed =>
      refine entry (fun same => ?_) ⟨job, found, holds⟩
      subst same
      obtain rfl := Option.some.inj (found.symm.trans found')
      refine handle (System.ctx _ item.payload.jobId job) (.revive item) rfl (fun task b r => ?_) holds allowed
      exact (o.below _ job found task b r).trans (Nat.lt_succ_self _)
    | reload env durable =>
      refine ⟨job.reload (env.outputExists id), ?_, reload job _ holds⟩
      simp only [get?_reloadJobs, found, Option.map_some]

lemma Handler.writes (h : Handler) (s : Ctx) : Touched .any s (h.act s).2 := by
  cases h with
  | ask env q => cases q <;> simp only [Handler.act, JobRequest.act] <;> exact touched _ _ s
  | _ =>
    simp only [Handler.act]
    exact touched _ _ s

lemma Reachable.distinct {c : System} (r : Reachable c) :
    ∀ id job, c.jobs.get? id = some job → Distinct job.scenes := by
  refine ReachableBy.jobs (H := fun _ _ _ => True) (fun c op _ _ => ?_) ?_ ?_ ?_ r
  · cases op <;> simp [Op.Allowed]
  · exact fun _ _ _ _ => List.nodup_nil
  · intro id job video distinct
    have recovered : Distinct job.recoverAfterRestart.scenes := by
      rw [Distinct, Job.recoverAfterRestart, List.map_map]
      exact distinct
    simp only [Job.reload]
    repeat' split
    all_goals first | exact distinct | exact recovered
  · exact fun s h distinct _ => (h.writes s).distinct distinct

/-! ## Over a run -/

abbrev AnyPath : System → System → Prop := Path (fun _ _ _ => True) fun _ _ => True

lemma after_path (c : System) (ops : List Op) : AnyPath c (c.after ops) := by
  induction ops generalizing c with
  | nil => exact .refl
  | cons op ops ih =>
    have allowed : op.Allowed (fun _ _ _ => True) (fun _ _ => True) c := by
      cases op <;> simp [Op.Allowed]
    exact (Op.path allowed).trans (ih _)

/-- What a Job records of the names that were issued before, it recorded then. -/
structure Issues (c c' : System) : Prop where
  later : c.nextId ≤ c'.nextId
  was : ∀ id job', c'.jobs.get? id = some job' → ∀ task b, job'.records task b → task < c.nextId →
    ∃ job, c.jobs.get? id = some job ∧ job.records task b

lemma Small.issues {c c' : System} (step : Small (fun _ _ _ => True) (fun _ _ => True) c c') : Issues c c' := by
  -- the Job a handler worked on, and all others
  have on {k : JobId} {job : Job} {s : Ctx} (found : c.jobs.get? k = some job) (later : c.nextId ≤ s.nextId)
      (recorded : ∀ task b, s.job.records task b → job.records task b ∨ c.nextId ≤ task) (c' : System)
      (jobs : c'.jobs = c.jobs.set k s.job) (nextId : c'.nextId = s.nextId) : Issues c c' := by
    refine ⟨nextId ▸ later, fun id job' found' task b r old => ?_⟩
    rw [jobs, Dict.get?_set] at found'
    split at found'
    · rename_i same
      cases found'
      exact same ▸ ⟨job, found, (recorded task b r).resolve_right (not_le.2 old)⟩
    · exact ⟨job', found', r⟩
  cases step with
  | @handle id job h found _ own =>
    have m := (h.moves own).leads (c.ctx id job)
    exact on found m.later (fun task b r => (m.recorded task b r).imp_right And.left) _ rfl rfl
  | move m => exact ⟨m.later, fun id job' found _ _ r _ => ⟨job', m.jobs ▸ found, r⟩⟩
  | drop _ w => exact ⟨w.later, fun id job' found _ _ r _ => ⟨job', w.jobs ▸ found, r⟩⟩
  | create job submitted new =>
    refine ⟨Nat.le_succ _, fun id job' found task b r _ => ?_⟩
    rw [show Dict.get? _ id = _ from Dict.get?_set _ _ _ _] at found
    split at found
    · obtain ⟨request, status, _, rfl⟩ := new
      cases found
      cases b <;> cases r
    · exact ⟨job', found, r⟩
  | @revive env task item queue job run found _ =>
    have m : Moved _ (c.ctx item.payload.jobId job) _ := revive_moved run
    exact on found m.later (fun task b r => (m.recorded task b r).imp_right And.left) _ rfl rfl
  | reload env durable =>
    refine ⟨le_rfl, fun id job' found task b r _ => ?_⟩
    simp only [get?_reloadJobs, Option.map_eq_some_iff] at found
    obtain ⟨job, found, rfl⟩ := found
    exact ⟨job, found, reload_records r⟩

lemma Path.issues {c c' : System} (path : AnyPath c c') : Issues c c' := by
  induction path with
  | refl => exact ⟨le_rfl, fun id job found _ _ r _ => ⟨job, found, r⟩⟩
  | tail _ step ih =>
    have next := step.issues
    refine ⟨ih.later.trans next.later, fun id job' found task b r old => ?_⟩
    obtain ⟨job, there, was⟩ := next.was id job' found task b r (old.trans_le ih.later)
    exact ih.was id job there task b was old

/-- A task that a Job has recorded in one of its fields is never recorded by another Job or in another field,
whatever CORE does afterwards. -/
theorem tasks_keep_their_job {c : System} (reached : Reachable c) {id id' : JobId} {job job' : Job}
    (there : c.jobs.get? id = some job) {task : TaskId} {b b' : Branch} (recorded : job.records task b) (ops : List Op)
    (there' : (c.after ops).jobs.get? id' = some job') (recorded' : job'.records task b') : id' = id ∧ b' = b := by
  have o : c.Ordered := reached.ordered
  obtain ⟨before, found, was⟩ := (after_path c ops).issues.was id' job' there' task b' recorded'
    (o.below id job there task b recorded)
  exact o.apart id' before found id job there task b' b was recorded

/-- A Job whose two scenes are in the queue as tasks 1 and 2. -/
def twoScenes : System :=
  System.after {}
    [.create (.plain 1) ⟨.image, 5, 3⟩, .ask (.plain 1) 0 (.edit { script := some ⟨[false, false]⟩ }),
      .background (fun _ => .plain 1) (fun _ => .plain 1) 0]

theorem tasks_keep_their_job_restarted : ∃ job', (twoScenes.after [.restart (.plain 2) true]).jobs.get? 0 = some job' ∧
    ∀ b, job'.records 1 b → b = .scene := by
  obtain ⟨job, there⟩ : ∃ job, twoScenes.jobs.get? 0 = some job := Option.isSome_iff_exists.1 (by decide +kernel)
  obtain ⟨job', there'⟩ : ∃ job', (twoScenes.after [.restart (.plain 2) true]).jobs.get? 0 = some job' :=
    Option.isSome_iff_exists.1 (by decide +kernel)
  have recorded : (twoScenes.jobs.get? 0).map (·.activeTaskIds.keys) = some [1, 2] := by decide +kernel
  rw [there, Option.map_some] at recorded
  have first : job.records 1 .scene := by
    rw [Job.records, Option.some.inj recorded]
    decide
  exact ⟨job', there', fun b recorded' => (tasks_keep_their_job (reachable_after _) there first _ there' recorded').2⟩

end Vertep.Core
