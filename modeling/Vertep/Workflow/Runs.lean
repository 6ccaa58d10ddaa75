import Vertep.Lib.Reach
import Vertep.Workflow.Moves

/-!
# Runs of the engine (`core/workflow/engine.py`)

The calls that reach the engine, its dispatcher and its transports, one operation each: those of the API
and of the Telegram buttons, the scheduler's ticks, the messages of workers, and a new process. The lock
of the engine makes each of them one step; a tick of all jobs takes the lock once for each job, and may
find a job in another status than it read before, which `execute` covers. A state is reachable when such
operations lead to it from an engine without jobs.

`Reachable.jobs` is the induction that the modules after this one use: what a new job has and every move
of a job keeps holds of every job and every document in every reachable state.
-/

namespace Vertep.Workflow
open Lib Queue Command
open Relation (ReflTransGen)

/-- A method of the engine. -/
inductive Op where
  | create (definition : WorkflowDefinition) (params : Dict String Json)
  | start (job : JobId) (allow : Bool)
  | tick (allow : Bool)
  | execute (job : JobId) (allow : Bool)
  | approve (job : JobId) (id : TaskId) (approved : Bool) (revision : Option ℕ)
  | revise (job : JobId) (id : TaskId) (inputs : Dict String Json) (revision : ℕ)
  | pause (job : JobId)
  | resume (job : JobId) (allow : Bool)
  | cancel (job : JobId)
  | progress (sent : DispatchId) (worker : NodeId) (lease : LeaseId) (percent : ℚ)
  | register (node : NodeId) (capabilities : List String) (resources : Resources)
    (modules : Dict String Manifest)
  | heartbeat (node : NodeId)
  | observe (workers : Dict NodeId WorkerRecord)
  | poll (node : NodeId)
  | result (node : NodeId) (lease : LeaseId) (outcome : Except String WorkerResult)
  | renew (task : DispatchId) (worker : NodeId) (lease : LeaseId)
  | restart (lost : ℕ)

variable (clock : ℕ → ℚ)

/-- The state an operation leaves, also where it raises. -/
def Op.run (s : Engine) : Op → Engine
  | .create definition params => (createJob definition params s).2
  | .start job allow => (startJob clock job allow s).2
  | .tick allow => (Workflow.tick clock allow s).2
  | .execute job allow => (executeTasks clock job allow s).2
  | .approve job id approved revision => (approveTask job id approved revision s).2
  | .revise job id inputs revision => (reviseTask job id inputs revision s).2
  | .pause job => (pauseJob job s).2
  | .resume job allow => (resumeJob clock job allow s).2
  | .cancel job => (cancelJob job s).2
  | .progress sent worker lease percent => (recordProgress clock sent worker lease percent s).2
  | .register node capabilities resources modules =>
    (registerWorker clock node capabilities resources modules s).2
  | .heartbeat node => (Workflow.heartbeat clock node s).2
  | .observe workers => (observeWorkers workers s).2
  | .poll node => (transportPoll node s).2
  | .result node lease outcome => (transportResult node lease outcome s).2
  | .renew task worker lease => (renewLease clock task worker lease s).2
  | .restart lost => s.restart lost

/-- An engine without jobs and documents, at any reading of the clock. -/
def Engine.Fresh (s : Engine) : Prop := ∃ reads, s = { reads := reads }

abbrev Reachable : Engine → Prop := Reach Engine.Fresh fun s s' => ∃ op : Op, s' = op.run clock s

/-- The jobs an operation resumes satisfy `R`. -/
def Op.Resumes (R : WorkflowJob → Prop) (s : Engine) : Op → Prop
  | .resume job _ => ∀ j, s.jobs.get? job = some j → j.status = .paused → s.interrupted job j = false → R j
  | _ => True

/-- The states that runs lead to in which every job that is resumed satisfies `R`. -/
abbrev ReachableWhen (R : WorkflowJob → Prop) : Engine → Prop :=
  Reach Engine.Fresh fun s s' => ∃ op : Op, op.Resumes R s ∧ s' = op.run clock s

def runs (s : Engine) (ops : List Op) : Engine := ops.foldl (fun s op => op.run clock s) s

variable {clock} {R : WorkflowJob → Prop}

lemma Reachable.runs {s : Engine} (h : Reachable clock s) (ops : List Op) :
    Reachable clock (runs clock s ops) := by
  induction ops generalizing s with
  | nil => exact h
  | cons op ops ih => exact ih (.step h ⟨op, rfl⟩)

lemma reachable_empty (ops : List Op) : Reachable clock (Workflow.runs clock {} ops) :=
  Reachable.runs (.init ⟨0, rfl⟩) ops

/-! ## What happens to one job -/

/-- What a move from `s` to `s'` does to the task `id` of the job `j`, kept under `job`. -/
inductive TaskMove (s s' : Engine) (job : JobId) (j : WorkflowJob) (id : TaskId) (t : WorkflowTask) :
    WorkflowTask → Prop where
  | complete {lease l now} (output : Json) : t.status = .running →
    s.attempts.get? (job, id) = some lease →
    s.futures.get? lease.leaseId = some (.result (.json output)) →
    l.leaseId = lease.leaseId → .accepted l now ∈ s'.log →
    TaskMove s s' job j id t
      { t with status := .completed, output := output, progressPercent := 100, error := none }
  | lapse {status} (error : Option String) (retryAt : ℚ) : t.status = .running →
    s.attempts.get? (job, id) = none → status = .pending ∨ status = .failed →
    TaskMove s s' job j id t { t with error := error, status := status, retryAt := retryAt }
  | annotate (error : Option String) (percent : ℚ) :
    TaskMove s s' job j id t { t with error := error, progressPercent := percent }
  | skip : j.status = .inProgress → t.status = .pending → j.ready t = true →
    TaskMove s s' job j id t { t with status := .skipped, progressPercent := 100, approval := .approved }
  | send {request lease log} (dispatched : Dispatched) : j.status = .inProgress → t.status = .pending →
    j.ready t = true → request.taskId = ⟨job, id, t.revision, t.attempts + 1⟩ →
    request.payload.dependencies = j.outputs t → s'.log = .submitted request lease :: log →
    s'.attempts.get? (job, id) = some lease →
    TaskMove s s' job j id t
      { t with status := .running, attempts := t.attempts + 1, dispatched := some dispatched }
  | stop : j.status = .failed ∨ j.status = .cancelled → t.status = .running →
    s.attempts.get? (job, id) = none → TaskMove s s' job j id t { t with status := .cancelled }
  | decide (approved : Bool) : t.status = .completed → .decided id approved j ∈ s'.log →
    TaskMove s s' job j id t { t with approval := if approved then .approved else .rejected }

/-- The statuses a job may get, as far as the job itself decides it. -/
def WorkflowJob.MayBecome (R : WorkflowJob → Prop) (j : WorkflowJob) : JobStatus → Prop
  | .new => False
  | .inProgress => j.status = .new ∨ j.status = .paused ∧ R j
  | .paused => j.status = .inProgress ∨ j.status = .failed ∨ j.status = .completed
  | .completed => j.status = .inProgress ∧ j.finished = true
  | .failed => j.status = .inProgress ∧ ∃ id task, j.tasks.get? id = some task ∧ task.status = .failed
  | .cancelled => True

section
variable {s s' : Engine} {job : JobId} {j j' : WorkflowJob} {id : TaskId} {t t' : WorkflowTask}

lemma TaskMove.dependencies (m : TaskMove s s' job j id t t') : t'.dependencies = t.dependencies := by
  cases m <;> rfl

lemma TaskMove.starts (m : TaskMove s s' job j id t t') (started : t'.status ≠ .pending) :
    t.status ≠ .pending ∨ j.ready t = true := by
  cases m with
  | skip _ _ ready => exact .inr ready
  | send _ _ _ ready => exact .inr ready
  | annotate => exact .inl started
  | complete _ is | lapse _ _ is | stop _ is | decide _ is =>
    exact .inl fun other => TaskStatus.noConfusion (is.symm.trans other)

lemma TaskMove.done (m : TaskMove s s' job j id t t') (done : t.status.Done) :
    t'.status = t.status ∧ t'.output = t.output ∧ t'.revision = t.revision := by
  have idle {status : TaskStatus} (is : t.status = status) (other : ¬ status.Done) : False :=
    other (is ▸ done)
  cases m with
  | annotate | decide => exact ⟨rfl, rfl, rfl⟩
  | skip _ is | send _ _ is | complete _ is | lapse _ _ is | stop _ is => exact (idle is (by decide)).elim

end

/-- What a move does to one job. -/
inductive JobMove (R : WorkflowJob → Prop) (s s' : Engine) (job : JobId) (j : WorkflowJob) : WorkflowJob → Prop where
  | task {t f} (id : TaskId) : j.tasks.get? id = some t → TaskMove s s' job j id t (f t) →
    JobMove R s s' job j (j.update id f)
  | progress : JobMove R s s' job j { j with progress := j.percent }
  | status {status} : j.MayBecome R status → JobMove R s s' job j { j with status := status }
  | revise {affected tasks} (id : TaskId) (inputs : Dict String Json) : j.status = .paused →
    j.Closed affected → tasks.keys = j.tasks.keys →
    (∀ key, tasks.get? key = (j.tasks.get? key).map fun t =>
      if key ∈ affected then t.reset (j.firstApproval key) else t) →
    JobMove R s s' job j { j.setInput id inputs with tasks := tasks }

/-- Where a job of the next state comes from. A new process has no attempts, and loads the newest
document of each job. -/
inductive Origin (R : WorkflowJob → Prop) (s s' : Engine) (job : JobId) (j' : WorkflowJob) : Prop where
  | kept : s.jobs.get? job = some j' → Origin R s s' job j'
  | moved {j} : s.jobs.get? job = some j → JobMove R s s' job j j' → Origin R s s' job j'
  | created {definition params} : validateWorkflow definition = [] → job = s.nextJob →
    s'.nextJob = s.nextJob + 1 → j' = definition.newJob job params → Origin R s s' job j'
  | loaded {doc newer older} : s'.journal <:+ s.journal → s'.journal = newer ++ doc :: older →
    (∀ other ∈ newer, other.id ≠ job) → doc.id = job → j' = doc.load → s'.attempts = ∅ → Origin R s s' job j'

lemma origin_updateJob {s s₁ s' : Engine} {job job' : JobId} {f : WorkflowJob → WorkflowJob}
    {j j' : WorkflowJob} (after : (s₁.updateJob job f).jobs.get? job' = some j') (jobs : s₁.jobs = s.jobs)
    (here : s.jobs.get? job = some j) (move : JobMove R s s' job j (f j)) : Origin R s s' job' j' := by
  rw [Engine.get?_updateJob, jobs] at after
  split at after
  · rename_i same
    subst same
    rw [here, Option.map_some] at after
    cases after
    exact .moved here move
  · exact .kept after

lemma loadJobs_get? {journal : List WorkflowJob} {job : JobId} {j : WorkflowJob}
    (found : (loadJobs journal).get? job = some j) : ∃ newer doc older, journal = newer ++ doc :: older ∧
      (∀ other ∈ newer, other.id ≠ job) ∧ doc.id = job ∧ j = doc.load := by
  induction journal with
  | nil => cases found
  | cons doc journal ih =>
    rw [loadJobs, List.foldr_cons, Dict.get?_set] at found
    split at found
    · rename_i same
      exact ⟨[], doc, journal, rfl, nofun, same, (Option.some.inj found).symm⟩
    · rename_i other
      obtain ⟨newer, doc', older, rfl, skipped, rest⟩ := ih found
      exact ⟨doc :: newer, doc', older, rfl, List.forall_mem_cons.2 ⟨other, skipped⟩, rest⟩

lemma Move.origin {s s' : Engine} (m : Move R s s') {job' : JobId} {j' : WorkflowJob}
    (after : s'.jobs.get? job' = some j') : Origin R s s' job' j' := by
  cases m with
  | aside h => exact .kept (h.jobs ▸ after)
  | drop job id => exact .kept after
  | timeOut job id attempt h => exact .kept (h.jobs ▸ after)
  | @complete _ _ _ l _ now job id found running dispatched attempt told held same alive =>
    obtain ⟨j, here, listed⟩ := Engine.task?_eq_some.1 found
    have noted {s₁ : Engine} (log : s₁.log = .accepted l now :: s.log) (f : WorkflowJob → WorkflowJob) :
        .accepted l now ∈ (s₁.updateJob job f).log := by
      rw [Engine.log_updateJob, log]
      exact List.mem_cons_self
    exact origin_updateJob after rfl here (.task id listed (.complete _ running attempt told same (noted rfl _)))
  | lapse job id error retryAt found running gone outcome is =>
    obtain ⟨j, here, listed⟩ := Engine.task?_eq_some.1 found
    exact origin_updateJob after rfl here (.task id listed (is ▸ .lapse error retryAt running gone outcome))
  | annotate job id is =>
    cases found : s.task? job id with
    | none =>
      refine .kept ?_
      rw [← after, Engine.updateTask, Engine.get?_updateJob]
      split
      · rename_i same
        subst same
        cases here : s.jobs.get? job with
        | none => rfl
        | some j =>
          rw [Engine.task?, here, Option.bind_some] at found
          simp [WorkflowJob.update, found]
      · rfl
    | some t =>
      obtain ⟨j, here, listed⟩ := Engine.task?_eq_some.1 found
      obtain ⟨error, percent, is⟩ := is t
      exact origin_updateJob after rfl here (.task id listed (is ▸ .annotate error percent))
  | skip job id here status listed pending ready =>
    exact origin_updateJob after rfl here (.task id listed (.skip status pending ready))
  | @send s₁ _ _ _ lease f job id deadline here status listed pending ready named outputs sent is =>
    obtain ⟨new, log, _⟩ := sent.log
    have added : (Dict.set (s₁.updateTask job id f).attempts (job, id) lease).get? (job, id) = some lease := by
      rw [Dict.get?_set, if_pos rfl]
    exact origin_updateJob after sent.jobs here (.task id listed
      (is ▸ .send _ status pending ready named outputs ((Engine.log_updateJob _ _ _).trans log) added))
  | stop job id here status listed running gone =>
    exact origin_updateJob after rfl here (.task id listed (.stop status running gone))
  | progress job =>
    cases here : s.jobs.get? job with
    | none =>
      refine .kept ?_
      rw [← after, Engine.updateJob, here]
    | some j => exact origin_updateJob after rfl here .progress
  | @status j status job here change =>
    refine origin_updateJob after rfl here (.status ?_)
    cases status with
    | inProgress => exact change.imp_right fun resumed => ⟨resumed.1, resumed.2.2⟩
    | new | paused | completed | failed | cancelled => exact change
  | save job here => exact .kept after
  | decide job id approved here listed completed =>
    refine origin_updateJob after rfl here (.task id listed (.decide approved completed ?_))
    rw [Engine.updateTask, Engine.log_updateJob]
    exact List.mem_cons_self
  | revise job id inputs here paused closed revises =>
    by_cases same : job' = job
    · subst same
      obtain ⟨tasks, is, keys, values⟩ := revises.revised
      cases is.symm.trans after
      exact .moved here (.revise id inputs paused closed keys values)
    · exact .kept ((revises.others job' same).symm.trans after)
  | create valid =>
    rw [show Dict.get? _ job' = _ from Dict.get?_set _ _ _ _] at after
    split at after
    · rename_i same
      subst same
      exact .created valid rfl rfl (Option.some.inj after).symm
    · exact .kept after
  | restart lost =>
    obtain ⟨newer, doc, older, journal, skipped, same, is⟩ := loadJobs_get? after
    exact .loaded (List.drop_suffix lost _) journal skipped same is rfl

lemma Move.journal {s s' : Engine} (m : Move R s s') : s.nextJob ≤ s'.nextJob ∧ (s'.journal <:+ s.journal ∨
    ∃ job j, s.jobs.get? job = some j ∧ s'.journal = j :: s.journal) := by
  have quiet {s₁ : Engine} {job : JobId} {f : WorkflowJob → WorkflowJob} (journal : s₁.journal = s.journal)
      (next : s₁.nextJob = s.nextJob) : s.nextJob ≤ (s₁.updateJob job f).nextJob ∧
        ((s₁.updateJob job f).journal <:+ s.journal ∨ ∃ job' j, s.jobs.get? job' = some j ∧
          (s₁.updateJob job f).journal = j :: s.journal) := by
    obtain ⟨jobs, eq, _⟩ := s₁.updateJob_eq job f
    rw [eq]
    exact ⟨next.ge, .inl (journal ▸ List.suffix_refl _)⟩
  cases m with
  | aside h => exact ⟨h.nextJob.ge, .inl (h.journal ▸ List.suffix_refl _)⟩
  | drop job id => exact ⟨le_refl _, .inl (List.suffix_refl _)⟩
  | timeOut job id attempt h => exact ⟨h.nextJob.ge, .inl (h.journal ▸ List.suffix_refl _)⟩
  | complete | lapse | annotate | skip | stop | progress | status | decide => exact quiet rfl rfl
  | send job id deadline here status listed pending ready named outputs sent is =>
    exact quiet sent.journal sent.nextJob
  | @save j job here => exact ⟨le_refl _, .inr ⟨job, j, here, rfl⟩⟩
  | revise job id inputs here paused closed revises =>
    exact ⟨revises.rest.nextJob.ge, .inl (revises.rest.journal ▸ List.suffix_refl _)⟩
  | create valid => exact ⟨Nat.le_succ _, .inl (List.suffix_refl _)⟩
  | restart lost => exact ⟨le_refl _, .inl (List.drop_suffix lost _)⟩

lemma Move.saved {s s' : Engine} (m : Move R s s') {doc : WorkflowJob} (after : doc ∈ s'.journal) :
    doc ∈ s.journal ∨ ∃ job, s.jobs.get? job = some doc := by
  obtain ⟨_, fewer | ⟨job, j, here, is⟩⟩ := m.journal
  · exact .inl (fewer.subset after)
  · rcases List.mem_cons.1 (is ▸ after) with rfl | after
    · exact .inr ⟨job, here⟩
    · exact .inl after

lemma Move.log {s s' : Engine} (m : Move R s s') {e : Event} (before : e ∈ s.log) : e ∈ s'.log := by
  have quiet {s₁ : Engine} {job : JobId} {f : WorkflowJob → WorkflowJob} (log : e ∈ s₁.log) :
      e ∈ (s₁.updateJob job f).log := by
    rwa [Engine.log_updateJob]
  cases m with
  | aside h => exact h.log_mono before
  | drop job id => exact before
  | timeOut job id attempt h => exact List.mem_cons_of_mem _ (h.log_mono before)
  | complete | decide => exact quiet (List.mem_cons_of_mem _ before)
  | lapse | annotate | skip | stop | progress | status => exact quiet before
  | send job id deadline here status listed pending ready named outputs sent is =>
    obtain ⟨new, log, _⟩ := sent.log
    refine quiet ?_
    rw [log]
    exact List.mem_cons_of_mem _ (List.mem_append_right _ before)
  | save job here => exact before
  | revise job id inputs here paused closed revises => exact revises.rest.log_mono before
  | create valid => exact before
  | restart lost => exact before

/-- What a new job has, a document gives back and every move of a job keeps, every job and document has.
The property may look at the log. -/
structure JobInvariant (R : WorkflowJob → Prop) (P : List Event → WorkflowJob → Prop) : Prop where
  created : ∀ log definition id params, validateWorkflow definition = [] → P log (definition.newJob id params)
  loaded : ∀ log j, P log j → P log j.load
  moved : ∀ s s' job j j', P s'.log j → JobMove R s s' job j j' → P s'.log j'
  grows : ∀ log log' j, log ⊆ log' → P log j → P log' j

/-- A property of all jobs and of all documents. -/
structure Engine.All (P : WorkflowJob → Prop) (s : Engine) : Prop where
  jobs : ∀ job j, s.jobs.get? job = some j → P j
  journal : ∀ j ∈ s.journal, P j

lemma Engine.Fresh.all {P : WorkflowJob → Prop} {s : Engine} (h : s.Fresh) : s.All P := by
  obtain ⟨reads, rfl⟩ := h
  exact ⟨fun job j found => by simp at found, fun j member => by simp at member⟩

variable {P : List Event → WorkflowJob → Prop}

lemma JobInvariant.move (h : JobInvariant R P) {s s' : Engine}
    (m : Move R s s') (all : s.All (P s.log)) : s'.All (P s'.log) := by
  have grows (j : WorkflowJob) (before : P s.log j) : P s'.log j := h.grows _ _ j (fun _ => m.log) before
  constructor
  · intro job j' after
    cases m.origin after with
    | kept before => exact grows j' (all.jobs job j' before)
    | moved before move => exact h.moved _ _ _ _ j' (grows _ (all.jobs job _ before)) move
    | created valid _ _ is => exact is ▸ h.created _ _ _ _ valid
    | @loaded doc newer older suffix journal _ _ is =>
      have member : doc ∈ s'.journal := journal ▸ List.mem_append_right _ List.mem_cons_self
      exact is ▸ h.loaded _ _ (grows _ (all.journal _ (suffix.subset member)))
  · intro doc after
    rcases m.saved after with before | ⟨job, here⟩
    · exact grows doc (all.journal doc before)
    · exact grows doc (all.jobs job doc here)

/-! ## Every operation is made of moves -/

lemma WorkflowDefinition.newJob_task {definition : WorkflowDefinition} {job : JobId}
    {params : Dict String Json} {id : TaskId} {t : WorkflowTask}
    (found : (definition.newJob job params).tasks.get? id = some t) : ∃ d ∈ definition.tasks, d.id = id ∧
      t = { dependencies := d.dependencies, approval := d.firstApproval } := by
  have filled (defs : List TaskDefinition) (tasks : Dict TaskId WorkflowTask)
      (found : (defs.foldl (fun tasks d => tasks.set d.id
        { dependencies := d.dependencies, approval := d.firstApproval }) tasks).get? id = some t) :
      (∃ d ∈ defs, d.id = id ∧ t = { dependencies := d.dependencies, approval := d.firstApproval }) ∨
        tasks.get? id = some t := by
    induction defs generalizing tasks with
    | nil => exact .inr found
    | cons d defs ih =>
      rcases ih _ found with ⟨d', member, is⟩ | found
      · exact .inl ⟨d', List.mem_cons_of_mem _ member, is⟩
      · rw [Dict.get?_set] at found
        split at found
        · exact .inl ⟨d, List.mem_cons_self, ‹_›, (Option.some.inj found).symm⟩
        · exact .inr found
  exact (filled definition.tasks ∅ found).resolve_right (by simp)

lemma JobMove.task_cases {s s' : Engine} {job : JobId} {j j' : WorkflowJob} (m : JobMove R s s' job j j')
    {id : TaskId} {t' : WorkflowTask} (after : j'.tasks.get? id = some t') : ∃ t, j.tasks.get? id = some t ∧
      (t' = t ∨ TaskMove s s' job j id t t' ∨ ∃ approval, t' = t.reset approval) := by
  cases m with
  | task id' found move =>
    rw [WorkflowJob.get?_update] at after
    split at after
    · rename_i same
      subst same
      rw [found, Option.map_some] at after
      exact ⟨_, found, .inr (.inl (Option.some.inj after ▸ move))⟩
    · exact ⟨t', after, .inl rfl⟩
  | progress | status => exact ⟨t', after, .inl rfl⟩
  | revise id' inputs paused closed keys values =>
    rw [show Dict.get? _ id = _ from values id] at after
    obtain ⟨t, found, is⟩ := Option.map_eq_some_iff.1 after
    split at is
    · exact ⟨t, found, .inr (.inr ⟨_, is.symm⟩)⟩
    · exact ⟨t, found, .inl is.symm⟩

lemma WorkflowJob.get?_load (j : WorkflowJob) (id : TaskId) :
    ∃ f : WorkflowTask → WorkflowTask, j.load.tasks.get? id = (j.tasks.get? id).map f ∧
      ∀ t, ∃ error, f t = { t with error := error } := by
  refine ⟨_, Dict.get?_map _ _ _, fun t => ?_⟩
  split
  · exact ⟨_, rfl⟩
  · exact ⟨t.error, rfl⟩

lemma WorkflowJob.load_task {j : WorkflowJob} {id : TaskId} {t : WorkflowTask}
    (found : j.load.tasks.get? id = some t) :
    ∃ t₀ error, j.tasks.get? id = some t₀ ∧ t = { t₀ with error := error } := by
  obtain ⟨f, loaded, is⟩ := j.get?_load id
  obtain ⟨t₀, before, rfl⟩ := Option.map_eq_some_iff.1 (loaded.symm.trans found)
  obtain ⟨error, is⟩ := is t₀
  exact ⟨t₀, error, before, is⟩

lemma JobMove.definitionOf {s s' : Engine} {job : JobId} {j j' : WorkflowJob} (m : JobMove R s s' job j j')
    {id : TaskId} {d : TaskDefinition} (before : j.definitionOf id = some d) :
    ∃ input, j'.definitionOf id = some { d with input := input } := by
  cases m with
  | task id' found move =>
    rw [WorkflowJob.definitionOf, WorkflowJob.definition_update]
    exact ⟨d.input, before⟩
  | progress | status => exact ⟨d.input, before⟩
  | revise id' inputs paused closed keys values =>
    have mapped := j.definitionOf_setInput id' inputs id
    rw [before, Option.map_some] at mapped
    split at mapped
    · exact ⟨inputs, mapped⟩
    · exact ⟨d.input, mapped⟩

lemma sound_jobInvariant : JobInvariant R fun _ => WorkflowJob.Sound where
  grows := fun _ _ _ _ => id
  created := by
    intro _ definition job params _
    constructor
    · intro id t found
      obtain ⟨d, member, rfl, _⟩ := WorkflowDefinition.newJob_task found
      rw [← Option.isSome_iff_exists]
      exact List.find?_isSome.2 ⟨d, List.mem_reverse.2 member, by simp⟩
    · intro id t found running
      obtain ⟨d, _, _, rfl⟩ := WorkflowDefinition.newJob_task found
      cases running
  loaded := by
    intro _ j h
    constructor
    · intro id t found
      obtain ⟨t₀, _, before, _⟩ := WorkflowJob.load_task found
      exact h.defined id t₀ before
    · intro id t found running
      obtain ⟨t₀, _, before, rfl⟩ := WorkflowJob.load_task found
      exact h.sent id t₀ before running
  moved := by
    intro _ _ _ j j' h m
    constructor
    · intro id t found
      obtain ⟨t₀, found, _⟩ := m.task_cases found
      obtain ⟨d, defined⟩ := h.defined id t₀ found
      obtain ⟨input, defined⟩ := m.definitionOf defined
      exact ⟨_, defined⟩
    · intro id t found running
      obtain ⟨t₀, before, rfl | move | ⟨approval, rfl⟩⟩ := m.task_cases found
      · exact h.sent id t before running
      · cases move with
        | complete => cases running
        | lapse _ _ _ _ outcome => rcases outcome with rfl | rfl <;> cases running
        | annotate => exact h.sent id t₀ before running
        | skip => cases running
        | send => exact Option.some_ne_none _
        | stop => cases running
        | decide => exact h.sent id t₀ before running
      · cases running

variable (clock) in
lemma Op.path {s : Engine} (sound : s.All WorkflowJob.Sound) (op : Op) (resumed : op.Resumes R s) :
    Path R s (op.run clock s) := by
  cases op with
  | create definition params => exact (createJob_path definition params).leads s
  | start job allow => exact (startJob_path job allow).leads s
  | tick allow => exact (tick_path allow).leads s
  | execute job allow => exact (executeTasks_path job allow).leads s
  | approve job id approved revision => exact (approveTask_path job id approved revision).leads s
  | revise job id inputs revision => exact reviseTask_path (sound.jobs job) id inputs revision
  | pause job => exact (pauseJob_path job).leads s
  | resume job allow => exact resumeJob_path job allow resumed
  | cancel job => exact (cancelJob_path job).leads s
  | progress sent worker lease percent => exact (recordProgress_path sent worker lease percent).leads s
  | register node capabilities resources modules =>
    exact ((aside_registerWorker node capabilities resources modules).leads s).path
  | heartbeat node => exact ((aside_heartbeat node).leads s).path
  | observe workers => exact ((aside_observeWorkers workers).leads s).path
  | poll node => exact ((aside_transportPoll node).leads s).path
  | result node lease outcome => exact ((aside_transportResult node lease outcome).leads s).path
  | renew task worker lease => exact ((aside_renewLease task worker lease).leads s).path
  | restart lost => exact Move.path (.restart lost)

variable {I : Engine → Prop}

lemma Path.invariant (keep : ∀ s s', s.All WorkflowJob.Sound → I s → Move R s s' → I s')
    {s s' : Engine} (p : Path R s s') (sound : s.All WorkflowJob.Sound) (held : I s) :
    s'.All WorkflowJob.Sound ∧ I s' := by
  induction p with
  | refl => exact ⟨sound, held⟩
  | tail _ m ih => exact ⟨sound_jobInvariant.move m ih.1, keep _ _ ih.1 ih.2 m⟩

lemma ReachableWhen.invariant (start : ∀ s, s.Fresh → I s)
    (keep : ∀ s s', s.All WorkflowJob.Sound → I s → Move R s s' → I s') {s : Engine}
    (h : ReachableWhen clock R s) : s.All WorkflowJob.Sound ∧ I s := by
  refine Reach.invariant (I := fun s => s.All WorkflowJob.Sound ∧ I s)
    (fun s fresh => ⟨fresh.all, start s fresh⟩) ?_ h
  rintro s _ ⟨sound, held⟩ ⟨op, resumed, rfl⟩
  exact (op.path clock sound resumed).invariant keep sound held

lemma Reachable.when {s : Engine} (h : Reachable clock s) : ReachableWhen clock ⊤ s := by
  induction h with
  | init fresh => exact .init fresh
  | step _ next ih =>
    obtain ⟨op, is⟩ := next
    refine .step ih ⟨op, ?_, is⟩
    cases op with
    | resume => exact fun _ _ _ _ => trivial
    | _ => trivial

lemma Reachable.invariant (start : ∀ s, s.Fresh → I s)
    (keep : ∀ s s', s.All WorkflowJob.Sound → I s → Move ⊤ s s' → I s') {s : Engine}
    (h : Reachable clock s) : I s := (h.when.invariant start keep).2

lemma Reachable.jobs (h : JobInvariant ⊤ P) {s : Engine}
    (r : Reachable clock s) : s.All (P s.log) :=
  r.invariant (I := fun s => s.All (P s.log)) (fun _ fresh => fresh.all) fun _ _ _ all m => h.move m all

lemma JobMove.id {s s' : Engine} {job : JobId} {j j' : WorkflowJob} (m : JobMove R s s' job j j') :
    j'.id = j.id := by
  cases m with
  | task id found move => exact j.id_update id _
  | progress => rfl
  | status => rfl
  | revise => rfl

lemma Reachable.job_id {s : Engine} (r : Reachable clock s) {job : JobId} {j : WorkflowJob}
    (here : s.jobs.get? job = some j) : j.id = job := by
  refine r.invariant (I := fun s => ∀ job j, s.jobs.get? job = some j → j.id = job) ?_ ?_ job j here
  · rintro s ⟨reads, rfl⟩ job j here
    simp at here
  · intro s s' _ ids m job j' after
    cases m.origin after with
    | kept before => exact ids job j' before
    | moved before move => exact move.id.trans (ids job _ before)
    | created valid same _ is => exact is ▸ rfl
    | loaded _ _ _ same is => exact is ▸ same

end Vertep.Workflow
