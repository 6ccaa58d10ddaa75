import Vertep.Workflow.Leases

/-!
# What the engine does, move by move (`core/workflow/engine.py`)

`Move` lists all that the engine ever does to a job, an attempt or a document in one go, with what the
code checked before: what later modules need to know of `_execute_tasks` and of the calls is here. The
first half of the module states the moves, the second half goes through the code once and shows that
every call is made of them. `revise_task` resets its tasks one after the other, which is one move: in
between, a reset task stands before tasks that are not reset yet.
-/

namespace Vertep.Workflow
open Lib Queue Command
open Relation (ReflTransGen)

variable {clock : ℕ → ℚ} {R : WorkflowJob → Prop}

/-- The statuses the calls and `_execute_tasks` give to a job, and when. `R` is what is known of the jobs
that are resumed. -/
def StatusChange (R : WorkflowJob → Prop) (s : Engine) (job : JobId) (j : WorkflowJob) : JobStatus → Prop
  | .new => False
  | .inProgress => j.status = .new ∨ j.status = .paused ∧ s.interrupted job j = false ∧ R j
  | .paused => j.status = .inProgress ∨ j.status = .failed ∨ j.status = .completed
  | .completed => j.status = .inProgress ∧ j.finished = true
  | .failed => j.status = .inProgress ∧ ∃ id task, j.tasks.get? id = some task ∧ task.status = .failed
  | .cancelled => True

def WorkflowJob.Closed (j : WorkflowJob) (affected : List TaskId) : Prop :=
  ∀ id task, j.tasks.get? id = some task → ∀ dep ∈ task.dependencies, dep ∈ affected → id ∈ affected

/-- `definitions[key].get("approval_required")`, as the reset of a task uses it. -/
def WorkflowJob.firstApproval (j : WorkflowJob) (id : TaskId) : Approval :=
  match j.definitionOf id with
  | none => .approved
  | some definition => definition.firstApproval

/-- The affected tasks of a job are reset, and their attempts revoked. -/
structure Revises (job : JobId) (affected : List TaskId) (definition : WorkflowDefinition)
    (j : WorkflowJob) (s s' : Engine) : Prop where
  rest : Aside s { s' with jobs := s.jobs, attempts := s.attempts }
  others : ∀ job', job' ≠ job → s'.jobs.get? job' = s.jobs.get? job'
  revised : ∃ tasks, s'.jobs.get? job = some { j with definition := definition, tasks := tasks } ∧
    tasks.keys = j.tasks.keys ∧ ∀ id, tasks.get? id = (j.tasks.get? id).map fun t =>
      if id ∈ affected then t.reset (j.firstApproval id) else t
  attempts : ∀ key, s'.attempts.get? key = s.attempts.get? key ∨ s'.attempts.get? key = none ∧
    key.1 = job ∧ key.2 ∈ affected
  stopped : ∀ id task, id ∈ affected → j.tasks.get? id = some task → task.status = .running →
    s'.attempts.get? (job, id) = none

inductive Move (R : WorkflowJob → Prop) : Engine → Engine → Prop where
  | aside {s s'} : Aside s s' → Move R s s'
  | drop {s} (job : JobId) (id : TaskId) : Move R s { s with attempts := s.attempts.pop (job, id) }
  | timeOut {s s₁ lease} (job : JobId) (id : TaskId) : s.attempts.get? (job, id) = some lease →
    Aside { s with attempts := s.attempts.pop (job, id) } s₁ →
    Move R s { s₁ with log := .timedOut lease.leaseId :: s₁.log }
  | complete {s task lease sent l output now} (job : JobId) (id : TaskId) :
    s.task? job id = some task → task.status = .running → task.dispatched = some sent →
    s.attempts.get? (job, id) = some lease →
    s.futures.get? lease.leaseId = some (.result (.json output)) →
    s.lease? sent.dispatchId = some l → l.leaseId = lease.leaseId → now < l.expiresAt →
    Move R s (Engine.updateTask
      { s with
        attempts := s.attempts.pop (job, id)
        dispatcher := { s.dispatcher with taskLeases := s.dispatcher.taskLeases.pop sent.dispatchId }
        log := .accepted l now :: s.log } job id fun t =>
      { t with status := .completed, output := output, progressPercent := 100, error := none })
  | lapse {s task status f} (job : JobId) (id : TaskId) (error : Option String) (retryAt : ℚ) :
    s.task? job id = some task → task.status = .running → s.attempts.get? (job, id) = none →
    status = .pending ∨ status = .failed →
    f task = { task with error := error, status := status, retryAt := retryAt } →
    Move R s (s.updateTask job id f)
  | annotate {s f} (job : JobId) (id : TaskId) :
    (∀ t, ∃ error percent, f t = { t with error := error, progressPercent := percent }) →
    Move R s (s.updateTask job id f)
  | skip {s j task} (job : JobId) (id : TaskId) :
    s.jobs.get? job = some j → j.status = .inProgress → j.tasks.get? id = some task →
    task.status = .pending → j.ready task = true →
    Move R s (s.updateTask job id fun t =>
      { t with status := .skipped, progressPercent := 100, approval := .approved })
  | send {s s₁ j task request lease f} (job : JobId) (id : TaskId) (deadline : ℚ) :
    s.jobs.get? job = some j → j.status = .inProgress → j.tasks.get? id = some task →
    task.status = .pending → j.ready task = true → request.taskId = ⟨job, id, task.revision, task.attempts + 1⟩ →
    request.payload.dependencies = j.outputs task → Submits request lease s s₁ →
    f task = { task with
      status := .running
      attempts := task.attempts + 1
      dispatched := some ⟨request.taskId, lease.leaseId, lease.workerId, deadline⟩ } →
    Move R s
      { s₁.updateTask job id f with attempts := (s₁.updateTask job id f).attempts.set (job, id) lease }
  | stop {s j task} (job : JobId) (id : TaskId) :
    s.jobs.get? job = some j → j.status = .failed ∨ j.status = .cancelled →
    j.tasks.get? id = some task → task.status = .running → s.attempts.get? (job, id) = none →
    Move R s (s.updateTask job id fun t => { t with status := .cancelled })
  | progress {s} (job : JobId) : Move R s (s.updateJob job fun j => { j with progress := j.percent })
  | status {s j status} (job : JobId) : s.jobs.get? job = some j → StatusChange R s job j status →
    Move R s (s.updateJob job fun j => { j with status := status })
  | save {s j} (job : JobId) : s.jobs.get? job = some j → Move R s { s with journal := j :: s.journal }
  | decide {s j task} (job : JobId) (id : TaskId) (approved : Bool) :
    s.jobs.get? job = some j → j.tasks.get? id = some task → task.status = .completed →
    Move R s (Engine.updateTask { s with log := .decided id approved j :: s.log } job id fun t =>
      { t with approval := if approved then .approved else .rejected })
  | revise {s s' j affected} (job : JobId) (id : TaskId) (inputs : Dict String Json) :
    s.jobs.get? job = some j → j.status = .paused → j.Closed affected →
    Revises job affected (j.setInput id inputs).definition j s s' → Move R s s'
  | create {s definition params} : validateWorkflow definition = [] →
    Move R s
      { s with nextJob := s.nextJob + 1, jobs := s.jobs.set s.nextJob (definition.newJob s.nextJob params) }
  | restart {s} (lost : ℕ) : Move R s (s.restart lost)

abbrev Path (R : WorkflowJob → Prop) : Engine → Engine → Prop := ReflTransGen (Move R)

instance : Std.Refl (Path R) := ⟨fun _ => .refl⟩

instance : IsTrans Engine (Path R) := ⟨fun _ _ _ => ReflTransGen.trans⟩

lemma Move.path {s s' : Engine} (m : Move R s s') : Path R s s' := .single m

lemma Aside.path {s s' : Engine} (h : Aside s s') : Path R s s' := .single (.aside h)

lemma path_of_aside {α : Type} {m : EngineM α} (h : Within Aside m) : Within (Path R) m :=
  ⟨fun s => (h.leads s).path⟩

/-! ## Reads that may raise -/

section
variable (job : JobId) (id : TaskId) (s : Engine)

lemma jobOf_cases : (∃ e, jobOf job s = (.error e, s)) ∧ s.jobs.get? job = none ∨
    ∃ j, s.jobs.get? job = some j ∧ jobOf job s = (.ok j, s) := by
  simp only [jobOf, read_bind]
  cases found : s.jobs.get? job with
  | none => exact .inl ⟨⟨_, rfl⟩, rfl⟩
  | some j => exact .inr ⟨j, rfl, rfl⟩

lemma taskOf_cases : (∃ e, taskOf job id s = (.error e, s)) ∧ s.task? job id = none ∨
    ∃ t, s.task? job id = some t ∧ taskOf job id s = (.ok t, s) := by
  simp only [taskOf, Engine.task?]
  rcases jobOf_cases job s with ⟨⟨e, run⟩, none⟩ | ⟨j, found, run⟩
  · rw [bind_of_error run]
    exact .inl ⟨⟨e, rfl⟩, by rw [none, Option.bind_none]⟩
  · rw [bind_of_ok run, found, Option.bind_some]
    cases j.tasks.get? id with
    | none => exact .inl ⟨⟨_, rfl⟩, rfl⟩
    | some t => exact .inr ⟨t, rfl, rfl⟩

lemma foundJob_cases : (∃ e, foundJob job s = (.error e, s)) ∧ s.jobs.get? job = none ∨
    ∃ j, s.jobs.get? job = some j ∧ foundJob job s = (.ok j, s) := by
  simp only [foundJob, read_bind]
  cases found : s.jobs.get? job with
  | none => exact .inl ⟨⟨_, rfl⟩, rfl⟩
  | some j => exact .inr ⟨j, rfl, rfl⟩

end

/-! ## Collecting an attempt -/

@[simp] lemma read_aside (s : Engine) (n : ℕ) : Aside s { s with reads := n } :=
  aside_quiet rfl rfl rfl rfl rfl rfl rfl rfl

lemma Aside.task? {s s' : Engine} (h : Aside s s') (job : JobId) (id : TaskId) :
    s'.task? job id = s.task? job id := by rw [Engine.task?, h.jobs, Engine.task?]

lemma revokeTask_returns (task : DispatchId) (s : Engine) : Returns (revokeTask task) s := by
  simp only [revokeTask, returns_read_bind]
  cases s.dispatcher.taskLeases.get? task with
  | none => exact returns_pure _ s
  | some lease => exact ⟨true, rfl⟩

lemma revokeTask_ends (task : DispatchId) (s : Engine) :
    ∃ popped s', revokeTask task s = (.ok popped, s') ∧ Aside s s' :=
  returns_within (revokeTask_returns task s) inferInstance

variable (clock) in
lemma attemptExpired_ends (sent : Dispatched) (lease : Lease) (s : Engine) :
    ∃ expired s', attemptExpired clock sent lease s = (.ok expired, s') ∧ Aside s s' := by
  simp only [attemptExpired, time_bind]
  split
  · exact ⟨_, _, rfl, read_aside s _⟩
  · exact ⟨_, _, rfl, read_aside s _⟩

lemma futureResult_cases (lease : LeaseId) (s : Engine) :
    (∃ e, futureResult lease s = (.error e, s)) ∨
    ∃ value, s.futures.get? lease = some (.result value) ∧ futureResult lease s = (.ok value, s) := by
  simp only [futureResult, read_bind]
  cases s.futures.get? lease with
  | none => exact .inl ⟨_, rfl⟩
  | some future =>
    cases future with
    | waiting | exception message => exact .inl ⟨_, rfl⟩
    | result value => exact .inr ⟨value, rfl, rfl⟩

lemma Dispatcher.owns_iff {d : Dispatcher} {task : DispatchId} {worker : NodeId} {lease : LeaseId} {now : ℚ} :
    d.owns task worker lease now = true ↔ ∃ l info, d.taskLeases.get? task = some l ∧
      d.nodeRegistry.get? worker = some info ∧ l.workerId = worker ∧ l.leaseId = lease ∧
      now < l.expiresAt ∧ now - info.lastHeartbeat ≤ 45 := by
  unfold Dispatcher.owns
  cases d.taskLeases.get? task with
  | none => simp
  | some l =>
    cases d.nodeRegistry.get? worker with
    | none => simp
    | some info => simp [and_assoc]

lemma acceptResult_cases (task : DispatchId) (worker : NodeId) (lease : LeaseId) (s : Engine) :
    (∃ s', acceptResult clock task worker lease s = (.ok false, s') ∧ Aside s s') ∨
    ∃ l now, s.lease? task = some l ∧ l.leaseId = lease ∧ now < l.expiresAt ∧
      acceptResult clock task worker lease s = (.ok true,
        { s with
          dispatcher := { s.dispatcher with taskLeases := s.dispatcher.taskLeases.pop task }
          reads := s.reads + 1
          log := .accepted l now :: s.log }) := by
  simp only [acceptResult, read_bind, time_bind]
  cases owned : s.dispatcher.owns task worker lease (clock s.reads) with
  | false => exact .inl ⟨_, rfl, read_aside s _⟩
  | true =>
    obtain ⟨l, info, held, _, _, same, alive, _⟩ := Dispatcher.owns_iff.1 owned
    refine .inr ⟨l, clock s.reads, held, same, alive, ?_⟩
    rw [held]
    rfl

variable {task : WorkflowTask}

lemma failAttempt_path {s : Engine} {job : JobId} {id : TaskId} (sent : Dispatched)
    (retry : Retry) (e : Failure) (found : s.task? job id = some task) (running : task.status = .running)
    (dropped : s.attempts.get? (job, id) = none) : Path R s (failAttempt clock job id sent retry e s).2 := by
  simp only [failAttempt]
  obtain ⟨_, s₁, run, aside⟩ := revokeTask_ends sent.dispatchId s
  rw [bind_of_ok run, time_bind]
  have aside := aside.trans (read_aside s₁ (s₁.reads + 1))
  refine aside.path.trans (Move.path (.lapse job id _ _ ?_ running ?_ ?_ rfl))
  · exact (aside.task? job id).trans found
  · exact (congrArg (Dict.get? · (job, id)) aside.attempts).trans dropped
  · split
    · exact .inl rfl
    · exact .inr rfl

/-- The `try` and its `except`, for an attempt whose entry was just dropped. -/
lemma takeResult_path {s : Engine} {job : JobId} {id : TaskId} {sent : Dispatched}
    {lease : Lease} (expired : Bool) (retry : Retry) (found : s.task? job id = some task)
    (running : task.status = .running) (dispatched : task.dispatched = some sent)
    (attempt : s.attempts.get? (job, id) = some lease) :
    Path R s (handle (takeResult clock job id sent lease expired) (failAttempt clock job id sent retry)
      { s with attempts := s.attempts.pop (job, id) }).2 := by
  generalize dropped : ({ s with attempts := s.attempts.pop (job, id) } : Engine) = s₁
  have drop : Path R s s₁ := dropped ▸ Move.path (.drop job id)
  have gone : s₁.attempts.get? (job, id) = none := by simp [← dropped]
  have found₁ : s₁.task? job id = some task := dropped ▸ found
  have failed (e : Failure) : Path R s (failAttempt clock job id sent retry e s₁).2 :=
    drop.trans (failAttempt_path sent retry e found₁ running gone)
  cases expired with
  | true =>
    obtain ⟨popped, s₂, run, aside⟩ := revokeTask_ends sent.dispatchId s₁
    have run : takeResult clock job id sent lease true s₁ =
        (.error (.timeoutError "Task attempt timed out"),
          { s₂ with log := .timedOut lease.leaseId :: s₂.log }) := by
      rw [takeResult, if_pos rfl, bind_of_ok run, note_bind, raise_apply]
    rw [handle_of_error run]
    have timed : Move R s { s₂ with log := .timedOut lease.leaseId :: s₂.log } :=
      .timeOut job id attempt (dropped ▸ aside)
    refine timed.path.trans (failAttempt_path sent retry _ ?_ running ?_)
    · exact (aside.task? job id).trans found₁
    · exact (congrArg (Dict.get? · (job, id)) aside.attempts).trans gone
  | false =>
    rcases futureResult_cases lease.leaseId s₁ with ⟨e, run⟩ | ⟨value, told, run⟩
    · have run : takeResult clock job id sent lease false s₁ = (.error e, s₁) := by
        rw [takeResult, if_neg Bool.false_ne_true, bind_of_error run]
      rw [handle_of_error run]
      exact failed e
    cases value with
    | other refusal =>
      have run : takeResult clock job id sent lease false s₁ = (.error (.valueError refusal), s₁) := by
        rw [takeResult, if_neg Bool.false_ne_true, bind_of_ok run]
        rfl
      rw [handle_of_error run]
      exact failed _
    | json output =>
      rcases acceptResult_cases sent.dispatchId lease.workerId lease.leaseId s₁ with
        ⟨s₂, late, aside⟩ | ⟨l, now, held, same, alive, taken⟩
      · have run : takeResult clock job id sent lease false s₁ =
            (.error (.runtimeError "Stale worker result rejected"), s₂) := by
          rw [takeResult, if_neg Bool.false_ne_true, bind_of_ok run]
          show (acceptResult clock _ _ _ >>= _) s₁ = _
          rw [bind_of_ok late]
          rfl
        rw [handle_of_error run]
        refine (drop.trans aside.path).trans (failAttempt_path sent retry _ ?_ running ?_)
        · exact (aside.task? job id).trans found₁
        · exact (congrArg (Dict.get? · (job, id)) aside.attempts).trans gone
      · have run : takeResult clock job id sent lease false s₁ = (.ok (), Engine.updateTask
            { s₁ with
              dispatcher := { s₁.dispatcher with taskLeases := s₁.dispatcher.taskLeases.pop sent.dispatchId }
              reads := s₁.reads + 1
              log := .accepted l now :: s₁.log } job id fun t =>
              { t with status := .completed, output := output, progressPercent := 100, error := none }) := by
          rw [takeResult, if_neg Bool.false_ne_true, bind_of_ok run]
          show (acceptResult clock _ _ _ >>= _) s₁ = _
          rw [bind_of_ok taken]
          rfl
        rw [handle_of_ok run]
        subst dropped
        refine (read_aside s (s.reads + 1)).path.trans (Move.path ?_)
        exact Move.complete job id (show Engine.task? { s with reads := s.reads + 1 } job id = _ from found)
          running dispatched attempt told held same alive

instance harvest_path (job : JobId) (id : TaskId) (definition : TaskDefinition) :
    Within (Path R) (harvest clock job id definition) := by
  constructor
  intro s
  simp only [harvest]
  refine leads_found (taskOf_cases job id s) fun task found => ?_
  rw [read_bind]
  cases attempt : s.attempts.get? (job, id) with
  | none => exact .refl
  | some lease =>
    show Path R s (Prod.snd (when _ _ s))
    unfold when
    split
    · rename_i running
      cases dispatched : task.dispatched with
      | none => exact .refl
      | some sent =>
        show Path R s (Prod.snd ((attemptExpired clock sent lease >>= _) s))
        obtain ⟨expired, s₁, run, aside⟩ := attemptExpired_ends clock sent lease s
        rw [bind_of_ok run, read_bind]
        split
        · refine aside.path.trans (takeResult_path expired definition.retry ?_ running dispatched ?_)
          · exact (aside.task? job id).trans found
          · exact (congrArg (Dict.get? · (job, id)) aside.attempts).trans attempt
        · exact aside.path
    · exact .refl

/-! ## Dispatching a task -/

lemma Submits.read {request : TaskRequest} {lease : Lease} {s s' : Engine} (h : Submits request lease s s')
    (n : ℕ) : Submits request lease s { s' with reads := n } :=
  ⟨h.jobs, h.attempts, h.journal, h.nextJob, h.task, h.fresh, h.next, h.leases, h.log,
    fun book => (read_aside s' n).book (h.book book)⟩

variable {j : WorkflowJob}

lemma Engine.requestOf_some {s : Engine} {job : JobId} {id : TaskId}
    {definition : TaskDefinition} {request : TaskRequest}
    (h : s.requestOf job j id task definition = some request) :
    request.taskId = ⟨job, id, task.revision, task.attempts + 1⟩ ∧
      request.payload.dependencies = j.outputs task := by
  simp only [Engine.requestOf] at h
  split at h
  · cases h
    exact ⟨rfl, rfl⟩
  · split at h
    · cases h
    · cases h
      exact ⟨rfl, rfl⟩

variable (clock) in
lemma trySubmit_ends (job : JobId) (id : TaskId) (request : TaskRequest) (s : Engine) :
    (∃ message s', Aside s s' ∧ trySubmit clock job id request s =
      (.ok none, s'.updateTask job id fun t => { t with error := some message })) ∨
    ∃ lease s', Submits request lease s s' ∧ trySubmit clock job id request s = (.ok (some lease), s') := by
  unfold trySubmit
  rcases submitTask_ends request s with ⟨message, s', run, left⟩ | ⟨lease, s', run, sent⟩
  · refine .inl ⟨message, s', left, ?_⟩
    have run : (do
        let lease ← submitTask clock request
        pure (some lease) : EngineM (Option Lease)) s = (.error (.runtimeError message), s') := by
      rw [bind_of_error run]
    exact handle_of_error run _
  · refine .inr ⟨lease, s', sent, ?_⟩
    apply handle_of_ok
    rw [bind_of_ok run, pure_apply]

instance dispatch_path (job : JobId) (id : TaskId) (definition : TaskDefinition) (allow : Bool) :
    Within (Path R) (dispatch clock job id definition allow) := by
  constructor
  intro s
  simp only [dispatch]
  refine leads_found (jobOf_cases job s) fun j here => ?_
  refine leads_found (taskOf_cases job id s) fun task found => ?_
  have listed : j.tasks.get? id = some task := by rwa [Engine.task?, here, Option.bind_some] at found
  split
  · exact .refl
  rename_i open_
  simp only [Bool.or_eq_true, Bool.not_eq_eq_eq_not, Bool.not_true, decide_eq_true_eq, not_or,
    Bool.not_eq_false, not_not] at open_
  obtain ⟨⟨⟨_, status⟩, pending⟩, ready⟩ := open_
  split
  · exact Move.path (.skip job id here status listed pending ready)
  rw [time_bind]
  split
  · exact (read_aside s _).path
  rw [read_bind]
  generalize readings : ({ s with reads := s.reads + 1 } : Engine) = s₁
  have aside : Aside s s₁ := readings ▸ read_aside s _
  have here : s₁.jobs.get? job = some j := by rw [aside.jobs, here]
  cases requested : s₁.requestOf job j id task definition with
  | none => exact aside.path.trans (Move.path (.annotate job id fun t => ⟨_, _, rfl⟩))
  | some request =>
    obtain ⟨named, outputs⟩ := Engine.requestOf_some requested
    show Path R s (Prod.snd ((trySubmit clock job id request >>= _) s₁))
    rcases trySubmit_ends clock job id request s₁ with ⟨message, s₂, left, run⟩ | ⟨lease, s₂, sent, run⟩
    · -- the submission failed
      rw [bind_of_ok run]
      exact (aside.trans left).path.trans (Move.path (.annotate job id fun t => ⟨_, _, rfl⟩))
    · -- the request is with a worker
      rw [bind_of_ok run]
      exact aside.path.trans (Move.path
        (.send job id _ here status listed pending ready named outputs (sent.read _) rfl))

instance advance_path (job : JobId) (allow : Bool) (id : TaskId) :
    Within (Path R) (advance clock job allow id) := by
  constructor
  intro s
  simp only [advance]
  refine leads_found (jobOf_cases job s) fun j here => ?_
  cases j.definitionOf id with
  | none => exact .refl
  | some definition =>
    exact ((harvest_path job id definition).bind fun _ => dispatch_path job id definition allow).leads s

/-! ## The end of a round, and the calls -/

def Engine.Ending (s : Engine) (job : JobId) : Prop :=
  ∃ j, s.jobs.get? job = some j ∧ (j.status = .failed ∨ j.status = .cancelled)

lemma Engine.Ending.updateTask {s : Engine} {job : JobId} (h : s.Ending job) (id : TaskId)
    (f : WorkflowTask → WorkflowTask) : (s.updateTask job id f).Ending job := by
  obtain ⟨j, here, ending⟩ := h
  refine ⟨j.update id f, by simp [Engine.updateTask, here], ?_⟩
  rwa [WorkflowJob.status_update]

lemma Engine.Ending.of_jobs {s s' : Engine} {job : JobId} (h : s.Ending job) (jobs : s'.jobs = s.jobs) :
    s'.Ending job := by
  rwa [Engine.Ending, jobs]

lemma revokeAttempt_ends (job : JobId) (id : TaskId) (task : WorkflowTask) (s : Engine) :
    (∃ e, revokeAttempt job id task s = (.error e, s) ∧ task.dispatched = none) ∨
    ∃ s₁, Aside s s₁ ∧
      revokeAttempt job id task s = (.ok (), { s₁ with attempts := s₁.attempts.pop (job, id) }) := by
  unfold revokeAttempt
  cases task.dispatched with
  | none => exact .inl ⟨_, rfl, rfl⟩
  | some sent =>
    obtain ⟨_, s₁, run, aside⟩ := revokeTask_ends sent.dispatchId s
    refine .inr ⟨s₁, aside, ?_⟩
    show (revokeTask sent.dispatchId >>= _) s = _
    rw [bind_of_ok run]
    rfl

lemma cancelTask_path {s : Engine} {job : JobId} (id : TaskId) (ending : s.Ending job) :
    Path R s (cancelTask job id s).2 ∧ (cancelTask job id s).2.Ending job := by
  simp only [cancelTask]
  rcases taskOf_cases job id s with ⟨⟨e, run⟩, _⟩ | ⟨task, found, run⟩
  · rw [bind_of_error run]
    exact ⟨.refl, ending⟩
  rw [bind_of_ok run]
  unfold when
  split
  · rename_i running
    rcases revokeAttempt_ends job id task s with ⟨e, run, _⟩ | ⟨s₁, aside, run⟩
    · rw [bind_of_error run]
      exact ⟨.refl, ending⟩
    rw [bind_of_ok run]
    obtain ⟨j, here, is⟩ := ending.of_jobs aside.jobs
    refine ⟨(aside.path.tail (.drop job id)).tail (.stop job id here is ?_ running (by simp)), ?_⟩
    · have found := (aside.task? job id).trans found
      rwa [Engine.task?, here, Option.bind_some] at found
    · have ended : Engine.Ending { s₁ with attempts := s₁.attempts.pop (job, id) } job := ending.of_jobs aside.jobs
      exact ended.updateTask id _
  · exact ⟨.refl, ending⟩

lemma cancelRunning_path {s : Engine} {job : JobId} (ending : s.Ending job) :
    Path R s (cancelRunning job s).2 ∧ (cancelRunning job s).2.Ending job := by
  simp only [cancelRunning]
  rcases jobOf_cases job s with ⟨⟨e, run⟩, _⟩ | ⟨j, here, run⟩
  · rw [bind_of_error run]
    exact ⟨.refl, ending⟩
  rw [bind_of_ok run]
  exact leads_forEach (R := Path R) (Engine.Ending · job) _ (fun id _ s ending => cancelTask_path id ending)
    ending

instance saveJob_path (job : JobId) : Within (Path R) (saveJob job) := by
  constructor
  intro s
  show Path R s (match s.jobs.get? job with
    | none => s
    | some j => { s with journal := j :: s.journal })
  cases here : s.jobs.get? job with
  | none => exact .refl
  | some j => exact Move.path (.save job here)

lemma updateStatus_path {s : Engine} {job : JobId} (status : JobStatus)
    (here : s.jobs.get? job = some j) (change : StatusChange R s job j status) :
    Path R s (updateStatus job status s).2 := Move.path (.status job here change)

lemma Engine.get?_updateJob_self {s : Engine} {job : JobId} (f : WorkflowJob → WorkflowJob)
    (here : s.jobs.get? job = some j) : (s.updateJob job f).jobs.get? job = some (f j) := by simp [here]

instance settleJob_path (job : JobId) : Within (Path R) (settleJob job) := by
  constructor
  intro s
  simp only [settleJob]
  refine leads_found (jobOf_cases job s) fun j here => ?_
  rw [write_bind]
  refine trans_of (Path R) (Move.path (.progress job)) ?_
  have here := s.get?_updateJob_self (fun j => { j with progress := j.percent }) here
  generalize s.updateJob job (fun j => { j with progress := j.percent }) = s₁ at here
  refine leads_bind ?_ fun _ s' _ => (saveJob_path job).leads s'
  unfold when
  split
  · rename_i running
    split
    · rename_i dead
      obtain ⟨task, member, failed⟩ := List.any_eq_true.1 dead
      obtain ⟨id, found⟩ := Dict.mem_values_iff.1 member
      have change : StatusChange R s₁ job { j with progress := j.percent } .failed :=
        ⟨running, id, task, found, by simpa using failed⟩
      refine trans_of (Path R) (updateStatus_path _ here change) ?_
      exact (cancelRunning_path ⟨_, s₁.get?_updateJob_self _ here, .inl rfl⟩).1
    · split
      · rename_i finished
        have change : StatusChange R s₁ job { j with progress := j.percent } .completed := ⟨running, finished⟩
        exact updateStatus_path _ here change
      · exact .refl
  · exact .refl

instance executeTasks_path (job : JobId) (allow : Bool) : Within (Path R) (executeTasks clock job allow) := by
  constructor
  intro s
  simp only [executeTasks]
  refine leads_found (jobOf_cases job s) fun j here => ?_
  exact ((Within.forEach _ fun id _ => advance_path job allow id).bind fun _ => settleJob_path job).leads s

instance startJob_path (job : JobId) (allow : Bool) : Within (Path R) (startJob clock job allow) := by
  constructor
  intro s
  simp only [startJob]
  refine leads_found (foundJob_cases job s) fun j here => ?_
  unfold when
  split
  · rename_i new
    exact leads_bind (updateStatus_path .inProgress here (.inl new)) fun _ s' _ =>
      ((saveJob_path job).bind fun _ => executeTasks_path job allow).leads s'
  · exact .refl

lemma jobOf_path (job : JobId) : Within (Path R) (jobOf job) := by
  constructor
  intro s
  rcases jobOf_cases job s with ⟨⟨e, run⟩, _⟩ | ⟨j, here, run⟩
  · rw [run]
  · rw [run]

instance tick_path (allow : Bool) : Within (Path R) (tick clock allow) := by
  unfold tick
  have := jobOf_path (R := R)
  infer_instance

instance recordProgress_path (sent : DispatchId) (worker : NodeId) (lease : LeaseId) (percent : ℚ) :
    Within (Path R) (recordProgress clock sent worker lease percent) := by
  unfold recordProgress
  have owns : Within (Path R) (ownsLease clock sent worker lease) := path_of_aside inferInstance
  have noted : Within (Path R) (updateTask sent.job sent.task fun t => { t with progressPercent := percent }) :=
    ⟨fun s => Move.path (.annotate _ _ fun t => ⟨t.error, percent, rfl⟩)⟩
  refine .ite inferInstance (owns.bind fun owned => .next fun s => ?_)
  cases s.task? sent.job sent.task <;> infer_instance

instance approveTask_path (job : JobId) (id : TaskId) (approved : Bool) (revision : Option ℕ) :
    Within (Path R) (approveTask job id approved revision) := by
  constructor
  intro s
  simp only [approveTask]
  refine leads_found (jobOf_cases job s) fun j here => ?_
  refine leads_found (taskOf_cases job id s) fun task found => ?_
  rw [Engine.task?, here, Option.bind_some] at found
  split
  · exact .refl
  · rename_i completed
    split
    · exact .refl
    · rw [note_bind]
      exact trans_of (Path R) (Move.path (.decide job id approved here found (not_not.1 completed)))
        ((saveJob_path job).leads _)

instance pauseJob_path (job : JobId) : Within (Path R) (pauseJob job) := by
  constructor
  intro s
  simp only [pauseJob]
  refine leads_found (foundJob_cases job s) fun j here => ?_
  unfold when
  split
  · rename_i status
    exact leads_bind (updateStatus_path .paused here status) fun _ s' _ => (saveJob_path job).leads s'
  · exact .refl

lemma resumeJob_path {s : Engine} (job : JobId) (allow : Bool) (resumed : ∀ j, s.jobs.get? job = some j →
    j.status = .paused → s.interrupted job j = false → R j) :
    Path R s (resumeJob clock job allow s).2 := by
  simp only [resumeJob]
  refine leads_found (foundJob_cases job s) fun j here => ?_
  unfold when
  split
  · rename_i paused
    rw [read_bind]
    split
    · exact .refl
    · rename_i attended
      have attended := eq_false_of_ne_true attended
      have change : StatusChange R s job j .inProgress :=
        .inr ⟨paused, attended, resumed j here paused attended⟩
      exact leads_bind (updateStatus_path .inProgress here change) fun _ s' _ =>
        ((saveJob_path job).bind fun _ => executeTasks_path job allow).leads s'
  · exact .refl

instance cancelJob_path (job : JobId) : Within (Path R) (cancelJob job) := by
  constructor
  intro s
  simp only [cancelJob]
  refine leads_found (foundJob_cases job s) fun j here => ?_
  refine trans_of (Path R) (updateStatus_path .cancelled here trivial) ?_
  refine leads_bind ?_ fun _ s' _ => (saveJob_path job).leads s'
  exact (cancelRunning_path ⟨_, s.get?_updateJob_self _ here, .inr rfl⟩).1

instance createJob_path (definition : WorkflowDefinition) (params : Dict String Json) :
    Within (Path R) (createJob definition params) := by
  constructor
  intro s
  simp only [createJob]
  split
  · exact .refl
  · rename_i valid
    exact trans_of (Path R) (Move.path (.create (not_not.1 valid)))
      (((saveJob_path s.nextJob).bind fun _ => within_pure s.nextJob).leads _)

/-! ## A revision -/

variable {affected done : List TaskId}

lemma WorkflowJob.mem_expand {id : TaskId} :
    id ∈ j.expand affected ↔ ∃ task, j.tasks.get? id = some task ∧
      (id ∈ affected ∨ ∃ dep ∈ task.dependencies, dep ∈ affected) := by
  simp only [WorkflowJob.expand, List.mem_filter, Dict.mem_keys_iff, Bool.or_eq_true, decide_eq_true_eq]
  constructor
  · rintro ⟨⟨task, found⟩, h⟩
    rw [found] at h
    exact ⟨task, found, h.imp_right fun h => by simpa using h⟩
  · rintro ⟨task, found, h⟩
    rw [found]
    exact ⟨⟨task, rfl⟩, h.imp_right fun h => by simpa using h⟩

lemma WorkflowJob.closed_of_expand (h : j.expand affected = affected) : j.Closed affected := by
  intro id task found dep member reached
  rw [← h, mem_expand]
  exact ⟨task, found, .inr ⟨dep, member, reached⟩⟩

lemma WorkflowJob.filter_mem_expand (j : WorkflowJob) (affected : List TaskId) :
    j.tasks.keys.filter (· ∈ j.expand affected) = j.expand affected := by
  refine List.filter_congr fun id member => ?_
  simp only [expand, List.mem_filter, member, true_and, Bool.decide_eq_true]

lemma WorkflowJob.expand_downstream (rounds : ℕ)
    (listed : j.tasks.keys.filter (· ∈ affected) = affected)
    (enough : j.tasks.keys.length < rounds + affected.length) :
    j.expand (j.downstream rounds affected) = j.downstream rounds affected := by
  induction rounds generalizing affected with
  | zero =>
    have bound := List.length_filter_le (· ∈ affected) j.tasks.keys
    rw [listed] at bound
    omega
  | succ rounds ih =>
    rw [downstream]
    split
    · assumption
    · rename_i grows
      have sub : affected.Sublist (j.expand affected) := by
        have sub : (j.tasks.keys.filter (· ∈ affected)).Sublist (j.expand affected) := by
          apply List.monotone_filter_right
          intro id member
          exact Bool.or_eq_true_iff.2 (.inl member)
        rwa [listed] at sub
      have longer : affected.length < (j.expand affected).length := by
        refine lt_of_le_of_ne sub.length_le fun same => grows ?_
        exact (sub.eq_of_length same).symm
      exact ih (j.filter_mem_expand affected) (by omega)

/-- `revise_task` reaches every task downstream of the revised one. -/
lemma WorkflowJob.downstream_closed (j : WorkflowJob) {id : TaskId} (known : id ∈ j.tasks.keys) :
    j.Closed (j.downstream (j.tasks.keys.length + 1) [id]) := by
  apply closed_of_expand
  rw [downstream]
  split
  · assumption
  · apply expand_downstream _ (j.filter_mem_expand [id])
    · have reached : id ∈ j.expand [id] := by
        obtain ⟨task, found⟩ := Dict.mem_keys_iff.1 known
        exact mem_expand.2 ⟨task, found, .inl (List.mem_singleton_self id)⟩
      have := List.length_pos_of_mem reached
      omega

/-- What every job of the engine is: its tasks are defined, and a running one was dispatched. -/
structure WorkflowJob.Sound (j : WorkflowJob) : Prop where
  defined : ∀ id task, j.tasks.get? id = some task → ∃ d, j.definitionOf id = some d
  sent : ∀ id task, j.tasks.get? id = some task → task.status = .running → task.dispatched ≠ none

lemma WorkflowJob.definitionOf_setInput (j : WorkflowJob) (id : TaskId) (inputs : Dict String Json)
    (key : TaskId) : (j.setInput id inputs).definitionOf key =
      (j.definitionOf key).map fun d => if d.id = id then { d with input := inputs } else d := by
  unfold definitionOf setInput
  rw [← List.map_reverse, List.find?_map]
  congr 2
  funext d
  simp only [Function.comp_apply]
  split <;> rfl

lemma WorkflowJob.firstApproval_setInput (j : WorkflowJob) (id : TaskId) (inputs : Dict String Json)
    (key : TaskId) : (j.setInput id inputs).firstApproval key = j.firstApproval key := by
  unfold firstApproval
  rw [definitionOf_setInput]
  cases j.definitionOf key with
  | none => rfl
  | some d =>
    show TaskDefinition.firstApproval (if _ then _ else _) = _
    split <;> rfl

lemma Aside.with {s s' : Engine} (h : Aside s s') (jobs : Dict JobId WorkflowJob)
    (attempts : Dict (JobId × TaskId) Lease) :
    Aside { s with jobs := jobs, attempts := attempts } { s' with jobs := jobs, attempts := attempts } where
  jobs := rfl
  attempts := rfl
  journal := h.journal
  nextJob := h.nextJob
  nextLease := h.nextLease
  leases := h.leases
  log := h.log
  book := fun b =>
    have b := h.book ⟨b.keyed, b.distinct, b.revoked, b.accepted, b.reported⟩
    ⟨b.keyed, b.distinct, b.revoked, b.accepted, b.reported⟩

lemma stopAttempt_ends (s : Engine) (job : JobId) (id : TaskId)
    (sent : task.status = .running → task.dispatched ≠ none) :
    ∃ s₁, when (task.status = .running) (revokeAttempt job id task) s = (.ok (), s₁) ∧
      Aside s { s₁ with attempts := s.attempts } ∧ s₁.jobs = s.jobs ∧
      (∀ key, s₁.attempts.get? key = s.attempts.get? key ∨
        s₁.attempts.get? key = none ∧ key = (job, id)) ∧
      (task.status = .running → s₁.attempts.get? (job, id) = none) := by
  unfold when
  split
  · rename_i running
    rcases revokeAttempt_ends job id task s with ⟨e, _, unsent⟩ | ⟨s₁, aside, run⟩
    · exact absurd unsent (sent running)
    refine ⟨_, run, aside.attempts ▸ aside, aside.jobs, fun key => ?_, fun _ => by simp⟩
    show (s₁.attempts.pop (job, id)).get? key = _ ∨ (s₁.attempts.pop (job, id)).get? key = _ ∧ _
    rw [Dict.get?_pop, aside.attempts]
    split
    · rename_i same
      exact .inr ⟨rfl, same.symm⟩
    · exact .inl rfl
  · rename_i idle
    exact ⟨s, rfl, Aside.refl s, rfl, fun _ => .inl rfl, fun running => absurd running idle⟩

lemma resetTask_ends {s s' : Engine} {job : JobId} {definition : WorkflowDefinition}
    {id : TaskId} (sound : j.Sound) (known : id ∈ j.tasks.keys) (new : id ∉ done)
    (approval : ∀ tasks, ∃ d, WorkflowJob.definitionOf { j with definition := definition, tasks := tasks } id =
      some d ∧ d.firstApproval = j.firstApproval id)
    (h : Revises job done definition j s s') :
    ∃ s'', resetTask job id s' = (.ok (), s'') ∧ Revises job (id :: done) definition j s s'' := by
  obtain ⟨task, found⟩ := Dict.mem_keys_iff.1 known
  obtain ⟨tasks, here, keys, values⟩ := h.revised
  have listed : tasks.get? id = some task := by
    rw [values, found, Option.map_some, if_neg new]
  obtain ⟨d, defined, first⟩ := approval tasks
  obtain ⟨s₁, stopped, aside, jobs, attempts, gone⟩ := stopAttempt_ends s' job id (sound.sent id task found)
  have here₁ : s₁.jobs.get? job = _ := jobs ▸ here
  refine ⟨s₁.updateTask job id fun t => t.reset d.firstApproval, ?_, ?_⟩
  · rcases jobOf_cases job s' with ⟨_, none⟩ | ⟨j', here', run⟩
    · cases here.symm.trans none
    cases here.symm.trans here'
    rcases taskOf_cases job id s' with ⟨_, none⟩ | ⟨t, found', run'⟩
    · rw [Engine.task?, here] at none
      cases listed.symm.trans none
    rw [Engine.task?, here] at found'
    cases listed.symm.trans found'
    rw [resetTask, bind_of_ok run, bind_of_ok run', bind_of_ok stopped, defined]
    rfl
  obtain ⟨jobs', eq, _⟩ := s₁.updateJob_eq job fun j => j.update id fun t => t.reset d.firstApproval
  constructor
  · refine h.rest.trans ?_
    rw [Engine.updateTask, eq]
    exact aside.with s.jobs s.attempts
  · intro job' other
    rw [Engine.updateTask, Engine.get?_updateJob, if_neg (Ne.symm other), jobs]
    exact h.others job' other
  · obtain ⟨tasks', changed, keys'⟩ := WorkflowJob.update_eq { j with definition := definition, tasks := tasks }
      id fun t => t.reset d.firstApproval
    refine ⟨tasks', ?_, keys'.trans keys, fun key => ?_⟩
    · rw [Engine.updateTask, s₁.get?_updateJob_self _ here₁, changed]
    · have value := WorkflowJob.get?_update { j with definition := definition, tasks := tasks } id key
        fun t => t.reset d.firstApproval
      rw [changed] at value
      rw [value]
      by_cases same : id = key
      · subst same
        rw [if_pos rfl, listed, found, first]
        simp
      · rw [if_neg same]
        simp only [values, List.mem_cons, Ne.symm same, false_or]
  · intro key
    rw [Engine.updateTask, eq]
    rcases attempts key with same | ⟨none, rfl⟩
    · rw [show Dict.get? _ key = _ from same]
      exact (h.attempts key).imp_right fun reset => ⟨reset.1, reset.2.1, List.mem_cons_of_mem _ reset.2.2⟩
    · exact .inr ⟨none, rfl, List.mem_cons_self⟩
  · intro key t member found' running
    rw [Engine.updateTask, eq]
    rcases attempts (job, key) with same | ⟨none, _⟩
    · rcases List.mem_cons.1 member with rfl | member
      · cases found.symm.trans found'
        exact gone running
      · rw [show Dict.get? _ (job, key) = _ from same]
        exact h.stopped key t member found' running
    · exact none

lemma resetTasks_ends {s : Engine} {job : JobId} {definition : WorkflowDefinition}
    (sound : j.Sound) (approval : ∀ id ∈ j.tasks.keys, ∀ tasks, ∃ d,
      WorkflowJob.definitionOf { j with definition := definition, tasks := tasks } id = some d ∧
        d.firstApproval = j.firstApproval id)
    (ids : List TaskId) (nodup : ids.Nodup) (known : ∀ id ∈ ids, id ∈ j.tasks.keys)
    (new : ∀ id ∈ ids, id ∉ done) {s' : Engine} (h : Revises job done definition j s s') :
    ∃ s'', forEach (resetTask job) ids s' = (.ok (), s'') ∧
      Revises job (ids.reverse ++ done) definition j s s'' := by
  induction ids generalizing done s' with
  | nil => exact ⟨s', rfl, h⟩
  | cons id ids ih =>
    obtain ⟨fresh, nodup⟩ := List.nodup_cons.1 nodup
    obtain ⟨s₁, run, h⟩ := resetTask_ends sound (known id List.mem_cons_self) (new id List.mem_cons_self)
      (approval id (known id List.mem_cons_self)) h
    have new : ∀ other ∈ ids, other ∉ id :: done := fun other member =>
      List.not_mem_cons_of_ne_of_not_mem (fun same => fresh (same ▸ member)) (new other (List.mem_cons_of_mem _ member))
    obtain ⟨s₂, rest, h⟩ := ih nodup (fun id member => known id (List.mem_cons_of_mem _ member)) new h
    refine ⟨s₂, ?_, ?_⟩
    · rw [forEach, bind_of_ok run, rest]
    · rwa [List.reverse_cons, List.append_assoc]

lemma WorkflowJob.downstream_nodup (j : WorkflowJob) (rounds : ℕ)
    (nodup : affected.Nodup) : (j.downstream rounds affected).Nodup := by
  induction rounds generalizing affected with
  | zero => exact nodup
  | succ rounds ih =>
    rw [downstream]
    split
    · exact nodup
    · exact ih (j.tasks.nodup.filter _)

lemma WorkflowJob.downstream_known (j : WorkflowJob) (rounds : ℕ)
    (known : ∀ id ∈ affected, id ∈ j.tasks.keys) : ∀ id ∈ j.downstream rounds affected, id ∈ j.tasks.keys := by
  induction rounds generalizing affected with
  | zero => exact known
  | succ rounds ih =>
    rw [downstream]
    split
    · exact known
    · exact ih fun id member => (List.mem_filter.1 member).1

lemma revises_setInput {s : Engine} {job : JobId} (here : s.jobs.get? job = some j) (id : TaskId)
    (inputs : Dict String Json) : Revises job [] (j.setInput id inputs).definition j s
      (s.updateJob job fun j => j.setInput id inputs) := by
  obtain ⟨jobs, eq, _⟩ := s.updateJob_eq job fun j => j.setInput id inputs
  constructor
  · rw [eq]
    exact Aside.refl s
  · intro job' other
    rw [Engine.get?_updateJob, if_neg (Ne.symm other)]
  · refine ⟨j.tasks, s.get?_updateJob_self _ here, rfl, fun key => ?_⟩
    simp
  · intro key
    rw [eq]
    exact .inl rfl
  · intro key t member
    cases member

lemma WorkflowJob.Sound.approval (sound : j.Sound) (id : TaskId) (inputs : Dict String Json) :
    ∀ key ∈ j.tasks.keys, ∀ tasks, ∃ d, WorkflowJob.definitionOf
      { j with definition := (j.setInput id inputs).definition, tasks := tasks } key = some d ∧
        d.firstApproval = j.firstApproval key := by
  intro key member tasks
  obtain ⟨t, found⟩ := Dict.mem_keys_iff.1 member
  obtain ⟨d, defined⟩ := sound.defined key t found
  have first := j.firstApproval_setInput id inputs key
  have mapped := j.definitionOf_setInput id inputs key
  rw [defined, Option.map_some] at mapped
  refine ⟨_, mapped, ?_⟩
  rw [WorkflowJob.firstApproval, mapped] at first
  exact first

lemma reviseTask_path {s : Engine} {job : JobId} (sound : ∀ j, s.jobs.get? job = some j → j.Sound)
    (id : TaskId) (inputs : Dict String Json) (revision : ℕ) :
    Path R s (reviseTask job id inputs revision s).2 := by
  simp only [reviseTask]
  refine leads_found (jobOf_cases job s) fun j here => ?_
  split
  · exact .refl
  rename_i paused
  refine leads_found (taskOf_cases job id s) fun task found => ?_
  split
  · exact .refl
  rw [write_bind]
  rw [Engine.task?, here, Option.bind_some] at found
  have known : ∀ key ∈ [id], key ∈ j.tasks.keys := by
    intro key member
    cases List.mem_singleton.1 member
    exact Dict.mem_keys_iff.2 ⟨task, found⟩
  generalize rounds : j.tasks.keys.length + 1 = n
  have closed := rounds ▸ j.downstream_closed (known id (List.mem_singleton_self id))
  obtain ⟨s₁, run, revised⟩ := resetTasks_ends (sound j here) ((sound j here).approval id inputs)
    (j.downstream n [id])
    (j.downstream_nodup n (List.nodup_singleton id)) (j.downstream_known n known)
    (fun _ _ => List.not_mem_nil) (revises_setInput here id inputs)
  rw [bind_of_ok run]
  refine trans_of (Path R) (Move.path (.revise job id inputs here (not_not.1 paused) ?_ revised))
    ((saveJob_path job).leads s₁)
  intro key t found dep member reached
  rw [List.append_nil, List.mem_reverse] at reached ⊢
  exact closed key t found dep member reached

end Vertep.Workflow
