import Vertep.Workflow.Attempts

/-!
# Fresh outputs (`core/workflow/engine.py`)

The output of a completed task comes from the last attempt of its revision, and from the outputs its
dependencies have now. A dependency of a task that was sent is done and keeps its output until a revision,
which takes the task back as well; so an attempt never outlives what it was given. A new process goes back
to documents that are older than what was lost, and `Older` is what it relies on: a document in which a
task is completed is followed by none that waits in the same revision.
-/

namespace Vertep.Workflow
open Lib Queue

variable {clock : ℕ → ℚ} {R : WorkflowJob → Prop}

/-- The submissions for one revision of a task, the newest first. -/
def submissions (log : List Event) (job : JobId) (id : TaskId) (revision : ℕ) : List (TaskRequest × Lease) :=
  log.filterMap fun
    | .submitted request lease =>
      if request.taskId.job = job ∧ request.taskId.task = id ∧ request.taskId.revision = revision then
        some (request, lease)
      else none
    | _ => none

variable {job : JobId} {id : TaskId}

lemma mem_submissions {log : List Event} {revision : ℕ} {request : TaskRequest}
    {lease : Lease} : (request, lease) ∈ submissions log job id revision ↔ .submitted request lease ∈ log ∧
      request.taskId.job = job ∧ request.taskId.task = id ∧ request.taskId.revision = revision := by
  rw [submissions, List.mem_filterMap]
  constructor
  · rintro ⟨e, member, is⟩
    cases e with
    | submitted request' lease' =>
      dsimp only at is
      split at is
      · cases is
        exact ⟨member, ‹_›⟩
      · cases is
    | reported | accepted | revoked | timedOut | decided => cases is
  · rintro ⟨member, key⟩
    exact ⟨_, member, if_pos key⟩

lemma submissions_cons {log : List Event} {request : TaskRequest} {lease : Lease} :
    submissions (.submitted request lease :: log) request.taskId.job request.taskId.task request.taskId.revision =
      (request, lease) :: submissions log request.taskId.job request.taskId.task request.taskId.revision :=
  List.filterMap_cons_some (if_pos ⟨rfl, rfl, rfl⟩)

variable {s s' : Engine}

lemma Turn.submissions (turn : Turn s s') {revision : ℕ}
    (idle : ∀ j t, s.jobs.get? job = some j → j.tasks.get? id = some t → t.status = .pending →
      t.revision ≠ revision) :
    submissions s'.log job id revision = submissions s.log job id revision := by
  obtain ⟨new, news⟩ := turn.news
  have none : Workflow.submissions new job id revision = [] := by
    rw [List.eq_nil_iff_forall_not_mem]
    rintro ⟨request, lease⟩ member
    obtain ⟨entry, rfl, rfl, rfl⟩ := mem_submissions.1 member
    obtain ⟨j, t, here, found, waiting, same⟩ := (news.submitted request lease entry).1
    exact idle j t here found waiting same
  rw [news.log, Workflow.submissions, List.filterMap_append]
  rw [Workflow.submissions] at none
  rw [none, List.nil_append, Workflow.submissions]

/-! ## What a task was given -/

variable {j j' doc : WorkflowJob} {t t' : WorkflowTask}

lemma WorkflowJob.outputs_congr (dependencies : t'.dependencies = t.dependencies)
    (same : ∀ dep ∈ t.dependencies,
      (j'.tasks.get? dep).map (·.output) = (j.tasks.get? dep).map (·.output)) : j'.outputs t' = j.outputs t := by
  rw [outputs, outputs, dependencies]
  apply List.foldl_ext
  intro outputs dep member
  have same := same dep member
  cases there : j.tasks.get? dep with
  | none =>
    rw [there, Option.map_none, Option.map_eq_none_iff] at same
    rw [same]
  | some d =>
    rw [there, Option.map_some] at same
    obtain ⟨d', there', is⟩ := Option.map_eq_some_iff.1 same
    rw [there']
    exact congrArg (outputs.set dep) is

lemma JobMove.outputs (m : JobMove R s s' job j j')
    (found : j.tasks.get? id = some t)
    (done : ∀ dep ∈ t.dependencies, ∃ d, j.tasks.get? dep = some d ∧ d.status.Done)
    (after : j'.tasks.get? id = some t') (started : t'.status ≠ .pending) : j'.outputs t' = j.outputs t := by
  cases m with
  | @task t₀ f id₀ found₀ move =>
    apply WorkflowJob.outputs_congr
    · rw [WorkflowJob.get?_update] at after
      split at after
      · rename_i same
        subst same
        cases found.symm.trans found₀
        rw [found, Option.map_some] at after
        cases after
        exact move.dependencies
      · cases found.symm.trans after
        rfl
    · intro dep member
      rw [WorkflowJob.get?_update]
      split
      · rename_i same
        subst same
        obtain ⟨d, there, is⟩ := done id₀ member
        cases found₀.symm.trans there
        rw [found₀, Option.map_some, Option.map_some, Option.map_some, (move.done is).2.1]
      · rfl
  | progress =>
    cases found.symm.trans after
    rfl
  | status =>
    cases found.symm.trans after
    rfl
  | revise id₀ inputs paused closed keys values =>
    rw [show Dict.get? _ id = _ from values id, found, Option.map_some] at after
    split at after
    · cases after
      exact absurd rfl started
    · rename_i outside
      cases after
      apply WorkflowJob.outputs_congr rfl
      intro dep member
      have kept : dep ∉ _ := fun reached => outside (closed id _ found dep member reached)
      rw [show Dict.get? _ dep = _ from values dep]
      obtain ⟨d, there, _⟩ := done dep member
      rw [there, Option.map_some, if_neg kept]

/-! ## Documents -/

/-- What is completed in `doc` is completed in `j`, or was revised since. -/
def Older (doc j : WorkflowJob) : Prop :=
  ∀ id t t', doc.tasks.get? id = some t → t.status = .completed → j.tasks.get? id = some t' →
    t.revision < t'.revision ∨ t'.revision = t.revision ∧ t'.status = .completed

lemma Older.refl (j : WorkflowJob) : Older j j := by
  intro id t t' found completed after
  cases found.symm.trans after
  exact .inr ⟨rfl, completed⟩

lemma Older.load (h : Older doc j) : Older doc j.load := by
  intro id t t' found completed after
  obtain ⟨t₀, error, before, rfl⟩ := WorkflowJob.load_task after
  exact h id t t₀ found completed before

lemma TaskMove.revision (m : TaskMove s s' job j id t t') : t'.revision = t.revision := by
  cases m <;> rfl

lemma Older.move (h : Older doc j)
    (m : JobMove R s s' job j j') : Older doc j' := by
  intro id t t' found completed after
  obtain ⟨t₀, before, rfl | move | ⟨approval, rfl⟩⟩ := m.task_cases after
  · exact h id t t' found completed before
  · rw [move.revision]
    apply (h id t t₀ found completed before).imp_right
    rintro ⟨same, is⟩
    exact ⟨same, (move.done (.inl is)).1.trans is⟩
  · rcases h id t t₀ found completed before with later | ⟨same, _⟩
    · exact .inl (later.trans (Nat.lt_succ_self _))
    · exact .inl (same ▸ Nat.lt_succ_self _)

/-- The documents are in the order in which the jobs were saved. -/
structure History (s : Engine) : Prop where
  named : ∀ job j, s.jobs.get? job = some j → j.id = job ∧ job < s.nextJob
  known : ∀ doc ∈ s.journal, doc.id < s.nextJob
  order : s.journal.Pairwise fun newer older => older.id = newer.id → Older older newer
  current : ∀ doc ∈ s.journal, ∀ j, s.jobs.get? doc.id = some j → Older doc j

lemma History.move (h : History s) (m : Move R s s') : History s' := by
  obtain ⟨next, journal⟩ := m.journal
  have known : ∀ doc ∈ s'.journal, doc.id < s.nextJob := by
    intro doc after
    rcases m.saved after with before | ⟨job, here⟩
    · exact h.known doc before
    · obtain ⟨named, below⟩ := h.named job doc here
      exact named ▸ below
  have order : s'.journal.Pairwise fun newer older => older.id = newer.id → Older older newer := by
    rcases journal with fewer | ⟨job, j, here, is⟩
    · exact h.order.sublist fewer.sublist
    · rw [is]
      refine List.Pairwise.cons (fun older member same => ?_) h.order
      apply h.current older member
      rw [same, (h.named job j here).1]
      exact here
  constructor
  · intro job j' after
    cases m.origin after with
    | kept before =>
      obtain ⟨named, below⟩ := h.named job j' before
      exact ⟨named, below.trans_le next⟩
    | moved before move =>
      obtain ⟨named, below⟩ := h.named job _ before
      exact ⟨move.id.trans named, below.trans_le next⟩
    | created valid same more is =>
      subst same
      exact ⟨is ▸ rfl, more ▸ Nat.lt_succ_self _⟩
    | @loaded doc newer older suffix journal skipped same is gone =>
      subst same
      refine ⟨is ▸ rfl, (h.known doc (suffix.subset ?_)).trans_le next⟩
      rw [journal]
      exact List.mem_append_right _ List.mem_cons_self
  · intro doc after
    exact (known doc after).trans_le next
  · exact order
  · intro doc after j' here
    -- a document saved by this very move is the job itself
    have older {j : WorkflowJob} (before : s.jobs.get? doc.id = some j) : Older doc j := by
      rcases m.saved after with member | ⟨job, found⟩
      · exact h.current doc member j before
      · rw [← (h.named job doc found).1] at found
        cases found.symm.trans before
        exact Older.refl doc
    cases m.origin here with
    | kept before => exact older before
    | moved before move => exact (older before).move move
    | created valid same more is => exact absurd same (known doc after).ne
    | loaded suffix journal skipped same is gone =>
      subst is
      rw [journal] at after order
      rcases List.mem_append.1 after with member | member
      · exact absurd rfl (skipped doc member)
      · obtain ⟨_, order, _⟩ := List.pairwise_append.1 order
        rcases List.mem_cons.1 member with rfl | member
        · exact (Older.refl doc).load
        · exact (List.rel_of_pairwise_cons order member same.symm).load

/-! ## Attempts and outputs -/

/-- The last submission for this revision of the task went out under `lease`, with the outputs its
dependencies have in `j`. -/
def Given (log : List Event) (job : JobId) (j : WorkflowJob) (id : TaskId) (t : WorkflowTask)
    (lease : Lease) : Prop :=
  ∃ request, (submissions log job id t.revision).head? = some (request, lease) ∧
    request.payload.dependencies = j.outputs t

/-- The output of a completed task was reported and accepted under the lease of its last submission. -/
def Fresh (log : List Event) (job : JobId) (j : WorkflowJob) (id : TaskId) (t : WorkflowTask) : Prop :=
  ∃ lease l now, Given log job j id t lease ∧ .reported lease.leaseId (.json t.output) ∈ log ∧
    .accepted l now ∈ log ∧ l.leaseId = lease.leaseId

/-- What every move keeps: attempts of running tasks are their last submissions, and the outputs of
completed tasks, in jobs and documents, are fresh. -/
structure Tracked (s : Engine) : Prop where
  ordered : s.All WorkflowJob.Ordered
  book : AttemptBook s
  history : History s
  running : ∀ job j id t lease, s.jobs.get? job = some j → j.tasks.get? id = some t → t.status = .running →
    s.attempts.get? (job, id) = some lease → Given s.log job j id t lease
  jobs : ∀ job j id t, s.jobs.get? job = some j → j.tasks.get? id = some t → t.status = .completed →
    Fresh s.log job j id t
  documents : ∀ doc ∈ s.journal, ∀ id t, doc.tasks.get? id = some t → t.status = .completed →
    Fresh s.log doc.id doc id t

lemma Given.turn {lease : Lease} (h : Given s.log job j id t lease) (turn : Turn s s') (revision : t'.revision = t.revision)
    (outputs : j'.outputs t' = j.outputs t)
    (idle : ∀ j₀ t₀, s.jobs.get? job = some j₀ → j₀.tasks.get? id = some t₀ → t₀.status = .pending →
      t₀.revision ≠ t.revision) : Given s'.log job j' id t' lease := by
  obtain ⟨request, last, given⟩ := h
  refine ⟨request, ?_, given.trans outputs.symm⟩
  rw [revision, turn.submissions idle]
  exact last

lemma Fresh.turn (h : Fresh s.log job j id t) (turn : Turn s s') (revision : t'.revision = t.revision)
    (output : t'.output = t.output) (outputs : j'.outputs t' = j.outputs t)
    (idle : ∀ j₀ t₀, s.jobs.get? job = some j₀ → j₀.tasks.get? id = some t₀ → t₀.status = .pending →
      t₀.revision ≠ t.revision) : Fresh s'.log job j' id t' := by
  obtain ⟨lease, l, now, given, reported, accepted, same⟩ := h
  obtain ⟨new, news⟩ := turn.news
  refine ⟨lease, l, now, given.turn turn revision outputs idle, ?_, ?_, same⟩
  · rw [output, news.log]
    exact List.mem_append_right new reported
  · rw [news.log]
    exact List.mem_append_right new accepted

lemma AttemptBook.attempt (h : AttemptBook s) (turn : Turn s s') {lease : Lease} (found : s'.attempts.get? (job, id) = some lease) :
    s.attempts.get? (job, id) = some lease ∨
      ∃ j t, s.jobs.get? job = some j ∧ j.tasks.get? id = some t ∧ t.status = .pending := by
  rcases turn.attempts (job, id) lease found with before | ⟨fresh, request, member, rfl, rfl⟩
  · exact .inl before
  · obtain ⟨new, news⟩ := turn.news
    rcases List.mem_append.1 (news.log ▸ member) with member | member
    · obtain ⟨j, t, here, listed, waiting, _⟩ := (news.submitted request lease member).1
      exact .inr ⟨j, t, here, listed, waiting⟩
    · exact absurd (h.below request lease member) fresh.not_gt

lemma idle_of (here : s.jobs.get? job = some j) (found : j.tasks.get? id = some t) (started : t.status ≠ .pending) :
    ∀ j₀ t₀, s.jobs.get? job = some j₀ → j₀.tasks.get? id = some t₀ → t₀.status = .pending →
      t₀.revision ≠ t.revision := by
  intro j₀ t₀ here₀ found₀ waiting
  cases here.symm.trans here₀
  cases found.symm.trans found₀
  exact absurd waiting started

lemma Tracked.running_move (h : Tracked s) (m : Move R s s') {lease : Lease} (after : s'.jobs.get? job = some j')
    (found' : j'.tasks.get? id = some t') (running : t'.status = .running)
    (attempt : s'.attempts.get? (job, id) = some lease) : Given s'.log job j' id t' lease := by
  have started : t'.status ≠ .pending := by
    rw [running]
    decide
  have old {j : WorkflowJob} {t : WorkflowTask} (here : s.jobs.get? job = some j)
      (found : j.tasks.get? id = some t) (is : t.status = .running) : Given s.log job j id t lease := by
    rcases h.book.attempt m.turn attempt with before | ⟨j₀, t₀, here₀, found₀, waiting⟩
    · exact h.running job j id t lease here found is before
    · cases here.symm.trans here₀
      cases found.symm.trans found₀
      cases is.symm.trans waiting
  cases m.origin after with
  | kept before =>
    exact (old before found' running).turn m.turn rfl rfl (idle_of before found' started)
  | @moved j before move =>
    have ordered := h.ordered.jobs job j before
    have kept {t : WorkflowTask} (found : j.tasks.get? id = some t) (is : t.status = .running)
        (revision : t'.revision = t.revision) : Given s'.log job j' id t' lease := by
      have busy : t.status ≠ .pending := by
        rw [is]
        decide
      refine (old before found is).turn m.turn revision ?_ (idle_of before found busy)
      exact move.outputs found (ordered id t found busy) found' started
    obtain ⟨t, found, rfl | step | ⟨approval, rfl⟩⟩ := move.task_cases found'
    · exact kept found running rfl
    · cases step with
      | complete => cases running
      | lapse _ _ _ _ outcome => rcases outcome with rfl | rfl <;> cases running
      | annotate => exact kept found running rfl
      | skip => cases running
      | @send request lease' log _ _ waiting ready named given sent held =>
        cases held.symm.trans attempt
        have deps : ∀ dep ∈ t.dependencies, ∃ d, j.tasks.get? dep = some d ∧ d.status.Done := by
          intro dep member
          obtain ⟨d, there, done, _⟩ := WorkflowJob.ready_iff.1 ready dep member
          exact ⟨d, there, done⟩
        refine ⟨request, ?_, given.trans (move.outputs found deps found' started).symm⟩
        have first := @submissions_cons log request lease
        rw [named] at first
        rw [sent, first]
        rfl
      | stop => cases running
      | decide _ is => cases is.symm.trans running
    · exact absurd rfl started
  | created valid same more is =>
    subst is
    obtain ⟨d, _, _, rfl⟩ := WorkflowDefinition.newJob_task found'
    exact absurd rfl started
  | loaded suffix journal skipped same is gone =>
    rw [gone] at attempt
    cases attempt

lemma Tracked.jobs_move (h : Tracked s) (m : Move R s s') (after : s'.jobs.get? job = some j')
    (found' : j'.tasks.get? id = some t') (completed : t'.status = .completed) : Fresh s'.log job j' id t' := by
  have started : t'.status ≠ .pending := by
    rw [completed]
    decide
  cases m.origin after with
  | kept before =>
    exact (h.jobs job j' id t' before found' completed).turn m.turn rfl rfl rfl (idle_of before found' started)
  | @moved j before move =>
    have ordered := h.ordered.jobs job j before
    have kept {t : WorkflowTask} (found : j.tasks.get? id = some t) (is : t.status = .completed)
        (revision : t'.revision = t.revision) (output : t'.output = t.output) : Fresh s'.log job j' id t' := by
      have busy : t.status ≠ .pending := by
        rw [is]
        decide
      refine (h.jobs job j id t before found is).turn m.turn revision output ?_ (idle_of before found busy)
      exact move.outputs found (ordered id t found busy) found' started
    obtain ⟨t, found, rfl | step | ⟨approval, rfl⟩⟩ := move.task_cases found'
    · exact kept found completed rfl rfl
    · cases step with
      | @complete lease l now output running attempt told same accepted =>
        have busy : t.status ≠ .pending := by
          rw [running]
          decide
        obtain ⟨new, news⟩ := m.turn.news
        refine ⟨lease, l, now, ?_, ?_, accepted, same⟩
        · refine (h.running job j id t lease before found running attempt).turn m.turn rfl ?_
            (idle_of before found busy)
          exact move.outputs found (ordered id t found busy) found' started
        · rw [news.log]
          exact List.mem_append_right new (h.book.leases.reported lease.leaseId _ told)
      | lapse _ _ _ _ outcome => rcases outcome with rfl | rfl <;> cases completed
      | annotate => exact kept found completed rfl rfl
      | skip | send | stop => cases completed
      | decide _ is => exact kept found is rfl rfl
    · exact absurd rfl started
  | created valid same more is =>
    subst is
    obtain ⟨d, _, _, rfl⟩ := WorkflowDefinition.newJob_task found'
    exact absurd rfl started
  | @loaded doc newer older suffix journal skipped same is gone =>
    subst is same
    obtain ⟨t, error, found, rfl⟩ := WorkflowJob.load_task found'
    have member : doc ∈ s.journal := by
      apply suffix.subset
      rw [journal]
      exact List.mem_append_right _ List.mem_cons_self
    refine (h.documents doc member id t found completed).turn m.turn rfl rfl ?_ ?_
    · apply WorkflowJob.outputs_congr rfl
      intro dep _
      obtain ⟨f, loaded, is⟩ := doc.get?_load dep
      rw [loaded, Option.map_map]
      congr 1
      funext d
      obtain ⟨error, is⟩ := is d
      rw [Function.comp_apply, is]
    · intro j₀ t₀ here₀ found₀ waiting same
      rcases h.history.current doc member j₀ here₀ id t t₀ found completed found₀ with later | ⟨_, is⟩
      · exact later.ne same.symm
      · cases is.symm.trans waiting

lemma Tracked.move (h : Tracked s) (m : Move R s s') : Tracked s' where
  ordered := ordered_jobInvariant.move m h.ordered
  book := h.book.turn m.turn
  history := h.history.move m
  running := fun _ _ _ _ _ after found is attempt => h.running_move m after found is attempt
  jobs := fun _ _ _ _ after found is => h.jobs_move m after found is
  documents := by
    intro doc after id t found completed
    rcases m.saved after with member | ⟨job, here⟩
    · refine (h.documents doc member id t found completed).turn m.turn rfl rfl rfl ?_
      intro j₀ t₀ here₀ found₀ waiting same
      rcases h.history.current doc member j₀ here₀ id t t₀ found completed found₀ with later | ⟨_, is⟩
      · exact later.ne same.symm
      · cases is.symm.trans waiting
    · rw [(h.history.named job doc here).1]
      refine (h.jobs job doc id t here found completed).turn m.turn rfl rfl rfl (idle_of here found ?_)
      rw [completed]
      decide

lemma Reachable.tracked (r : Reachable clock s) : Tracked s := by
  refine r.invariant (I := Tracked) ?_ fun s s' _ h m => h.move m
  intro s fresh
  have book := fresh.attemptBook
  obtain ⟨reads, rfl⟩ := fresh
  constructor
  · exact Engine.Fresh.all ⟨reads, rfl⟩
  · exact book
  · constructor
    · intro job j here
      cases here
    · intro doc member
      cases member
    · exact List.Pairwise.nil
    · intro doc member
      cases member
  · intro job j id t lease here
    cases here
  · intro job j id t here
    cases here
  · intro doc member
    cases member

/-- The output of a completed task was reported under the lease of the attempt that was submitted last for
its revision, with the outputs its dependencies have now. That lease was given to no other attempt; it had
not expired when the result was accepted, and was neither revoked nor timed out. -/
theorem outputs_are_fresh {s : Engine} (r : Reachable clock s) {job : JobId} {j : WorkflowJob}
    (here : s.jobs.get? job = some j) {id : TaskId} {t : WorkflowTask} (found : j.tasks.get? id = some t)
    (completed : t.status = .completed) :
    ∃ request lease l now, (submissions s.log job id t.revision).head? = some (request, lease) ∧
      .reported lease.leaseId (.json t.output) ∈ s.log ∧ request.payload.dependencies = j.outputs t ∧
      (∀ request' lease', .submitted request' lease' ∈ s.log → lease'.leaseId = lease.leaseId →
        request' = request) ∧
      .accepted l now ∈ s.log ∧ l.leaseId = lease.leaseId ∧ now < l.expiresAt ∧
      .revoked lease.leaseId ∉ s.log ∧ .timedOut lease.leaseId ∉ s.log := by
  have tracked := r.tracked
  obtain ⟨lease, l, now, ⟨request, last, given⟩, reported, accepted, same⟩ :=
    tracked.jobs job j id t here found completed
  obtain ⟨sent, _⟩ := mem_submissions.1 (List.mem_of_mem_head? last)
  obtain ⟨_, _, alive, kept⟩ := tracked.book.leases.accepted l now accepted
  obtain ⟨intime, _⟩ := tracked.book.accepted l now accepted
  refine ⟨request, lease, l, now, last, reported, given, ?_, accepted, same, alive, same ▸ kept, same ▸ intime⟩
  intro request' lease' sent' again
  exact (tracked.book.distinct request' lease' request lease sent' sent again).1

/-- A text and what is made of it. -/
def draft : WorkflowDefinition where
  name := "draft"
  tasks := [{ id := "text", type := "text" }, { id := "voice", type := "text", dependencies := ["text"] }]

/-- The draft is completed, its text revised, and both tasks run again. -/
def revisedRun : Engine := runs (fun _ => 0) {}
  [.create draft ∅, .register "n" ["text"] {} ∅, .start 0 true, .result "n" 0 (.ok (.json (.str "old"))),
    .tick true, .result "n" 1 (.ok (.json (.num 1))), .tick true, .pause 0, .revise 0 "text" ∅ 1,
    .resume 0 true, .result "n" 2 (.ok (.json (.str "new"))), .tick true,
    .result "n" 3 (.ok (.json (.num 2))), .tick true]

theorem outputs_are_fresh_revised : ∃ j t request lease, revisedRun.jobs.get? 0 = some j ∧
    j.tasks.get? "voice" = some t ∧ t.revision = 2 ∧ t.output = .num 2 ∧
    (submissions revisedRun.log 0 "voice" 2).head? = some (request, lease) ∧
    .reported lease.leaseId (.json t.output) ∈ revisedRun.log ∧
    request.payload.dependencies = j.outputs t ∧ .timedOut lease.leaseId ∉ revisedRun.log := by
  have record : (revisedRun.task? 0 "voice").map (fun t => (t.status, t.revision, t.output)) =
      some (.completed, 2, .num 2) := by
    decide +kernel
  obtain ⟨t, found, is⟩ := Option.map_eq_some_iff.1 record
  obtain ⟨j, here, listed⟩ := Engine.task?_eq_some.1 found
  simp only [Prod.mk.injEq] at is
  obtain ⟨completed, revision, output⟩ := is
  obtain ⟨request, lease, l, now, last, reported, given, _, _, _, _, _, intime⟩ :=
    outputs_are_fresh (reachable_empty _) here listed completed
  rw [revision] at last
  exact ⟨j, t, request, lease, here, listed, revision, output, last, reported, given, intime⟩

end Vertep.Workflow
