import Vertep.Workflow.Order

/-!
# Approvals (`core/workflow/engine.py`)

`approve_task` asks nothing of the job and nothing is taken back after a decision, so a gate holds from
the dispatch on only as far as nobody decides again. What remains is said with the log: behind every
approval that is not there any more stands a rejection, made when the job had been completed, or when the
dependent task had been started.
-/

namespace Vertep.Workflow
open Lib Queue

variable {clock : ℕ → ℚ}

/-- The record `t` of the task `id` is rejected, by a decision on its revision, made when the job was as
`Before` says. -/
structure RejectedWhen (log : List Event) (job : JobId) (id : TaskId) (t : WorkflowTask)
    (Before : WorkflowJob → Prop) : Prop where
  rejected : t.approval = .rejected
  decided : ∃ before t₀, .decided id false before ∈ log ∧ before.id = job ∧
    before.tasks.get? id = some t₀ ∧ t₀.revision = t.revision ∧ Before before

/-- Approved, or rejected since. -/
def ApprovedUntil (log : List Event) (job : JobId) (id : TaskId) (t : WorkflowTask)
    (Before : WorkflowJob → Prop) : Prop :=
  t.approval = .approved ∨ RejectedWhen log job id t Before

/-- The task `id` is running or completed, in this revision and in this attempt: it has not been dispatched since. -/
def WorkflowJob.Works (id : TaskId) (revision attempts : ℕ) (j : WorkflowJob) : Prop :=
  ∃ t, j.tasks.get? id = some t ∧ t.revision = revision ∧ t.attempts = attempts ∧
    (t.status = .running ∨ t.status = .completed)

/-- What is left of the gates of a job. -/
structure Gated (log : List Event) (j : WorkflowJob) : Prop where
  completed : j.status = .completed → ∀ id t, j.tasks.get? id = some t →
    t.status.Done ∧ ApprovedUntil log j.id id t fun before => before.status = .completed
  started : ∀ id t, j.tasks.get? id = some t → t.status = .running ∨ t.status = .completed →
    ∀ dep ∈ t.dependencies, ∃ d, j.tasks.get? dep = some d ∧ d.status.Done ∧
      ApprovedUntil log j.id dep d (WorkflowJob.Works id t.revision t.attempts)

variable {job : JobId} {id : TaskId} {t t' : WorkflowTask}

lemma ApprovedUntil.grows {log log' : List Event} {Before : WorkflowJob → Prop} (h : ApprovedUntil log job id t Before) (more : log ⊆ log') :
    ApprovedUntil log' job id t Before := by
  apply h.imp_right
  rintro ⟨rejected, before, t₀, member, rest⟩
  exact ⟨rejected, before, t₀, more member, rest⟩

variable {j : WorkflowJob}

lemma ApprovedUntil.move {s s' : Engine} {Before : WorkflowJob → Prop} (h : ApprovedUntil s'.log j.id id t Before) (done : t.status.Done)
    (found : j.tasks.get? id = some t) (move : TaskMove s s' job j id t t') (now : Before j) :
    ApprovedUntil s'.log j.id id t' Before := by
  have idle {status : TaskStatus} (is : t.status = status) (other : ¬ status.Done) : False :=
    other (is ▸ done)
  cases move with
  | annotate =>
    apply h.imp_right
    rintro ⟨rejected, decided⟩
    exact ⟨rejected, decided⟩
  | decide approved is member =>
    cases approved with
    | true => exact .inl rfl
    | false => exact .inr ⟨rfl, j, t, member, rfl, found, rfl, now⟩
  | skip _ is | send _ _ is | complete _ is | lapse _ _ is | stop _ is => exact (idle is (by decide)).elim

lemma TaskMove.works {s s' : Engine} (m : TaskMove s s' job j id t t') (after : t'.status = .running ∨ t'.status = .completed) :
    (t'.revision = t.revision ∧ t'.attempts = t.attempts ∧ (t.status = .running ∨ t.status = .completed)) ∨
      t.status = .pending ∧ j.ready t = true := by
  cases m with
  | complete _ is | lapse _ _ is => exact .inl ⟨rfl, rfl, .inl is⟩
  | annotate => exact .inl ⟨rfl, rfl, after⟩
  | skip _ is ready | send _ _ is ready => exact .inr ⟨is, ready⟩
  | stop _ is => exact .inl ⟨rfl, rfl, .inl is⟩
  | decide _ is => exact .inl ⟨rfl, rfl, .inr is⟩

lemma Gated.task {s s' : Engine} (h : Gated s'.log j) {f : WorkflowTask → WorkflowTask} (found : j.tasks.get? id = some t) (move : TaskMove s s' job j id t (f t)) :
    Gated s'.log (j.update id f) := by
  -- a done task stays done; its approval goes only by a decision on the job as it is now
  have kept {dep : TaskId} {d : WorkflowTask} {Before : WorkflowJob → Prop} (there : j.tasks.get? dep = some d)
      (done : d.status.Done) (gate : ApprovedUntil s'.log j.id dep d Before) (now : id = dep → Before j) :
      ∃ d', (j.update id f).tasks.get? dep = some d' ∧ d'.status.Done ∧
        ApprovedUntil s'.log j.id dep d' Before := by
    by_cases same : id = dep
    · subst same
      cases found.symm.trans there
      refine ⟨f t, by simp [found], ?_, gate.move done found move (now rfl)⟩
      rwa [(move.done done).1]
    · exact ⟨d, by simp [same, there], done, gate⟩
  constructor
  · intro completed id' t' found'
    rw [WorkflowJob.status_update] at completed
    rw [WorkflowJob.id_update]
    obtain ⟨t₀, before⟩ : ∃ t₀, j.tasks.get? id' = some t₀ := by
      rw [WorkflowJob.get?_update] at found'
      split at found'
      · rename_i same
        exact ⟨t, same ▸ found⟩
      · exact ⟨t', found'⟩
    obtain ⟨done, gate⟩ := h.completed completed id' t₀ before
    obtain ⟨d', after, done, gate⟩ := kept before done gate fun _ => completed
    cases after.symm.trans found'
    exact ⟨done, gate⟩
  · intro id' t' found' works dep member
    rw [WorkflowJob.id_update]
    rw [WorkflowJob.get?_update] at found'
    split at found'
    · rename_i same
      subst same
      rw [found, Option.map_some] at found'
      cases found'
      rw [move.dependencies] at member
      rcases move.works works with ⟨revision, attempts, before⟩ | ⟨waiting, ready⟩
      · rw [revision, attempts]
        obtain ⟨d, there, done, gate⟩ := h.started id t found before dep member
        exact kept there done gate fun _ => ⟨t, found, rfl, rfl, before⟩
      · obtain ⟨d, there, done, approved⟩ := WorkflowJob.ready_iff.1 ready dep member
        refine kept there done (.inl approved) fun same => ?_
        subst same
        cases found.symm.trans there
        exact absurd done (by rw [waiting]; decide)
    · obtain ⟨d, there, done, gate⟩ := h.started id' t' found' works dep member
      exact kept there done gate fun _ => ⟨t', found', rfl, rfl, works⟩

lemma Gated.revise {log : List Event} (h : Gated log j) {affected : List TaskId}
    {tasks : Dict TaskId WorkflowTask} (closed : j.Closed affected) (paused : j.status = .paused)
    (values : ∀ key, tasks.get? key = (j.tasks.get? key).map fun t =>
      if key ∈ affected then t.reset (j.firstApproval key) else t) (definition : WorkflowDefinition) :
    Gated log { j with definition := definition, tasks := tasks } := by
  constructor
  · intro completed
    exact absurd (paused.symm.trans completed) (by decide)
  · intro id t' found works dep member
    rw [show Dict.get? _ id = _ from values id] at found
    obtain ⟨t, before, is⟩ := Option.map_eq_some_iff.1 found
    split at is
    · subst is
      rcases works with is | is <;> cases is
    · rename_i outside
      subst is
      obtain ⟨d, there, done, gate⟩ := h.started id t before works dep member
      refine ⟨d, ?_, done, gate⟩
      rw [show Dict.get? _ dep = _ from values dep, there, Option.map_some, if_neg]
      intro reached
      exact outside (closed id t before dep member reached)

lemma gated_jobInvariant : JobInvariant ⊤ Gated where
  grows := by
    intro log log' j more h
    constructor
    · intro completed id t found
      obtain ⟨done, gate⟩ := h.completed completed id t found
      exact ⟨done, gate.grows more⟩
    · intro id t found works dep member
      obtain ⟨d, there, done, gate⟩ := h.started id t found works dep member
      exact ⟨d, there, done, gate.grows more⟩
  created := by
    intro _ definition job params _
    constructor
    · intro completed
      cases completed
    · intro id t found works
      obtain ⟨d, _, _, rfl⟩ := WorkflowDefinition.newJob_task found
      rcases works with is | is <;> cases is
  loaded := by
    intro log j h
    have loaded {dep : TaskId} {d : WorkflowTask} {Before : WorkflowJob → Prop}
        (there : j.tasks.get? dep = some d) (done : d.status.Done) (gate : ApprovedUntil log j.id dep d Before) :
        ∃ d', j.load.tasks.get? dep = some d' ∧ d'.status.Done ∧ ApprovedUntil log j.id dep d' Before := by
      obtain ⟨f, loaded, is⟩ := j.get?_load dep
      obtain ⟨error, is⟩ := is d
      refine ⟨f d, by rw [loaded, there, Option.map_some], by rwa [is], ?_⟩
      rw [is]
      exact gate.imp_right fun ⟨rejected, decided⟩ => ⟨rejected, decided⟩
    constructor
    · intro completed id t found
      obtain ⟨t₀, _, before, rfl⟩ := WorkflowJob.load_task found
      have completed : j.status = .completed := by
        unfold WorkflowJob.load at completed
        dsimp only at completed
        split at completed
        · cases completed
        · exact completed
      obtain ⟨done, gate⟩ := h.completed completed id t₀ before
      obtain ⟨d', after, done, gate⟩ := loaded before done gate
      cases after.symm.trans found
      exact ⟨done, gate⟩
    · intro id t found works dep member
      obtain ⟨t₀, _, before, rfl⟩ := WorkflowJob.load_task found
      obtain ⟨d, there, done, gate⟩ := h.started id t₀ before works dep member
      exact loaded there done gate
  moved := by
    intro s s' job j j' h m
    cases m with
    | task id found move => exact h.task found move
    | progress => exact ⟨h.completed, h.started⟩
    | @status status change =>
      refine ⟨fun completed id t found => ?_, h.started⟩
      dsimp only at completed
      subst completed
      have finished : j.tasks.values.all (fun t => t.status.Done && t.approval = .approved) = true := change.2
      have both := List.all_eq_true.1 finished t (Dict.mem_values_iff.2 ⟨id, found⟩)
      simp only [Bool.and_eq_true, decide_eq_true_eq] at both
      exact ⟨both.1, .inl both.2⟩
    | revise id inputs paused closed keys values => exact h.revise closed paused values _

/-- In a completed job every task is completed or skipped, and approved unless it was rejected when the
job had been completed. A running or completed task has approved dependencies, unless they were rejected
when it was running or completed in its present revision and attempt: no attempt is dispatched on a rejected one. -/
theorem approvals_hold {s : Engine} (r : Reachable clock s) {job : JobId} {j : WorkflowJob}
    (here : s.jobs.get? job = some j) :
    (j.status = .completed → ∀ id t, j.tasks.get? id = some t →
      (t.status = .completed ∨ t.status = .skipped) ∧
        ApprovedUntil s.log job id t fun before => before.status = .completed) ∧
    ∀ id t, j.tasks.get? id = some t → t.status = .running ∨ t.status = .completed →
      ∀ dep ∈ t.dependencies, ∃ d, j.tasks.get? dep = some d ∧
        ApprovedUntil s.log job dep d (WorkflowJob.Works id t.revision t.attempts) := by
  have gated := (r.jobs gated_jobInvariant).jobs job j here
  have same := r.job_id here
  subst same
  refine ⟨gated.completed, fun id t found works dep member => ?_⟩
  obtain ⟨d, there, _, gate⟩ := gated.started id t found works dep member
  exact ⟨d, there, gate⟩

/-- Two tasks, the second after the first. -/
def chain : WorkflowDefinition where
  name := "chain"
  tasks := [{ id := "a", type := "text" }, { id := "b", type := "text", dependencies := ["a"] }]

/-- The chain is completed, and its first task rejected afterwards. -/
def rejectedRun : Engine := runs (fun _ => 0) {}
  [.create chain ∅, .register "n" ["text"] {} ∅, .start 0 true, .result "n" 0 (.ok (.json .null)), .tick true,
    .result "n" 1 (.ok (.json .null)), .tick true, .approve 0 "a" false none]

lemma rejectedRun_task (id : TaskId) {t : TaskStatus × Approval × List TaskId}
    (record : (rejectedRun.task? 0 id).map (fun t => (t.status, t.approval, t.dependencies)) = some t) :
    ∃ j t', rejectedRun.jobs.get? 0 = some j ∧ j.tasks.get? id = some t' ∧
      (t'.status, t'.approval, t'.dependencies) = t := by
  obtain ⟨t', found, is⟩ := Option.map_eq_some_iff.1 record
  obtain ⟨j, here, found⟩ := Engine.task?_eq_some.1 found
  exact ⟨j, t', here, found, is⟩

theorem approvals_hold_rejected : ∃ j t, rejectedRun.jobs.get? 0 = some j ∧ j.tasks.get? "b" = some t ∧
    t.status = .completed ∧ ∃ d, j.tasks.get? "a" = some d ∧ d.approval = .rejected ∧
      ApprovedUntil rejectedRun.log 0 "a" d (WorkflowJob.Works "b" t.revision t.attempts) := by
  obtain ⟨j, t, here, found, is⟩ := rejectedRun_task "b" (t := (.completed, .approved, ["a"])) (by decide +kernel)
  obtain ⟨j', a, here', there, rejected⟩ :=
    rejectedRun_task "a" (t := (.completed, .rejected, [])) (by decide +kernel)
  cases here.symm.trans here'
  simp only [Prod.mk.injEq] at is rejected
  obtain ⟨d, there', gate⟩ := (approvals_hold (reachable_empty _) here).2 "b" t found (.inr is.1) "a"
    (by rw [is.2.2]; exact List.mem_singleton_self _)
  cases there.symm.trans there'
  exact ⟨j, t, here, found, is.1, a, there, rejected.2.1, gate⟩

/-- A completed job whose first task is rejected, while the task that depends on it is completed. -/
theorem approvals_do_not_hold : Reachable (fun _ => 0) rejectedRun ∧
    ∃ j a b, rejectedRun.jobs.get? 0 = some j ∧ j.status = .completed ∧
      j.tasks.get? "a" = some a ∧ a.approval = .rejected ∧
      j.tasks.get? "b" = some b ∧ b.status = .completed ∧ "a" ∈ b.dependencies := by
  refine ⟨reachable_empty _, ?_⟩
  obtain ⟨j, b, here, found, is⟩ := rejectedRun_task "b" (t := (.completed, .approved, ["a"])) (by decide +kernel)
  obtain ⟨j', a, here', there, rejected⟩ :=
    rejectedRun_task "a" (t := (.completed, .rejected, [])) (by decide +kernel)
  cases here.symm.trans here'
  have status : (rejectedRun.jobs.get? 0).map (·.status) = some .completed := by decide +kernel
  rw [here, Option.map_some] at status
  simp only [Prod.mk.injEq] at is rejected
  refine ⟨j, a, b, here, Option.some.inj status, there, rejected.2.1, found, is.1, ?_⟩
  rw [is.2.2]
  exact List.mem_singleton_self _

end Vertep.Workflow
