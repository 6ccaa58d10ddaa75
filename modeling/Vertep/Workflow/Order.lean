import Vertep.Workflow.Runs

/-!
# The order of the tasks (`core/workflow/engine.py`)

A task that is not waiting has all its dependencies done, whatever happened to the job. Only a dispatch
and a skip take a task out of its waiting status, and both look at the dependencies; only a revision
takes a done task back, and it takes back everything downstream of it.
-/

namespace Vertep.Workflow
open Lib Queue

variable {clock : ℕ → ℚ} {R : WorkflowJob → Prop}

/-- Every task that left its waiting status has its dependencies done. -/
def WorkflowJob.Ordered (j : WorkflowJob) : Prop :=
  ∀ id t, j.tasks.get? id = some t → t.status ≠ .pending →
    ∀ dep ∈ t.dependencies, ∃ d, j.tasks.get? dep = some d ∧ d.status.Done

variable {j : WorkflowJob}

lemma WorkflowJob.ready_iff {t : WorkflowTask} : j.ready t = true ↔
    ∀ dep ∈ t.dependencies, ∃ d, j.tasks.get? dep = some d ∧ d.status.Done ∧ d.approval = .approved := by
  unfold ready
  rw [List.all_eq_true]
  refine forall_congr' fun dep => imp_congr_right fun _ => ?_
  cases j.tasks.get? dep with
  | none => simp
  | some d => simp

lemma WorkflowJob.Ordered.update (h : j.Ordered) {id : TaskId} {t : WorkflowTask}
    {f : WorkflowTask → WorkflowTask} (found : j.tasks.get? id = some t)
    (dependencies : (f t).dependencies = t.dependencies) (done : t.status.Done → (f t).status.Done)
    (starts : (f t).status ≠ .pending → t.status ≠ .pending ∨ j.ready t = true) :
    (j.update id f).Ordered := by
  have kept {dep : TaskId} (before : ∃ d, j.tasks.get? dep = some d ∧ d.status.Done) :
      ∃ d, (j.update id f).tasks.get? dep = some d ∧ d.status.Done := by
    obtain ⟨d, there, is⟩ := before
    by_cases same : id = dep
    · subst same
      cases found.symm.trans there
      exact ⟨f t, by simp [found], done is⟩
    · exact ⟨d, by simp [same, there], is⟩
  intro id' t' found' started dep member
  rw [get?_update] at found'
  split at found'
  · rw [found, Option.map_some] at found'
    cases found'
    rw [dependencies] at member
    apply kept
    rcases starts started with started | ready
    · exact h id t found started dep member
    · obtain ⟨d, there, is, _⟩ := ready_iff.1 ready dep member
      exact ⟨d, there, is⟩
  · exact kept (h id' t' found' started dep member)

lemma WorkflowJob.Ordered.revise (h : j.Ordered) {affected : List TaskId}
    {tasks : Dict TaskId WorkflowTask} (closed : j.Closed affected)
    (values : ∀ key, tasks.get? key = (j.tasks.get? key).map fun t =>
      if key ∈ affected then t.reset (j.firstApproval key) else t) (definition : WorkflowDefinition) :
    WorkflowJob.Ordered { j with definition := definition, tasks := tasks } := by
  intro id t' found started dep member
  rw [show Dict.get? _ id = _ from values id] at found
  obtain ⟨t, before, is⟩ := Option.map_eq_some_iff.1 found
  split at is
  · cases is
    exact absurd rfl started
  · rename_i outside
    subst is
    obtain ⟨d, there, done⟩ := h id t before started dep member
    refine ⟨d, ?_, done⟩
    rw [show Dict.get? _ dep = _ from values dep, there, Option.map_some, if_neg]
    intro reached
    exact outside (closed id t before dep member reached)

lemma ordered_jobInvariant : JobInvariant R fun _ => WorkflowJob.Ordered where
  grows := fun _ _ _ _ => id
  created := by
    intro _ definition job params _ id t found started
    obtain ⟨d, _, _, rfl⟩ := WorkflowDefinition.newJob_task found
    exact absurd rfl started
  loaded := by
    intro _ j h id t found started dep member
    obtain ⟨t₀, _, before, rfl⟩ := WorkflowJob.load_task found
    obtain ⟨d, there, done⟩ := h id t₀ before started dep member
    obtain ⟨f, loaded, is⟩ := j.get?_load dep
    obtain ⟨error, is⟩ := is d
    refine ⟨f d, by rw [loaded, there, Option.map_some], ?_⟩
    rwa [is]
  moved := by
    intro _ _ _ j j' h m
    cases m with
    | task id found move =>
      refine h.update found move.dependencies (fun done => ?_) move.starts
      rwa [(move.done done).1]
    | progress => exact h
    | status => exact h
    | revise id inputs paused closed keys values => exact h.revise closed values _

/-- Every task that is running, completed, failed, skipped or cancelled has all its dependencies completed
or skipped. -/
theorem started_tasks_have_dependencies_done {s : Engine} (r : Reachable clock s) {job : JobId}
    {j : WorkflowJob} (here : s.jobs.get? job = some j) {id : TaskId} {t : WorkflowTask}
    (found : j.tasks.get? id = some t)
    (started : t.status ∈ [TaskStatus.running, .completed, .failed, .skipped, .cancelled]) :
    ∀ dep ∈ t.dependencies, ∃ d, j.tasks.get? dep = some d ∧ (d.status = .completed ∨ d.status = .skipped) := by
  have ordered := (r.jobs ordered_jobInvariant).jobs job j here
  apply ordered id t found
  rintro is
  rw [is] at started
  simp at started

/-- Two tasks whose conditions do not hold. -/
def skippedPair : WorkflowDefinition where
  name := "pair"
  tasks := [{ id := "a", condition := some ⟨"extended", .bool true⟩ },
    { id := "b", dependencies := ["a"], condition := some ⟨"extended", .bool true⟩ }]

def skippedRun : Engine := runs (fun _ => 0) {} [.create skippedPair ∅, .start 0 true]

theorem started_tasks_have_dependencies_done_skipped : ∃ j t d, skippedRun.jobs.get? 0 = some j ∧
    j.tasks.get? "b" = some t ∧ t.status = .skipped ∧ t.dependencies = ["a"] ∧
    j.tasks.get? "a" = some d ∧ (d.status = .completed ∨ d.status = .skipped) := by
  obtain ⟨j, here⟩ : ∃ j, skippedRun.jobs.get? 0 = some j := Option.isSome_iff_exists.1 (by decide +kernel)
  have record : (skippedRun.task? 0 "b").map (fun t => (t.status, t.dependencies)) = some (.skipped, ["a"]) := by
    decide +kernel
  rw [Engine.task?, here, Option.bind_some] at record
  obtain ⟨t, found, is⟩ := Option.map_eq_some_iff.1 record
  obtain ⟨status, dependencies⟩ := Prod.mk.inj is
  obtain ⟨d, there, done⟩ := started_tasks_have_dependencies_done (reachable_empty _) here found
    (by rw [status]; decide) "a" (by rw [dependencies]; exact List.mem_singleton_self _)
  exact ⟨j, t, d, here, found, status, dependencies, there, done⟩

end Vertep.Workflow
