import Vertep.Workflow.Approvals
import Vertep.Workflow.Exclusivity

/-!
# Revisions (`core/workflow/engine.py`)

What `revise_task` resets and what it leaves: the tasks downstream of the revised one lose their output and their
leases, nothing else changes. The document of the job is written last. What writing it raises comes too late, the
revision is in memory by then; so the writing is a parameter here.
-/

namespace Vertep.Workflow
open Lib Queue Command
open Relation (ReflTransGen)

/-- `self.state.save_job(job_id, job)`, where writing the document may raise. -/
def writeJob (writes : WorkflowJob → Option Failure) (job : JobId) : EngineM Unit := do
  let s ← read
  match (s.jobs.get? job).bind writes with
  | some e => raise e
  | none => saveJob job

/-- `WorkflowEngine.revise_task`; inputs that are no object are `none`. -/
def revise (writes : WorkflowJob → Option Failure) (job : JobId) (id : TaskId) (inputs : Option (Dict String Json))
    (expectedRevision : ℕ) : EngineM Unit := do
  let j ← jobOf job
  if j.status ≠ .paused then raise (.valueError "Pause workflow before revising a stage")
  else match inputs with
    | none => raise (.valueError "Invalid input or stale workflow revision")
    | some inputs => do
      let task ← taskOf job id
      if task.revision ≠ expectedRevision then raise (.valueError "Invalid input or stale workflow revision")
      else do
        write fun s => s.updateJob job fun j => j.setInput id inputs
        forEach (resetTask job) (j.downstream (j.tasks.keys.length + 1) [id])
        writeJob writes job

/-! ## Downstream -/

namespace WorkflowJob

variable {j : WorkflowJob} {id key : TaskId}

/-- An edge of the graph: a task of the job depends on `dep`. -/
def Depends (j : WorkflowJob) (dep key : TaskId) : Prop :=
  ∃ task, j.tasks.get? key = some task ∧ dep ∈ task.dependencies

abbrev Downstream (j : WorkflowJob) : TaskId → TaskId → Prop := ReflTransGen j.Depends

lemma downstream_sound (rounds : ℕ) {affected : List TaskId} (reached : ∀ key ∈ affected, j.Downstream id key) :
    ∀ key ∈ j.downstream rounds affected, j.Downstream id key := by
  induction rounds generalizing affected with
  | zero => exact reached
  | succ rounds ih =>
    rw [downstream]
    split
    · exact reached
    · apply ih
      intro key member
      obtain ⟨task, found, old | ⟨dep, among, old⟩⟩ := mem_expand.1 member
      · exact reached key old
      · exact (reached dep old).tail ⟨task, found, among⟩

lemma subset_downstream (rounds : ℕ) {affected : List TaskId} (known : ∀ key ∈ affected, key ∈ j.tasks.keys) :
    ∀ key ∈ affected, key ∈ j.downstream rounds affected := by
  induction rounds generalizing affected with
  | zero => exact fun _ member => member
  | succ rounds ih =>
    intro key member
    rw [downstream]
    split
    · exact member
    · obtain ⟨task, found⟩ := Dict.mem_keys_iff.1 (known key member)
      exact ih (fun key member => (List.mem_filter.1 member).1) key (mem_expand.2 ⟨task, found, .inl member⟩)

lemma mem_downstream (known : id ∈ j.tasks.keys) :
    key ∈ j.downstream (j.tasks.keys.length + 1) [id] ↔ j.Downstream id key := by
  constructor
  · apply downstream_sound
    intro key member
    rw [List.mem_singleton.1 member]
  · intro reached
    induction reached with
    | refl =>
      refine subset_downstream _ (fun key member => ?_) id List.mem_cons_self
      rwa [List.mem_singleton.1 member]
    | tail _ edge ih =>
      obtain ⟨task, found, among⟩ := edge
      exact j.downstream_closed known _ task found _ among ih

/-- The job that a revision leaves. -/
def revised (j : WorkflowJob) (id : TaskId) (inputs : Dict String Json) : WorkflowJob :=
  { j with
    definition := (j.setInput id inputs).definition
    tasks := j.tasks.map fun key t =>
      if key ∈ j.downstream (j.tasks.keys.length + 1) [id] then t.reset (j.firstApproval key) else t }

end WorkflowJob

/-! ## Leases -/

/-- The dispatch of a running task among these. -/
def WorkflowJob.Dispatches (j : WorkflowJob) (among : TaskId → Prop) (d : DispatchId) : Prop :=
  ∃ key t sent, among key ∧ j.tasks.get? key = some t ∧ t.status = .running ∧ t.dispatched = some sent ∧
    sent.dispatchId = d

/-- The leases of these tasks are revoked, and no others. -/
structure Revoked (j : WorkflowJob) (among : TaskId → Prop) (s s' : Engine) : Prop where
  revoked : ∀ d, j.Dispatches among d → s'.lease? d = none
  kept : ∀ d, ¬ j.Dispatches among d → s'.lease? d = s.lease? d

@[simp] lemma lease?_updateTask (s : Engine) (job : JobId) (id : TaskId) (f : WorkflowTask → WorkflowTask)
    (d : DispatchId) : (s.updateTask job id f).lease? d = s.lease? d := by
  obtain ⟨jobs, is, _⟩ := s.updateJob_eq job fun j => j.update id f
  rw [Engine.updateTask, is]

lemma resetTask_lease {s s' : Engine} {job : JobId} {id : TaskId} {task : WorkflowTask}
    (found : s.task? job id = some task) (run : resetTask job id s = (.ok (), s')) (d : DispatchId) :
    s'.lease? d =
      if task.status = .running ∧ task.dispatched.map (·.dispatchId) = some d then none else s.lease? d := by
  rw [resetTask] at run
  obtain ⟨j, s₁, first, run⟩ := bind_eq_ok.1 run
  rcases jobOf_cases job s with ⟨⟨e, raised⟩, _⟩ | ⟨j', _, read⟩
  · cases raised.symm.trans first
  cases read.symm.trans first
  obtain ⟨task', s₂, second, run⟩ := bind_eq_ok.1 run
  rcases taskOf_cases job id s with ⟨⟨e, raised⟩, _⟩ | ⟨t, found', read⟩
  · cases raised.symm.trans second
  cases read.symm.trans second
  cases found.symm.trans found'
  obtain ⟨_, s₃, stopped, run⟩ := bind_eq_ok.1 run
  have leases : s₃.lease? d =
      if task.status = .running ∧ task.dispatched.map (·.dispatchId) = some d then none else s.lease? d := by
    unfold when at stopped
    split at stopped
    · rename_i running
      unfold revokeAttempt at stopped
      cases dispatched : task.dispatched with
      | none =>
        rw [dispatched] at stopped
        cases stopped
      | some sent =>
        rw [dispatched] at stopped
        obtain ⟨_, s₄, revoked, last⟩ := bind_eq_ok.1 stopped
        have after := lease?_revokeTask sent.dispatchId d s
        rw [revoked] at after
        cases last
        simpa [running] using after
    · rename_i idle
      cases stopped
      rw [if_neg fun both => idle both.1]
  cases defined : j.definitionOf id with
  | none =>
    rw [defined] at run
    cases run
  | some definition =>
    rw [defined] at run
    cases run
    rw [lease?_updateTask, leases]

lemma resetTasks_revoke {s : Engine} {job : JobId} {j : WorkflowJob} {definition : WorkflowDefinition}
    (sound : j.Sound) (approval : ∀ id ∈ j.tasks.keys, ∀ tasks, ∃ d,
      WorkflowJob.definitionOf { j with definition := definition, tasks := tasks } id = some d ∧
        d.firstApproval = j.firstApproval id)
    (ids : List TaskId) (nodup : ids.Nodup) (known : ∀ id ∈ ids, id ∈ j.tasks.keys) {done : List TaskId}
    (new : ∀ id ∈ ids, id ∉ done) {s' : Engine} (h : Revises job done definition j s s')
    (r : Revoked j (· ∈ done) s s') :
    ∃ s'', forEach (resetTask job) ids s' = (.ok (), s'') ∧
      Revises job (ids.reverse ++ done) definition j s s'' ∧ Revoked j (· ∈ ids.reverse ++ done) s s'' := by
  induction ids generalizing done s' with
  | nil => exact ⟨s', rfl, h, r⟩
  | cons id ids ih =>
    obtain ⟨fresh, nodup⟩ := List.nodup_cons.1 nodup
    obtain ⟨s₁, run, h₁⟩ := resetTask_ends sound (known id List.mem_cons_self) (new id List.mem_cons_self)
      (approval id (known id List.mem_cons_self)) h
    have r₁ : Revoked j (· ∈ id :: done) s s₁ := by
      obtain ⟨task, found⟩ := Dict.mem_keys_iff.1 (known id List.mem_cons_self)
      have there : s'.task? job id = some task := by
        obtain ⟨tasks, here, _, values⟩ := h.revised
        rw [Engine.task?, here, Option.bind_some]
        show tasks.get? id = _
        rw [values, found, Option.map_some, if_neg (new id List.mem_cons_self)]
      have lease := resetTask_lease there run
      have more (d : DispatchId) : j.Dispatches (· ∈ id :: done) d ↔ j.Dispatches (· ∈ done) d ∨
          task.status = .running ∧ task.dispatched.map (·.dispatchId) = some d := by
        constructor
        · intro ⟨key, t, sent, member, found', running, is, same⟩
          rcases List.mem_cons.1 member with rfl | old
          · cases found.symm.trans found'
            exact .inr ⟨running, by rw [is, Option.map_some, same]⟩
          · exact .inl ⟨key, t, sent, old, found', running, is, same⟩
        · intro dispatches
          rcases dispatches with ⟨key, t, sent, old, rest⟩ | ⟨running, is⟩
          · exact ⟨key, t, sent, List.mem_cons_of_mem _ old, rest⟩
          · obtain ⟨sent, is, same⟩ := Option.map_eq_some_iff.1 is
            exact ⟨id, task, sent, List.mem_cons_self, found, running, is, same⟩
      constructor
      · intro d dispatches
        rw [lease]
        split
        · rfl
        · rename_i other
          rcases (more d).1 dispatches with old | this_
          · exact r.revoked d old
          · exact absurd this_ other
      · intro d none_
        rw [lease, if_neg fun this_ => none_ ((more d).2 (.inr this_))]
        exact r.kept d fun old => none_ ((more d).2 (.inl old))
    have new : ∀ other ∈ ids, other ∉ id :: done := fun other member =>
      List.not_mem_cons_of_ne_of_not_mem (fun same => fresh (same ▸ member)) (new other (List.mem_cons_of_mem _ member))
    obtain ⟨s₂, rest, h₂, r₂⟩ := ih nodup (fun id member => known id (List.mem_cons_of_mem _ member)) new h₁ r₁
    refine ⟨s₂, ?_, ?_, ?_⟩
    · rw [forEach, bind_of_ok run, rest]
    · rwa [List.reverse_cons, List.append_assoc]
    · rwa [List.reverse_cons, List.append_assoc]

/-! ## The call -/

/-- What a revision makes of a task: it is pending in its next revision, without output and attempts, and its history
has one entry more. -/
structure WorkflowTask.Invalidates (t t' : WorkflowTask) : Prop where
  status : t'.status = .pending
  revision : t'.revision = t.revision + 1
  output : t'.output = .null
  attempts : t'.attempts = 0
  history : t'.history = t.history ++ [⟨t.revision, t.output, t.approval⟩]
  dependencies : t'.dependencies = t.dependencies

/-- The call is for a paused job, a task of it in its current revision, and an object. -/
structure Accepted (s : Engine) (job : JobId) (id : TaskId) (inputs? : Option (Dict String Json)) (revision : ℕ)
    (j : WorkflowJob) (inputs : Dict String Json) : Prop where
  here : s.jobs.get? job = some j
  paused : j.status = .paused
  object : inputs? = some inputs
  current : ∃ task, j.tasks.get? id = some task ∧ task.revision = revision

/-- What a revision is to do. -/
structure Revision (job : JobId) (id : TaskId) (inputs : Dict String Json) (j j' : WorkflowJob) (s s' : Engine) :
    Prop where
  here : s'.jobs.get? job = some j'
  others : ∀ other, other ≠ job → s'.jobs.get? other = s.jobs.get? other
  rest : j' = { j with definition := j'.definition, tasks := j'.tasks }
  keys : j'.tasks.keys = j.tasks.keys
  reset : ∀ key t, j.Downstream id key → j.tasks.get? key = some t →
    ∃ t', j'.tasks.get? key = some t' ∧ t.Invalidates t'
  kept : ∀ key, ¬ j.Downstream id key → j'.tasks.get? key = j.tasks.get? key
  input : j'.definition = { j.definition with tasks := j.definition.tasks.map fun d =>
    if d.id = id then { d with input := inputs } else d }
  leases : Revoked j (j.Downstream id) s s'
  attempts : ∀ key, s'.attempts.get? key = s.attempts.get? key ∨
    s'.attempts.get? key = none ∧ key.1 = job ∧ j.Downstream id key.2
  stopped : ∀ key t, j.Downstream id key → j.tasks.get? key = some t → t.status = .running →
    s'.attempts.get? (job, key) = none

section
variable (writes : WorkflowJob → Option Failure) (job : JobId) (id : TaskId) (inputs? : Option (Dict String Json))
  (revision : ℕ) (s : Engine)

/-- The call revises what it accepts, or it raises and nothing changes. What it accepts it raises for only when the
document cannot be written. -/
def Revising : Prop :=
  match revise writes job id inputs? revision s with
  | (.ok _, s') => ∃ j inputs, Accepted s job id inputs? revision j inputs ∧ ∃ j', Revision job id inputs j j' s s'
  | (.error e, s') => s' = s ∧
    ∀ j inputs, Accepted s job id inputs? revision j inputs → writes (j.revised id inputs) = some e

def Writable : Prop :=
  ∀ j inputs, Accepted s job id inputs? revision j inputs → writes (j.revised id inputs) = none

variable {job id inputs? revision s}

lemma revise_refused (refused : ∀ j inputs, ¬ Accepted s job id inputs? revision j inputs) :
    ∃ e, revise writes job id inputs? revision s = (.error e, s) := by
  rw [revise]
  rcases jobOf_cases job s with ⟨⟨e, run⟩, _⟩ | ⟨j, here, run⟩
  · exact ⟨e, by rw [bind_of_error run]⟩
  rw [bind_of_ok run]
  split
  · exact ⟨_, rfl⟩
  rename_i paused
  cases inputs? with
  | none => exact ⟨_, rfl⟩
  | some inputs =>
    show ∃ e, (taskOf job id >>= _) s = _
    rcases taskOf_cases job id s with ⟨⟨e, run⟩, _⟩ | ⟨task, found, run⟩
    · exact ⟨e, by rw [bind_of_error run]⟩
    · rw [bind_of_ok run]
      split
      · exact ⟨_, rfl⟩
      · rename_i current
        rw [Engine.task?, here, Option.bind_some] at found
        exact absurd ⟨here, not_not.1 paused, rfl, task, found, not_not.1 current⟩ (refused j inputs)

lemma invalidates_reset (t : WorkflowTask) (approval : Approval) : t.Invalidates (t.reset approval) :=
  ⟨rfl, rfl, rfl, rfl, rfl, rfl⟩

variable {j : WorkflowJob} {inputs : Dict String Json}

lemma revise_accepted (sound : j.Sound) (accepted : Accepted s job id inputs? revision j inputs) :
    ∃ s₁, revise writes job id inputs? revision s = writeJob writes job s₁ ∧
      Revision job id inputs j (j.revised id inputs) s s₁ := by
  obtain ⟨here, paused, rfl, task, found, current⟩ := accepted
  have known : id ∈ j.tasks.keys := Dict.mem_keys_iff.2 ⟨task, found⟩
  have only : ∀ key ∈ [id], key ∈ j.tasks.keys := by
    intro key member
    rwa [List.mem_singleton.1 member]
  obtain ⟨affected, is⟩ : ∃ affected, j.downstream (j.tasks.keys.length + 1) [id] = affected := ⟨_, rfl⟩
  have reached {key : TaskId} : key ∈ affected ↔ j.Downstream id key := by
    rw [← is]
    exact WorkflowJob.mem_downstream known
  obtain ⟨s₁, run, h, r⟩ := resetTasks_revoke sound (sound.approval id inputs) affected
    (is ▸ j.downstream_nodup _ (List.nodup_singleton id)) (is ▸ j.downstream_known _ only)
    (fun _ _ => List.not_mem_nil) (revises_setInput here id inputs)
    ⟨fun d ⟨_, _, _, none_, _⟩ => absurd none_ List.not_mem_nil, fun d _ => by
      obtain ⟨jobs, same, _⟩ := s.updateJob_eq job fun j => j.setInput id inputs
      rw [same]⟩
  rw [List.append_nil] at h r
  have again {key : TaskId} : key ∈ affected.reverse ↔ j.Downstream id key := List.mem_reverse.trans reached
  obtain ⟨tasks, after, keys, values⟩ := h.revised
  have made : { j with definition := (j.setInput id inputs).definition, tasks := tasks } = j.revised id inputs := by
    have same : tasks = (j.revised id inputs).tasks := by
      apply Dict.ext_get?
      · rw [keys]
        exact (Dict.keys_map _ _).symm
      · intro key
        rw [values, WorkflowJob.revised, Dict.get?_map, is]
        congr 1
        funext t
        simp only [List.mem_reverse]
    rw [same]
    rfl
  rw [made] at after
  have value (key : TaskId) : (j.revised id inputs).tasks.get? key = (j.tasks.get? key).map fun t =>
      if key ∈ affected.reverse then t.reset (j.firstApproval key) else t := by
    rw [← made]
    exact values key
  refine ⟨s₁, ?_, after, h.others, rfl, ?_, fun key t down found => ?_, fun key other => ?_, rfl, ?_, fun key => ?_,
    fun key t down found running => ?_⟩
  · have read : jobOf job s = (.ok j, s) := by
      rcases jobOf_cases job s with ⟨_, none_⟩ | ⟨j', here', read⟩
      · cases here.symm.trans none_
      · cases here.symm.trans here'
        exact read
    have read' : taskOf job id s = (.ok task, s) := by
      rcases taskOf_cases job id s with ⟨_, none_⟩ | ⟨t, found', read⟩
      · rw [Engine.task?, here, Option.bind_some, found] at none_
        cases none_
      · rw [Engine.task?, here, Option.bind_some] at found'
        cases found.symm.trans found'
        exact read
    rw [revise, bind_of_ok read, if_neg (not_not.2 paused)]
    show (taskOf job id >>= _) s = _
    rw [bind_of_ok read', if_neg (not_not.2 current), write_bind, is, bind_of_ok run]
  · exact Dict.keys_map _ _
  · refine ⟨t.reset (j.firstApproval key), ?_, invalidates_reset t _⟩
    rw [value, found, Option.map_some, if_pos (again.2 down)]
  · rw [value]
    cases j.tasks.get? key with
    | none => rfl
    | some t => rw [Option.map_some, if_neg fun member => other (again.1 member)]
  · rwa [show (· ∈ affected.reverse) = j.Downstream id from funext fun key => propext again] at r
  · exact (h.attempts key).imp_right fun ⟨none_, same, member⟩ => ⟨none_, same, again.1 member⟩
  · exact h.stopped key t (again.2 down) found running

/-- The call revises exactly what is downstream, or raises and changes nothing, if and only if the document of the
revised job can be written. -/
theorem revision_exact (sound : ∀ j, s.jobs.get? job = some j → j.Sound) :
    Revising writes job id inputs? revision s ↔ Writable writes job id inputs? revision s := by
  by_cases accepted : ∃ j inputs, Accepted s job id inputs? revision j inputs
  · obtain ⟨j, inputs, accepted⟩ := accepted
    have unique {j' : WorkflowJob} {inputs' : Dict String Json}
        (other : Accepted s job id inputs? revision j' inputs') : j' = j ∧ inputs' = inputs := by
      cases other.here.symm.trans accepted.here
      cases other.object.symm.trans accepted.object
      exact ⟨rfl, rfl⟩
    obtain ⟨s₁, run, h⟩ := revise_accepted writes (sound j accepted.here) accepted
    cases document : writes (j.revised id inputs) with
    | none =>
      have wrote : writeJob writes job s₁ = (.ok (), { s₁ with journal := j.revised id inputs :: s₁.journal }) := by
        rw [writeJob, read_bind, h.here, Option.bind_some, document]
        show saveJob job s₁ = _
        simp only [saveJob, write, h.here]
      refine iff_of_true ?_ fun j' inputs' other => ?_
      · rw [Revising, run, wrote]
        exact ⟨j, inputs, accepted, _, h.here, h.others, h.rest, h.keys, h.reset, h.kept, h.input,
          ⟨h.leases.revoked, h.leases.kept⟩, h.attempts, h.stopped⟩
      · obtain ⟨rfl, rfl⟩ := unique other
        exact document
    | some e =>
      have failed : writeJob writes job s₁ = (.error e, s₁) := by
        rw [writeJob, read_bind, h.here, Option.bind_some, document]
        rfl
      refine iff_of_false ?_ fun writable => ?_
      · rw [Revising, run, failed]
        intro ⟨same, _⟩
        -- the revised task is in its next revision
        obtain ⟨task, found, _⟩ := accepted.current
        obtain ⟨t', found', invalidates⟩ := h.reset id task .refl found
        have here := h.here
        rw [same, accepted.here] at here
        rw [← Option.some.inj here, found] at found'
        have more := invalidates.revision
        rw [← Option.some.inj found'] at more
        omega
      · cases document.symm.trans (writable j inputs accepted)
  · obtain ⟨e, run⟩ := revise_refused writes fun j inputs h => accepted ⟨j, inputs, h⟩
    refine iff_of_true ?_ fun j inputs h => absurd ⟨j, inputs, h⟩ accepted
    rw [Revising, run]
    exact ⟨rfl, fun j inputs h => absurd ⟨j, inputs, h⟩ accepted⟩

end

def pausedRun : Engine := runs (fun _ => 0) {}
  [.create chain ∅, .register "n" ["text"] {} ∅, .start 0 true, .result "n" 0 (.ok (.json .null)), .tick true, .pause 0]

lemma pausedRun_sound : ∀ j, pausedRun.jobs.get? 0 = some j → j.Sound :=
  fun j here => (Reachable.jobs sound_jobInvariant (reachable_empty _)).jobs 0 j here

lemma pausedRun_accepted (inputs : Dict String Json) :
    ∃ j, Accepted pausedRun 0 "a" (some inputs) 1 j inputs ∧ j.Downstream "a" "b" := by
  have status : (pausedRun.jobs.get? 0).map (·.status) = some .paused := by decide +kernel
  obtain ⟨j, here, paused⟩ := Option.map_eq_some_iff.1 status
  have first : (pausedRun.task? 0 "a").map (·.revision) = some 1 := by decide +kernel
  obtain ⟨a, found, current⟩ := Option.map_eq_some_iff.1 first
  have second : (pausedRun.task? 0 "b").map (·.dependencies) = some ["a"] := by decide +kernel
  obtain ⟨b, found', after⟩ := Option.map_eq_some_iff.1 second
  rw [Engine.task?, here, Option.bind_some] at found found'
  refine ⟨j, ⟨here, paused, rfl, a, found, current⟩, .single ⟨b, found', ?_⟩⟩
  rw [after]
  exact List.mem_singleton_self _

theorem revision_exact_paused : ∃ j j' s', revise (fun _ => none) 0 "a" (some ∅) 1 pausedRun = (.ok (), s') ∧
    pausedRun.jobs.get? 0 = some j ∧ j.Downstream "a" "b" ∧ Revision 0 "a" ∅ j j' pausedRun s' := by
  obtain ⟨j, accepted, down⟩ := pausedRun_accepted ∅
  have revising : Revising (fun _ => none) 0 "a" (some ∅) 1 pausedRun :=
    (revision_exact _ pausedRun_sound).2 fun _ _ _ => rfl
  have ends : (revise (fun _ => none) 0 "a" (some ∅) 1 pausedRun).1 = .ok () := by decide +kernel
  rw [Revising] at revising
  cases run : revise (fun _ => none) 0 "a" (some ∅) 1 pausedRun with
  | mk result s' =>
    rw [run] at ends revising
    cases ends
    obtain ⟨j₁, inputs, accepted₁, j', h⟩ := revising
    cases accepted.here.symm.trans accepted₁.here
    cases accepted₁.object
    exact ⟨j, j', s', rfl, accepted.here, down, h⟩

/-- An input with a lone surrogate; no `String` has one, so the replacement character stands for it. -/
def surrogate : Dict String Json := (∅ : Dict String Json).set "text" (.str "\uFFFD")

/-- The encoding of a document fails where a lone surrogate is in it. -/
def encodes (j : WorkflowJob) : Option Failure :=
  if j.definition.tasks.any (·.input = surrogate) then some (.valueError "surrogates not allowed") else none

/-- The call raises, and yet both tasks are pending in their next revision. -/
theorem revision_kept_in_memory : Reachable (fun _ => 0) pausedRun ∧
    ¬ Revising encodes 0 "a" (some surrogate) 1 pausedRun := by
  obtain ⟨j, accepted, _⟩ := pausedRun_accepted surrogate
  refine ⟨reachable_empty _, fun revising => ?_⟩
  have fails : (pausedRun.jobs.get? 0).map (fun j => (encodes (j.revised "a" surrogate)).isNone) = some false := by
    decide +kernel
  rw [accepted.here, Option.map_some, (revision_exact encodes pausedRun_sound).1 revising j _ accepted] at fails
  cases fails

end Vertep.Workflow
