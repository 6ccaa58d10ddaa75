import Vertep.Core.Refusals

/-!
# Results that do not count (`core/api/tasks.py`)

A result counts for the node that holds the live lease of its task. `unleased_result_changes_nothing` is
about the others, and `refused_result_changes_nothing` about a result of the lease holder that is
answered with an error: in both cases CORE should stand as before, so that whoever holds the lease can
still answer.
-/

namespace Vertep.Core
open Lib Queue
open Command Act

/-! ## Without the lease -/

/-- A result of a node that does not hold the live lease, where the branch's test stands in its way. -/
theorem unleased_result_changes_nothing (env : Env) (r : TaskResult) (c : System)
    (unleased : ¬ LiveLease env.now c r)
    (fenced : ∀ job, c.jobs.get? r.jobId = some job → Fenced c job r) :
    Untouched c r (taskResult env r c).2 := by
  simp only [taskResult]
  split
  · exact .inl rfl
  cases present : c.jobs.get? r.jobId with
  | none => exact .inl rfl
  | some job =>
    have lease : textTaskLease env.now (c.ctx r.jobId job) r.taskId r.nodeName = false := by
      simpa [textTaskLease, LiveLease, System.ctx] using unleased
    have test := fenced job present
    have stopped (b : Branch) (is : job.branch r.taskId = b)
        (h : Stopped (b.handler env r) (c.ctx r.jobId job)) :
        Untouched c r (c.on r.jobId job (result env r)).2 := by
      refine .inl (System.on_stopped present ?_)
      rw [Stopped, result_eq_handler]
      rw [show (c.ctx r.jobId job).job = job from rfl, is]
      exact h
    cases branch : job.branch r.taskId with
    | imageStoryboard => simp [Fenced, branch] at test
    | storyboard => exact stopped _ branch (storyboardResult_stopped lease)
    | script => exact stopped _ branch (scriptResult_stopped lease)
    | assembly =>
      simp only [Fenced, branch] at test
      exact stopped _ branch (assemblyResult_stopped test)
    | publish => exact stopped _ branch (publishResult_stopped lease)
    | voice => exact stopped _ branch (voiceResult_stopped lease)
    | scene =>
      simp only [Fenced, branch] at test
      have h := @sceneResult_stopped env r (c.ctx r.jobId job) test
      rcases h with h | ⟨key, release, found, left⟩
      · exact stopped _ branch h
      · refine .inr ⟨job, key, release, present, found, ?_⟩
        have run := result_eq_handler env r (c.ctx r.jobId job)
        rw [show (c.ctx r.jobId job).job = job from rfl, branch] at run
        have left : (result env r (c.ctx r.jobId job)).2 = _ := (congrArg Prod.snd run).trans left
        simp only [System.ctx] at left
        simp only [System.on, left, List.map_nil, List.append_nil]

/-- A heartbeat of a free worker that takes every kind of task. -/
def Heartbeat.free (node : NodeName) : Heartbeat where
  nodeName := node
  status := .ready
  currentJob := none
  currentTask := none
  runtimeInstance := none
  text := true
  publisher := true
  voice := true

/-- A Job is created and its script is being written by node 7. -/
def scriptClaimed : System :=
  System.after {}
    [.create (.plain 1) ⟨.image, 5, 3⟩,
      .heartbeat (.plain 1) (.free 7),
      .background (fun _ => .plain 1) (fun _ => .plain 1) 0,
      .claim (.plain 2) ⟨7, true, true⟩]

/-- A node reports success without any file. -/
def TaskResult.bare (jobId : JobId) (node : NodeName) (taskId : TaskId) : TaskResult where
  jobId := jobId
  nodeName := node
  taskId := taskId
  success := true

/-- Another node answers for the script of node 7. -/
theorem unleased_result_changes_nothing_script :
    ¬ LiveLease 3 scriptClaimed (.bare 0 8 1) ∧
      Untouched scriptClaimed (.bare 0 8 1) (taskResult (.plain 3) (.bare 0 8 1) scriptClaimed).2 := by
  have unleased : ¬ LiveLease 3 scriptClaimed (.bare 0 8 1) := by decide +kernel
  refine ⟨unleased, unleased_result_changes_nothing (.plain 3) _ _ unleased fun job found => ?_⟩
  have branch : (scriptClaimed.jobs.get? 0).map (·.branch 1) = some .script := by decide +kernel
  change scriptClaimed.jobs.get? 0 = some job at found
  rw [found, Option.map_some, Option.some.injEq] at branch
  simp only [Fenced, TaskResult.bare, branch]

/-- The answers of an outside where CORE draws scenes itself and an external engine renders them, which
does not confirm that a cancelled render has ended. -/
def Env.rendering (now : Time) : Env :=
  { Env.plain now with
    localFallback := true
    engine := .external ⟨1, 1⟩
    cancelState := fun _ _ => .unconfirmed }

/-- A render of node 7 was cancelled, and the engine did not confirm that it has ended. -/
def renderCancelled : System :=
  System.after {}
    [.create (.rendering 1) ⟨.image, 5, 3⟩,
      .ask (.rendering 1) 0 (.edit { script := some ⟨[false]⟩ }),
      .background (fun _ => .rendering 1) (fun _ => .rendering 1) 0,
      .heartbeat (.rendering 1) (.free 7),
      .claim (.rendering 2) ⟨7, true, true⟩,
      .ask (.rendering 3) 0 (.halt .cancel)]

/-- A late result of the cancelled render changes its Job: it proves that the render has ended. -/
theorem cancelled_render_releases_unleased :
    ¬ ∀ (c : System) (env : Env) (r : TaskResult), Reachable c → ¬ LiveLease env.now c r →
      (taskResult env r c).2.jobs = c.jobs ∧ (taskResult env r c).2.queue = c.queue ∧
        (taskResult env r c).2.workers = c.workers := by
  intro h
  have unleased : ¬ LiveLease 4 renderCancelled (.bare 0 7 3) := by decide +kernel
  have same := (h renderCancelled (.rendering 4) (.bare 0 7 3) (reachable_after _) unleased).1
  have changed : (taskResult (.rendering 4) (.bare 0 7 3) renderCancelled).2.jobs ≠ renderCancelled.jobs := by
    decide +kernel
  exact changed same

/-! ## With the lease -/

/-- A scene of a Job is being drawn by node 7. -/
def sceneClaimed : System :=
  System.after {}
    [.create (.plain 1) ⟨.image, 5, 3⟩,
      .ask (.plain 1) 0 (.edit { script := some ⟨[false]⟩ }),
      .background (fun _ => .plain 1) (fun _ => .plain 1) 0,
      .heartbeat (.plain 1) (.free 7),
      .claim (.plain 2) ⟨7, true, true⟩]

end Vertep.Core
