import Vertep.Core.SceneResults

/-!
# Results without a lease (`core/api/tasks.py`)

A result counts only for the node that holds the live lease of the task. Each branch of `task_result`
has its own test for that; `Fenced` says for each branch when its test does turn away a node without the
lease, and such a result then leaves CORE as it was. The one trace it may leave by design is the proof
that the render of a cancelled assembly attempt has ended (`Job.releaseHold`).
-/

namespace Vertep.Core
open Lib Queue
open Command Act

/-- The node holds the live lease of the task: its record is bound to the task and the Job, and the
in-flight record has not expired. -/
def LiveLease (now : Time) (c : System) (r : TaskResult) : Prop :=
  workerOwns c.workers r.jobId r.taskId r.nodeName ∧ c.queue.inflightActive r.taskId now

instance (now : Time) (c : System) (r : TaskResult) : Decidable (LiveLease now c r) :=
  inferInstanceAs (Decidable (_ ∧ _))

/-- The branches of `task_result`. -/
inductive Branch where
  | imageStoryboard | storyboard | script | assembly | publish | voice | scene
deriving DecidableEq

/-- The branch a result of a task goes to. -/
def Job.branch (job : Job) (taskId : TaskId) : Branch :=
  if job.imageStoryboardTaskIds.contains taskId then .imageStoryboard
  else if job.storyboardTaskId = some taskId then .storyboard
  else if job.scriptTaskId = some taskId then .script
  else if job.assemblyTaskIds.contains taskId then .assembly
  else if job.publishTaskIds.contains taskId then .publish
  else if job.ttsActiveTaskIds.contains taskId then .voice
  else .scene

/-- What is done there. -/
def Branch.handler (env : Env) (r : TaskResult) : Branch → Act Unit
  | .imageStoryboard => imageStoryboardResult env r
  | .storyboard => storyboardResult env r
  | .script => scriptResult env r
  | .assembly => assemblyResult env r
  | .publish => publishResult env r
  | .voice => voiceResult env r
  | .scene => sceneResult env r

lemma result_eq_handler (env : Env) (r : TaskResult) (s : Ctx) :
    result env r s = (s.job.branch r.taskId).handler env r s := by
  simp only [result, theJob_bind, Job.branch]
  repeat' split
  all_goals rfl

/-- The test of the branch this result goes to stands in the way of a node without the lease. -/
def Fenced (c : System) (job : Job) (r : TaskResult) : Prop :=
  match job.branch r.taskId with
  | .imageStoryboard => False
  | .assembly => workerOwns c.workers r.jobId r.taskId r.nodeName = false
  | .scene => ∀ scene, sceneForTask job r.taskId = some scene →
      scene.assignedWorker ≠ some r.nodeName ∨ job.status.halted
  | _ => True

/-- What a result without a lease may leave: nothing, or the release of a cancelled attempt. -/
def Untouched (c : System) (r : TaskResult) (c' : System) : Prop :=
  c' = c ∨ ∃ job key release, c.jobs.get? r.jobId = some job ∧
    cancelledAttemptRelease job r.taskId = some (key, release) ∧
    c' = { c with jobs := c.jobs.set r.jobId (job.releaseHold key) }

section
variable {env : Env} {r : TaskResult} {s : Ctx}

def Stopped (m : Act Unit) (s : Ctx) : Prop := (m s).2 = s

lemma storyboardResult_stopped (h : textTaskLease env.now s r.taskId r.nodeName = false) :
    Stopped (storyboardResult env r) s := by
  simp [Stopped, storyboardResult, h]

lemma scriptResult_stopped (h : textTaskLease env.now s r.taskId r.nodeName = false) :
    Stopped (scriptResult env r) s := by
  simp [Stopped, scriptResult, h]

lemma assemblyResult_stopped (h : workerOwns s.workers s.jobId r.taskId r.nodeName = false) :
    Stopped (assemblyResult env r) s := by
  simp [Stopped, assemblyResult, h]

lemma publishResult_stopped (h : textTaskLease env.now s r.taskId r.nodeName = false) :
    Stopped (publishResult env r) s := by
  have no : ¬ (workerOwns s.workers s.jobId r.taskId r.nodeName = true ∧
      s.queue.inflightActive r.taskId env.now = true) := by
    simpa [textTaskLease] using h
  simp only [Stopped, publishResult, read_bind]
  cases s.job.publishTaskIds.get? r.taskId with
  | none => rfl
  | some channel => simp only [no, not_false_eq_true, if_true, raise_apply]

lemma voiceResult_stopped (h : textTaskLease env.now s r.taskId r.nodeName = false) :
    Stopped (voiceResult env r) s := by
  simp only [Stopped, voiceResult, read_bind]
  cases sceneForTask s.job r.taskId with
  | none => rfl
  | some scene =>
    simp only [h, Bool.false_eq_true, not_false_eq_true, if_true]
    split <;> rfl

lemma sceneResult_stopped
    (h : ∀ scene, sceneForTask s.job r.taskId = some scene →
      scene.assignedWorker ≠ some r.nodeName ∨ s.job.status.halted) :
    Stopped (sceneResult env r) s ∨ ∃ key release,
      cancelledAttemptRelease s.job r.taskId = some (key, release) ∧
        (sceneResult env r s).2 = { s with job := s.job.releaseHold key } := by
  simp only [Stopped, sceneResult, theJob_bind]
  split
  · exact .inl rfl
  · cases found : cancelledAttemptRelease s.job r.taskId with
    | some e => exact .inr ⟨e.1, e.2, rfl, rfl⟩
    | none =>
      refine .inl ?_
      cases active : sceneForTask s.job r.taskId with
      | none => rfl
      | some scene =>
        simp only
        split
        · rfl
        · rename_i own
          simp only [(h scene active).resolve_left own, if_true]
          rfl

def System.ctx (c : System) (id : JobId) (job : Job) : Ctx := ⟨id, job, c.workers, c.queue, c.nextId, []⟩

lemma System.on_stopped {c : System} {id : JobId} {job : Job} (h : c.jobs.get? id = some job)
    {m : Act Unit} (stopped : Stopped m (c.ctx id job)) : (c.on id job m).2 = c := by
  simp only [Stopped, System.ctx] at stopped
  simp only [System.on, stopped, Dict.set_of_get? h, List.map_nil, List.append_nil]

end

end Vertep.Core
