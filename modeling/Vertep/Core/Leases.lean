import Vertep.Core.LateResults

/-!
# Claims and renewals (`core/api/tasks.py`)

`_claim_task` writes who has a task into a field of its own for each kind, and `renew_task` looks a task
up in fields of its own. `Holds` is what a claim leaves of a task and what stands until the task is
answered, cancelled or taken away; a renewal of such a task succeeds for the kinds that `renew_task`
looks for, and for no other.
-/

namespace Vertep.Core
open Lib Queue
open Command Act

/-- The Job says that the node has the task, in the field that a claim of its kind reads or writes. -/
def Bound (node : NodeName) (item : Item TaskBody) (job : Job) : Prop :=
  match item.payload.claimKind with
  | .imageStoryboard => job.records item.taskId .imageStoryboard
  | .storyboard => job.records item.taskId .storyboard
  | .script => job.records item.taskId .script
  | .publish => job.records item.taskId .publish
  | .assembly => job.records item.taskId .assembly
  | .scene => ∃ scene, sceneForTask job item.taskId = some scene ∧ scene.assignedWorker = some node

/-- The node holds the task: its record is bound to it, the lease is live and the Job agrees. -/
structure Holds (now : Time) (node : NodeName) (item : Item TaskBody) (c : System) : Prop where
  record : workerOwns c.workers item.payload.jobId item.taskId node
  live : c.queue.inflightActive item.taskId now
  bound : ∃ job, c.jobs.get? item.payload.jobId = some job ∧ Bound node item job

/-- The renewal succeeds and the lease runs from now. -/
def Renewed (env : Env) (node : NodeName) (id : TaskId) (c : System) : Prop :=
  (renewTask env node id c).1 = .ok true ∧
    ∃ item, (renewTask env node id c).2.queue.inflight.get? id = some (env.now + env.lease, item)

/-- The kinds `renew_task` looks for: a script, a storyboard, a render, and a scene but not its voice. -/
def Renewable (item : Item TaskBody) (c : System) : Prop :=
  match item.payload.claimKind with
  | .storyboard | .script | .assembly => True
  | .imageStoryboard | .publish => False
  | .scene => ∀ job, c.jobs.get? item.payload.jobId = some job → job.records item.taskId .scene

variable {p : Job → Bool}

section
variable {c : System} {id : JobId} {job : Job} {task : TaskId} {b : Branch}

lemma get?_of_findJob {e : JobId × Job} (h : c.findJob p = some e) :
    c.jobs.get? e.1 = some e.2 ∧ p e.2 = true := by
  refine ⟨Dict.mem_entries_iff.1 (List.mem_of_find?_eq_some h), ?_⟩
  simpa using List.find?_some h

lemma findJob_of_records (o : c.Ordered) (found : c.jobs.get? id = some job) (r : job.records task b)
    (fields : ∀ job', p job' = true → ∃ b', job'.records task b')
    (here : p job = true) : c.findJob p = some (id, job) := by
  cases search : c.findJob p with
  | none =>
    have not := List.find?_eq_none.1 search (id, job) (Dict.mem_entries_iff.2 found)
    exact absurd here not
  | some e =>
    obtain ⟨id', job'⟩ := e
    obtain ⟨found', holds⟩ := get?_of_findJob search
    obtain ⟨b', r'⟩ := fields job' holds
    obtain ⟨rfl, _⟩ := o.apart _ _ found _ _ found' task b b' r r'
    cases Option.some.inj (found.symm.trans found')
    rfl

lemma findJob_of_other (o : c.Ordered) (found : c.jobs.get? id = some job) (r : job.records task b)
    (fields : ∀ job', p job' = true → ∃ b', b' ≠ b ∧ job'.records task b') :
    c.findJob p = none := by
  cases search : c.findJob p with
  | none => rfl
  | some e =>
    obtain ⟨found', holds⟩ := get?_of_findJob search
    obtain ⟨b', ne, r'⟩ := fields e.2 holds
    exact absurd (o.apart _ _ found _ _ found' task b b' r r').2.symm ne

end

section
variable {c : System} {env : Env} {node : NodeName} {task : TaskId} {id : JobId} {job : Job}

lemma renewed_of_live (live : c.queue.inflightActive task env.now) :
    (c.queue.renew task env.now env.lease).1 = true ∧
      ∃ item, (c.queue.renew task env.now env.lease).2.inflight.get? task =
        some (env.now + env.lease, item) := by
  unfold LocalQueue.inflightActive at live
  unfold LocalQueue.renew
  cases found : c.queue.inflight.get? task with
  | none => simp [found] at live
  | some e => exact ⟨rfl, e.2, by simp⟩

/-- What `renew_task` answers for a task, by the field that records it. -/
lemma renewed_iff (o : c.Ordered) (authorized : env.authorized = true)
    (live : c.queue.inflightActive task env.now) (own : workerOwns c.workers id task node)
    (found : c.jobs.get? id = some job) {b : Branch} (r : job.records task b) :
    Renewed env node task c ↔
      match b with
      | .script | .storyboard | .assembly => True
      | .scene => ∃ scene, sceneForTask job task = some scene ∧ scene.assignedWorker = some node
      | .imageStoryboard | .publish | .voice => False := by
  obtain ⟨yes, kept⟩ := renewed_of_live live
  -- the three searches of `renew_task`, by the branches whose fields they read
  have texts (job' : Job) : decide (job'.scriptTaskId = some task ∨ job'.storyboardTaskId = some task) =
      true → job'.records task .script ∨ job'.records task .storyboard := by
    simp only [decide_eq_true_eq, Job.records, imp_self]
  have scenes (job' : Job) : job'.activeTaskIds.contains task = true → job'.records task .scene :=
    Dict.contains_iff.1
  have renders (job' : Job) : job'.assemblyTaskIds.contains task = true → job'.records task .assembly :=
    Dict.contains_iff.1
  have noText (s : b ≠ .script) (t : b ≠ .storyboard) :
      c.findJob (fun job' => decide (job'.scriptTaskId = some task ∨ job'.storyboardTaskId = some task)) =
        none :=
    findJob_of_other o found r fun job' h => (texts job' h).elim (fun h => ⟨_, s.symm, h⟩)
      fun h => ⟨_, t.symm, h⟩
  have noScene (s : b ≠ .scene) : c.findJob (fun job' => job'.activeTaskIds.contains task) = none :=
    findJob_of_other o found r fun job' h => ⟨_, s.symm, scenes job' h⟩
  have noRender (s : b ≠ .assembly) : c.findJob (fun job' => job'.assemblyTaskIds.contains task) = none :=
    findJob_of_other o found r fun job' h => ⟨_, s.symm, renders job' h⟩
  have text (h : decide (job.scriptTaskId = some task ∨ job.storyboardTaskId = some task) = true) :
      c.findJob (fun job' => decide (job'.scriptTaskId = some task ∨ job'.storyboardTaskId = some task)) =
        some (id, job) :=
    findJob_of_records o found r (fun job' h => (texts job' h).elim (fun h => ⟨_, h⟩) fun h => ⟨_, h⟩) h
  cases b with
  | script =>
    have here := text (decide_eq_true (.inl r))
    simp only [Renewed, renewTask, here]
    simp [authorized, own, live, yes, kept]
  | storyboard =>
    have here := text (decide_eq_true (.inr r))
    simp only [Renewed, renewTask, here]
    simp [authorized, own, live, yes, kept]
  | assembly =>
    have here : c.findJob (fun job' => job'.assemblyTaskIds.contains task) = some (id, job) :=
      findJob_of_records o found r (fun job' h => ⟨_, renders job' h⟩) (Dict.contains_iff.2 r)
    have none₁ := noText (by decide) (by decide)
    have none₂ := noScene (by decide)
    simp only [Renewed, renewTask, none₁, none₂, here]
    simp [authorized, own, yes, kept]
  | scene =>
    have here : c.findJob (fun job' => job'.activeTaskIds.contains task) = some (id, job) :=
      findJob_of_records o found r (fun job' h => ⟨_, scenes job' h⟩) (Dict.contains_iff.2 r)
    have none₁ := noText (by decide) (by decide)
    have none₂ := noRender (by decide)
    simp only [Renewed, renewTask, none₁, none₂, here]
    cases active : sceneForTask job task with
    | none => simp [authorized, active]
    | some scene =>
      by_cases assigned : scene.assignedWorker = some node
      · simp [authorized, active, assigned, yes, kept]
      · simp [authorized, active, assigned]
  | imageStoryboard | publish | voice =>
    have none₁ := noText (by decide) (by decide)
    have none₂ := noScene (by decide)
    have none₃ := noRender (by decide)
    simp only [Renewed, renewTask, none₁, none₂, none₃]
    simp [authorized]

end

def claimedScript : Item TaskBody := ⟨1, 5, 1, none, { jobId := 0, task := some .script }⟩

/-- A video was approved and is to be published on one channel; node 7 is a publisher. -/
def publishQueued : System :=
  let drawing : Env := { Env.plain 1 with localFallback := true }
  System.after {}
    [.create (.plain 1) ⟨.image, 5, 3⟩,
      .ask (.plain 1) 0 (.edit { script := some ⟨[false]⟩ }),
      .background (fun _ => drawing) (fun _ => drawing) 0,
      .render drawing (fun _ => drawing) 0,
      .ask (.plain 1) 0 (.approveVideo 1 none),
      .heartbeat (.plain 1) (.free 7),
      .ask (.plain 1) 0 (.publish [.youtube])]

end Vertep.Core
