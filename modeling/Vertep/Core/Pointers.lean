import Vertep.Core.Actions
import Vertep.Core.Fencing
import Vertep.Queue.Items

/-!
# The tasks a Job records (`core/api/tasks.py`)

Seven fields of a Job record tasks it waits for, one for each branch of `task_result`. `Moved` says once
what a handler can do to them and to the queue: a task it records afterwards was recorded before or was
issued on the way, into one field and into the queue; and no task leaves the queue but those of `A`.
The instances below say that of the shared operations, and of the functions that issue tasks.
-/

namespace Vertep.Core
open Lib Queue
open Command Act

/-- The field that belongs to a branch records the task. -/
def Job.records (job : Job) (id : TaskId) : Branch → Prop
  | .imageStoryboard => id ∈ job.imageStoryboardTaskIds.keys
  | .storyboard => job.storyboardTaskId = some id
  | .script => job.scriptTaskId = some id
  | .assembly => id ∈ job.assemblyTaskIds.keys
  | .publish => id ∈ job.publishTaskIds.keys
  | .voice => id ∈ job.ttsActiveTaskIds.keys
  | .scene => id ∈ job.activeTaskIds.keys

/-! ## Updates that record nothing new -/

/-- A field with one task records no other than before. -/
class FewerId (a b : Option TaskId) : Prop where
  fewer : ∀ id, a = some id → b = some id

/-- A field with many tasks records no other than before. -/
class FewerKeys {ν : Type} (a b : Dict TaskId ν) : Prop where
  fewer : ∀ id ∈ a.keys, id ∈ b.keys

instance (a : Option TaskId) : FewerId a a := ⟨fun _ h => h⟩

instance (a : Option TaskId) : FewerId none a := ⟨fun _ h => by cases h⟩

instance {c : Prop} [Decidable c] {a a' b : Option TaskId} [h : FewerId a b] [h' : FewerId a' b] :
    FewerId (if c then a else a') b := by
  split
  · exact h
  · exact h'

section
variable {ν : Type}

instance (a : Dict TaskId ν) : FewerKeys a a := ⟨fun _ h => h⟩

instance (a : Dict TaskId ν) : FewerKeys ∅ a := ⟨fun _ h => by cases h⟩

instance (a : Dict TaskId ν) (id : TaskId) : FewerKeys (a.pop id) a :=
  ⟨fun _ h => (Dict.mem_keys_pop.1 h).2⟩

instance {c : Prop} [Decidable c] {a a' b : Dict TaskId ν} [h : FewerKeys a b] [h' : FewerKeys a' b] :
    FewerKeys (if c then a else a') b := by
  split
  · exact h
  · exact h'

end

/-- An update of a Job that records nothing new. -/
class Fewer (f : Job → Job) : Prop where
  fewer : ∀ job id b, (f job).records id b → job.records id b

instance (f : Job → Job)
    [previews : ∀ job, FewerKeys (f job).imageStoryboardTaskIds job.imageStoryboardTaskIds]
    [storyboard : ∀ job, FewerId (f job).storyboardTaskId job.storyboardTaskId]
    [script : ∀ job, FewerId (f job).scriptTaskId job.scriptTaskId]
    [assemblies : ∀ job, FewerKeys (f job).assemblyTaskIds job.assemblyTaskIds]
    [publishes : ∀ job, FewerKeys (f job).publishTaskIds job.publishTaskIds]
    [voices : ∀ job, FewerKeys (f job).ttsActiveTaskIds job.ttsActiveTaskIds]
    [scenes : ∀ job, FewerKeys (f job).activeTaskIds job.activeTaskIds] : Fewer f := by
  constructor
  intro job id b h
  cases b with
  | imageStoryboard => exact (previews job).fewer id h
  | storyboard => exact (storyboard job).fewer id h
  | script => exact (script job).fewer id h
  | assembly => exact (assemblies job).fewer id h
  | publish => exact (publishes job).fewer id h
  | voice => exact (voices job).fewer id h
  | scene => exact (scenes job).fewer id h

instance : Fewer Job.initializePlan := by
  unfold Job.initializePlan
  infer_instance

instance (name : StageName) (status : StageStatus) : Fewer (·.setStage name status) := by
  unfold Job.setStage
  infer_instance

instance (version sha256 : ℕ) : Fewer (finishVideoVersion · version sha256) := by
  unfold finishVideoVersion
  infer_instance

instance (key : SubmitKey) : Fewer (·.releaseHold key) := by
  constructor
  intro job id b h
  unfold Job.releaseHold at h
  split at h
  · split at h <;> exact h
  · exact h

/-! ## What a handler can do -/

def InQueue (q : LocalQueue TaskBody) (jobId : JobId) (id : TaskId) : Prop :=
  ∃ i ∈ q.items, i.taskId = id ∧ i.payload.jobId = jobId

/-- Names are issued in order: the live tasks and those the Job records are below the next one. -/
structure Ctx.Ordered (s : Ctx) : Prop where
  coherent : s.queue.Coherent s.nextId
  below : ∀ id b, s.job.records id b → id < s.nextId

/-- What becomes of the tasks when those of `A` may leave the queue. -/
structure Stays (A : TaskId → Prop) (s s' : Ctx) : Prop where
  coherent : s'.queue.Coherent s'.nextId
  kept : ∀ i ∈ s.queue.items, ¬ A i.taskId → i ∈ s'.queue.items
  apart : ∀ id b b', s.nextId ≤ id → s'.job.records id b → s'.job.records id b' → b = b'
  issued : ∀ id b, s'.job.records id b → s.nextId ≤ id → ¬ A id → InQueue s'.queue s.jobId id
  fresh : ∀ i ∈ s'.queue.items, i ∈ s.queue.items ∨ s.nextId ≤ i.taskId ∧ i.payload.jobId = s.jobId

/-- What a handler can do to the tasks its Job records and to the queue. -/
structure Moved (A : TaskId → Prop) (s s' : Ctx) : Prop where
  sameJob : s'.jobId = s.jobId
  later : s.nextId ≤ s'.nextId
  recorded : ∀ id b, s'.job.records id b → s.job.records id b ∨ s.nextId ≤ id ∧ id < s'.nextId
  flight : ∀ id, s.queue.inflight.get? id = none → s'.queue.inflight.get? id = none
  stays : s.Ordered → Stays A s s'

variable {A : TaskId → Prop} {s s' : Ctx}

lemma Moved.ordered (m : Moved A s s') (o : s.Ordered) : s'.Ordered where
  coherent := (m.stays o).coherent
  below id b h := (m.recorded id b h).elim (fun old => (o.below id b old).trans_le m.later) And.right

lemma Moved.of_fewer (jobId : s'.jobId = s.jobId) (queue : s'.queue = s.queue)
    (later : s.nextId ≤ s'.nextId) (fewer : ∀ id b, s'.job.records id b → s.job.records id b) :
    Moved A s s' where
  sameJob := jobId
  later := later
  recorded id b h := .inl (fewer id b h)
  flight _ down := queue ▸ down
  stays o :=
    { coherent := queue ▸ o.coherent.mono later
      kept := fun _ member _ => queue ▸ member
      apart := fun id b _ le h _ => absurd (o.below id b (fewer id b h)) (not_lt.2 le)
      issued := fun id b h le _ => absurd (o.below id b (fewer id b h)) (not_lt.2 le)
      fresh := fun _ member => .inl (queue ▸ member) }

lemma Moved.of_queue (jobId : s'.jobId = s.jobId) (job : s'.job = s.job) (later : s.nextId ≤ s'.nextId)
    (coherent : s.queue.Coherent s.nextId → s'.queue.Coherent s'.nextId)
    (kept : s.queue.Coherent s.nextId → ∀ i ∈ s.queue.items, ¬ A i.taskId → i ∈ s'.queue.items)
    (old : s.queue.Coherent s.nextId → ∀ i ∈ s'.queue.items, i ∈ s.queue.items)
    (flight : ∀ id, s.queue.inflight.get? id = none → s'.queue.inflight.get? id = none) : Moved A s s' where
  sameJob := jobId
  later := later
  recorded _ _ h := .inl (job ▸ h)
  flight := flight
  stays o :=
    { coherent := coherent o.coherent
      kept := kept o.coherent
      apart := fun id b _ le h _ => absurd (o.below id b (job ▸ h)) (not_lt.2 le)
      issued := fun id b h le _ => absurd (o.below id b (job ▸ h)) (not_lt.2 le)
      fresh := fun i member => .inl (old o.coherent i member) }

instance : Std.Refl (Moved A) := ⟨fun _ => .of_fewer rfl rfl le_rfl fun _ _ h => h⟩

instance : IsTrans Ctx (Moved A) where
  trans s s' s'' m m' :=
    { sameJob := m'.sameJob.trans m.sameJob
      later := m.later.trans m'.later
      recorded := by
        intro id b h
        rcases m'.recorded id b h with h | ⟨le, lt⟩
        · exact (m.recorded id b h).imp_right fun ⟨le, lt⟩ => ⟨le, lt.trans_le m'.later⟩
        · exact .inr ⟨m.later.trans le, lt⟩
      flight := fun id down => m'.flight id (m.flight id down)
      stays := by
        intro o
        have first := m.stays o
        have second := m'.stays (m.ordered o)
        -- what is recorded at the end was issued in the second part or stood at its start
        have old {id b} (h : s''.job.records id b) (lt : ¬ s'.nextId ≤ id) : s'.job.records id b :=
          (m'.recorded id b h).resolve_right fun fresh => lt fresh.1
        refine ⟨second.coherent, ?_, ?_, ?_, ?_⟩
        · intro i member not
          exact second.kept i (first.kept i member not) not
        · intro id b b' le h h'
          by_cases fresh : s'.nextId ≤ id
          · exact second.apart id b b' fresh h h'
          · exact first.apart id b b' le (old h fresh) (old h' fresh)
        · intro id b h le not
          by_cases fresh : s'.nextId ≤ id
          · exact m.sameJob ▸ second.issued id b h fresh not
          · obtain ⟨i, member, same, own⟩ := first.issued id b (old h fresh) le not
            exact ⟨i, second.kept i member (same ▸ not), same, own⟩
        · intro i member
          rcases second.fresh i member with member | ⟨le, own⟩
          · exact first.fresh i member
          · exact .inr ⟨m.later.trans le, own.trans m.sameJob⟩ }

abbrev Moves (A : TaskId → Prop) {α : Type} (m : Act α) : Prop := Within (Moved A) m

/-- The task may leave the queue. -/
class Spends (A : TaskId → Prop) (id : TaskId) : Prop where
  spends : A id

instance (id : TaskId) : Spends (fun _ => True) id := ⟨trivial⟩

/-! ## The shared operations -/

variable {task : Queue.Task TaskBody} {newAttempt : Bool}

section
variable (env : Env)

instance : Moves A theJob := ⟨fun s => refl_of (Moved A) s⟩

instance : Moves A theId := ⟨fun s => refl_of (Moved A) s⟩

instance moves_modifyJob (f : Job → Job) [fewer : Fewer f] : Moves A (modifyJob f) :=
  ⟨fun s => .of_fewer rfl rfl le_rfl (fewer.fewer s.job)⟩

instance (id : SceneId) (f : Scene → Scene) : Moves A (modifyScene id f) := by
  unfold modifyScene
  infer_instance

instance (version : ℕ) (f : StoryboardVersion → StoryboardVersion) :
    Moves A (modifyStoryboard version f) := by
  unfold modifyStoryboard
  infer_instance

instance moves_update (status : JobStatus) : Moves A (update status) := by
  unfold update
  infer_instance

instance (status : JobStatus) : Moves A (transition status) := by
  unfold transition
  infer_instance

instance (name : StageName) (status : StageStatus) :
    Moves A (transitionStage name status) := by
  unfold transitionStage
  infer_instance

instance (b : Background) : Moves A (submit b) :=
  ⟨fun _ => .of_fewer rfl rfl le_rfl fun _ _ h => h⟩

instance (node : NodeName) (f : Worker → Worker) : Moves A (modifyWorker node f) :=
  ⟨fun _ => .of_fewer rfl rfl le_rfl fun _ _ h => h⟩

instance (node : NodeName) : Moves A (releaseWorker env node) := by
  unfold releaseWorker
  infer_instance

/-- What is taken out of the flight. -/
lemma down_pop {flight : Dict TaskId (Time × Item TaskBody)} (taken : TaskId) (id : TaskId) (down : flight.get? id = none) :
    (flight.pop taken).get? id = none := by
  rw [Dict.get?_pop]
  split
  · rfl
  · exact down

instance (id : TaskId) [spent : Spends A id] : Moves A (ack id) := by
  refine ⟨fun s => .of_queue rfl rfl le_rfl (fun c => c.ack id) (fun c i member not => ?_)
    (fun _ _ => LocalQueue.mem_of_mem_ack) (down_pop id)⟩
  exact LocalQueue.mem_ack c.filed member fun same => not (same ▸ spent.spends)

instance (id : TaskId) [spent : Spends A id] : Moves A (Act.discard id) := by
  refine ⟨fun s => .of_queue rfl rfl le_rfl (fun c => c.discard id) (fun c i member not => ?_)
    (fun _ _ => LocalQueue.mem_of_mem_discard) (down_pop id)⟩
  exact LocalQueue.mem_discard c.filed member fun same => not (same ▸ spent.spends)

lemma moves_deadLetter (task : Queue.Task TaskBody) (error : Option String)
    (spent : ∀ id, task.taskId = some id → A id) : Moves A (deadLetter env task error) := by
  constructor
  intro s
  have items := LocalQueue.deadLetter_items s.queue task error env.now
  have filed (c : s.queue.Coherent s.nextId) := LocalQueue.deadLetter_filed c.filed task error env.now
  have flight (name : TaskId) (down : s.queue.inflight.get? name = none) :
      (deadLetter env task error s).2.queue.inflight.get? name = none := by
    change (s.queue.deadLetter task error env.now).inflight.get? name = none
    rw [LocalQueue.deadLetter]
    cases task.taskId with
    | none => exact down
    | some id => exact down_pop _ name down
  cases id : task.taskId with
  | none =>
    simp only [id] at items
    refine .of_queue rfl rfl le_rfl (fun c => ?_) (fun c i member _ => ?_) (fun _ i member => items ▸ member) flight
    · exact c.subset (fun i member => items ▸ member) (filed c)
    · exact items.symm ▸ member
  | some id' =>
    simp only [id] at items
    refine .of_queue rfl rfl le_rfl (fun c => ?_) (fun c i member not => ?_) (fun _ i member => ?_) flight
    · exact c.subset (fun i member => LocalQueue.mem_of_mem_ack (items ▸ member)) (filed c)
    · have kept := LocalQueue.mem_ack c.filed member fun same => not (same ▸ spent id' id)
      exact items.symm ▸ kept
    · exact LocalQueue.mem_of_mem_ack (items ▸ member)

instance (id : TaskId) [spent : Spends A id] (payload : TaskBody)
    (priority : Option ℚ) (error : Option String) :
    Moves A (deadLetter env { taskId := some id, priority := priority, payload := payload } error) :=
  moves_deadLetter env _ _ fun _ same => Option.some.inj same ▸ spent.spends

instance (payload : TaskBody) (error : Option String) :
    Moves A (deadLetter env { payload := payload } error) :=
  moves_deadLetter env _ _ fun _ same => by cases same

instance (id : TaskId) : Moves A (release env id) := by
  refine ⟨fun s => .of_queue rfl rfl (Nat.le_succ _) (fun c => ?_) (fun c i member _ => ?_)
    (fun c i member => ?_) fun id' down => ?_⟩
  · exact (c.release id env.now s.nextId).mono (Nat.le_succ _)
  · exact (LocalQueue.mem_release c id env.now s.nextId).2 member
  · exact (LocalQueue.mem_release c id env.now s.nextId).1 member
  · simp only [release, LocalQueue.release]
    split
    · exact down
    · exact down_pop id id' down

instance (kind : ArtifactKind) (index : ℕ) (scene : Option SceneId)
    (task : Option TaskId) (node : Option NodeName) :
    Moves A (registerArtifact env kind index scene task node) := by
  constructor
  intro s
  simp only [registerArtifact]
  cases env.register kind index with
  | none => exact .of_fewer rfl rfl (Nat.le_succ _) fun _ _ h => h
  | some x =>
    obtain ⟨_ | _, e⟩ := x
    · exact refl_of (Moved A) s
    · exact .of_fewer rfl rfl (Nat.le_succ _) fun _ _ h => h

/-! ## Issuing a task -/

lemma stamp_fresh {now : Time} {name : TaskId} (fresh : newAttempt = true ∨ task.taskId = none) : (Queue.stamp now name newAttempt task).taskId = name := by
  rcases fresh with rfl | none_
  · rfl
  · simp [Queue.stamp, none_]

lemma enqueue_fresh (fresh : newAttempt = true ∨ task.taskId = none) :
    enqueue env task newAttempt s = (.ok s.nextId,
      { s with queue := s.queue.push (Queue.stamp env.now s.nextId newAttempt task), nextId := s.nextId + 1 }) := by
  simp only [enqueue, LocalQueue.enqueue, stamp_fresh fresh]

lemma moved_issue {α : Type} {f : TaskId → Act α}
    (fresh : newAttempt = true ∨ task.taskId = none) (own : task.payload.jobId = s.jobId) (b : Branch)
    (writes : ∀ s₁ : Ctx, (f s.nextId s₁).2.jobId = s₁.jobId ∧ (f s.nextId s₁).2.queue = s₁.queue ∧
      (f s.nextId s₁).2.nextId = s₁.nextId ∧ ∀ id b', (f s.nextId s₁).2.job.records id b' →
        s₁.job.records id b' ∨ id = s.nextId ∧ b' = b) :
    Moved A s ((enqueue env task newAttempt >>= f) s).2 := by
  have name : (Queue.stamp env.now s.nextId newAttempt task).taskId = s.nextId := stamp_fresh fresh
  -- the state in which the task is in the queue and not yet recorded
  obtain ⟨s₁, eq, run⟩ : ∃ s₁ : Ctx,
      s₁ = { s with queue := s.queue.push (Queue.stamp env.now s.nextId newAttempt task),
                    nextId := s.nextId + 1 } ∧
      (enqueue env task newAttempt >>= f) s = f s.nextId s₁ :=
    ⟨_, rfl, bind_of_ok (enqueue_fresh env fresh) f⟩
  obtain ⟨jobId, queue, nextId, records⟩ := writes s₁
  rw [run]
  subst eq
  have item : Queue.stamp env.now s.nextId newAttempt task ∈
      (s.queue.push (Queue.stamp env.now s.nextId newAttempt task)).items := LocalQueue.mem_push.2 (.inl rfl)
  refine ⟨jobId, by rw [nextId]; exact Nat.le_succ _, fun id b' h => ?_, fun id down => ?_, fun o => ?_⟩
  · refine (records id b' h).imp_right fun ⟨new, _⟩ => ?_
    rw [new, nextId]
    exact ⟨le_rfl, Nat.lt_succ_self _⟩
  · rw [queue]
    exact down
  · have new {id b'} (h : _) (le : s.nextId ≤ id) : id = s.nextId ∧ b' = b :=
      (records id b' h).resolve_left fun old => absurd (o.below id b' old) (not_lt.2 le)
    refine ⟨?_, ?_, ?_, ?_, ?_⟩
    · rw [queue, nextId]
      exact o.coherent.push name.ge (name.trans_lt (Nat.lt_succ_self _))
    · intro i member _
      rw [queue]
      exact LocalQueue.mem_push.2 (.inr member)
    · intro id b₁ b₂ le h h'
      rw [(new h le).2, (new h' le).2]
    · intro id b' h le _
      rw [queue, (new h le).1]
      exact ⟨_, item, name, own⟩
    · intro i member
      rw [queue] at member
      rcases LocalQueue.mem_push.1 member with rfl | member
      · exact .inr ⟨name.ge, own⟩
      · exact .inl member

end

end Vertep.Core
