import Vertep.Core.Order

/-!
# When the handlers return (`core/api/job_helpers.py`)

One equivalence for each operation: what must hold for it to return, and the state what follows it
starts in. The functions a result is handed to are then followed line by line.
-/

namespace Vertep.Core
open Lib Queue
open Command Act

def Answers {α : Type} (x : Except Err α) : Prop := ∃ a, x = .ok a

section
variable {α : Type} {env : Env} {s : Ctx}

@[simp] lemma returns_theJob_bind (k : Job → Act α) : Returns (theJob >>= k) s ↔ Returns (k s.job) s :=
  Iff.rfl

@[simp] lemma returns_theId_bind (k : JobId → Act α) : Returns (theId >>= k) s ↔ Returns (k s.jobId) s :=
  Iff.rfl

@[simp] lemma returns_modifyJob_bind (f : Job → Job) (k : Unit → Act α) :
    Returns (modifyJob f >>= k) s ↔ Returns (k ()) { s with job := f s.job } := Iff.rfl

@[simp] lemma returns_modifyJob (f : Job → Job) : Returns (modifyJob f) s := ⟨(), rfl⟩

@[simp] lemma returns_update_bind (status : JobStatus) (k : Unit → Act α) :
    Returns (update status >>= k) s ↔ Returns (k ()) { s with job := { s.job with status := status } } :=
  Iff.rfl

@[simp] lemma returns_update (status : JobStatus) : Returns (update status) s := ⟨(), rfl⟩

@[simp] lemma returns_modifyScene_bind (id : SceneId) (f : Scene → Scene) (k : Unit → Act α) :
    Returns (modifyScene id f >>= k) s ↔
      Returns (k ()) { s with job := { s.job with
        scenes := s.job.scenes.map fun x => if x.sceneId = id then f x else x } } := Iff.rfl

@[simp] lemma returns_modifyScene (id : SceneId) (f : Scene → Scene) : Returns (modifyScene id f) s :=
  ⟨(), rfl⟩

@[simp] lemma returns_modifyQueue_bind (f : LocalQueue TaskBody → LocalQueue TaskBody)
    (k : Unit → Act α) :
    Returns (modifyQueue f >>= k) s ↔ Returns (k ()) { s with queue := f s.queue } := Iff.rfl

@[simp] lemma returns_modifyQueue (f : LocalQueue TaskBody → LocalQueue TaskBody) :
    Returns (modifyQueue f) s := ⟨(), rfl⟩

def Ctx.freeing (env : Env) (node : NodeName) (s : Ctx) : Ctx := (releaseWorker env node s).2

@[simp] lemma returns_releaseWorker_bind (node : NodeName) (k : Unit → Act α) :
    Returns (releaseWorker env node >>= k) s ↔ Returns (k ()) (s.freeing env node) := Iff.rfl

@[simp] lemma freeing_job (node : NodeName) : (s.freeing env node).job = s.job := rfl

@[simp] lemma freeing_jobId (node : NodeName) : (s.freeing env node).jobId = s.jobId := rfl

@[simp] lemma returns_submit (b : Background) : Returns (submit b) s := ⟨(), rfl⟩

@[simp] lemma returns_enqueue_bind (task : Queue.Task TaskBody) (newAttempt : Bool)
    (k : TaskId → Act α) :
    Returns (enqueue env task newAttempt >>= k) s ↔
      Returns (k (Queue.stamp env.now s.nextId newAttempt task).taskId)
        { s with
          queue := (s.queue.enqueue env.now s.nextId newAttempt task).2
          nextId := s.nextId + 1 } := Iff.rfl

@[simp] lemma returns_transition (status : JobStatus) :
    Returns (transition status) s ↔ jobTransitionAllowed s.job.status status := by
  simp only [transition, returns_theJob_bind, returns_ite, returns_update, not_returns_raise,
    if_true_left]
  simp

lemma returns_transition_bind (status : JobStatus) (k : Unit → Act α) :
    Returns (transition status >>= k) s ↔ jobTransitionAllowed s.job.status status ∧
      Returns (k ()) { s with job := { s.job with status := status } } := by
  cases h : jobTransitionAllowed s.job.status status with
  | true =>
    simp only [true_and, returns_bind, transition, theJob_bind, h, if_true]
    exact ⟨fun ⟨_, e, r⟩ => by cases e; exact r, fun r => ⟨(), rfl, r⟩⟩
  | false =>
    simp only [returns_bind, transition, theJob_bind, h, Bool.false_eq_true, if_false, raise_apply,
      false_and, iff_false]
    rintro ⟨_, e, _⟩
    cases e

lemma transitionStage_apply (name : StageName) (status : StageStatus) :
    transitionStage name status s =
      if s.job.mayTransition name status then
        (.ok (), { s with job := s.job.initializePlan.setStage name status })
      else (.error (.value "Invalid stage transition"), { s with job := s.job.initializePlan }) := by
  have run : transitionStage name status s =
      (if s.job.mayTransition name status then modifyJob (·.setStage name status)
        else raise (.value "Invalid stage transition") : Act Unit)
        { s with job := s.job.initializePlan } := rfl
  rw [run]
  split <;> rfl

@[simp] lemma returns_transitionStage (name : StageName) (status : StageStatus) :
    Returns (transitionStage name status) s ↔ s.job.mayTransition name status := by
  simp only [Returns, transitionStage_apply]
  cases s.job.mayTransition name status <;> simp

lemma returns_transitionStage_bind (name : StageName) (status : StageStatus) (k : Unit → Act α) :
    Returns (transitionStage name status >>= k) s ↔ s.job.mayTransition name status ∧
      Returns (k ()) { s with job := s.job.initializePlan.setStage name status } := by
  simp only [returns_bind, transitionStage_apply]
  cases s.job.mayTransition name status with
  | true =>
    simp only [if_true]
    exact ⟨fun ⟨_, _, r⟩ => ⟨trivial, r⟩, fun r => ⟨(), trivial, r.2⟩⟩
  | false => simp

lemma returns_registerArtifact_bind (kind : ArtifactKind) (index : ℕ) (scene : Option SceneId)
    (task : Option TaskId) (node : Option NodeName) (k : ArtifactId → Act α) :
    Returns (registerArtifact env kind index scene task node >>= k) s ↔
      env.register kind index = none ∧
        Returns (k s.nextId)
          { s with
            nextId := s.nextId + 1
            job := { s.job with
              artifacts := s.job.artifacts ++ [⟨s.nextId, kind, scene, task, node⟩] } } := by
  simp only [returns_bind, registerArtifact]
  cases env.register kind index with
  | none =>
    constructor
    · rintro ⟨a, e, r⟩
      cases e
      exact ⟨rfl, r⟩
    · rintro ⟨_, r⟩
      exact ⟨_, rfl, r⟩
  | some x =>
    obtain ⟨_ | _, e⟩ := x
    all_goals
      simp only [reduceCtorEq, false_and, iff_false]
      rintro ⟨_, h, _⟩
      cases h

end

end Vertep.Core
