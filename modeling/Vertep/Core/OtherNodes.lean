import Vertep.Core.LateResults

/-!
# What is done for the other nodes (`core/api/workers.py`)

The result of a node writes into the record of that node alone. A heartbeat may find other workers lost and take their
tasks away; a record names its task as long as that task is in flight.
-/

namespace Vertep.Core.Overlap
open Lib Queue
open Command Act

set_option synthInstance.maxSize 2000

def Bound (node : NodeName) (workers : Dict NodeName Worker) (task : TaskId) : Prop :=
  ∃ w, workers.get? node = some w ∧ w.currentTask = some task

def inFlight (queue : LocalQueue TaskBody) (task : TaskId) : Bool := (queue.inflight.get? task).isSome

/-! ## Results -/

section
variable {node : NodeName}

abbrev record (node : NodeName) (s : Ctx) : Option Worker := s.workers.get? node

/-- The records of the other nodes may be written. -/
@[reducible] def otherRecords (node : NodeName) : Footprint := { record := fun n => decide (n ≠ node) }

instance (other : NodeName) [apart : Fact (other ≠ node)] : IsTrue ((otherRecords node).record other) :=
  ⟨decide_eq_true apart.out⟩

instance {α : Type} (m : Act α) [within : Touches (otherRecords node) m] : Keeps (record node) m :=
  ⟨fun s => ((within.leads s).records node).resolve_right (by simp)⟩

end

/-- The result of another node. -/
theorem record_taskResult {node : NodeName} {env : Env} {r : TaskResult} (apart : r.nodeName ≠ node) (c : System) :
    (taskResult env r c).2.workers.get? node = c.workers.get? node := by
  have other : Fact (r.nodeName ≠ node) := ⟨apart⟩
  rw [taskResult]
  split
  · rfl
  · split
    · rfl
    · rename_i job found
      have keeps : Keeps (record node) (result env r) := inferInstance
      exact keeps.keeps ⟨r.jobId, job, c.workers, c.queue, c.nextId, []⟩

/-! ## Lost workers -/

section
variable {task : TaskId} {env : Env} {node : NodeName}

abbrev Grounded (task : TaskId) {α : Type} (m : Act α) : Prop :=
  Within (Stable fun s : Ctx => inFlight s.queue task = false) m

instance {α : Type} (m : Act α) [moves : Moves (fun _ => True) m] : Grounded task m := by
  refine ⟨fun s down => ?_⟩
  have gone := (moves.leads s).flight task (by simpa [inFlight] using down)
  simp [inFlight, gone]

instance (new : Queue.Task TaskBody) (newAttempt : Bool) :
    Grounded task (enqueue env new newAttempt) := ⟨fun _ down => down⟩

instance (f : Job → Job) : Grounded task (modifyJob f) := ⟨fun _ down => down⟩

instance (body : TaskBody) (newAttempt : Bool) :
    Grounded task (enqueueAssemblyTask env body newAttempt) := by
  unfold enqueueAssemblyTask
  infer_instance

def Grounds (task : TaskId) {α : Type} (m : Act α) : Prop := ∀ s, inFlight (m s).2.queue task = false

lemma Grounds.bind {α β : Type} {m : Act α} {f : α → Act β} (first : Grounds task m) (rest : ∀ a, Grounded task (f a)) :
    Grounds task (m >>= f) := by
  intro s
  have down := first s
  rw [bind_apply]
  generalize m s = x at down
  obtain ⟨e | a, s'⟩ := x
  · exact down
  · exact (rest a).leads s' down

lemma grounds_discard : Grounds task (Act.discard task) := by
  intro s
  change ((s.queue.inflight.pop task).get? task).isSome = false
  rw [Dict.get?_pop, if_pos rfl]
  rfl

lemma grounds_discardOption : Grounds task (discardOption (some task)) :=
  grounds_discard.bind fun _ => inferInstance

lemma grounds_release : Grounds task (release env task) := by
  intro s
  change inFlight (s.queue.release task env.now s.nextId).2 task = false
  rw [LocalQueue.release]
  cases found : s.queue.inflight.get? task with
  | none =>
    change (s.queue.inflight.get? task).isSome = false
    rw [found]
    rfl
  | some e =>
    change ((s.queue.inflight.pop task).get? task).isSome = false
    rw [Dict.get?_pop, if_pos rfl]
    rfl

lemma grounds_releaseOption : Grounds task (releaseOption env (some task)) :=
  grounds_release.bind fun _ => inferInstance

lemma recoverTask_ends (s : Ctx) :
    inFlight (recoverTask env node (some task) s).2.queue task = false ∨
      (recoverTask env node (some task) s).2.workers = s.workers := by
  have rest (scene : Option Scene) :
      inFlight (recoverTask.recoverRest env node (some task) s.job scene s).2.queue task = false ∨
        (recoverTask.recoverRest env node (some task) s.job scene s).2.workers = s.workers := by
    unfold recoverTask.recoverRest
    by_cases storyboard : s.job.storyboardTaskId = some task ∧
        (s.job.status = .storyboardQueued ∨ s.job.status = .storyboardGenerating)
    · rw [if_pos storyboard]
      exact .inl (grounds_discardOption.bind (fun _ => inferInstance) s)
    · rw [if_neg storyboard]
      cases same : (some task).filter (s.job.assemblyTaskIds.contains ·) with
      | some id =>
        cases (Option.filter_eq_some_iff.1 same).1
        refine .inl (grounds_release.bind (fun _ => ?_) s)
        refine .next fun _ => .next fun _ => ?_
        refine .next fun _ => .next fun retry => ?_
        split <;> infer_instance
      | none =>
        dsimp only
        split
        · exact .inl (grounds_releaseOption.bind (fun _ => inferInstance) s)
        · exact .inr rfl
  unfold recoverTask
  simp only [theJob_bind]
  split
  · exact .inl (grounds_releaseOption.bind (fun _ => inferInstance) s)
  · split
    · exact .inl (grounds_discardOption.bind (fun _ => inferInstance) s)
    · cases (some task).bind s.job.publishTaskIds.get? with
      | some channel =>
        dsimp only
        split
        · exact .inl (grounds_discard.bind (fun _ => inferInstance) s)
        · exact rest _
      | none =>
        cases (some task).bind s.job.ttsActiveTaskIds.get? with
        | some scene =>
          dsimp only
          split
          · rw [recoverVoice, theJob_bind]
            exact .inl (grounds_discard.bind (fun _ => inferInstance) s)
          · exact rest _
        | none => exact rest _

/-- Tasks leave the flight only, and the record names its task as long as it stays. -/
structure Eases (node : NodeName) (task : TaskId) (c c' : System) : Prop where
  grounded : inFlight c.queue task = false → inFlight c'.queue task = false
  bound : Bound node c.workers task → inFlight c'.queue task = true → Bound node c'.workers task

instance : Std.Refl (Eases node task) := ⟨fun _ => ⟨id, fun bound _ => bound⟩⟩

instance : IsTrans System (Eases node task) where
  trans c c' c'' first second := by
    refine ⟨fun down => second.grounded (first.grounded down), fun bound flies => ?_⟩
    refine second.bound (first.bound bound ?_) flies
    -- what flies at the end was never down
    by_contra down
    rw [second.grounded (Bool.eq_false_iff.2 down)] at flies
    cases flies

lemma bound_of_get? {workers workers' : Dict NodeName Worker} (same : workers'.get? node = workers.get? node)
    (bound : Bound node workers task) : Bound node workers' task := by
  obtain ⟨w, found, is⟩ := bound
  exact ⟨w, same.trans found, is⟩

lemma recoverTask_record {other : NodeName} (apart : other ≠ node) (id : Option TaskId) :
    Keeps (record node) (recoverTask env other id) := by
  have apart : Fact (other ≠ node) := ⟨apart⟩
  infer_instance

lemma eases_recoverWorker (lost : List NodeName) (other : NodeName) :
    Within (Eases node task) (recoverWorker env lost other) := by
  constructor
  intro c
  simp only [recoverWorker, read_bind]
  cases found : c.workers.get? other with
  | none => exact refl_of _ c
  | some w =>
    dsimp only
    -- a record that is marked names the task it named
    generalize same : ({ w with status := .offline } : Worker) = w'
    have named : w'.currentTask = w.currentTask := same ▸ rfl
    let marked : System := { c with workers := c.workers.set other w' }
    have still (bound : Bound node c.workers task) : Bound node marked.workers task := by
      obtain ⟨w'', found', is⟩ := bound
      by_cases own : other = node
      · rw [own] at found
        obtain rfl := Option.some.inj (found.symm.trans found')
        exact ⟨w', (Dict.get?_set _ _ _ _).trans (if_pos own), named.trans is⟩
      · exact ⟨w'', (Dict.get?_set _ _ _ _).trans ((if_neg own).trans found'), is⟩
    have offline : Eases node task c marked := ⟨id, fun bound _ => still bound⟩
    cases w.lastSeen with
    | none => exact offline
    | some lastSeen =>
      dsimp only
      split
      · exact refl_of _ c
      · refine trans_of _ offline ?_
        rw [write_bind]
        cases w.currentJob.bind fun id => (c.jobs.get? id).map fun job => (id, job) with
        | none => exact refl_of _ marked
        | some e =>
          let s : Ctx := ⟨e.1, e.2, marked.workers, marked.queue, marked.nextId, []⟩
          have grounded : Grounded task (recoverTask env other w.currentTask) := inferInstance
          refine ⟨grounded.leads s, fun bound flies => ?_⟩
          by_cases own : other = node
          · -- the record that is cleared named the task
            have own : w.currentTask = some task := by
              obtain ⟨w'', found', is⟩ := bound
              rw [Dict.get?_set, if_pos own] at found'
              obtain rfl := Option.some.inj found'
              exact named.symm.trans is
            rw [own] at flies ⊢
            rcases recoverTask_ends s with down | kept
            · exact absurd flies (Bool.eq_false_iff.1 down)
            · exact bound_of_get? (congrArg (Dict.get? · node) kept) bound
          · exact bound_of_get? ((recoverTask_record own w.currentTask).keeps s) bound

lemma eases_recoverStaleWorkers (lost : List NodeName) : Within (Eases node task) (recoverStaleWorkers env lost) := by
  unfold recoverStaleWorkers
  exact .next fun c => Within.forEach _ fun other _ => eases_recoverWorker lost other

end

/-- The heartbeat of another node: the record names the task of its node as long as it stays in flight. -/
theorem bound_heartbeat {node : NodeName} {env : Env} {p : Heartbeat} (apart : p.nodeName ≠ node) (c : System)
    (task : TaskId) (bound : Bound node c.workers task) (flies : inFlight (heartbeat env p c).2.queue task = true) :
    Bound node (heartbeat env p c).2.workers task := by
  have eases : Within (Eases node task) (heartbeat env p) := by
    unfold heartbeat
    refine .ite inferInstance (.ite inferInstance (.next fun c => ?_))
    dsimp only
    refine .bind ?_ fun _ => .next fun _ => ⟨fun c => ⟨id, fun bound _ => ?_⟩⟩
    · have recovers : Within (Eases node task) (recoverStaleWorkers env [p.nodeName]) := eases_recoverStaleWorkers _
      infer_instance
    · exact bound_of_get? ((Dict.get?_set _ _ _ _).trans (if_neg apart)) bound
  exact (eases.leads c).bound bound flies

end Vertep.Core.Overlap
