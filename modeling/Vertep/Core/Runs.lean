import Vertep.Core.Fencing
import Vertep.Core.Operations
import Vertep.Queue.Items

/-!
# What an operation does, in small steps

An operation is a path of small steps: a handler at work on one Job, a move of tasks within the queue, a
task taken out of it, a write to the worker records. `Small` lists them once, under conditions on the
handlers (`H`) and on the tasks taken out (`K`), and `Op.path` finds the path of every operation; an
invariant of CORE is then a fact about each kind of small step (`ReachableBy.invariant`).
-/

namespace Vertep.Core
open Lib Queue
open Command Act
open Relation (ReflTransGen)

/-- What CORE runs on one Job. -/
inductive Handler where
  | result (env : Env) (r : TaskResult)
  | take (node : NodeName) (item : Item TaskBody)
  | recover (env : Env) (node : NodeName) (task : Option TaskId)
  | expire (env : Env) (item : Item TaskBody)
  | promote (env : Env) (id : JobId) (submitted : List (JobId × Background))
  | background (envs later : ℕ → Env) (b : Background)
  | render (env : Env) (envs : ℕ → Env) (p : Parked)
  | ask (env : Env) (q : JobRequest)
  | revive (item : Item TaskBody)
  | restart (status : JobStatus)

/-- The tasks of the handler do not come from the dead letters. -/
def Handler.dispatched : Handler → Bool
  | .revive _ => false
  | _ => true

def Handler.act : Handler → Act Unit
  | .result env r => Act.result env r
  | .take node item => Act.take node item
  | .recover env node task => recoverTask env node task
  | .expire env item => expireTask env item
  | .promote env id submitted => do
    modifyJob fun job => if job.status = .waitingForSystem then { job with status := .new } else job
    let job ← theJob
    when (job.status = .new ∧ env.due id ∧ (id, Background.scheduledPrepare) ∉ submitted)
      (submit .scheduledPrepare)
  | .background envs later b => do
    let _ ← b.act envs later
    pure ()
  | .render env envs p => do
    let _ ← p.act env envs
    pure ()
  | .ask env q => q.act env
  | .revive item => reviveTask item
  | .restart status => do
    when (status = .waitingForSystem) (update .new)
    submit .prepareAndDispatch

/-- The tasks of the queue stay, wherever they are in it. -/
structure SameTasks (c c' : System) : Prop where
  jobs : c'.jobs = c.jobs
  later : c.nextId ≤ c'.nextId
  coherent : c.queue.Coherent c.nextId → c'.queue.Coherent c'.nextId
  items : c.queue.Coherent c.nextId → ∀ i, i ∈ c'.queue.items ↔ i ∈ c.queue.items

/-- One task may have left the queue. -/
structure Without (c : System) (id : TaskId) (c' : System) : Prop where
  jobs : c'.jobs = c.jobs
  later : c.nextId ≤ c'.nextId
  filed : c.queue.Filed → c'.queue.Filed
  fewer : ∀ i ∈ c'.queue.items, i ∈ c.queue.items
  kept : c.queue.Filed → ∀ i ∈ c.queue.items, i.taskId ≠ id → i ∈ c'.queue.items

/-- The small steps of CORE, where `H` says which handlers may run on which Jobs, and `K` which tasks
may leave the queue outside of a handler. -/
inductive Small (H : JobId → Job → Handler → Prop) (K : Dict JobId Job → TaskId → Prop) :
    System → System → Prop where
  | handle {c : System} {id : JobId} {job : Job} {h : Handler} :
    c.jobs.get? id = some job → H id job h → (own : h.dispatched = true := by rfl) →
    Small H K c (c.on id job h.act).2
  | move {c c' : System} : SameTasks c c' → Small H K c c'
  | drop {c c' : System} {id : TaskId} : K c.jobs id → Without c id c' → Small H K c c'
  | create (c : System) (job : Job) (submitted : List (JobId × Background)) :
    (∃ request : JobCreate, ∃ status ∈ [JobStatus.new, .waitingForSystem], job =
      { status := status
        taskType := request.taskType
        priority := request.priority
        maxRetries := request.maxRetries }) →
    Small H K c
      { c with
        nextId := c.nextId + 1
        jobs := c.jobs.set c.nextId job
        submitted := submitted }
  | revive {c : System} {env : Env} {task : TaskId} {item : Item TaskBody}
      {queue : LocalQueue TaskBody} {job : Job} :
    c.queue.requeueDeadLetter task env.now c.nextId = (some item, queue) →
    c.jobs.get? item.payload.jobId = some job → H item.payload.jobId job (.revive item) →
    Small H K c
      ({ c with queue := queue, nextId := c.nextId + 1 }.on item.payload.jobId job (reviveTask item)).2
  | reload (c : System) (env : Env) (durable : Bool) :
    Small H K c
      { c with
        jobs := reloadJobs env c.jobs
        queue := if durable then c.queue else {}
        submitted := []
        rendering := [] }

variable {H : JobId → Job → Handler → Prop} {K : Dict JobId Job → TaskId → Prop}

abbrev Path (H : JobId → Job → Handler → Prop) (K : Dict JobId Job → TaskId → Prop) :
    System → System → Prop := ReflTransGen (Small H K)

variable {c c' : System}

lemma SameTasks.refl_of (jobs : c'.jobs = c.jobs) (queue : c'.queue = c.queue)
    (nextId : c'.nextId = c.nextId) : SameTasks c c' where
  jobs := jobs
  later := nextId.ge
  coherent h := by rwa [queue, nextId]
  items _ i := by rw [queue]

lemma SameTasks.trans {c'' : System} (m : SameTasks c c') (m' : SameTasks c' c'') :
    SameTasks c c'' where
  jobs := m'.jobs.trans m.jobs
  later := m.later.trans m'.later
  coherent h := m'.coherent (m.coherent h)
  items h i := (m'.items (m.coherent h) i).trans (m.items h i)

lemma sameTasks_claim (c : System) (now : Time) (lease : ℚ) :
    SameTasks c { c with queue := (c.queue.claim now lease).2 } where
  jobs := rfl
  later := le_rfl
  coherent h := h.claim now lease
  items h _ := LocalQueue.mem_claim h now lease

lemma sameTasks_release (c : System) (id : TaskId) (now : Time) :
    SameTasks c { c with queue := (c.queue.release id now c.nextId).2, nextId := c.nextId + 1 } where
  jobs := rfl
  later := Nat.le_succ _
  coherent h := (h.release id now c.nextId).mono (Nat.le_succ _)
  items h _ := LocalQueue.mem_release h id now c.nextId

lemma sameTasks_releaseAll (env : Env) (held : List TaskId) (c : System) :
    SameTasks c (c.releaseAll env held) := by
  induction held generalizing c with
  | nil => exact .refl_of rfl rfl rfl
  | cons id held ih => exact (sameTasks_release c id env.now).trans (ih _)

lemma without_ack (c : System) (id : TaskId) : Without c id { c with queue := c.queue.ack id } where
  jobs := rfl
  later := le_rfl
  filed h := h.ack id
  fewer _ := LocalQueue.mem_of_mem_ack
  kept filed _ := LocalQueue.mem_ack filed

lemma without_discard (c : System) (id : TaskId) :
    Without c id { c with queue := c.queue.discard id } where
  jobs := rfl
  later := le_rfl
  filed h := h.ack id
  fewer _ := LocalQueue.mem_of_mem_discard
  kept filed _ := LocalQueue.mem_discard filed

lemma Path.move (m : SameTasks c c') : Path H K c c' := .single (.move m)

/-! ## Claims -/

/-- The tests of the scan take this task of the ready queue out of it. -/
def Dropped (env : Env) (worker : Worker) (c : System) (item : Item TaskBody) : Prop :=
  (∃ row ∈ c.queue.ready, row.item = item) ∧ item.due env.now ∧
    ∀ job, c.jobs.get? item.payload.jobId = some job →
      verdict env worker c.jobs job item = .drop ∨ verdict env worker c.jobs job item = .releaseAndDrop

/-- The tests of the scan hand out this task of the ready queue. -/
def Taken (env : Env) (worker : Worker) (c : System) (item : Item TaskBody) (job : Job) : Prop :=
  (∃ row ∈ c.queue.ready, row.item = item) ∧ c.jobs.get? item.payload.jobId = some job ∧
    verdict env worker c.jobs job item = .take

variable {now : Time}

lemma due_of_popDue {heap deferred : List (Row TaskBody)} {row : Row TaskBody}
    (h : (popDue now heap deferred).1 = some row) : row.item.due now := by
  induction heap generalizing deferred with
  | nil => cases h
  | cons r heap ih =>
    simp only [popDue] at h
    split at h
    · cases h
      assumption
    · exact ih h

lemma claim_served {q : LocalQueue TaskBody} {lease : ℚ} {item : Item TaskBody}
    (h : (q.claim now lease).1 = some item) :
    (∃ row ∈ q.ready, row.item = item) ∧ item.due now ∧
      (q.claim now lease).2.inflight = q.inflight.set item.taskId (now + lease, item) := by
  rcases LocalQueue.claim_cases q now lease with ⟨_, eq⟩ | ⟨row, served, eq⟩
  · rw [eq] at h
    cases h
  · rw [eq] at h ⊢
    cases h
    exact ⟨⟨row, LocalQueue.mem_of_popDue served, rfl⟩, due_of_popDue served, rfl⟩

lemma ready_of_claim {q : LocalQueue TaskBody} {lease : ℚ} {row : Row TaskBody}
    (h : row ∈ (q.claim now lease).2.ready) : row ∈ q.ready := by
  have perm := popDue_perm now q.ready []
  rw [List.append_nil] at perm
  rcases LocalQueue.claim_cases q now lease with ⟨served, eq⟩ | ⟨_, served, eq⟩
  all_goals
    rw [eq] at h
    exact perm.mem_iff.1 (List.mem_append_right _ h)

/-- Every ready task is one of `R`, and so is every task kept aside. -/
structure Scanned (R : Item TaskBody → Prop) (held : List TaskId) (q : LocalQueue TaskBody) : Prop where
  ready : ∀ row ∈ q.ready, R row.item
  aside : ∀ id ∈ held, ∀ d i, q.inflight.get? id = some (d, i) → R i

section
variable {R : Item TaskBody → Prop} {held : List TaskId} {q : LocalQueue TaskBody}

lemma Scanned.claim (s : Scanned R held q) {lease : ℚ} {item : Item TaskBody}
    (served : (q.claim now lease).1 = some item) :
    Scanned R held (q.claim now lease).2 ∧ Scanned R (held ++ [item.taskId]) (q.claim now lease).2 := by
  obtain ⟨⟨row, member, rfl⟩, _, inflight⟩ := claim_served served
  have ready : ∀ row ∈ (q.claim now lease).2.ready, R row.item :=
    fun row h => s.ready row (ready_of_claim h)
  have filed (id : TaskId) (d : Time) (i : Item TaskBody)
      (old : q.inflight.get? id = some (d, i) → R i)
      (found : (q.claim now lease).2.inflight.get? id = some (d, i)) : R i := by
    rw [inflight, Dict.get?_set] at found
    split at found
    · cases found
      exact s.ready row member
    · exact old found
  have aside (id : TaskId) (h : id ∈ held) (d : Time) (i : Item TaskBody) :=
    filed id d i (s.aside id h d i)
  refine ⟨⟨ready, aside⟩, ⟨ready, fun id h d i found => ?_⟩⟩
  rcases List.mem_append.1 h with h | h
  · exact aside id h d i found
  · rw [List.mem_singleton.1 h, inflight, Dict.get?_set, if_pos rfl] at found
    cases found
    exact s.ready row member

lemma Scanned.ack (s : Scanned R held q) (id : TaskId) : Scanned R held (q.ack id) where
  ready := s.ready
  aside k member d i found := by
    simp only [LocalQueue.ack, Dict.get?_pop] at found
    split at found
    · cases found
    · exact s.aside k member d i found

lemma Scanned.release {id : TaskId} (s : Scanned R (id :: held) q) (now : Time) (uuid : TaskId) :
    Scanned R held (q.release id now uuid).2 := by
  have rest : Scanned R held q := ⟨s.ready, fun k h => s.aside k (List.mem_cons_of_mem _ h)⟩
  unfold LocalQueue.release
  split
  · exact rest
  · rename_i d i found
    have acked := rest.ack id
    refine ⟨fun row member => ?_, acked.aside⟩
    simp only [LocalQueue.enqueue, LocalQueue.push, stamp_toTask] at member
    rcases List.mem_cons.1 ((heappush_perm _ _).mem_iff.1 member) with rfl | member
    · exact s.aside id List.mem_cons_self d i found
    · exact acked.ready row member

lemma Scanned.releaseAll (env : Env) (s : Scanned R held c.queue) :
    Scanned R [] (c.releaseAll env held).queue := by
  induction held generalizing c with
  | nil => exact s
  | cons id held ih =>
    refine @ih { c with queue := (c.queue.release id env.now c.nextId).2, nextId := c.nextId + 1 } ?_
    exact s.release env.now c.nextId

end

lemma claimScan_path {env : Env} {p : Claim} {worker : Worker} {R : Item TaskBody → Prop}
    {jobs : Dict JobId Job}
    (taken : ∀ item job, R item → jobs.get? item.payload.jobId = some job →
      verdict env worker jobs job item = .take → H item.payload.jobId job (.take p.nodeName item))
    (dropped : ∀ item, R item → item.due env.now →
      (∀ job, jobs.get? item.payload.jobId = some job → verdict env worker jobs job item = .drop ∨
        verdict env worker jobs job item = .releaseAndDrop) → K jobs item.taskId)
    (n : ℕ) (held : List TaskId) (c : System) (same : c.jobs = jobs) (scanned : Scanned R held c.queue) :
    Path H K c (claimScan env p worker n held c).2 := by
  induction n generalizing held c with
  | zero => exact .move (sameTasks_releaseAll env held c)
  | succ n ih =>
    subst same
    have claimed := sameTasks_claim c env.now env.lease
    rw [claimScan]
    rcases run : c.queue.claim env.now env.lease with ⟨served, queue⟩
    have left : (c.queue.claim env.now env.lease).2 = queue := by rw [run]
    rw [left] at claimed
    cases served with
    | none => exact .move (claimed.trans (sameTasks_releaseAll env held _))
    | some item =>
      have served : (c.queue.claim env.now env.lease).1 = some item := by rw [run]
      obtain ⟨⟨row, member, is⟩, due, _⟩ := claim_served served
      have listed : R item := is ▸ scanned.ready row member
      obtain ⟨kept, aside⟩ := scanned.claim served
      rw [left] at kept aside
      -- a task that is acked leaves the queue, and the scan goes on
      have acked {c' : System} (held' : List TaskId) (m : SameTasks { c with queue := queue } c')
          (scanned' : Scanned R held' c'.queue)
          (drop : ∀ job, c.jobs.get? item.payload.jobId = some job →
            verdict env worker c.jobs job item = .drop ∨
              verdict env worker c.jobs job item = .releaseAndDrop) :
          Path H K c (claimScan env p worker n held' { c' with queue := c'.queue.ack item.taskId }).2 := by
        have jobs' : c'.jobs = c.jobs := m.jobs
        have allowed : K c'.jobs item.taskId := jobs' ▸ dropped item listed due drop
        have step : Path H K c { c' with queue := c'.queue.ack item.taskId } :=
          (Path.move (claimed.trans m)).tail (.drop allowed (without_ack c' item.taskId))
        exact step.trans (ih held' _ jobs' (scanned'.ack _))
      have here : SameTasks { c with queue := queue } { c with queue := queue } := .refl_of rfl rfl rfl
      simp only
      cases found : c.jobs.get? item.payload.jobId with
      | none => exact acked held here kept fun job h => by cases found.symm.trans h
      | some job =>
        have only {v : Verdict} (is : verdict env worker c.jobs job item = v)
            (h : v = .drop ∨ v = .releaseAndDrop) (job' : Job)
            (found' : c.jobs.get? item.payload.jobId = some job') :
            verdict env worker c.jobs job' item = .drop ∨
              verdict env worker c.jobs job' item = .releaseAndDrop := by
          cases Option.some.inj (found.symm.trans found')
          exact is ▸ h
        simp only
        cases is : verdict env worker c.jobs job item with
        | drop => exact acked held here kept (only is (.inl rfl))
        | hold => exact (Path.move claimed).trans (ih _ _ rfl aside)
        | releaseAndDrop =>
          have moved := sameTasks_releaseAll env held { c with queue := queue }
          exact acked [] moved (kept.releaseAll env) (only is (.inr rfl))
        | take =>
          have moved := claimed.trans (sameTasks_releaseAll env held { c with queue := queue })
          have there : (({ c with queue := queue } : System).releaseAll env held).jobs.get?
              item.payload.jobId = some job := by
            rw [moved.jobs, found]
          exact ((Path.move moved).tail (.handle there (taken item job listed found is) rfl)).tail
            (.move (.refl_of rfl rfl rfl))

/-! ## The other operations -/

variable {id : JobId}

section
variable (env : Env)

lemma Path.others (jobs : c'.jobs = c.jobs) (queue : c'.queue = c.queue)
    (nextId : c'.nextId = c.nextId) : Path H K c c' := .move (.refl_of jobs queue nextId)

lemma recoverWorker_path (lost : List NodeName)
    (recovered : ∀ id job node task, H id job (.recover env node task)) (node : NodeName) :
    Within (Path H K) (recoverWorker env lost node) := by
  refine ⟨fun c => ?_⟩
  simp only [recoverWorker, read_bind]
  cases c.workers.get? node with
  | none => exact .refl
  | some w =>
    obtain ⟨status, desired, currentJob, currentTask, lastSeen, instance_, text, publisher, voice⟩ := w
    cases lastSeen with
    | none => exact .others rfl rfl rfl
    | some lastSeen =>
      simp only
      split
      · exact .refl
      · have offline (workers : Dict NodeName Worker) : Path H K c { c with workers := workers } :=
          .others rfl rfl rfl
        simp only [write_bind]
        let w' : Worker :=
          ⟨.offline, desired, currentJob, currentTask, some lastSeen, instance_, text, publisher, voice⟩
        refine ReflTransGen.trans (offline (c.workers.set node w')) ?_
        cases currentJob with
        | none => exact .refl
        | some id =>
          simp only [Option.bind_some]
          cases found : c.jobs.get? id with
          | none => exact .refl
          | some job =>
            exact .single (.handle (h := .recover env node currentTask) found (recovered id job _ _) rfl)

lemma recoverStaleWorkers_path (lost : List NodeName)
    (recovered : ∀ id job node task, H id job (.recover env node task)) :
    Within (Path H K) (recoverStaleWorkers env lost) := by
  unfold recoverStaleWorkers
  have turn := @recoverWorker_path H K env lost recovered
  infer_instance

lemma heartbeat_path (p : Heartbeat) (recovered : ∀ id job node task, H id job (.recover env node task)) :
    Within (Path H K) (heartbeat env p) := by
  have recover := @recoverStaleWorkers_path H K env [p.nodeName] recovered
  have record (status : WorkerState) (desired : Option WorkerState) :
      Within (Path H K) (write fun c : System =>
        { c with workers := c.workers.set p.nodeName (p.record env.now status desired) } : Request Unit) :=
    ⟨fun _ => .others rfl rfl rfl⟩
  unfold heartbeat
  infer_instance

lemma expire_path (expired : ∀ id job item, H id job (.expire env item)) (item : Item TaskBody) :
    Within (Path H K) (expire env item) := by
  refine ⟨fun c => ?_⟩
  simp only [expire, read_bind]
  cases found : c.jobs.get? item.payload.jobId with
  | none => exact .refl
  | some job => exact .single (.handle found (expired _ job item) rfl)

lemma sweep_path (expired : ∀ id job item, H id job (.expire env item)) :
    Within (Path H K) (sweep env) := by
  refine ⟨fun c => ?_⟩
  simp only [sweep, read_bind, write_bind]
  have swept : SameTasks c { c with queue := (c.queue.requeueExpired env.now none c.nextId).2,
                                    nextId := c.nextId + 1 } :=
    { jobs := rfl
      later := Nat.le_succ _
      coherent := fun h => (h.requeueExpired env.now none c.nextId).mono (Nat.le_succ _)
      items := fun h _ => LocalQueue.mem_requeueExpired h env.now none c.nextId }
  refine (Path.move swept).trans ?_
  have turn := @expire_path H K env expired
  exact (within_forEach _).leads _

lemma forJob_path {q : JobRequest}
    (asked : ∀ job, c.jobs.get? id = some job → H id job (.ask env q)) :
    Path H K c (forJob id (q.act env) c).2 := by
  simp only [forJob, read_bind]
  cases found : c.jobs.get? id with
  | none => exact .refl
  | some job => exact .single (.handle (h := .ask env q) found (asked job found) rfl)

lemma on_answer {α : Type} {job : Job} (m : Act α) :
    (c.on id job (do let _ ← m; pure ())).2 = (c.on id job m).2 := by
  simp only [System.on, bind_apply]
  rcases m _ with ⟨_ | _, _⟩ <;> rfl

lemma runThread_path {m : Act (Option Parked)} {h : Handler}
    (act : h.act = do let _ ← m; pure ()) (own : h.dispatched = true)
    (allowed : ∀ job, c.jobs.get? id = some job → H id job h) :
    Path H K c (runThread id m c).2 := by
  simp only [runThread, read_bind]
  cases found : c.jobs.get? id with
  | none => exact .refl
  | some job =>
    have step : Path H K c (c.on id job m).2 := by
      have handled : Small H K c (c.on id job h.act).2 := .handle found (allowed job found) own
      rw [act, on_answer] at handled
      exact .single handled
    simp only [bind_apply, onJob]
    rcases run : c.on id job m with ⟨_ | parked, c'⟩
    · rw [run] at step
      exact step
    · rw [run] at step
      exact step.trans (Path.others rfl rfl rfl)

lemma runBackground_path {envs later : ℕ → Env} {index : ℕ}
    (submitted : ∀ id b job, c.submitted[index]? = some (id, b) → c.jobs.get? id = some job →
      H id job (.background envs later b)) :
    Path H K c (runBackground envs later index c).2 := by
  simp only [runBackground, read_bind]
  cases listed : c.submitted[index]? with
  | none => exact .refl
  | some e =>
    obtain ⟨id, b⟩ := e
    simp only [write_bind]
    have started : Path H K c { c with submitted := c.submitted.eraseIdx index } := .others rfl rfl rfl
    refine started.trans (runThread_path (h := .background envs later b) rfl rfl ?_)
    exact fun job found => submitted id b job listed found

lemma endRender_path {envs : ℕ → Env} {index : ℕ}
    (ended : ∀ id p job, c.rendering[index]? = some (id, p) → c.jobs.get? id = some job →
      H id job (.render env envs p)) :
    Path H K c (endRender env envs index c).2 := by
  simp only [endRender, read_bind]
  cases listed : c.rendering[index]? with
  | none => exact .refl
  | some e =>
    obtain ⟨id, p⟩ := e
    simp only [write_bind]
    have started : Path H K c { c with rendering := c.rendering.eraseIdx index } := .others rfl rfl rfl
    refine started.trans (runThread_path (h := .render env envs p) rfl rfl ?_)
    exact fun job found => ended id p job listed found

lemma promote_path (promoted : ∀ job submitted, H id job (.promote env id submitted)) :
    Path H K c (promote env id c).2 := by
  simp only [promote, read_bind]
  cases found : c.jobs.get? id with
  | none => exact .refl
  | some job => exact .single (.handle (h := .promote env id c.submitted) found (promoted job _) rfl)

lemma taskResult_path {r : TaskResult}
    (posted : env.authorized = true → ∀ job, c.jobs.get? r.jobId = some job →
      H r.jobId job (.result env r)) : Path H K c (taskResult env r c).2 := by
  simp only [taskResult]
  cases authorized : env.authorized with
  | false => exact .refl
  | true =>
    simp only [not_true_eq_false, if_false]
    cases found : c.jobs.get? r.jobId with
    | none => exact .refl
    | some job => exact .single (.handle (h := .result env r) found (posted authorized job found) rfl)

lemma renewTask_path {node : NodeName} {taskId : TaskId} :
    Path H K c (renewTask env node taskId c).2 := by
  have renewed : Path H K c { c with queue := (c.queue.renew taskId env.now env.lease).2 } :=
    .move
      { jobs := rfl
        later := le_rfl
        coherent := fun h => h.renew taskId env.now env.lease
        items := fun h _ => LocalQueue.mem_renew h taskId env.now env.lease }
  simp only [renewTask]
  repeat' split
  all_goals first | exact .refl | exact renewed

lemma retryDeadLetterTask_path {taskId : TaskId}
    (revived : c.queue.hasTask taskId = false → ∀ item queue job,
      c.queue.requeueDeadLetter taskId env.now c.nextId = (some item, queue) →
      c.jobs.get? item.payload.jobId = some job → H item.payload.jobId job (.revive item)) :
    Path H K c (retryDeadLetterTask env taskId c).2 := by
  simp only [retryDeadLetterTask, read_bind]
  split
  · exact .refl
  rename_i gone
  rw [Bool.not_eq_true] at gone
  rcases run : c.queue.requeueDeadLetter taskId env.now c.nextId with ⟨x, queue⟩
  cases x with
  | none => exact .refl
  | some item =>
    simp only [write_bind]
    cases found : c.jobs.get? item.payload.jobId with
    | some job => exact .single (.revive run found (revived gone item queue job run found))
    | none =>
      exact .move
        { jobs := rfl
          later := Nat.le_succ _
          coherent := fun h => (h.requeueDeadLetter run).discard _
          items := fun h _ => LocalQueue.mem_requeueDeadLetter_discard h run }

lemma claimTask_path {p : Claim}
    (taken : ∀ worker, admitted env p c = some worker → ∀ item job, Taken env worker c item job →
      H item.payload.jobId job (.take p.nodeName item))
    (dropped : ∀ worker, admitted env p c = some worker →
      ∀ item, Dropped env worker c item → K c.jobs item.taskId) :
    Path H K c (claimTask env p c).2 := by
  simp only [claimTask]
  split
  · exact .refl
  cases admits : admitted env p c with
  | none => exact .refl
  | some worker =>
    have scanned : Scanned (fun item => ∃ row ∈ c.queue.ready, row.item = item) [] c.queue :=
      ⟨fun row member => ⟨row, member, rfl⟩, fun id member => absurd member List.not_mem_nil⟩
    exact claimScan_path (fun item job listed found is => taken worker admits item job ⟨listed, found, is⟩)
      (fun item listed due gone => dropped worker admits item ⟨listed, due, gone⟩) _ [] c rfl scanned

lemma createJob_path {request : JobCreate} : Path H K c (createJob env request c).2 := by
  simp only [createJob]
  split
  · exact .refl
  · refine .single (.create c _ _ ⟨request, _, ?_, rfl⟩)
    split
    · exact List.mem_cons_self
    · exact List.mem_cons_of_mem _ List.mem_cons_self

/-! ## Restart -/

lemma retireTask_path (dropped : ∀ jobs id, K jobs id) (item : Item TaskBody) :
    Within (Path H K) (retireTask env item) := by
  have drop : Within (Path H K) (write fun c : System =>
      { c with queue := c.queue.discard item.taskId } : Request Unit) :=
    ⟨fun c => .single (.drop (dropped _ _) (without_discard c item.taskId))⟩
  have unown : Within (Path H K) (write fun c : System =>
      { c with workers := interrupt item.taskId c.workers } : Request Unit) :=
    ⟨fun _ => .others rfl rfl rfl⟩
  have release : Within (Path H K) (write fun c : System =>
      { c with queue := (c.queue.release item.taskId env.now c.nextId).2, nextId := c.nextId + 1 } :
        Request Unit) :=
    ⟨fun c => .move (sameTasks_release c item.taskId env.now)⟩
  refine ⟨fun c => ?_⟩
  simp only [retireTask, read_bind]
  cases c.jobs.get? item.payload.jobId with
  | none => exact drop.leads c
  | some job =>
    simp only
    repeat' split
    · exact .refl
    · exact (release.bind fun _ => unown).leads c
    · exact (drop.bind fun _ => unown).leads c
    · exact .refl

lemma restartJob_path
    (restarted : ∀ id job, job.status = .new ∨ job.status = .waitingForSystem →
      H id job (.restart job.status)) (id : JobId) :
    Within (Path H K) (restartJob env id) := by
  refine ⟨fun c => ?_⟩
  simp only [restartJob, read_bind]
  cases found : c.jobs.get? id with
  | none => exact .refl
  | some job =>
    simp only [when]
    split
    · rename_i begun
      exact .single (.handle (h := .restart job.status) found (restarted id job begun.1) rfl)
    · exact .refl

lemma restart_path {durable : Bool} (dropped : ∀ jobs id, K jobs id)
    (restarted : ∀ id job, job.status = .new ∨ job.status = .waitingForSystem →
      H id job (.restart job.status)) (c : System) :
    Path H K c (restart env durable c).2 := by
  have retire := @retireTask_path H K env dropped
  have begin_ := @restartJob_path H K env restarted
  simp only [restart, write_bind, read_bind]
  refine ReflTransGen.head (.reload c env durable) ?_
  exact (inferInstance : Within (Path H K) _).leads _

end

/-! ## Runs -/

lemma get?_reloadJobs {env : Env} {jobs : Dict JobId Job} :
    (reloadJobs env jobs).get? id = (jobs.get? id).map fun job => job.reload (env.outputExists id) := by
  rw [reloadJobs, Dict.get?_foldl_set (fun id job => Job.reload (env.outputExists id) job) _ jobs.nodup,
    ← Dict.get?]
  cases jobs.get? id <;> rfl

/-- What `H` and `K` have to allow for an operation to be a path. -/
def Op.Allowed (H : JobId → Job → Handler → Prop) (K : Dict JobId Job → TaskId → Prop) (c : System) :
    Op → Prop
  | .create _ _ | .renew _ _ _ => True
  | .heartbeat env _ | .recover env _ => ∀ id job node task, H id job (.recover env node task)
  | .background envs later index => ∀ id b job, c.submitted[index]? = some (id, b) →
      c.jobs.get? id = some job → H id job (.background envs later b)
  | .render env envs index => ∀ id p job, c.rendering[index]? = some (id, p) →
      c.jobs.get? id = some job → H id job (.render env envs p)
  | .claim env p => ∀ worker, admitted env p c = some worker →
      (∀ item job, Taken env worker c item job → H item.payload.jobId job (.take p.nodeName item)) ∧
        ∀ item, Dropped env worker c item → K c.jobs item.taskId
  | .result env r => env.authorized = true → ∀ job, c.jobs.get? r.jobId = some job →
      H r.jobId job (.result env r)
  | .promote env id => ∀ job submitted, H id job (.promote env id submitted)
  | .sweep env => ∀ id job item, H id job (.expire env item)
  | .ask env id q => ∀ job, c.jobs.get? id = some job → H id job (.ask env q)
  | .retryDeadLetter env taskId => c.queue.hasTask taskId = false → ∀ item queue job,
      c.queue.requeueDeadLetter taskId env.now c.nextId = (some item, queue) →
      c.jobs.get? item.payload.jobId = some job → H item.payload.jobId job (.revive item)
  | .restart _ _ => (∀ jobs id, K jobs id) ∧
      ∀ id job, job.status = .new ∨ job.status = .waitingForSystem → H id job (.restart job.status)

lemma Op.path {op : Op} (allowed : op.Allowed H K c) : Path H K c (op.run c) := by
  cases op with
  | create env request => exact createJob_path env
  | heartbeat env p => exact (heartbeat_path env p allowed).leads c
  | background envs later index => exact runBackground_path allowed
  | render env envs index => exact endRender_path env allowed
  | claim env p => exact claimTask_path env (fun worker admits => (allowed worker admits).1) fun worker admits =>
      (allowed worker admits).2
  | renew env node taskId => exact renewTask_path env
  | result env r => exact taskResult_path env allowed
  | recover env lost => exact (recoverStaleWorkers_path env lost allowed).leads c
  | promote env id => exact promote_path env allowed
  | sweep env => exact (sweep_path env allowed).leads c
  | ask env id q => exact forJob_path env allowed
  | retryDeadLetter env taskId => exact retryDeadLetterTask_path env allowed
  | restart env durable => exact restart_path env allowed.1 allowed.2 c

/-- The invariant rule: what every small step keeps holds in every state CORE reaches. -/
theorem ReachableBy.invariant {Meets : System → Op → Prop} {I : System → Prop} (start : I {})
    (allowed : ∀ c op, I c → Meets c op → op.Allowed H K c)
    (keep : ∀ c c', I c → Small H K c c' → I c') (r : ReachableBy Meets c) : I c := by
  refine Reach.invariant (fun c h => h ▸ start) (fun c c' now h => ?_) r
  obtain ⟨op, meets, rfl⟩ := h
  have along (c' : System) (path : Path H K c c') : I c' := by
    induction path with
    | refl => exact now
    | tail _ step ih => exact keep _ _ ih step
  exact along _ (Op.path (allowed c op now meets))

/-- What holds of every Job: it holds of a new one, and every handler and a restart keep it. -/
theorem ReachableBy.jobs {Meets : System → Op → Prop} {J : JobId → Job → Prop}
    (allowed : ∀ c op, (∀ id job, c.jobs.get? id = some job → J id job) → Meets c op →
      op.Allowed H (fun _ _ => True) c)
    (create : ∀ id (request : JobCreate), ∀ status ∈ [JobStatus.new, .waitingForSystem],
      J id { status := status, taskType := request.taskType, priority := request.priority,
             maxRetries := request.maxRetries })
    (reload : ∀ id job video, J id job → J id (job.reload video))
    (handle : ∀ (s : Ctx) h, J s.jobId s.job → H s.jobId s.job h → J s.jobId (h.act s).2.job)
    (r : ReachableBy Meets c) : ∀ id job, c.jobs.get? id = some job → J id job := by
  -- the Job a handler worked on, and all others
  have entry {c : System} (all : ∀ id job, c.jobs.get? id = some job → J id job) (k : JobId) {job : Job}
      (kept : J k job) (id : JobId) (job' : Job) (found : (c.jobs.set k job).get? id = some job') :
      J id job' := by
    rw [Dict.get?_set] at found
    split at found
    · rename_i same
      cases found
      exact same ▸ kept
    · exact all id job' found
  refine r.invariant (fun id job found => by cases found) allowed fun c c' all step => ?_
  cases step with
  | @handle k job h found allowed _ => exact entry all k (handle (c.ctx k job) h (all k job found) allowed)
  | move m => exact m.jobs ▸ all
  | drop _ w => exact w.jobs ▸ all
  | create job submitted new =>
    obtain ⟨request, status, listed, rfl⟩ := new
    exact entry all c.nextId (create c.nextId request status listed)
  | @revive env task item queue job _ found allowed =>
    exact @entry { c with queue := queue, nextId := c.nextId + 1 } all item.payload.jobId _
      (handle (System.ctx { c with queue := queue, nextId := c.nextId + 1 } item.payload.jobId job)
        (.revive item) (all _ job found) allowed)
  | reload env durable =>
    intro id job' found
    simp only [get?_reloadJobs, Option.map_eq_some_iff] at found
    obtain ⟨job, found, rfl⟩ := found
    exact reload id job _ (all id job found)

/-- The same, for what a small step keeps wherever CORE does it. -/
theorem Reachable.invariant {I : System → Prop} (start : I {})
    (keep : ∀ c c', I c → Small (fun _ _ _ => True) (fun _ _ => True) c c' → I c')
    (r : Reachable c) : I c := by
  refine ReachableBy.invariant start (fun c op _ _ => ?_) keep r
  cases op <;> simp [Op.Allowed]

end Vertep.Core
