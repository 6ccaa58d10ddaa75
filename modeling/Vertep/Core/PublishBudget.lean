import Vertep.Core.LateResults

/-!
# The retry budget of a publication (`core/api/tasks.py`)

A publish request issues one task for each channel it names, and a failed attempt of a channel issues another one
while `publish_retry_count` allows it. That counter is kept from one request to the next, and the task of a lost
worker is issued again without it. `Effect` says what a step of CORE does to the attempts of one channel, a `Run`
strings the steps together from a request on, and its `Tally` counts the tasks it enqueued.
-/

namespace Vertep.Core
open Lib Queue
open Command Act

/-- What a task for a channel leaves in the Job. -/
def Job.publishing (job : Job) (env : Env) (id : JobId) (next : TaskId) (channel : Channel) : Job :=
  { job with
    publishIntent := job.publishIntent.set channel ⟨job.activeVideoVersion, env.deliveryContract id⟩
    publishTaskIds := job.publishTaskIds.set next channel }

/-- The Job without the task of a channel. -/
def Job.without (job : Job) (task : TaskId) (channel : Channel) : Job :=
  { job with
    publishTaskIds :=
      if job.publishTaskIds.get? task = some channel then job.publishTaskIds.pop task
      else job.publishTaskIds }

namespace Publication

/-! ## What is counted -/

def publishesOn (id : JobId) (channel : Channel) (item : Item TaskBody) : Bool :=
  item.payload.jobId = id ∧ item.payload.task = some .publish ∧ item.payload.channel = some channel

def enqueued (channel : Channel) (s s' : Ctx) : ℕ := s'.queue.newTasks s.nextId (publishesOn s.jobId channel)

def charged (job : Job) (channel : Channel) : ℕ := (job.publishRetryCount.get? channel).getD 0

def Idle (job : Job) (channel : Channel) : Prop := ∀ task, job.publishTaskIds.get? task ≠ some channel

/-! ## What a step does to the attempts of a channel -/

/-- The task `gone` is answered, and a `new` one is issued. -/
structure Effect (channel : Channel) (gone : Option TaskId) (new : Bool) (s s' : Ctx) : Prop where
  jobId : s'.jobId = s.jobId
  maxRetries : s'.job.maxRetries = s.job.maxRetries
  pending : ∀ task, s'.job.publishTaskIds.get? task = some channel ↔
    s.job.publishTaskIds.get? task = some channel ∧ gone ≠ some task ∨ new = true ∧ task = s.nextId
  enqueued : enqueued channel s s' = new.toNat

/-- A step that does nothing about the channel. -/
structure Aside (channel : Channel) (s s' : Ctx) : Prop extends Effect channel none false s s' where
  charged : charged s'.job channel = charged s.job channel
  ordered : s'.Ordered

/-- What the attempts of a channel are kept in is as it was. -/
structure Same (channel : Channel) (s s' : Ctx) : Prop where
  jobId : s'.jobId = s.jobId
  nextId : s'.nextId = s.nextId
  maxRetries : s'.job.maxRetries = s.job.maxRetries
  tasks : s'.job.publishTaskIds = s.job.publishTaskIds
  charged : charged s'.job channel = charged s.job channel

section
variable {channel : Channel} {gone : Option TaskId} {new : Bool} {s s₁ s' : Ctx}

lemma Effect.before (e : Effect channel gone new s₁ s') (jobId : s₁.jobId = s.jobId) (nextId : s₁.nextId = s.nextId)
    (maxRetries : s₁.job.maxRetries = s.job.maxRetries)
    (pending : ∀ task, s₁.job.publishTaskIds.get? task = some channel ∧ gone ≠ some task ↔
      s.job.publishTaskIds.get? task = some channel ∧ gone ≠ some task) : Effect channel gone new s s' where
  jobId := e.jobId.trans jobId
  maxRetries := e.maxRetries.trans maxRetries
  pending task := by rw [e.pending task, pending, nextId]
  enqueued := by rw [← e.enqueued, Publication.enqueued, Publication.enqueued, nextId, jobId]

lemma Effect.after (e : Effect channel gone new s s₁) (same : Same channel s₁ s')
    (ready : s'.queue.ready = s₁.queue.ready) : Effect channel gone new s s' where
  jobId := same.jobId.trans e.jobId
  maxRetries := same.maxRetries.trans e.maxRetries
  pending task := by rw [same.tasks, e.pending task]
  enqueued := by
    rw [← e.enqueued, Publication.enqueued, Publication.enqueued, LocalQueue.newTasks, LocalQueue.newTasks, ready]

end

/-! ## Issuing a task -/

def Remote (env : Env) (workers : Dict NodeName Worker) : Prop :=
  ¬ (¬ workers.values.any Worker.publisher ∧ env.localFallback = true)

/-- A task of the channel goes to the publishers, and its settings can be read. -/
structure Routed (env : Env) (channel : Channel) (workers : Dict NodeName Worker) : Prop where
  remote : Remote env workers
  settings : channel = .threads ∨ channel = .telegram → env.publishSettings channel = .ok ()

section
variable {env : Env} {channel : Channel} {s s' : Ctx}

lemma enqueuePublishTask_runs (routed : Routed env channel s.workers) (delay : ℚ) :
    ∃ item, publishesOn s.jobId channel item ∧ item.taskId = s.nextId ∧
      enqueuePublishTask env channel delay s = (.ok (),
        { s with
          job := s.job.publishing env s.jobId s.nextId channel
          queue := s.queue.push item
          nextId := s.nextId + 1 }) := by
  have settings : (when (channel = .threads ∨ channel = .telegram) (answer (env.publishSettings channel)) :
      Act Unit) = pure () := by
    rw [when]
    split
    · rename_i asks
      rw [routed.settings asks]
      rfl
    · rfl
  have route : ¬ (¬ s.workers.values.any Worker.publisher ∧ env.localFallback = true) := routed.remote
  simp only [enqueuePublishTask, read_bind, if_neg route, modifyJob_bind, settings, pure_bind_eq]
  rw [bind_of_ok (enqueue_fresh env (.inr rfl))]
  refine ⟨_, ?_, stamp_fresh (.inr rfl), rfl⟩
  simp [publishesOn, Queue.stamp]

lemma enqueuePublishTask_effect (routed : Routed env channel s.workers) (delay : ℚ)
    (coherent : s.queue.Coherent s.nextId) :
    ∃ s', enqueuePublishTask env channel delay s = (.ok (), s') ∧ Effect channel none true s s' ∧
      s'.job.publishRetryCount = s.job.publishRetryCount ∧ s'.workers = s.workers := by
  obtain ⟨item, publishes, name, run⟩ := enqueuePublishTask_runs routed delay
  refine ⟨_, run, ⟨rfl, rfl, fun task => ?_, ?_⟩, rfl, rfl⟩
  · simp only [Job.publishing, Dict.get?_set]
    split
    · rename_i same
      subst same
      simp
    · rename_i other
      simp [Ne.symm other]
  · rw [enqueued, LocalQueue.newTasks_push, coherent.newTasks, if_pos ⟨name.ge, publishes⟩]
    rfl

omit env s s' in
lemma without_iff (job : Job) (task t : TaskId) : (job.without task channel).publishTaskIds.get? t = some channel ↔
    job.publishTaskIds.get? t = some channel ∧ some task ≠ some t := by
  simp only [Job.without]
  split
  · rw [Dict.get?_pop]
    split
    · rename_i same
      simp [same]
    · rename_i other
      simp [other]
  · rename_i absent
    constructor
    · intro held
      refine ⟨held, fun same => absent ?_⟩
      rwa [Option.some.inj same]
    · exact And.left

lemma enqueueWithBackoff_effect (routed : Routed env channel s.workers) (coherent : s.queue.Coherent s.nextId)
    (task : TaskId) :
    ∃ s', enqueueWithBackoff env task channel s = (.ok (), s') ∧
      Effect channel (some task) (decide (charged s.job channel < s.job.maxRetries)) s s' ∧
      charged s'.job channel = charged s.job channel + 1 := by
  simp only [enqueueWithBackoff, dropPublish, modifyJob_bind, theJob_bind]
  rw [show (s.job.publishRetryCount.get? channel).getD 0 = charged s.job channel from rfl]
  by_cases again : charged s.job channel < s.job.maxRetries
  · rw [if_pos (Nat.succ_le_of_lt again), update_bind]
    obtain ⟨s', run, effect, counts, -⟩ := enqueuePublishTask_effect (s := { s with
      job := { s.job.without task channel with
        publishRetryCount := s.job.publishRetryCount.set channel (charged s.job channel + 1)
        status := .publishing } }) routed
      (min env.publishBackoffCap (env.publishBackoffBase ^ (charged s.job channel + 1))) coherent
    refine ⟨s', run, ⟨effect.jobId, effect.maxRetries, fun t => ?_, ?_⟩, ?_⟩
    · rw [effect.pending t]
      simp only [without_iff, again, decide_true]
      simp
    · rw [← show Bool.toNat true = (decide (charged s.job channel < s.job.maxRetries)).toNat by simp [again]]
      exact effect.enqueued
    · rw [charged, counts]
      simp
  · rw [if_neg (by omega)]
    refine ⟨_, rfl, ⟨rfl, rfl, fun t => ?_, ?_⟩, ?_⟩
    · simp only [again, decide_false, Bool.false_eq_true, false_and, or_false]
      exact without_iff s.job task t
    · rw [enqueued, show Bool.toNat _ = 0 by simp [again]]
      exact coherent.newTasks _
    · simp [charged]

end

/-! ## What becomes of an attempt -/

/-- The result brings a receipt that passes the checks of the issued task, as CORE keeps it. -/
structure Accepted (env : Env) (s : Ctx) (r : TaskResult) (channel : Channel) (receipt : Receipt) : Prop where
  success : r.success = true
  checked : checkReceipt env s.jobId s.job r channel = .ok ()
  artifact : ∃ artifact, r.artifacts.find? (·.kind = .publicationReceipt) = some artifact ∧
    env.redactedReceipt artifact.blob = .ok receipt
  valid : receiptProblem env receipt channel = none

/-- A failed result, or a receipt `FAILED` that may be tried again. -/
inductive Fails (env : Env) (s : Ctx) (r : TaskResult) (channel : Channel) : Prop
  | result (failed : r.success = false)
  | receipt {receipt : Receipt} (accepted : Accepted env s r channel receipt)
      (matched : matchPublishReceipt s.job channel receipt = .accept) (status : receipt.status = some .failed)
      (retryable : receipt.retryable ≠ some false)

/-- A receipt `PUBLISHED`. -/
def Delivers (env : Env) (s : Ctx) (r : TaskResult) (channel : Channel) : Prop :=
  ∃ receipt, Accepted env s r channel receipt ∧ matchPublishReceipt s.job channel receipt ≠ .reject ∧
    receipt.status = some .published

/-- What becomes of an attempt: a result, an expired lease or a lost worker. -/
inductive Event where
  | failed (env : Env) (r : TaskResult)
  | delivered (env : Env) (r : TaskResult)
  | expired (env : Env) (item : Item TaskBody)
  | lost (env : Env) (node : NodeName) (task : TaskId)

namespace Event

/-- The handler of CORE. -/
def act : Event → Act Unit
  | .failed env r | .delivered env r => publishResult env r
  | .expired env item => expireTask env item
  | .lost env node task => recoverTask env node (some task)

def env : Event → Env
  | .failed env _ | .delivered env _ | .expired env _ | .lost env _ _ => env

def task : Event → TaskId
  | .failed _ r | .delivered _ r => r.taskId
  | .expired _ item => item.taskId
  | .lost _ _ task => task

def delivers : Event → Bool
  | .delivered _ _ => true
  | .failed _ _ | .expired _ _ | .lost _ _ _ => false

def loses : Event → Bool
  | .lost _ _ _ => true
  | .failed _ _ | .expired _ _ | .delivered _ _ => false

/-- The retries it charges. -/
def charge : Event → ℕ
  | .failed _ _ | .expired _ _ => 1
  | .lost _ _ _ | .delivered _ _ => 0

/-- Another task of the channel is issued. -/
def issues (channel : Channel) (job : Job) : Event → Bool
  | .failed _ _ | .expired _ _ => charged job channel < job.maxRetries
  | .lost _ _ _ => true
  | .delivered _ _ => false

/-- It is about an attempt of the channel: a result with its lease, a lease of its task, or the loss of the worker while
the Job is being published. -/
def Of (channel : Channel) (s : Ctx) (e : Event) : Prop :=
  s.job.publishTaskIds.get? e.task = some channel ∧
    match e with
    | .failed env r => textTaskLease env.now s r.taskId r.nodeName = true ∧ Fails env s r channel
    | .delivered env r => textTaskLease env.now s r.taskId r.nodeName = true ∧ Delivers env s r channel
    | .expired _ item => item.payload.task = some .publish
    | .lost _ _ _ => s.job.status = .publishing

end Event

section
variable {env : Env} {channel : Channel} {s : Ctx} {r : TaskResult}

lemma charged_default (job : Job) : ((if job.publishRetryCount.contains channel then job.publishRetryCount
    else job.publishRetryCount.set channel 0).get? channel).getD 0 = charged job channel := by
  split
  · rfl
  · rename_i absent
    have none_ : job.publishRetryCount.get? channel = none := by
      rwa [Dict.contains, Option.not_isSome_iff_eq_none] at absent
    simp [charged, none_]

/-- As `enqueueWithBackoff_effect`, from a state before the handler wrote anything else into the Job. -/
lemma enqueueWithBackoff_from {s₁ : Ctx} (jobId : s₁.jobId = s.jobId) (nextId : s₁.nextId = s.nextId)
    (maxRetries : s₁.job.maxRetries = s.job.maxRetries) (counts : charged s₁.job channel = charged s.job channel)
    {task : TaskId} (pending : ∀ t, s₁.job.publishTaskIds.get? t = some channel ∧ some task ≠ some t ↔
      s.job.publishTaskIds.get? t = some channel ∧ some task ≠ some t)
    (routed : Routed env channel s₁.workers) (coherent : s₁.queue.Coherent s₁.nextId) :
    ∃ s', enqueueWithBackoff env task channel s₁ = (.ok (), s') ∧
      Effect channel (some task) (decide (charged s.job channel < s.job.maxRetries)) s s' ∧
      charged s'.job channel = charged s.job channel + 1 := by
  obtain ⟨s', run, effect, next⟩ := enqueueWithBackoff_effect routed coherent task
  rw [counts, maxRetries] at effect
  exact ⟨s', run, effect.before jobId nextId maxRetries pending, next.trans (congrArg (· + 1) counts)⟩

lemma handlePublishResult_fails (fails : Fails env s r channel) (routed : Routed env channel s.workers)
    (coherent : s.queue.Coherent s.nextId) :
    ∃ s', handlePublishResult env r channel s = (.ok (), s') ∧
      Effect channel (some r.taskId) (decide (charged s.job channel < s.job.maxRetries)) s s' ∧
      charged s'.job channel = charged s.job channel + 1 := by
  cases fails with
  | result failed =>
    simp only [handlePublishResult, modifyJob_bind, failed, Bool.false_eq_true, not_false_eq_true, if_true]
    apply enqueueWithBackoff_from (s := s)
    case counts => exact charged_default s.job
    case pending => exact fun _ => Iff.rfl
    case routed => exact routed
    case coherent => exact coherent
    all_goals rfl
  | @receipt receipt accepted matched status retryable =>
    obtain ⟨artifact, listed, redacted⟩ := accepted.artifact
    simp only [handlePublishResult, modifyJob_bind, accepted.success, listed, redacted, theJob_bind,
      accepted.valid, not_true_eq_false, if_false, Option.isSome_none, Bool.false_eq_true]
    generalize decision : matchPublishReceipt _ channel _ = d
    obtain rfl : d = .accept := decision.symm.trans matched
    rw [status]
    simp only [dropPublish, modifyJob_bind, retryable, if_false]
    apply enqueueWithBackoff_from (s := s)
    case counts => exact charged_default s.job
    case pending =>
      intro t
      change (s.job.without r.taskId channel).publishTaskIds.get? t = some channel ∧ _ ↔ _
      rw [without_iff, and_assoc, and_self_iff]
    case routed => exact routed
    case coherent => exact coherent
    all_goals rfl

/-- A receipt `PUBLISHED` ends its attempt. -/
lemma handlePublishResult_delivers (delivers : Delivers env s r channel) (coherent : s.queue.Coherent s.nextId) :
    ∃ s', handlePublishResult env r channel s = (.ok (), s') ∧ Effect channel (some r.taskId) false s s' := by
  obtain ⟨receipt, accepted, matched, status⟩ := delivers
  obtain ⟨artifact, listed, redacted⟩ := accepted.artifact
  have dropped (t : TaskId) : (s.job.without r.taskId channel).publishTaskIds.get? t = some channel ↔
      s.job.publishTaskIds.get? t = some channel ∧ some r.taskId ≠ some t ∨ false = true ∧ t = s.nextId := by
    rw [without_iff]
    simp
  have old : s.queue.newTasks s.nextId (publishesOn s.jobId channel) = 0 := coherent.newTasks _
  simp only [handlePublishResult, modifyJob_bind, accepted.success, listed, redacted, theJob_bind,
    accepted.valid, not_true_eq_false, if_false, Option.isSome_none, Bool.false_eq_true]
  generalize decision : matchPublishReceipt _ channel _ = d
  obtain rfl : d = matchPublishReceipt s.job channel receipt := decision.symm
  rw [status]
  cases is : matchPublishReceipt s.job channel receipt with
  | reject => exact absurd is matched
  | skip =>
    exact ⟨_, rfl, rfl, rfl, dropped, old⟩
  | accept =>
    simp only [dropPublish, modifyJob_bind]
    exact ⟨_, rfl, rfl, rfl, dropped, old⟩

/-! ## The handlers around it -/

lemma settlePublish_same (channel : Channel) (s : Ctx) :
    Same channel s (settlePublish s).2 ∧ (settlePublish s).2.queue = s.queue := by
  have closed (stage : StageStatus) (status : JobStatus) :
      Same channel s ((transitionStage .publish stage >>= fun _ => update status) s).2 ∧
        ((transitionStage .publish stage >>= fun _ => update status) s).2.queue = s.queue := by
    have run := transitionStage_apply (s := s) .publish stage
    by_cases may : s.job.mayTransition .publish stage
    · rw [if_pos may] at run
      rw [bind_of_ok run]
      exact ⟨⟨rfl, rfl, rfl, rfl, rfl⟩, rfl⟩
    · rw [if_neg may] at run
      rw [bind_of_error run]
      exact ⟨⟨rfl, rfl, rfl, rfl, rfl⟩, rfl⟩
  simp only [settlePublish, theJob_bind]
  split
  · split
    · exact closed .ready .published
    split
    · exact closed .failed .failed
    split
    · exact closed .failed .failed
    · exact ⟨⟨rfl, rfl, rfl, rfl, rfl⟩, rfl⟩
  · exact ⟨⟨rfl, rfl, rfl, rfl, rfl⟩, rfl⟩

lemma takePublish_after {s₁ : Ctx} (run : handlePublishResult env r channel s = (.ok (), s₁)) :
    Same channel s₁ (takePublish env r channel s).2 ∧
      (takePublish env r channel s).2.queue.ready = s₁.queue.ready := by
  rw [takePublish, bind_of_ok (handle_of_ok run _)]
  simp only [Act.ack, modifyQueue, write_bind, theId_bind]
  have settled (queue : LocalQueue TaskBody) (ready : queue.ready = s₁.queue.ready) :
      Same channel s₁ (settlePublish { s₁ with queue := queue }).2 ∧
        (settlePublish { s₁ with queue := queue }).2.queue.ready = s₁.queue.ready := by
    obtain ⟨same, kept⟩ := settlePublish_same channel { s₁ with queue := queue }
    exact ⟨⟨same.jobId, same.nextId, same.maxRetries, same.tasks, same.charged⟩, (congrArg _ kept).trans ready⟩
  rw [when]
  split
  · exact settled _ rfl
  · exact settled _ rfl

end

lemma any_publisher_set {workers : Dict NodeName Worker} {node : NodeName} {w w' : Worker}
    (found : workers.get? node = some w) (same : w'.publisher = w.publisher) :
    (workers.set node w').values.any Worker.publisher = workers.values.any Worker.publisher := by
  rw [Bool.eq_iff_iff, List.any_eq_true, List.any_eq_true]
  simp only [Dict.mem_values_iff, Dict.get?_set]
  constructor
  · intro ⟨v, ⟨key, is⟩, publishes⟩
    split at is
    · obtain rfl := Option.some.inj is
      exact ⟨w, ⟨node, found⟩, same ▸ publishes⟩
    · exact ⟨v, ⟨key, is⟩, publishes⟩
  · intro ⟨v, ⟨key, is⟩, publishes⟩
    by_cases here : node = key
    · refine ⟨w', ⟨key, if_pos here⟩, ?_⟩
      rw [here, is] at found
      rwa [same, ← Option.some.inj found]
    · exact ⟨v, ⟨key, (if_neg here).trans is⟩, publishes⟩

lemma any_publisher_unbindAll (task : TaskId) (workers : Dict NodeName Worker) :
    (unbindAll task workers).values.any Worker.publisher = workers.values.any Worker.publisher := by
  have walk (es : List (NodeName × Worker)) : ∀ acc : Dict NodeName Worker,
      (∀ e ∈ es, ∃ w, acc.get? e.1 = some w ∧ w.publisher = e.2.publisher) →
      (es.foldl (fun workers e =>
        if e.2.currentTask = some task then workers.set e.1 e.2.reassigned else workers) acc).values.any
          Worker.publisher = acc.values.any Worker.publisher := by
    induction es with
    | nil => exact fun _ _ => rfl
    | cons e es ih =>
      intro acc there
      rw [List.foldl_cons]
      obtain ⟨w, found, same⟩ := there e List.mem_cons_self
      have rest := fun e' within => there e' (List.mem_cons_of_mem e within)
      split
      · have kept : (acc.set e.1 e.2.reassigned).values.any Worker.publisher = acc.values.any Worker.publisher :=
          any_publisher_set found same.symm
        rw [ih, kept]
        intro e' within
        obtain ⟨w', found', same'⟩ := rest e' within
        rw [Dict.get?_set]
        split
        · rename_i here
          refine ⟨_, rfl, ?_⟩
          rw [here, found'] at found
          obtain rfl := Option.some.inj found
          exact same.symm.trans same'
        · exact ⟨w', found', same'⟩
      · exact ih acc rest
  exact walk workers.entries workers fun e within => ⟨e.2, Dict.mem_entries_iff.1 within, rfl⟩

section
variable {env : Env} {channel : Channel} {s : Ctx}

lemma Routed.congr {workers workers' : Dict NodeName Worker} (routed : Routed env channel workers)
    (same : workers'.values.any Worker.publisher = workers.values.any Worker.publisher) :
    Routed env channel workers' where
  remote := by
    rw [Remote, same]
    exact routed.remote
  settings := routed.settings

lemma releaseWorker_runs (env : Env) (s : Ctx) (node : NodeName) : ∃ workers,
    releaseWorker env node s = (.ok (), { s with workers := workers }) ∧
      workers.values.any Worker.publisher = s.workers.values.any Worker.publisher := by
  refine ⟨_, rfl, ?_⟩
  split
  · rename_i w found
    exact any_publisher_set found rfl
  · rfl

lemma publishResult_runs {r : TaskResult} (held : s.job.publishTaskIds.get? r.taskId = some channel)
    (leased : textTaskLease env.now s r.taskId r.nodeName = true)
    (checked : (if r.success then checkReceipt env s.jobId s.job r channel else .ok ()) = .ok ()) :
    ∃ workers, publishResult env r s = takePublish env r channel { s with workers := workers } ∧
      workers.values.any Worker.publisher = s.workers.values.any Worker.publisher := by
  obtain ⟨workers, run, same⟩ := releaseWorker_runs env s r.nodeName
  refine ⟨workers, ?_, same⟩
  have owns : workerOwns s.workers s.jobId r.taskId r.nodeName = true ∧
      s.queue.inflightActive r.taskId env.now = true :=
    Bool.and_eq_true_iff.1 leased
  simp only [publishResult, read_bind, held, owns, and_self, not_true_eq_false, if_false, checked, answer_ok_bind]
  rw [bind_of_ok run]

lemma expireTask_runs (env : Env) {item : Item TaskBody} (held : s.job.publishTaskIds.get? item.taskId = some channel)
    (publishes : item.payload.task = some .publish) : ∃ r : TaskResult, r.taskId = item.taskId ∧ r.success = false ∧
      expireTask env item s = handlePublishResult env r channel
        { s with queue := s.queue.discard item.taskId, workers := unbindAll item.taskId s.workers } := by
  let r : TaskResult :=
    { jobId := s.jobId, nodeName := 0, taskId := item.taskId, success := false
      error := some "publish task lease expired" }
  refine ⟨r, rfl, rfl, ?_⟩
  simp only [expireTask, theJob_bind, held, publishes, if_true]
  rfl

lemma recoverTask_runs {node : NodeName} {task : TaskId} (held : s.job.publishTaskIds.get? task = some channel)
    (publishing : s.job.status = .publishing) :
    recoverTask env node (some task) s = recoverPublish env node task channel s := by
  simp [recoverTask, theJob_bind, held, publishing]

lemma recoverPublish_effect (node : NodeName) (task : TaskId) (routed : Routed env channel s.workers)
    (o : s.Ordered) : Effect channel (some task) true s (recoverPublish env node task channel s).2 ∧
      charged (recoverPublish env node task channel s).2.job channel = charged s.job channel := by
  let s₁ : Ctx :=
    { s with
      queue := s.queue.discard task
      job := { s.job with publishTaskIds := s.job.publishTaskIds.pop task, assignedWorker := none } }
  obtain ⟨s', run, effect, counts, -⟩ := enqueuePublishTask_effect (s := s₁) routed 0 (o.coherent.discard task)
  have ends : recoverPublish env node task channel s =
      (enqueuePublishTask env channel 0 >>= fun _ => unassign node) s₁ := rfl
  rw [ends, bind_of_ok run]
  have left : Effect channel none true s₁ (unassign node s').2 := effect.after ⟨rfl, rfl, rfl, rfl, rfl⟩ rfl
  refine ⟨⟨left.jobId, left.maxRetries, fun t => ?_, left.enqueued⟩, ?_⟩
  · rw [left.pending t]
    have popped : s₁.job.publishTaskIds.get? t = if task = t then none else s.job.publishTaskIds.get? t :=
      Dict.get?_pop _ _ _
    rw [popped]
    split
    · rename_i same
      simp [same]
      rfl
    · rename_i other
      simp [other]
      rfl
  · change charged s'.job channel = charged s.job channel
    rw [charged, counts, charged]

namespace Event

lemma outcome {e : Event} (of : e.Of channel s) (routed : Routed e.env channel s.workers) (o : s.Ordered) :
    Effect channel (some e.task) (e.issues channel s.job) s (e.act s).2 ∧
      (e.delivers = false → charged (e.act s).2.job channel = charged s.job channel + e.charge) := by
  obtain ⟨held, about⟩ := of
  cases e with
  | failed env r =>
    obtain ⟨leased, fails⟩ := about
    have checked : (if r.success then checkReceipt env s.jobId s.job r channel else .ok ()) = .ok () := by
      cases fails with
      | result failed => rw [failed, if_neg Bool.false_ne_true]
      | receipt accepted _ _ _ => rw [accepted.success, if_pos rfl, accepted.checked]
    obtain ⟨workers, run, same⟩ := publishResult_runs held leased checked
    have fails' : Fails env { s with workers := workers } r channel := by
      cases fails with
      | result failed => exact .result failed
      | receipt accepted matched status retryable =>
        exact .receipt ⟨accepted.success, accepted.checked, accepted.artifact, accepted.valid⟩ matched status retryable
    obtain ⟨s₁, handled, effect, counts⟩ := handlePublishResult_fails fails' (routed.congr same) o.coherent
    obtain ⟨after, ready⟩ := takePublish_after handled
    change Effect channel (some r.taskId) _ s (publishResult env r s).2 ∧ _
    rw [show act (.failed env r) = publishResult env r from rfl, run]
    have left := (effect.after after ready).before (s := s) rfl rfl rfl fun _ => Iff.rfl
    exact ⟨left, fun _ => after.charged.trans counts⟩
  | delivered env r =>
    obtain ⟨leased, receipt, accepted, matched, status⟩ := about
    have checked : (if r.success then checkReceipt env s.jobId s.job r channel else .ok ()) = .ok () := by
      rw [accepted.success, if_pos rfl, accepted.checked]
    obtain ⟨workers, run, -⟩ := publishResult_runs held leased checked
    have delivers : Delivers env { s with workers := workers } r channel :=
      ⟨receipt, ⟨accepted.success, accepted.checked, accepted.artifact, accepted.valid⟩, matched, status⟩
    obtain ⟨s₁, handled, effect⟩ := handlePublishResult_delivers delivers o.coherent
    obtain ⟨after, ready⟩ := takePublish_after handled
    rw [show act (.delivered env r) = publishResult env r from rfl, run]
    exact ⟨(effect.after after ready).before rfl rfl rfl fun _ => Iff.rfl, fun no => by cases no⟩
  | expired env item =>
    obtain ⟨r, named, failed, run⟩ := expireTask_runs env held about
    let s₁ : Ctx := { s with queue := s.queue.discard item.taskId, workers := unbindAll item.taskId s.workers }
    obtain ⟨s', handled, effect, counts⟩ := handlePublishResult_fails (s := s₁) (.result failed)
      (routed.congr (any_publisher_unbindAll item.taskId s.workers)) (o.coherent.discard item.taskId)
    rw [named] at effect
    have run : act (.expired env item) s = (.ok (), s') := run.trans handled
    rw [run]
    exact ⟨effect.before rfl rfl rfl fun _ => Iff.rfl, fun _ => counts⟩
  | lost env node task =>
    have held : s.job.publishTaskIds.get? task = some channel := held
    have run : act (.lost env node task) s = recoverPublish env node task channel s := recoverTask_runs held about
    rw [run]
    obtain ⟨effect, counts⟩ := recoverPublish_effect node task routed o
    exact ⟨effect, fun _ => counts⟩

end Event

end

/-! ## A request -/

def publishTargets (channels : List Channel) : List Channel := if channels = [] then [.youtube] else channels

section
variable {env : Env} {channel : Channel}

lemma routed_of_enqueued {ch : Channel} {s s' : Ctx} (remote : Remote env s.workers)
    (run : enqueuePublishTask env ch 0 s = (.ok (), s')) : Routed env ch s.workers := by
  refine ⟨remote, fun asks => ?_⟩
  have route : ¬ (¬ s.workers.values.any Worker.publisher ∧ env.localFallback = true) := remote
  simp only [enqueuePublishTask, read_bind, if_neg route, modifyJob_bind, when, if_pos asks] at run
  cases known : env.publishSettings ch with
  | ok => rfl
  | error e =>
    rw [known, answer_error_bind] at run
    cases run

/-- What the tasks of a request do to the attempts of one channel. -/
structure Asked (channel : Channel) (targets : List Channel) (s s' : Ctx) : Prop where
  jobId : s'.jobId = s.jobId
  later : s.nextId ≤ s'.nextId
  maxRetries : s'.job.maxRetries = s.job.maxRetries
  charges : s'.job.publishRetryCount = s.job.publishRetryCount
  issued : ∀ next ≤ s.nextId, s'.queue.newTasks next (publishesOn s.jobId channel) =
    s.queue.newTasks next (publishesOn s.jobId channel) + targets.count channel
  kept : ∀ task, s.job.publishTaskIds.get? task = some channel → s'.job.publishTaskIds.get? task = some channel
  pending : channel ∈ targets → ∃ task, s'.job.publishTaskIds.get? task = some channel
  others : targets.count channel = 0 → ∀ task, s'.job.publishTaskIds.get? task = some channel →
    s.job.publishTaskIds.get? task = some channel
  one : targets.count channel = 1 → Idle s.job channel → ∀ task task',
    s'.job.publishTaskIds.get? task = some channel → s'.job.publishTaskIds.get? task' = some channel → task = task'

lemma Asked.nil (s : Ctx) : Asked channel [] s s where
  jobId := rfl
  later := le_rfl
  maxRetries := rfl
  charges := rfl
  issued _ _ := rfl
  kept _ held := held
  pending within := absurd within List.not_mem_nil
  others _ _ held := held
  one count := absurd count Nat.zero_ne_one

lemma Asked.cons {ch : Channel} {targets : List Channel} {s s' : Ctx} {item : Item TaskBody}
    (below : ∀ task ∈ s.job.publishTaskIds.keys, task < s.nextId) (publishes : publishesOn s.jobId ch item)
    (name : item.taskId = s.nextId)
    (rest : Asked channel targets
      { s with
        job := s.job.publishing env s.jobId s.nextId ch
        queue := s.queue.push item
        nextId := s.nextId + 1 } s') : Asked channel (ch :: targets) s s' := by
  have lookup (task : TaskId) : (s.job.publishing env s.jobId s.nextId ch).publishTaskIds.get? task =
      if s.nextId = task then some ch else s.job.publishTaskIds.get? task := Dict.get?_set _ _ _ _
  refine
    { jobId := rest.jobId
      later := (Nat.le_succ _).trans rest.later
      maxRetries := rest.maxRetries
      charges := rest.charges
      issued := fun next old => ?_
      kept := fun task held => rest.kept task ?_
      pending := fun within => ?_
      others := fun count task held => ?_
      one := fun count idle => ?_ }
  · rw [rest.issued next (old.trans (Nat.le_succ _)), LocalQueue.newTasks_push, List.count_cons]
    have same : (next ≤ item.taskId ∧ publishesOn s.jobId channel item = true) ↔ (ch == channel) = true := by
      simp only [publishesOn, decide_eq_true_eq, beq_iff_eq] at publishes ⊢
      rw [publishes.1, publishes.2.1, publishes.2.2, name, Option.some.injEq]
      exact ⟨fun h => Option.some.inj h.2.2.2, fun h => ⟨old, rfl, rfl, congrArg some h⟩⟩
    simp only [same]
    omega
  · rw [lookup, if_neg]
    · exact held
    · rintro rfl
      exact lt_irrefl _ (below _ (Dict.mem_keys_iff.2 ⟨_, held⟩))
  · rcases List.mem_cons.1 within with rfl | within
    · exact ⟨s.nextId, rest.kept s.nextId ((lookup s.nextId).trans (if_pos rfl))⟩
    · exact rest.pending within
  · have absent := List.count_eq_zero.1 count
    rw [List.mem_cons, not_or] at absent
    obtain ⟨other, none_⟩ := absent
    have before := rest.others (List.count_eq_zero.2 none_) task held
    rw [lookup] at before
    split at before
    · exact absurd (Option.some.inj before).symm other
    · exact before
  · by_cases here : ch = channel
    · subst here
      rw [List.count_cons_self] at count
      -- what is pending is this task, for no other was or will be
      have only (task : TaskId) (held : s'.job.publishTaskIds.get? task = some ch) : task = s.nextId := by
        have before := rest.others (by omega) task held
        rw [lookup] at before
        split at before
        · rename_i same
          exact same.symm
        · exact absurd before (idle task)
      intro task task' held held'
      rw [only task held, only task' held']
    · rw [List.count_cons_of_ne (by simpa using here)] at count
      apply rest.one count
      intro task held
      rw [lookup] at held
      split at held
      · exact here (Option.some.inj held)
      · exact idle task held

lemma forEach_asked (channel : Channel) (targets : List Channel) : ∀ {s s' : Ctx}, Remote env s.workers →
    (∀ task ∈ s.job.publishTaskIds.keys, task < s.nextId) →
    forEach (fun ch => enqueuePublishTask env ch 0) targets s = (.ok (), s') → Asked channel targets s s' := by
  induction targets with
  | nil =>
    intro s s' _ _ run
    cases run
    exact .nil s
  | cons ch targets ih =>
    intro s s' remote below run
    obtain ⟨_, s₁, first, rest⟩ := bind_eq_ok.1 run
    have first : enqueuePublishTask env ch 0 s = (.ok (), s₁) := first
    obtain ⟨item, publishes, name, runs⟩ := enqueuePublishTask_runs (routed_of_enqueued remote first) 0
    obtain rfl := congrArg Prod.snd (first.symm.trans runs)
    refine .cons below publishes name (ih remote (fun task within => ?_) rest)
    rcases Dict.mem_keys_set.1 within with rfl | within
    · exact Nat.lt_succ_self _
    · exact (below task within).trans (Nat.lt_succ_self _)

lemma publishJob_asked (channel : Channel) {channels : List Channel} {s s' : Ctx} (remote : Remote env s.workers)
    (below : ∀ task ∈ s.job.publishTaskIds.keys, task < s.nextId) (run : publishJob env channels s = (.ok (), s')) :
    Asked channel (publishTargets channels) s s' := by
  have route : ¬ (¬ s.workers.values.any Worker.publisher ∧ env.localFallback = true) := remote
  simp only [publishJob, read_bind, if_neg route] at run
  rw [show (if channels = [] then [Channel.youtube] else channels) = publishTargets channels from rfl] at run
  split at run
  · cases run
  split at run
  · cases run
  split at run
  · cases run
  split at run
  · cases run
  obtain ⟨_, s₁, staged, rest⟩ := bind_eq_ok.1 run
  rw [transitionStage_apply] at staged
  split at staged
  · cases staged
    simp only [modifyJob_bind] at rest
    obtain ⟨_, s₂, issued, ends⟩ := bind_eq_ok.1 rest
    let s₁ : Ctx := { s with job := { s.job.initializePlan.setStage .publish .running with publishError := none } }
    have asked := forEach_asked channel (publishTargets channels) (s := s₁) remote below issued
    cases ends
    exact ⟨asked.jobId, asked.later, asked.maxRetries, asked.charges, asked.issued, asked.kept, asked.pending,
      asked.others, asked.one⟩
  · cases staged

end

/-! ## Runs -/

/-- What a run counts of a channel: the tasks enqueued for it, the attempts lost with their worker, and the tasks
enqueued since its receipt was `PUBLISHED`. -/
structure Tally where
  issued : ℕ
  lost : ℕ
  after : Option ℕ
deriving DecidableEq

/-- The tally with one event more, that enqueued so many tasks. -/
def Tally.note (t : Tally) (e : Event) (tasks : ℕ) : Tally where
  issued := t.issued + tasks
  lost := t.lost + e.loses.toNat
  after := if e.delivers then some (t.after.getD 0) else t.after.map (· + tasks)

/-- A run from a request on: what becomes of the attempts of a channel, in any order, among anything that is not about
the channel. `before` says that its receipt was `PUBLISHED` for this video before the request. -/
inductive Run (env : Env) (channels : List Channel) (channel : Channel) (before : Bool) (s₀ : Ctx) : Tally → Ctx → Prop
  | asked {s : Ctx} (run : publishJob env channels s₀ = (.ok (), s)) :
    Run env channels channel before s₀
      ⟨enqueued channel s₀ s, 0, if before then some (enqueued channel s₀ s) else none⟩ s
  | event {t : Tally} {s : Ctx} (reached : Run env channels channel before s₀ t s) (e : Event) (of : e.Of channel s)
      (routed : Routed e.env channel s.workers) :
    Run env channels channel before s₀ (t.note e (enqueued channel s (e.act s).2)) (e.act s).2
  | aside {t : Tally} {s s' : Ctx} (reached : Run env channels channel before s₀ t s) (aside : Aside channel s s') :
    Run env channels channel before s₀ t s'

section
variable {env : Env} {channels : List Channel} {channel : Channel} {before : Bool} {s₀ s : Ctx} {t : Tally}

lemma Event.ordered {s : Ctx} (o : s.Ordered) (e : Event) : (e.act s).2.Ordered := by
  have moves : Moves (fun _ => True) e.act := by
    cases e <;> simp only [Event.act] <;> infer_instance
  exact (moves.leads s).ordered o

lemma below_of_ordered {s : Ctx} (o : s.Ordered) : ∀ task ∈ s.job.publishTaskIds.keys, task < s.nextId :=
  fun task within => o.below task .publish within

lemma asked_enqueues (channel : Channel) (o : s₀.Ordered) (remote : Remote env s₀.workers)
    (run : publishJob env channels s₀ = (.ok (), s)) :
    Asked channel (publishTargets channels) s₀ s ∧ enqueued channel s₀ s = (publishTargets channels).count channel := by
  have asked := publishJob_asked channel remote (below_of_ordered o) run
  refine ⟨asked, ?_⟩
  rw [enqueued, asked.issued s₀.nextId le_rfl, o.coherent.newTasks, Nat.zero_add]

/-- What is kept while no receipt is `PUBLISHED`: the tasks are those of the request, one for each lost worker and one
for each retry that was charged within the budget, and one is pending until the budget is spent. -/
structure Open (channels : List Channel) (channel : Channel) (s₀ : Ctx) (t : Tally) (s : Ctx) : Prop where
  count : t.issued + min (charged s₀.job channel) s₀.job.maxRetries =
    (publishTargets channels).count channel + t.lost + min (charged s.job channel) s₀.job.maxRetries
  pending : (∃ task, s.job.publishTaskIds.get? task = some channel) ∨ s₀.job.maxRetries < charged s.job channel

structure Sound (channels : List Channel) (channel : Channel) (s₀ : Ctx) (t : Tally) (s : Ctx) : Prop where
  ordered : s.Ordered
  maxRetries : s.job.maxRetries = s₀.job.maxRetries
  open_ : t.after = none → Open channels channel s₀ t s

/-- An attempt that failed or was lost, before any receipt is `PUBLISHED`. -/
lemma Open.event {s' : Ctx} {e : Event} (is : Open channels channel s₀ t s)
    (most : s.job.maxRetries = s₀.job.maxRetries)
    (fails : e.delivers = false) (effect : Effect channel (some e.task) (e.issues channel s.job) s s')
    (counts : charged s'.job channel = charged s.job channel + e.charge) :
    Open channels channel s₀ (t.note e (enqueued channel s s')) s' := by
  have spent := is.count
  have more : (t.note e (enqueued channel s s')).issued = t.issued + (e.issues channel s.job).toNat :=
    congrArg (t.issued + ·) effect.enqueued
  have new (issues : e.issues channel s.job = true) : ∃ task, s'.job.publishTaskIds.get? task = some channel :=
    ⟨s.nextId, (effect.pending s.nextId).2 (.inr ⟨issues, rfl⟩)⟩
  have lost : (t.note e (enqueued channel s s')).lost = t.lost + e.loses.toNat := rfl
  -- a lost worker costs a task, and a failure a retry as well
  have cost : e.issues channel s.job = true ∧ e.charge = 0 ∧ e.loses = true ∨
      e.issues channel s.job = decide (charged s.job channel < s.job.maxRetries) ∧ e.charge = 1 ∧ e.loses = false := by
    cases e with
    | delivered env r => cases fails
    | lost env node task => exact .inl ⟨rfl, rfl, rfl⟩
    | failed env r | expired env item => exact .inr ⟨rfl, rfl, rfl⟩
  rcases cost with ⟨issues, charge, loses⟩ | ⟨issues, charge, loses⟩
  · refine ⟨?_, .inl (new issues)⟩
    rw [more, lost, counts, issues, charge, loses, Bool.toNat_true]
    omega
  · rw [most] at issues
    by_cases budget : charged s.job channel < s₀.job.maxRetries
    · rw [decide_eq_true budget] at issues
      refine ⟨?_, .inl (new issues)⟩
      rw [more, lost, counts, issues, charge, loses, Bool.toNat_true, Bool.toNat_false]
      omega
    · rw [decide_eq_false budget] at issues
      refine ⟨?_, .inr ?_⟩
      · rw [more, lost, counts, issues, charge, loses, Bool.toNat_false]
        omega
      · rw [counts, charge]
        omega

lemma Run.sound (o : s₀.Ordered) (remote : Remote env s₀.workers) (named : channel ∈ publishTargets channels)
    (run : Run env channels channel before s₀ t s) : Sound channels channel s₀ t s := by
  induction run with
  | @asked s request =>
    obtain ⟨asked, count⟩ := asked_enqueues channel o remote request
    have moves : Moves (fun _ => True) (publishJob env channels) := inferInstance
    have left := (moves.leads s₀).ordered o
    rw [request] at left
    have counts : charged s.job channel = charged s₀.job channel :=
      congrArg (fun d => (d.get? channel).getD 0) asked.charges
    refine ⟨left, asked.maxRetries, fun _ => ⟨?_, .inl (asked.pending named)⟩⟩
    change enqueued channel s₀ s + _ = _ + 0 + _
    rw [count, counts, Nat.add_zero]
  | @event t s reached e of routed ih =>
    obtain ⟨effect, counts⟩ := e.outcome of routed ih.ordered
    refine ⟨e.ordered ih.ordered, effect.maxRetries.trans ih.maxRetries, fun none_ => ?_⟩
    cases delivers : e.delivers with
    | true =>
      rw [Tally.note, delivers, if_pos rfl] at none_
      cases none_
    | false =>
      rw [Tally.note, delivers, if_neg Bool.false_ne_true, Option.map_eq_none_iff] at none_
      exact (ih.open_ none_).event ih.maxRetries delivers effect (counts delivers)
  | @aside t s s' reached aside ih =>
    refine ⟨aside.ordered, aside.maxRetries.trans ih.maxRetries, fun none_ => ?_⟩
    have is := ih.open_ none_
    constructor
    · rw [aside.charged]
      exact is.count
    · rw [aside.charged]
      refine is.pending.imp_left fun ⟨task, held⟩ => ⟨task, (aside.pending task).2 (.inl ⟨held, ?_⟩)⟩
      exact Option.some_ne_none task |>.symm

/-- A channel that is named once has one pending task at most, and none once its receipt is `PUBLISHED`. -/
structure Single (channel : Channel) (t : Tally) (s : Ctx) : Prop where
  one : ∀ task task', s.job.publishTaskIds.get? task = some channel →
    s.job.publishTaskIds.get? task' = some channel → task = task'
  after : t.after = none ∨ t.after = some 0 ∧ Idle s.job channel

lemma Run.single (o : s₀.Ordered) (remote : Remote env s₀.workers) (count : (publishTargets channels).count channel = 1)
    (idle : Idle s₀.job channel) (run : Run env channels channel before s₀ t s) (new : before = false) :
    Single channel t s := by
  have named : channel ∈ publishTargets channels := List.count_pos_iff.1 (by omega)
  induction run with
  | @asked s request =>
    obtain ⟨asked, -⟩ := asked_enqueues channel o remote request
    exact ⟨asked.one count idle, .inl (by rw [new]; rfl)⟩
  | @event t s reached e of routed ih =>
    obtain ⟨effect, -⟩ := e.outcome of routed (reached.sound o remote named).ordered
    -- a channel with a pending task is not delivered yet
    have held := of.1
    have none_ : t.after = none := ih.after.resolve_right fun h => h.2 e.task held
    have left (task : TaskId) (there : (e.act s).2.job.publishTaskIds.get? task = some channel) :
        e.issues channel s.job = true ∧ task = s.nextId := by
      rcases (effect.pending task).1 there with ⟨old, other⟩ | new
      · exact absurd (congrArg some (ih.one e.task task held old)) other
      · exact new
    refine ⟨fun task task' there there' => (left task there).2.trans (left task' there').2.symm, ?_⟩
    rw [Tally.note, none_]
    cases delivers : e.delivers with
    | false => exact .inl rfl
    | true =>
      refine .inr ⟨rfl, fun task there => ?_⟩
      have issues := (left task there).1
      cases e <;> cases delivers
      cases issues
  | @aside t s s' reached aside ih =>
    have same (task : TaskId) : s'.job.publishTaskIds.get? task = some channel ↔
        s.job.publishTaskIds.get? task = some channel := by
      rw [aside.pending task]
      simp
    constructor
    · intro task task' held held'
      exact ih.one task task' ((same task).1 held) ((same task').1 held')
    · refine ih.after.imp_right fun ⟨is, none_⟩ => ⟨is, fun task held => ?_⟩
      exact none_ task ((same task).1 held)

/-- The task a request issues for a channel that is `PUBLISHED` already is one too many, and stays so. -/
lemma Run.again (o : s₀.Ordered) (remote : Remote env s₀.workers) (named : channel ∈ publishTargets channels)
    (run : Run env channels channel before s₀ t s) (old : before = true) : ∃ n, t.after = some n ∧ n ≠ 0 := by
  induction run with
  | @asked s request =>
    obtain ⟨-, count⟩ := asked_enqueues channel o remote request
    refine ⟨enqueued channel s₀ s, if_pos old, ?_⟩
    have positive := List.count_pos_iff.2 named
    omega
  | @event t s reached e of routed ih =>
    obtain ⟨n, is, more⟩ := ih
    rw [Tally.note, is]
    cases e.delivers with
    | true => exact ⟨n, rfl, more⟩
    | false => exact ⟨_, rfl, fun zero => more (Nat.eq_zero_of_add_eq_zero_right zero)⟩
  | aside _ _ ih => exact ih

/-- **The tasks of a publication.** Where CORE does not publish on its own, a run whose attempts of a channel all failed
has enqueued `max_retries + 1` tasks for it exactly when the times the request names the channel and the attempts that
were lost with their worker are one more than the retries that were charged before, up to `max_retries`. A channel that
the request names once is enqueued no more after its receipt exactly when it was not `PUBLISHED` before. -/
theorem publish_tasks (o : s₀.Ordered) (remote : Remote env s₀.workers) (named : channel ∈ publishTargets channels)
    (run : Run env channels channel before s₀ t s) :
    (t.after = none → Idle s.job channel → (t.issued = s₀.job.maxRetries + 1 ↔
      (publishTargets channels).count channel + t.lost = min (charged s₀.job channel) s₀.job.maxRetries + 1)) ∧
    ((publishTargets channels).count channel = 1 → Idle s₀.job channel →
      ((∀ n, t.after = some n → n = 0) ↔ before = false)) := by
  constructor
  · intro none_ idle
    obtain ⟨count, pending⟩ := (run.sound o remote named).open_ none_
    have spent : s₀.job.maxRetries < charged s.job channel := pending.resolve_left fun ⟨task, held⟩ => idle task held
    omega
  · intro count idle
    cases known : before with
    | false =>
      refine iff_of_true (fun n is => ?_) rfl
      rcases (run.single o remote count idle known).after with none_ | ⟨zero, -⟩
      · rw [none_] at is
        cases is
      · exact (Option.some.inj (zero.symm.trans is)).symm
    | true =>
      obtain ⟨n, is, more⟩ := run.again o remote named known
      exact iff_of_false (fun all => more (all n is)) fun same => by cases same

end

/-! ## One worker lost -/

def jobCtx (c : System) (id : JobId) : Ctx := c.ctx id ((c.jobs.get? id).getD { status := .new })

lemma jobCtx_ordered {c : System} (reached : Reachable c) {id : JobId} (there : (c.jobs.get? id).isSome) :
    (jobCtx c id).Ordered := by
  obtain ⟨job, found⟩ := Option.isSome_iff_exists.1 there
  rw [jobCtx, found]
  exact reached.ordered.ctx found

lemma Aside.of_job {channel : Channel} {s s' : Ctx} (jobId : s'.jobId = s.jobId) (job : s'.job = s.job)
    (none_ : enqueued channel s s' = 0) (o : s'.Ordered) : Aside channel s s' where
  jobId := jobId
  maxRetries := by rw [job]
  pending task := by simp [job]
  enqueued := none_
  charged := by rw [job]
  ordered := o

/-- A video was approved of a Job that may not be retried; node 7 is a publisher. -/
def videoReady : System :=
  let drawing : Env := { Env.plain 1 with localFallback := true }
  System.after {}
    [.create (.plain 1) ⟨.image, 5, 0⟩,
      .ask (.plain 1) 0 (.edit { script := some ⟨[false]⟩ }),
      .background (fun _ => drawing) (fun _ => drawing) 0,
      .render drawing (fun _ => drawing) 0,
      .ask (.plain 1) 0 (.approveVideo 1 none),
      .heartbeat (.plain 1) (.free 7)]

def publishClaimed : System :=
  videoReady.after [.ask (.plain 1) 0 (.publish [.youtube]), .claim (.plain 2) ⟨7, true, true⟩]

/-- Node 7 is lost, comes back and claims the task that was issued again. -/
def publishReclaimed : System :=
  publishClaimed.after
    [.recover (.plain 3) [7], .heartbeat (.plain 3) (.free 7), .claim (.plain 4) ⟨7, true, true⟩]

lemma plain_routed (now : Time) (workers : Dict NodeName Worker) : Routed (.plain now) .youtube workers where
  remote h := by cases h.2
  settings h := by rcases h with h | h <;> cases h

def failedResult (task : TaskId) : TaskResult := { TaskResult.bare 0 7 task with success := false }

lemma claimed_run :
    Run (.plain 1) [.youtube] .youtube false (jobCtx videoReady 0) ⟨1, 0, none⟩ (jobCtx publishClaimed 0) := by
  let s : Ctx := (publishJob (.plain 1) [.youtube] (jobCtx videoReady 0)).2
  have asked : publishJob (.plain 1) [.youtube] (jobCtx videoReady 0) = (.ok (), s) :=
    Prod.ext (by decide +kernel) rfl
  have one : enqueued .youtube (jobCtx videoReady 0) s = 1 := by decide +kernel
  have run : Run (.plain 1) [.youtube] .youtube false (jobCtx videoReady 0)
      ⟨enqueued .youtube (jobCtx videoReady 0) s, 0, none⟩ s := .asked asked
  rw [one] at run
  apply run.aside
  apply Aside.of_job (by decide +kernel) (by decide +kernel) (by decide +kernel)
  exact jobCtx_ordered ((reachable_after _).after _) (by decide +kernel)

lemma videoReady_ordered : (jobCtx videoReady 0).Ordered := jobCtx_ordered (reachable_after _) (by decide +kernel)

lemma idle_of_entries {job : Job} {channel : Channel} (empty : job.publishTaskIds.entries = []) : Idle job channel := by
  intro task held
  rw [Dict.get?_of_entries empty] at held
  cases held

/-- The attempt fails, and it is the only one. -/
theorem publish_tasks_failed :
    let failed : Event := .failed (.plain 3) (failedResult 4)
    ((⟨1, 0, none⟩ : Tally).note failed
      (enqueued .youtube (jobCtx publishClaimed 0) (failed.act (jobCtx publishClaimed 0)).2)).issued =
        (jobCtx videoReady 0).job.maxRetries + 1 := by
  intro failed
  have of : failed.Of .youtube (jobCtx publishClaimed 0) := ⟨by decide +kernel, by decide +kernel, .result rfl⟩
  have run := claimed_run.event failed of (plain_routed 3 _)
  have idle : Idle (failed.act (jobCtx publishClaimed 0)).2.job .youtube := idle_of_entries (by decide +kernel)
  exact ((publish_tasks videoReady_ordered (plain_routed 1 _).remote (by decide) run).1 rfl idle).2 (by decide +kernel)

/-- **A lost worker costs a task more**: the budget allows one, and two were enqueued for the channel. -/
theorem publish_tasks_lost_worker : ¬ ∀ (env : Env) (channels : List Channel) (channel : Channel) (s₀ s : Ctx)
    (t : Tally), s₀.Ordered → Remote env s₀.workers → channel ∈ publishTargets channels →
      Run env channels channel false s₀ t s → t.after = none → Idle s.job channel →
        t.issued = s₀.job.maxRetries + 1 := by
  intro all
  let lost : Event := .lost (.plain 3) 7 4
  let failed : Event := .failed (.plain 5) (failedResult 5)
  have again : enqueued .youtube (jobCtx publishClaimed 0) (lost.act (jobCtx publishClaimed 0)).2 = 1 := by
    decide +kernel
  have run := claimed_run.event lost ⟨by decide +kernel, by decide +kernel⟩ (plain_routed 3 _)
  rw [again] at run
  -- the task that was issued again is claimed
  have claimed : Aside .youtube (lost.act (jobCtx publishClaimed 0)).2 (jobCtx publishReclaimed 0) := by
    apply Aside.of_job (by decide +kernel) (by decide +kernel) (by decide +kernel)
    exact jobCtx_ordered (((reachable_after _).after _).after _) (by decide +kernel)
  have run := (run.aside claimed).event failed ⟨by decide +kernel, by decide +kernel, .result rfl⟩ (plain_routed 5 _)
  have idle : Idle (failed.act (jobCtx publishReclaimed 0)).2.job .youtube := idle_of_entries (by decide +kernel)
  have budget := all _ _ _ _ _ _ videoReady_ordered (plain_routed 1 _).remote (by decide) run rfl idle
  exact absurd budget (by decide +kernel)

end Publication

end Vertep.Core
