import Vertep.Lib.Reach
import Vertep.Queue.Local

/-!
# Conservation of the local queue

Nine operations of `core/queue.py` move task dicts between the heap, the in-flight dict and the
dead-letter list. `LocalQueue.tasks` lists every dict the queue holds, wherever it is; each operation
has one lemma that says what it does to that list up to order (`*_tasks`). From these the invariant
`Conserved` is kept by every step of `Step`, whose states pair the queue with two ghost components:
`owed`, the tasks that were enqueued and neither acked nor discarded since, each as it should be now
(a dead-letter retry renames it), and `used`, every id that was ever given out.
-/

namespace Vertep.Queue
open Lib

variable {α : Type}

/-! ## What the helpers keep -/

@[simp] lemma stamp_toTask (now : Time) (uuid : TaskId) (i : Item α) :
    stamp now uuid false i.toTask = i := rfl

lemma toTask_injective : Function.Injective (Item.toTask (α := α)) := by
  rintro ⟨_, _, _, _, _⟩ ⟨_, _, _, _, _⟩ h
  simp only [Item.toTask, Task.mk.injEq, Option.some.injEq] at h
  obtain ⟨rfl, rfl, rfl, rfl, rfl⟩ := h
  rfl

lemma heappush_perm (r : Row α) (h : List (Row α)) : (heappush r h).Perm (r :: h) :=
  List.perm_orderedInsert _ _ _

lemma pushAll_perm (rows heap : List (Row α)) : (pushAll rows heap).Perm (rows ++ heap) := by
  induction rows generalizing heap with
  | nil => exact .refl _
  | cons r rows ih =>
    refine (ih _).trans ?_
    refine ((heappush_perm r heap).append_left rows).trans ?_
    exact List.perm_middle

lemma popDue_perm (now : Time) (heap deferred : List (Row α)) :
    ((popDue now heap deferred).1.toList ++ (pushAll (popDue now heap deferred).2.2
      (popDue now heap deferred).2.1)).Perm (heap ++ deferred) := by
  induction heap generalizing deferred with
  | nil => exact (pushAll_perm _ _).trans (by simp [popDue])
  | cons row heap ih =>
    by_cases h : row.item.due now
    · simp only [popDue, h, if_true, Option.toList_some, List.cons_append]
      exact ((pushAll_perm _ _).trans List.perm_append_comm).cons _
    · simp only [popDue, h, Bool.false_eq_true, if_false]
      refine (ih _).trans ?_
      refine (@List.perm_append_comm _ heap _).trans ?_
      rw [List.append_assoc, List.singleton_append]
      exact List.perm_middle.trans (List.perm_append_comm.cons row)

variable {t : Task α} {id : TaskId} {records : List (TaskId × Time × Item α)}

namespace LocalQueue

/-! ## The dicts a queue holds -/

def readyTasks (q : LocalQueue α) : List (Task α) := q.ready.map (fun r => r.item.toTask)

def inflightTasks (q : LocalQueue α) : List (Task α) :=
  q.inflight.entries.map (fun e => e.2.2.toTask)

/-- The dicts of the dead-letter list, without the two failure keys. -/
def deadTasks (q : LocalQueue α) : List (Task α) := q.deadLetters.map DeadLetter.task

def tasks (q : LocalQueue α) : List (Task α) := q.readyTasks ++ (q.inflightTasks ++ q.deadTasks)

def Filed (q : LocalQueue α) : Prop := ∀ id d i, q.inflight.get? id = some (d, i) → i.taskId = id

def Distinct (q : LocalQueue α) : Prop := (q.tasks.map Task.taskId).Nodup

lemma mem_tasks {q : LocalQueue α} :
    t ∈ q.tasks ↔ t ∈ q.readyTasks ∨ t ∈ q.inflightTasks ∨ t ∈ q.deadTasks := by
  simp [tasks]

lemma mem_inflightTasks {q : LocalQueue α} :
    t ∈ q.inflightTasks ↔ ∃ id d i, q.inflight.get? id = some (d, i) ∧ i.toTask = t := by
  simp only [inflightTasks, List.mem_map]
  constructor
  · rintro ⟨⟨id, d, i⟩, hm, rfl⟩
    exact ⟨id, d, i, Dict.mem_entries_iff.1 hm, rfl⟩
  · rintro ⟨id, d, i, hg, rfl⟩
    exact ⟨(id, d, i), Dict.mem_entries_iff.2 hg, rfl⟩

lemma Distinct.eq {q : LocalQueue α} (nd : q.Distinct) {t' : Task α} (h : t ∈ q.tasks)
    (h' : t' ∈ q.tasks) (e : t.taskId = t'.taskId) : t = t' :=
  List.inj_on_of_nodup_map nd h h' e

/-! ## What each operation does to them -/

lemma push_tasks (q : LocalQueue α) (i : Item α) : (q.push i).tasks.Perm (i.toTask :: q.tasks) := by
  simp only [tasks, push, readyTasks]
  exact ((heappush_perm _ _).map (fun r => r.item.toTask)).append_right _

lemma ack_tasks {q : LocalQueue α} {d : Time} {i : Item α}
    (h : q.inflight.get? id = some (d, i)) : q.tasks.Perm (i.toTask :: (q.ack id).tasks) := by
  have p := (Dict.entries_perm_pop h).map (fun e => e.2.2.toTask)
  simp only [List.map_cons] at p
  refine ((p.append_right q.deadTasks).append_left q.readyTasks).trans ?_
  exact List.perm_middle

lemma ack_of_not_mem {q : LocalQueue α} (h : q.inflight.get? id = none) :
    q.ack id = q := by
  rw [ack, Dict.pop_of_not_mem (Dict.get?_eq_none.1 h)]

lemma Filed.ack {q : LocalQueue α} (fl : q.Filed) (id : TaskId) : (q.ack id).Filed := by
  intro k d i h
  simp only [LocalQueue.ack, Dict.get?_pop] at h
  split at h
  · cases h
  · exact fl k d i h

lemma Filed.set {q : LocalQueue α} (fl : q.Filed) {d : Time} {i : Item α}
    (e : i.taskId = id) : ({ q with inflight := q.inflight.set id (d, i) }).Filed := by
  intro k d' i' h
  simp only [Dict.get?_set] at h
  split at h
  · rename_i hk
    cases h
    rw [e, hk]
  · exact fl k d' i' h

lemma file_tasks {q : LocalQueue α} {d : Time} {i : Item α}
    (h : q.inflight.get? id = none) :
    ({ q with inflight := q.inflight.set id (d, i) }).tasks.Perm (i.toTask :: q.tasks) := by
  have e := Dict.entries_set_of_not_mem (v := (d, i)) (Dict.get?_eq_none.1 h)
  simp only [tasks, readyTasks, inflightTasks, deadTasks, e, List.map_append, List.map_cons,
    List.map_nil, List.append_assoc, List.singleton_append]
  refine (List.Perm.append_left _ List.perm_middle).trans List.perm_middle

lemma not_inflight_of_ready {q : LocalQueue α} (nd : q.Distinct) (fl : q.Filed) {r : Row α}
    (hr : r ∈ q.ready) : q.inflight.get? r.item.taskId = none := by
  by_contra hne
  obtain ⟨⟨d, i⟩, hg⟩ := Option.ne_none_iff_exists'.1 hne
  have e := fl _ _ _ hg
  have hmem : i.toTask ∈ q.inflightTasks := mem_inflightTasks.2 ⟨_, d, i, hg, rfl⟩
  have hrow : r.item.toTask ∈ q.readyTasks := List.mem_map_of_mem (f := fun r => r.item.toTask) hr
  have nd' := nd
  simp only [Distinct, tasks, List.map_append] at nd'
  refine (List.disjoint_of_nodup_append nd') (List.mem_map_of_mem (f := Task.taskId) hrow) ?_
  rw [← List.map_append]
  refine List.mem_map.2 ⟨i.toTask, List.mem_append_left _ hmem, ?_⟩
  simp [Item.toTask, e]

lemma mem_of_popDue {now : Time} {heap deferred : List (Row α)} {r : Row α}
    (h : (popDue now heap deferred).1 = some r) : r ∈ heap := by
  induction heap generalizing deferred with
  | nil => cases h
  | cons row heap ih =>
    simp only [popDue] at h
    split at h
    · cases h
      exact List.mem_cons_self
    · exact List.mem_cons_of_mem _ (ih h)

/-- What `claim` returns and leaves, by what the scan served. -/
lemma claim_cases (q : LocalQueue α) (now : Time) (lease : ℚ) :
    let s := popDue now q.ready []
    (s.1 = none ∧ q.claim now lease = (none, { q with ready := pushAll s.2.2 s.2.1 })) ∨
    ∃ r, s.1 = some r ∧ q.claim now lease = (some r.item,
      { q with ready := pushAll s.2.2 s.2.1
               inflight := q.inflight.set r.item.taskId (now + lease, r.item) }) := by
  intro s
  rcases h : popDue now q.ready [] with ⟨r, heap, deferred⟩
  cases r with
  | none => exact .inl ⟨by simp [s, h], by simp [claim, s, h]⟩
  | some r => exact .inr ⟨r, by simp [s, h], by simp [claim, s, h]⟩

/-- `claim` moves one dict at most. -/
lemma claim_tasks {q : LocalQueue α} (nd : q.Distinct) (fl : q.Filed) (now : Time) (lease : ℚ) :
    (q.claim now lease).2.tasks.Perm q.tasks ∧ (q.claim now lease).2.Filed := by
  have p := popDue_perm now q.ready []
  rw [List.append_nil] at p
  rcases claim_cases q now lease with ⟨hs, e⟩ | ⟨r, hs, e⟩
  · rw [e]
    rw [hs] at p
    exact ⟨(p.map (fun r => r.item.toTask)).append_right _, fl⟩
  · rw [e]
    rw [hs] at p
    have free := not_inflight_of_ready nd fl (mem_of_popDue hs)
    generalize pushAll (popDue now q.ready []).2.2 (popDue now q.ready []).2.1 = heap at p ⊢
    refine ⟨?_, Filed.set (q := { q with ready := heap }) fl rfl⟩
    refine (file_tasks (q := { q with ready := heap }) free).trans ?_
    exact (p.map (fun r => r.item.toTask)).append_right (q.inflightTasks ++ q.deadTasks)

/-- `renew` moves nothing. -/
lemma renew_tasks {q : LocalQueue α} (fl : q.Filed) (id : TaskId) (now : Time) (lease : ℚ) :
    (q.renew id now lease).2.tasks.Perm q.tasks ∧ (q.renew id now lease).2.Filed := by
  unfold renew
  split
  · exact ⟨.refl _, fl⟩
  · rename_i d i hg
    refine ⟨?_, Filed.set fl (fl _ _ _ hg)⟩
    have p := (Dict.entries_set_perm q.inflight id (now + lease, i)).map (fun e => e.2.2.toTask)
    refine (((p.trans ?_).append_right q.deadTasks).append_left q.readyTasks)
    exact ((Dict.entries_perm_pop hg).map (fun e => e.2.2.toTask)).symm

/-- `release` moves one dict at most. -/
lemma release_tasks {q : LocalQueue α} (fl : q.Filed) (id : TaskId) (now : Time) (uuid : TaskId) :
    (q.release id now uuid).2.tasks.Perm q.tasks ∧ (q.release id now uuid).2.Filed := by
  unfold release
  split
  · exact ⟨.refl _, fl⟩
  · rename_i d i hg
    exact ⟨(push_tasks _ _).trans (ack_tasks hg).symm, fl.ack id⟩

lemma requeue_fold (records : List (TaskId × Time × Item α)) (clock : Time) (uuid : TaskId)
    (out : List (Item α)) (q : LocalQueue α) :
    records.foldl (fun acc r => (acc.1 ++ [(acc.2.enqueue clock uuid false r.2.2.toTask).1],
        (acc.2.enqueue clock uuid false r.2.2.toTask).2)) (out, q)
      = (out ++ records.map (fun r => r.2.2), records.foldl (fun q r => q.push r.2.2) q) := by
  induction records generalizing out q with
  | nil => simp
  | cons r records ih =>
    rw [List.foldl_cons, ih]
    simp [enqueue]

lemma requeueExpired_eq (q : LocalQueue α) (clock : Time) (now : Option Time) (uuid : TaskId) :
    q.requeueExpired clock now uuid =
      ((q.expired (nowOr clock now)).map (fun r => r.2.2),
        (q.expired (nowOr clock now)).foldl (fun q r => q.push r.2.2)
          ((q.expired (nowOr clock now)).foldl (fun q r => q.ack r.1) q)) := by
  have h := requeue_fold (q.expired (nowOr clock now)) clock uuid []
    ((q.expired (nowOr clock now)).foldl (fun q r => q.ack r.1) q)
  rw [List.nil_append] at h
  exact h

lemma mem_expired {q : LocalQueue α} {current : Time} {r : TaskId × Time × Item α}
    (h : r ∈ q.expired current) : q.inflight.get? r.1 = some r.2 := by
  have h' := (List.mergeSort_perm _ _).mem_iff.1 h
  exact Dict.mem_entries_iff.1 (List.mem_filter.1 h').1

lemma expired_nodup (q : LocalQueue α) (current : Time) :
    ((q.expired current).map Prod.fst).Nodup := by
  refine (((List.mergeSort_perm _ _).map Prod.fst).nodup_iff).2 ?_
  exact q.inflight.nodup.sublist (List.filter_sublist.map Prod.fst)

lemma takeAll_tasks {q : LocalQueue α}
    (nd : (records.map Prod.fst).Nodup) (h : ∀ r ∈ records, q.inflight.get? r.1 = some r.2) :
    q.tasks.Perm (records.map (fun r => r.2.2.toTask) ++
      (records.foldl (fun q r => q.ack r.1) q).tasks) := by
  induction records generalizing q with
  | nil => exact .refl _
  | cons r records ih =>
    simp only [List.map_cons, List.nodup_cons] at nd
    have rest : ∀ r' ∈ records, (q.ack r.1).inflight.get? r'.1 = some r'.2 := by
      intro r' hr'
      have ne : r.1 ≠ r'.1 := fun e => nd.1 (List.mem_map.2 ⟨r', hr', e.symm⟩)
      simp only [LocalQueue.ack, Dict.get?_pop, ne, if_false]
      exact h r' (List.mem_cons_of_mem _ hr')
    refine (ack_tasks (h r List.mem_cons_self)).trans ?_
    exact (ih nd.2 rest).cons _

lemma takeAll_filed {q : LocalQueue α} (fl : q.Filed) :
    (records.foldl (fun q r => q.ack r.1) q).Filed := by
  induction records generalizing q with
  | nil => exact fl
  | cons r records ih => exact ih (fl.ack r.1)

lemma pushEach_tasks (items : List (TaskId × Time × Item α)) (q : LocalQueue α) :
    (items.foldl (fun q r => q.push r.2.2) q).tasks.Perm
      (items.map (fun r => r.2.2.toTask) ++ q.tasks) := by
  induction items generalizing q with
  | nil => exact .refl _
  | cons r items ih =>
    refine (ih _).trans ?_
    refine ((push_tasks q r.2.2).append_left _).trans ?_
    exact List.perm_middle

lemma pushEach_filed (items : List (TaskId × Time × Item α)) {q : LocalQueue α} (fl : q.Filed) :
    (items.foldl (fun q r => q.push r.2.2) q).Filed := by
  induction items generalizing q with
  | nil => exact fl
  | cons r items ih => exact ih (q := q.push r.2.2) fl

/-- `requeue_expired` moves the expired dicts and no other. -/
lemma requeueExpired_tasks {q : LocalQueue α} (fl : q.Filed) (clock : Time) (now : Option Time)
    (uuid : TaskId) :
    (q.requeueExpired clock now uuid).2.tasks.Perm q.tasks ∧
      (q.requeueExpired clock now uuid).2.Filed := by
  rw [requeueExpired_eq]
  refine ⟨?_, pushEach_filed _ (takeAll_filed fl)⟩
  refine (pushEach_tasks _ _).trans ?_
  exact (takeAll_tasks (q.expired_nodup _) (fun _ => mem_expired)).symm

/-- `dead_letter` of an in-flight dict moves it. -/
lemma deadLetter_tasks {q : LocalQueue α} (fl : q.Filed) {d : Time} {i : Item α}
    (h : q.inflight.get? i.taskId = some (d, i)) (error : Option String) (now : Time) :
    (q.deadLetter i.toTask error now).tasks.Perm q.tasks ∧
      (q.deadLetter i.toTask error now).Filed := by
  refine ⟨?_, fl.ack i.taskId⟩
  have p := ack_tasks h
  refine List.Perm.trans ?_ p.symm
  have e : (q.deadLetter i.toTask error now).tasks = (q.ack i.taskId).tasks ++ [i.toTask] := by
    simp [tasks, deadLetter, readyTasks, inflightTasks, deadTasks, LocalQueue.ack, Item.toTask]
  rw [e]
  exact List.perm_append_singleton _ _

/-- What `requeue_dead_letter` returns and leaves. -/
lemma requeueDeadLetter_cases (q : LocalQueue α) (id : TaskId) (now : Time) (uuid : TaskId) :
    (q.requeueDeadLetter id now uuid = (none, q) ∧
      ∀ d ∈ q.deadLetters, d.task.taskId ≠ some id) ∨
    ∃ d rest, d ∈ q.deadLetters ∧ d.task.taskId = some id ∧ q.deadLetters.Perm (d :: rest) ∧
      q.requeueDeadLetter id now uuid =
        (some (stamp now uuid true d.task),
          { q with deadLetters := rest }.push (stamp now uuid true d.task)) ∧
      rest = q.deadLetters.eraseP (fun d => d.task.taskId = some id) := by
  cases h : q.deadLetters.find? (fun d => d.task.taskId = some id) with
  | none =>
    refine .inl ⟨by simp [requeueDeadLetter, h], ?_⟩
    intro d hd e
    simpa [e] using List.find?_eq_none.1 h d hd
  | some d =>
    have hd := List.find?_some h
    simp only [decide_eq_true_eq] at hd
    refine .inr ⟨d, _, List.mem_of_find?_eq_some h, hd, ?_, by simp [requeueDeadLetter, h, enqueue],
      rfl⟩
    obtain ⟨hp, as, bs, e, hne⟩ := List.find?_eq_some_iff_append.1 h
    have hne' : ∀ a ∈ as, ¬ decide (a.task.taskId = some id) = true := by
      intro a ha
      simpa using hne a ha
    rw [e, List.eraseP_append_right _ hne', List.eraseP_cons_of_pos (by simpa using hd)]
    exact List.perm_middle

lemma requeueDeadLetter_tasks {q : LocalQueue α} {d : DeadLetter α} {rest : List (DeadLetter α)}
    (p : q.deadLetters.Perm (d :: rest)) (i : Item α) :
    ∃ others, q.tasks.Perm (d.task :: others) ∧
      ({ q with deadLetters := rest }.push i).tasks.Perm (i.toTask :: others) := by
  refine ⟨({ q with deadLetters := rest } : LocalQueue α).tasks, ?_, push_tasks _ _⟩
  have pd := p.map DeadLetter.task
  simp only [List.map_cons] at pd
  refine ((pd.append_left q.inflightTasks).append_left q.readyTasks).trans ?_
  exact (List.Perm.append_left _ List.perm_middle).trans List.perm_middle

lemma discard_tasks_sublist (q : LocalQueue α) (id : TaskId) :
    (q.discard id).tasks.Sublist q.tasks := by
  refine List.Sublist.append (List.filter_sublist.map _) (List.Sublist.append ?_ (.refl _))
  exact List.filter_sublist.map _

lemma ack_tasks_sublist (q : LocalQueue α) (id : TaskId) : (q.ack id).tasks.Sublist q.tasks :=
  List.Sublist.append (.refl _) (List.Sublist.append (List.filter_sublist.map _) (.refl _))

lemma mem_ack_tasks {q : LocalQueue α} (fl : q.Filed) (h : t ∈ q.tasks) (ne : t.taskId ≠ some id) : t ∈ (q.ack id).tasks := by
  cases hg : q.inflight.get? id with
  | none => rwa [ack_of_not_mem hg]
  | some r =>
    obtain ⟨d, i⟩ := r
    rcases List.mem_cons.1 ((ack_tasks hg).mem_iff.1 h) with rfl | h
    · exact absurd (by simp [Item.toTask, fl _ _ _ hg]) ne
    · exact h

/-- `discard` takes out the dict with that id from the heap and from flight. -/
lemma mem_discard_tasks {q : LocalQueue α} (fl : q.Filed) (h : t ∈ q.tasks) (ne : t.taskId ≠ some id) : t ∈ (q.discard id).tasks := by
  have kept := mem_ack_tasks fl h ne
  rw [mem_tasks] at kept ⊢
  refine kept.imp_left fun ready => ?_
  obtain ⟨r, hr, rfl⟩ := List.mem_map.1 ready
  refine List.mem_map.2 ⟨r, List.mem_filter.2 ⟨hr, ?_⟩, rfl⟩
  simp only [ne_eq, decide_eq_true_eq]
  exact fun e => ne (by simp [Item.toTask, e])

end LocalQueue

/-! ## Runs -/

/-- The queue, the tasks it owes an answer for and the ids that were given out. -/
structure Tracked (α : Type) where
  queue : LocalQueue α
  owed : List (Item α)
  used : List TaskId

def Tracked.start : Tracked α := ⟨{}, [], []⟩

def retried (id : TaskId) (now : Time) (uuid : TaskId) (owed : List (Item α)) : List (Item α) :=
  owed.map (fun i => if i.taskId = id then { i with taskId := uuid, enqueuedAt := now } else i)

/-- One call of the local queue. A new task has an id that was never given out (its own or the one
`uuid4` returns), and `dead_letter` gets the dict of a task in flight. -/
inductive Step (s : Tracked α) : Tracked α → Prop where
  | enqueue (now : Time) (uuid : TaskId) (newAttempt : Bool) (task : Task α) :
    (stamp now uuid newAttempt task).taskId ∉ s.used →
    Step s ⟨(s.queue.enqueue now uuid newAttempt task).2, stamp now uuid newAttempt task :: s.owed,
      (stamp now uuid newAttempt task).taskId :: s.used⟩
  | claim (now : Time) (lease : ℚ) :
    Step s ⟨(s.queue.claim now lease).2, s.owed, s.used⟩
  | ack (id : TaskId) :
    Step s ⟨s.queue.ack id, s.owed.filter (fun i => i.taskId ≠ id), s.used⟩
  | renew (id : TaskId) (now : Time) (lease : ℚ) :
    Step s ⟨(s.queue.renew id now lease).2, s.owed, s.used⟩
  | release (id : TaskId) (now : Time) (uuid : TaskId) :
    Step s ⟨(s.queue.release id now uuid).2, s.owed, s.used⟩
  | requeueExpired (clock : Time) (now : Option Time) (uuid : TaskId) :
    Step s ⟨(s.queue.requeueExpired clock now uuid).2, s.owed, s.used⟩
  | discard (id : TaskId) :
    Step s ⟨s.queue.discard id, s.owed.filter (fun i => i.taskId ≠ id), s.used⟩
  | deadLetter (i : Item α) (deadline : Time) (error : Option String) (now : Time) :
    s.queue.inflight.get? i.taskId = some (deadline, i) →
    Step s ⟨s.queue.deadLetter i.toTask error now, s.owed, s.used⟩
  | requeueDeadLetter (id : TaskId) (now : Time) (uuid : TaskId) :
    uuid ∉ s.used →
    Step s ⟨(s.queue.requeueDeadLetter id now uuid).2,
      if (s.queue.requeueDeadLetter id now uuid).1.isSome then retried id now uuid s.owed else s.owed,
      uuid :: s.used⟩

/-- The invariant: ids are distinct and known, records are filed under their ids and every owed task
is held as it was enqueued. -/
structure Conserved (s : Tracked α) : Prop where
  distinct : s.queue.Distinct
  filed : s.queue.Filed
  known : ∀ t ∈ s.queue.tasks, ∃ id ∈ s.used, t.taskId = some id
  kept : ∀ i ∈ s.owed, i.toTask ∈ s.queue.tasks

namespace Conserved

variable {s : Tracked α}

lemma of_perm (c : Conserved s) {q : LocalQueue α} (h : q.tasks.Perm s.queue.tasks ∧ q.Filed) :
    Conserved ⟨q, s.owed, s.used⟩ where
  distinct := ((h.1.map Task.taskId).nodup_iff).2 c.distinct
  filed := h.2
  known t ht := c.known t (h.1.mem_iff.1 ht)
  kept i hi := h.1.mem_iff.2 (c.kept i hi)

lemma of_removal (c : Conserved s) {q : LocalQueue α}
    (sub : q.tasks.Sublist s.queue.tasks) (fl : q.Filed)
    (keep : ∀ t ∈ s.queue.tasks, t.taskId ≠ some id → t ∈ q.tasks) :
    Conserved ⟨q, s.owed.filter (fun i => i.taskId ≠ id), s.used⟩ where
  distinct := c.distinct.sublist (sub.map _)
  filed := fl
  known t ht := c.known t (sub.subset ht)
  kept i hi := by
    simp only [List.mem_filter, ne_eq, decide_eq_true_eq] at hi
    exact keep _ (c.kept i hi.1) (by simpa [Item.toTask] using hi.2)

lemma of_push (c : Conserved s) {q : LocalQueue α} {i : Item α} {owed : List (Item α)}
    {others : List (Task α)} (p : q.tasks.Perm (i.toTask :: others)) (fl : q.Filed)
    (sub : ∀ t ∈ others, t ∈ s.queue.tasks) (nd : (others.map Task.taskId).Nodup)
    (fresh : i.taskId ∉ s.used) (kept : ∀ i' ∈ owed, i' = i ∨ i'.toTask ∈ others) :
    Conserved ⟨q, owed, i.taskId :: s.used⟩ where
  distinct := by
    refine ((p.map Task.taskId).nodup_iff).2 ?_
    rw [List.map_cons, List.nodup_cons]
    refine ⟨?_, nd⟩
    rintro hm
    obtain ⟨t, ht, e⟩ := List.mem_map.1 hm
    obtain ⟨id, hid, e'⟩ := c.known t (sub t ht)
    rw [e'] at e
    cases e
    exact fresh hid
  filed := fl
  known t ht := by
    rcases List.mem_cons.1 (p.mem_iff.1 ht) with rfl | ht
    · exact ⟨i.taskId, List.mem_cons_self, rfl⟩
    · obtain ⟨id, hid, e⟩ := c.known t (sub t ht)
      exact ⟨id, List.mem_cons_of_mem _ hid, e⟩
  kept i' hi' := by
    rcases kept i' hi' with rfl | h
    · exact p.mem_iff.2 List.mem_cons_self
    · exact p.mem_iff.2 (List.mem_cons_of_mem _ h)

lemma requeueDeadLetter (c : Conserved s) (id : TaskId) (now : Time) {uuid : TaskId}
    (fresh : uuid ∉ s.used) :
    Conserved ⟨(s.queue.requeueDeadLetter id now uuid).2,
      if (s.queue.requeueDeadLetter id now uuid).1.isSome then retried id now uuid s.owed else s.owed,
      uuid :: s.used⟩ := by
  rcases s.queue.requeueDeadLetter_cases id now uuid with ⟨e, _⟩ | ⟨d, rest, hd, hid, p, e, -⟩
  · rw [e]
    refine ⟨c.distinct, c.filed, ?_, c.kept⟩
    intro t ht
    obtain ⟨k, hk, e'⟩ := c.known t ht
    exact ⟨k, List.mem_cons_of_mem _ hk, e'⟩
  · rw [e]
    obtain ⟨others, p1, p2⟩ :=
      LocalQueue.requeueDeadLetter_tasks p (stamp now uuid true d.task)
    have nd := ((p1.map Task.taskId).nodup_iff).1 c.distinct
    simp only [List.map_cons, List.nodup_cons] at nd
    refine c.of_push (i := stamp now uuid true d.task) p2 c.filed ?_ nd.2 fresh ?_
    · exact fun t ht => p1.mem_iff.2 (List.mem_cons_of_mem _ ht)
    · intro i' hi'
      simp only [Option.isSome_some, if_true, retried, List.mem_map] at hi'
      obtain ⟨i, hi, rfl⟩ := hi'
      have held := p1.mem_iff.1 (c.kept i hi)
      by_cases h : i.taskId = id
      · left
        -- both dicts carry the retried id, so the owed task is the dead-lettered one
        have same : i.toTask = d.task := by
          refine c.distinct.eq (c.kept i hi) (p1.mem_iff.2 List.mem_cons_self) ?_
          rw [hid, ← h]
          rfl
        rw [if_pos h, ← same]
        rfl
      · right
        rw [if_neg h]
        rcases List.mem_cons.1 held with h' | h'
        · refine absurd ?_ h
          have := congrArg Task.taskId h'
          rw [hid] at this
          simpa [Item.toTask] using this
        · exact h'

lemma start : Conserved (Tracked.start : Tracked α) where
  distinct := List.nodup_nil
  filed _ _ _ h := by cases h
  known _ h := by cases h
  kept _ h := by cases h

lemma step (c : Conserved s) {s' : Tracked α} (st : Step s s') : Conserved s' := by
  cases st with
  | enqueue now uuid newAttempt task fresh =>
    refine c.of_push (LocalQueue.push_tasks _ _) c.filed (fun _ h => h) c.distinct fresh ?_
    exact List.forall_mem_cons.2 ⟨.inl rfl, fun i hi => .inr (c.kept i hi)⟩
  | claim now lease => exact c.of_perm (LocalQueue.claim_tasks c.distinct c.filed now lease)
  | ack id =>
    exact c.of_removal (s.queue.ack_tasks_sublist id) (c.filed.ack id)
      (fun t ht => LocalQueue.mem_ack_tasks c.filed ht)
  | renew id now lease => exact c.of_perm (LocalQueue.renew_tasks c.filed id now lease)
  | release id now uuid => exact c.of_perm (LocalQueue.release_tasks c.filed id now uuid)
  | requeueExpired clock now uuid =>
    exact c.of_perm (LocalQueue.requeueExpired_tasks c.filed clock now uuid)
  | discard id =>
    exact c.of_removal (s.queue.discard_tasks_sublist id) (c.filed.ack id)
      (fun t ht => LocalQueue.mem_discard_tasks c.filed ht)
  | deadLetter i deadline error now h =>
    exact c.of_perm (LocalQueue.deadLetter_tasks c.filed h error now)
  | requeueDeadLetter id now uuid fresh => exact c.requeueDeadLetter id now fresh

end Conserved

/-- A task is in exactly one of the three places, once, with its dict. -/
inductive HeldOnce (q : LocalQueue α) (i : Item α) : Prop where
  | ready (row : Row α) :
    q.ready.filter (fun r => r.item.taskId = i.taskId) = [row] → row.item = i →
    q.inflight.get? i.taskId = none →
    q.deadLetters.filter (fun d => d.task.taskId = some i.taskId) = [] → HeldOnce q i
  | inflight (deadline : Time) :
    q.ready.filter (fun r => r.item.taskId = i.taskId) = [] →
    q.inflight.get? i.taskId = some (deadline, i) →
    q.deadLetters.filter (fun d => d.task.taskId = some i.taskId) = [] → HeldOnce q i
  | deadLetter (error : Option String) (failedAt : Time) :
    q.ready.filter (fun r => r.item.taskId = i.taskId) = [] →
    q.inflight.get? i.taskId = none →
    q.deadLetters.filter (fun d => d.task.taskId = some i.taskId) = [⟨i.toTask, error, failedAt⟩] →
    HeldOnce q i

lemma filter_key_of_mem {β κ : Type} [DecidableEq κ] (key : β → κ) {l : List β} {b : β}
    (nd : (l.map key).Nodup) (h : b ∈ l) : l.filter (fun x => key x = key b) = [b] := by
  induction l with
  | nil => cases h
  | cons a l ih =>
    simp only [List.map_cons, List.nodup_cons] at nd
    rcases List.mem_cons.1 h with rfl | h
    · rw [List.filter_cons_of_pos (by simp)]
      have none : l.filter (fun x => key x = key b) = [] := by
        rw [List.filter_eq_nil_iff]
        intro x hx e
        exact nd.1 (List.mem_map.2 ⟨x, hx, by simpa using e⟩)
      rw [none]
    · have ne : key a ≠ key b := fun e => nd.1 (List.mem_map.2 ⟨b, h, e.symm⟩)
      rw [List.filter_cons_of_neg (by simpa using ne), ih nd.2 h]

namespace LocalQueue

variable {q : LocalQueue α} {i : Item α}

lemma ready_filter_nil (h : some i.taskId ∉ q.readyTasks.map Task.taskId) :
    q.ready.filter (fun r => r.item.taskId = i.taskId) = [] := by
  rw [List.filter_eq_nil_iff]
  intro r hr e
  refine h (List.mem_map.2 ⟨r.item.toTask, List.mem_map.2 ⟨r, hr, rfl⟩, ?_⟩)
  simpa [Item.toTask] using e

lemma inflight_get?_none (fl : q.Filed) (h : some i.taskId ∉ q.inflightTasks.map Task.taskId) :
    q.inflight.get? i.taskId = none := by
  by_contra hne
  obtain ⟨⟨d, i'⟩, hg⟩ := Option.ne_none_iff_exists'.1 hne
  refine h (List.mem_map.2 ⟨i'.toTask, mem_inflightTasks.2 ⟨_, d, i', hg, rfl⟩, ?_⟩)
  simp [Item.toTask, fl _ _ _ hg]

lemma dead_filter_nil (h : some i.taskId ∉ q.deadTasks.map Task.taskId) :
    q.deadLetters.filter (fun d => d.task.taskId = some i.taskId) = [] := by
  rw [List.filter_eq_nil_iff]
  intro d hd e
  exact h (List.mem_map.2 ⟨d.task, List.mem_map.2 ⟨d, hd, rfl⟩, by simpa using e⟩)

lemma heldOnce_of_mem (nd : q.Distinct) (fl : q.Filed) (h : i.toTask ∈ q.tasks) : HeldOnce q i := by
  simp only [Distinct, tasks, List.map_append] at nd
  obtain ⟨nd1, nd23, dis1⟩ := List.nodup_append'.1 nd
  obtain ⟨nd2, nd3, dis2⟩ := List.nodup_append'.1 nd23
  rcases mem_tasks.1 h with h | h | h
  · have hk := List.mem_map_of_mem (f := Task.taskId) h
    obtain ⟨row, hr, e⟩ := List.mem_map.1 h
    have e' := toTask_injective e
    refine HeldOnce.ready row ?_ e' (inflight_get?_none fl ?_) (dead_filter_nil ?_)
    · rw [← e']
      refine filter_key_of_mem (fun r : Row α => r.item.taskId) ?_ hr
      refine List.Nodup.of_map some ?_
      simpa [readyTasks, List.map_map, Function.comp_def, Item.toTask] using nd1
    · exact fun h' => dis1 hk (List.mem_append_left _ h')
    · exact fun h' => dis1 hk (List.mem_append_right _ h')
  · have hk := List.mem_map_of_mem (f := Task.taskId) h
    obtain ⟨id, d, i', hg, e⟩ := mem_inflightTasks.1 h
    have e' := toTask_injective e
    subst e'
    refine HeldOnce.inflight d (ready_filter_nil ?_) ?_ (dead_filter_nil ?_)
    · exact fun h' => dis1 h' (List.mem_append_left _ hk)
    · rw [fl _ _ _ hg]
      exact hg
    · exact fun h' => dis2 hk h'
  · have hk := List.mem_map_of_mem (f := Task.taskId) h
    obtain ⟨d, hd, e⟩ := List.mem_map.1 h
    obtain ⟨task, error, failedAt⟩ := d
    simp only at e
    subst e
    refine HeldOnce.deadLetter error failedAt (ready_filter_nil ?_) (inflight_get?_none fl ?_) ?_
    · exact fun h' => dis1 h' (List.mem_append_right _ hk)
    · exact fun h' => dis2 h' hk
    · refine filter_key_of_mem (fun d : DeadLetter α => d.task.taskId) ?_ hd
      simpa [deadTasks, List.map_map, Function.comp_def] using nd3

end LocalQueue

/-- In every state of every run of the local queue, each task that was enqueued and neither acked nor
discarded is ready, in flight or dead-lettered, exactly once and with its dict, and no id is held
twice. -/
theorem local_queue_conserves {s : Tracked α} (r : Reach (· = Tracked.start) Step s) :
    (∀ i ∈ s.owed, HeldOnce s.queue i) ∧ s.queue.Distinct := by
  have c : Conserved s := by
    refine r.invariant (I := Conserved) ?_ (fun _ _ c st => c.step st)
    rintro s rfl
    exact Conserved.start
  exact ⟨fun i hi => LocalQueue.heldOnce_of_mem c.distinct c.filed (c.kept i hi), c.distinct⟩

/-- A deferred and a due task, one of them claimed. -/
theorem local_queue_conserves_claimed :
    ∃ s : Tracked Unit, s.owed.length = 2 ∧ s.queue.inflight.keys = [2] ∧
      (∀ i ∈ s.owed, HeldOnce s.queue i) := by
  have r0 : Reach (· = Tracked.start) Step (Tracked.start : Tracked Unit) := .init rfl
  have r1 := r0.step (.enqueue 10 1 false ⟨none, some 5, none, some 99, ()⟩ (by decide))
  have r2 := r1.step (.enqueue 11 2 false ⟨none, some 5, none, none, ()⟩ (by decide))
  have r3 := r2.step (.claim 12 90)
  exact ⟨_, rfl, by decide, (local_queue_conserves r3).1⟩

end Vertep.Queue
