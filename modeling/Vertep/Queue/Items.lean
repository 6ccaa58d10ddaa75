import Vertep.Queue.Conservation

/-!
# The live tasks of a local queue (`core/queue.py`)

What is ready or in flight, whatever became of the dead letters: the callers of the queue also put dead
letters without an id there, so ids are not distinct over the whole queue as in `Queue.Conservation`.
`Coherent` is what the calls of CORE keep: below the next fresh name, one task for each id, filed under
it. While it holds `claim`, `renew`, `release` and `requeueExpired` keep the live tasks as they are.
-/

namespace Vertep.Queue
open Lib

variable {α : Type}

namespace LocalQueue

def items (q : LocalQueue α) : List (Item α) := q.ready.map Row.item ++ q.inflight.values.map Prod.snd

lemma mem_items {q : LocalQueue α} {i : Item α} :
    i ∈ q.items ↔ (∃ row ∈ q.ready, row.item = i) ∨ ∃ id d, q.inflight.get? id = some (d, i) := by
  simp only [items, List.mem_append, List.mem_map, Dict.values, List.mem_map]
  refine or_congr Iff.rfl ⟨?_, ?_⟩
  · rintro ⟨_, ⟨⟨id, d, _⟩, member, rfl⟩, rfl⟩
    exact ⟨id, d, Dict.mem_entries_iff.1 member⟩
  · rintro ⟨id, d, found⟩
    exact ⟨(d, i), ⟨(id, d, i), Dict.mem_entries_iff.2 found, rfl⟩, rfl⟩

/-- Every live task is below the next name, the only one of its id, and filed under it in flight. -/
structure Coherent (q : LocalQueue α) (next : ℕ) : Prop where
  below : ∀ i ∈ q.items, i.taskId < next
  unique : ∀ i ∈ q.items, ∀ i' ∈ q.items, i.taskId = i'.taskId → i = i'
  filed : q.Filed

lemma Coherent.mono {q : LocalQueue α} {n m : ℕ} (c : q.Coherent n) (le : n ≤ m) : q.Coherent m :=
  { c with below := fun i member => (c.below i member).trans_le le }

lemma Coherent.subset {q q' : LocalQueue α} {n : ℕ} (c : q.Coherent n) (h : ∀ i ∈ q'.items, i ∈ q.items)
    (filed : q'.Filed) : q'.Coherent n where
  below i member := c.below i (h i member)
  unique i member i' member' := c.unique i (h i member) i' (h i' member')
  filed := filed

lemma coherent_empty : ({} : LocalQueue α).Coherent 0 where
  below _ member := by cases member
  unique _ member := by cases member
  filed _ _ _ found := by cases found

/-! ## Putting in and taking out -/

lemma mem_push {q : LocalQueue α} {x i : Item α} : i ∈ (q.push x).items ↔ i = x ∨ i ∈ q.items := by
  simp only [mem_items, push, (heappush_perm _ _).mem_iff, List.mem_cons, exists_eq_or_imp, or_assoc,
    eq_comm (a := x)]

lemma Coherent.push {q : LocalQueue α} {n m : ℕ} (c : q.Coherent n) {x : Item α} (le : n ≤ x.taskId)
    (lt : x.taskId < m) : (q.push x).Coherent m where
  below i member := by
    rcases mem_push.1 member with rfl | member
    · exact lt
    · exact (c.below i member).trans (le.trans_lt lt)
  unique i member i' member' same := by
    rcases mem_push.1 member with new | old <;> rcases mem_push.1 member' with new' | old'
    · rw [new, new']
    · rw [new] at same
      exact absurd (same ▸ c.below i' old') (not_lt.2 le)
    · rw [new'] at same
      exact absurd (same ▸ c.below i old) (not_lt.2 le)
    · exact c.unique i old i' old' same
  filed := c.filed

lemma mem_of_mem_ack {q : LocalQueue α} {id : TaskId} {i : Item α} (h : i ∈ (q.ack id).items) :
    i ∈ q.items := by
  rw [mem_items] at h ⊢
  refine h.imp_right fun ⟨key, d, found⟩ => ⟨key, d, ?_⟩
  simp only [ack, Dict.get?_pop] at found
  split at found
  · cases found
  · exact found

lemma mem_ack {q : LocalQueue α} (filed : q.Filed) {id : TaskId} {i : Item α} (h : i ∈ q.items)
    (ne : i.taskId ≠ id) : i ∈ (q.ack id).items := by
  rw [mem_items] at h ⊢
  refine h.imp_right fun ⟨key, d, found⟩ => ⟨key, d, ?_⟩
  have other : id ≠ key := fun e => ne (e ▸ filed _ _ _ found)
  simp only [ack, Dict.get?_pop, other, if_false, found]

lemma Coherent.ack {q : LocalQueue α} {n : ℕ} (c : q.Coherent n) (id : TaskId) : (q.ack id).Coherent n :=
  c.subset (fun _ => mem_of_mem_ack) (c.filed.ack id)

lemma mem_of_mem_discard {q : LocalQueue α} {id : TaskId} {i : Item α} (h : i ∈ (q.discard id).items) :
    i ∈ q.items := by
  refine @mem_of_mem_ack _ q id i ?_
  rw [mem_items] at h ⊢
  refine h.imp_left fun ⟨row, member, same⟩ => ⟨row, ?_, same⟩
  exact (List.mem_filter.1 member).1

lemma mem_discard {q : LocalQueue α} (filed : q.Filed) {id : TaskId} {i : Item α} (h : i ∈ q.items)
    (ne : i.taskId ≠ id) : i ∈ (q.discard id).items := by
  have kept := mem_ack filed h ne
  rw [mem_items] at kept ⊢
  refine kept.imp_left fun ⟨row, member, same⟩ => ⟨row, List.mem_filter.2 ⟨member, ?_⟩, same⟩
  simpa [same] using ne

lemma ne_of_mem_discard {q : LocalQueue α} (filed : q.Filed) {id : TaskId} {i : Item α}
    (h : i ∈ (q.discard id).items) : i.taskId ≠ id := by
  rcases mem_items.1 h with ⟨row, member, rfl⟩ | ⟨key, d, found⟩
  · simpa using (List.mem_filter.1 member).2
  · simp only [discard, ack, Dict.get?_pop] at found
    split at found
    · cases found
    · rename_i other
      rw [filed _ _ _ found]
      exact fun same => other same.symm

lemma Coherent.discard {q : LocalQueue α} {n : ℕ} (c : q.Coherent n) (id : TaskId) :
    (q.discard id).Coherent n :=
  c.subset (fun _ => mem_of_mem_discard) (c.filed.ack id)

lemma deadLetter_items (q : LocalQueue α) (task : Task α) (error : Option String) (now : Time) :
    (q.deadLetter task error now).items =
      match task.taskId with
      | some id => (q.ack id).items
      | none => q.items := by
  unfold deadLetter
  cases task.taskId <;> rfl

lemma deadLetter_filed {q : LocalQueue α} (filed : q.Filed) (task : Task α) (error : Option String)
    (now : Time) : (q.deadLetter task error now).Filed := by
  unfold deadLetter
  cases task.taskId with
  | none => exact filed
  | some id => exact filed.ack id

/-! ## Moving -/

lemma mem_file {q : LocalQueue α} {n : ℕ} (c : q.Coherent n) {x i : Item α} {d : Time}
    (h : x ∈ q.items) :
    i ∈ ({ q with inflight := q.inflight.set x.taskId (d, x) } : LocalQueue α).items ↔
      i ∈ q.items := by
  constructor
  · intro member
    rcases mem_items.1 member with ready | ⟨key, d', found⟩
    · exact mem_items.2 (.inl ready)
    · simp only [Dict.get?_set] at found
      split at found
      · cases found
        exact h
      · exact mem_items.2 (.inr ⟨key, d', found⟩)
  · intro member
    rcases mem_items.1 member with ready | ⟨key, d', found⟩
    · exact mem_items.2 (.inl ready)
    · by_cases same : x.taskId = key
      · have eq : x = i := c.unique x h i member (same.trans (c.filed _ _ _ found).symm)
        refine mem_items.2 (.inr ⟨x.taskId, d, ?_⟩)
        simp only [Dict.get?_set, if_true, eq]
      · refine mem_items.2 (.inr ⟨key, d', ?_⟩)
        simp only [Dict.get?_set, same, if_false, found]

lemma mem_claim {q : LocalQueue α} {n : ℕ} (c : q.Coherent n) (now : Time) (lease : ℚ) {i : Item α} :
    i ∈ (q.claim now lease).2.items ↔ i ∈ q.items := by
  have perm := popDue_perm now q.ready []
  rw [List.append_nil] at perm
  rcases claim_cases q now lease with ⟨served, eq⟩ | ⟨row, served, eq⟩
  · rw [served, Option.toList_none, List.nil_append] at perm
    rw [eq, mem_items, mem_items]
    simp only [perm.mem_iff]
  · rw [served, Option.toList_some, List.singleton_append] at perm
    have live : row.item ∈ q.items := mem_items.2 (.inl ⟨row, mem_of_popDue served, rfl⟩)
    rw [eq, ← @mem_file _ q n c row.item i (now + lease) live, mem_items, mem_items]
    simp only [← perm.mem_iff, List.mem_cons, exists_eq_or_imp]
    constructor
    · exact Or.imp_left .inr
    · rintro ((rfl | ready) | filed)
      · exact .inr ⟨row.item.taskId, now + lease, by simp⟩
      · exact .inl ready
      · exact .inr filed

lemma claim_filed {q : LocalQueue α} (filed : q.Filed) (now : Time) (lease : ℚ) :
    (q.claim now lease).2.Filed := by
  rcases claim_cases q now lease with ⟨_, eq⟩ | ⟨row, _, eq⟩
  · rw [eq]
    exact filed
  · rw [eq]
    exact Filed.set (q := { q with ready := _ }) filed rfl

lemma Coherent.claim {q : LocalQueue α} {n : ℕ} (c : q.Coherent n) (now : Time) (lease : ℚ) :
    (q.claim now lease).2.Coherent n :=
  c.subset (fun _ => (mem_claim c now lease).1) (claim_filed c.filed now lease)

lemma mem_renew {q : LocalQueue α} {n : ℕ} (c : q.Coherent n) (id : TaskId) (now : Time) (lease : ℚ)
    {i : Item α} : i ∈ (q.renew id now lease).2.items ↔ i ∈ q.items := by
  unfold renew
  split
  · rfl
  · rename_i d x found
    have live : x ∈ q.items := mem_items.2 (.inr ⟨id, d, found⟩)
    cases c.filed _ _ _ found
    exact mem_file c live

lemma Coherent.renew {q : LocalQueue α} {n : ℕ} (c : q.Coherent n) (id : TaskId) (now : Time)
    (lease : ℚ) : (q.renew id now lease).2.Coherent n :=
  c.subset (fun _ => (mem_renew c id now lease).1) (renew_tasks c.filed id now lease).2

lemma mem_putBack {q : LocalQueue α} {n : ℕ} (c : q.Coherent n) {id : TaskId} {d : Time} {x i : Item α}
    (found : q.inflight.get? id = some (d, x)) : i ∈ ((q.ack id).push x).items ↔ i ∈ q.items := by
  have live : x ∈ q.items := mem_items.2 (.inr ⟨id, d, found⟩)
  rw [mem_push]
  constructor
  · rintro (rfl | member)
    · exact live
    · exact mem_of_mem_ack member
  · intro member
    by_cases same : i.taskId = id
    · exact .inl (c.unique i member x live (same.trans (c.filed _ _ _ found).symm))
    · exact .inr (mem_ack c.filed member same)

lemma mem_release {q : LocalQueue α} {n : ℕ} (c : q.Coherent n) (id : TaskId) (now : Time)
    (uuid : TaskId) {i : Item α} : i ∈ (q.release id now uuid).2.items ↔ i ∈ q.items := by
  unfold release
  split
  · rfl
  · rename_i d x found
    simp only [enqueue, stamp_toTask]
    exact mem_putBack c found

lemma Coherent.release {q : LocalQueue α} {n : ℕ} (c : q.Coherent n) (id : TaskId) (now : Time)
    (uuid : TaskId) : (q.release id now uuid).2.Coherent n :=
  c.subset (fun _ => (mem_release c id now uuid).1) (release_tasks c.filed id now uuid).2

lemma pushEach_items (records : List (TaskId × Time × Item α)) (q : LocalQueue α) (i : Item α) :
    i ∈ (records.foldl (fun q r => q.push r.2.2) q).items ↔ (∃ r ∈ records, r.2.2 = i) ∨ i ∈ q.items := by
  induction records generalizing q with
  | nil => simp
  | cons r records ih =>
    rw [List.foldl_cons, ih, mem_push]
    simp only [List.mem_cons, exists_eq_or_imp, eq_comm (a := i)]
    exact or_left_comm.trans or_assoc.symm

lemma takeAll_items (records : List (TaskId × Time × Item α)) {q : LocalQueue α} {i : Item α}
    (filed : q.Filed) (member : i ∈ q.items) (ne : ∀ r ∈ records, i.taskId ≠ r.1) :
    i ∈ (records.foldl (fun q r => q.ack r.1) q).items := by
  induction records generalizing q with
  | nil => exact member
  | cons r records ih =>
    have kept := mem_ack filed member (ne r List.mem_cons_self)
    exact ih (filed.ack r.1) kept fun r' h => ne r' (List.mem_cons_of_mem _ h)

lemma mem_of_takeAll (records : List (TaskId × Time × Item α)) {q : LocalQueue α} {i : Item α}
    (h : i ∈ (records.foldl (fun q r => q.ack r.1) q).items) : i ∈ q.items := by
  induction records generalizing q with
  | nil => exact h
  | cons r records ih => exact mem_of_mem_ack (ih h)

lemma mem_requeueExpired {q : LocalQueue α} {n : ℕ} (c : q.Coherent n) (clock : Time)
    (now : Option Time) (uuid : TaskId) {i : Item α} :
    i ∈ (q.requeueExpired clock now uuid).2.items ↔ i ∈ q.items := by
  rw [requeueExpired_eq, pushEach_items]
  constructor
  · rintro (⟨r, member, rfl⟩ | member)
    · exact mem_items.2 (.inr ⟨r.1, r.2.1, mem_expired member⟩)
    · exact mem_of_takeAll _ member
  · intro member
    by_cases swept : ∃ r ∈ q.expired (nowOr clock now), i.taskId = r.1
    · obtain ⟨r, listed, same⟩ := swept
      have found := mem_expired listed
      have live : r.2.2 ∈ q.items := mem_items.2 (.inr ⟨r.1, r.2.1, found⟩)
      have filed : r.2.2.taskId = r.1 := c.filed _ _ _ found
      exact .inl ⟨r, listed, c.unique _ live _ member (filed.trans same.symm)⟩
    · exact .inr (takeAll_items _ c.filed member fun r listed same => swept ⟨r, listed, same⟩)

lemma Coherent.requeueExpired {q : LocalQueue α} {n : ℕ} (c : q.Coherent n) (clock : Time)
    (now : Option Time) (uuid : TaskId) : (q.requeueExpired clock now uuid).2.Coherent n :=
  c.subset (fun _ => (mem_requeueExpired c clock now uuid).1)
    (requeueExpired_tasks c.filed clock now uuid).2

lemma requeueDeadLetter_some {q q' : LocalQueue α} {id uuid : TaskId} {now : Time} {i : Item α}
    (run : q.requeueDeadLetter id now uuid = (some i, q')) :
    ∃ d, q.deadLetters.find? (fun d => d.task.taskId = some id) = some d ∧ i = stamp now uuid true d.task ∧
      ∃ rest, q' = { q with deadLetters := rest }.push i := by
  unfold requeueDeadLetter at run
  split at run
  · cases run
  · rename_i d found
    cases run
    exact ⟨d, found, rfl, _, rfl⟩

lemma Coherent.requeueDeadLetter {q q' : LocalQueue α} {n : ℕ} (c : q.Coherent n) {id : TaskId}
    {now : Time} {i : Item α} (run : q.requeueDeadLetter id now n = (some i, q')) :
    q'.Coherent (n + 1) := by
  obtain ⟨d, _, rfl, rest, rfl⟩ := requeueDeadLetter_some run
  exact Coherent.push (q := { q with deadLetters := rest }) (c.subset (fun _ member => member) c.filed)
    le_rfl (Nat.lt_succ_self _)

lemma mem_requeueDeadLetter_discard {q q' : LocalQueue α} {n : ℕ} (c : q.Coherent n) {id : TaskId}
    {now : Time} {i j : Item α} (run : q.requeueDeadLetter id now n = (some i, q')) :
    j ∈ (q'.discard i.taskId).items ↔ j ∈ q.items := by
  have filed := (c.requeueDeadLetter run).filed
  obtain ⟨d, _, rfl, rest, rfl⟩ := requeueDeadLetter_some run
  constructor
  · intro member
    have ne := ne_of_mem_discard filed member
    refine (mem_push.1 (mem_of_mem_discard member)).resolve_left fun new => ?_
    exact ne (new ▸ rfl)
  · intro member
    have old : j.taskId ≠ n := (c.below j member).ne
    exact mem_discard filed (mem_push.2 (.inr member)) old

/-! ## New tasks -/

/-- The ready tasks of a kind whose names were given out since `next`. -/
def newTasks (q : LocalQueue α) (next : ℕ) (p : Item α → Bool) : ℕ :=
  q.ready.countP fun row => next ≤ row.item.taskId ∧ p row.item

lemma newTasks_push (q : LocalQueue α) (next : ℕ) (p : Item α → Bool) (item : Item α) :
    (q.push item).newTasks next p = q.newTasks next p + if next ≤ item.taskId ∧ p item = true then 1 else 0 := by
  rw [newTasks, push, (heappush_perm _ _).countP_eq, List.countP_cons, newTasks]
  simp only [decide_eq_true_eq]

lemma Coherent.newTasks {q : LocalQueue α} {n : ℕ} (c : q.Coherent n) (p : Item α → Bool) :
    q.newTasks n p = 0 := by
  rw [LocalQueue.newTasks, List.countP_eq_zero]
  intro row within counted
  have below := c.below row.item (mem_items.2 (.inl ⟨row, within, rfl⟩))
  have new : n ≤ row.item.taskId := (of_decide_eq_true counted).1
  exact not_le_of_gt below new

end LocalQueue

end Vertep.Queue
