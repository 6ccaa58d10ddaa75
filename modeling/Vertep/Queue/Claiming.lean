import Vertep.Queue.Backends

/-!
# What a claim serves (`core/queue.py`)

A claim is to serve the first ready row that may run, by priority and by the order in which the rows were put in, and to
leave the others as they were. The local backend does so unless a row ripens while the heap is read; Redis as long as a
row that may run is among the first hundred, stands where it was put in, and is kept by a round through Lua.
-/

namespace Vertep.Queue
open Lib

variable {α ρ : Type}

/-- A row may run at `now`. -/
def Runnable (now : Time) (i : Item α) : Prop := ∀ t, i.notBefore = some t → t ≤ now

/-- What a claim at `now` is to do; of the rows that may run the one that comes before the others is served. -/
structure Serves (item : ρ → Item α) (Before : ρ → ρ → Prop) (now : Time) (Deadline : Time → Prop) (ready ready' : List ρ)
    (inflight inflight' : Dict TaskId (Time × Item α)) (served : Option (Item α)) : Prop where
  some_iff : served.isSome ↔ ∃ row ∈ ready, Runnable now (item row)
  idle : served = none → ready' = ready ∧ inflight' = inflight
  first : ∀ i, served = some i → ∃ front row back, ready = front ++ row :: back ∧ ready' = front ++ back ∧ item row = i ∧
    Runnable now i ∧ (∀ other ∈ front ++ back, Runnable now (item other) → Before row other) ∧
    ∃ deadline, Deadline deadline ∧ inflight' = inflight.set i.taskId (deadline, i)

lemma due_iff {now : Time} (nonneg : 0 ≤ now) {i : Item α} : i.due now = true ↔ Runnable now i := by
  rw [Item.due, decide_eq_true_eq, Runnable]
  cases i.notBefore with
  | none => simp [nonneg]
  | some t => simp

lemma luaDue_iff {now : Time} {i : Item Members} : i.luaDue now = true ↔ Runnable now i := by
  rw [Item.luaDue, Runnable]
  cases i.notBefore with
  | none => simp
  | some t => simp

/-! ## The local backend -/

/-- The loop of `claim`, which reads the clock at each row: `clock n` is what it reads at the one with `n` before it. -/
def popReading (clock : ℕ → Time) : List (Row α) → List (Row α) → Option (Row α) × List (Row α) × List (Row α)
  | [], deferred => (none, [], deferred)
  | row :: heap, deferred =>
    if row.item.due (clock deferred.length) then (some row, heap, deferred) else popReading clock heap (deferred ++ [row])

/-- `claim`, with every reading of the clock. -/
def LocalQueue.claimReading (q : LocalQueue α) (clock : ℕ → Time) (lease : ℚ) : Option (Item α) × LocalQueue α :=
  match popReading clock q.ready [] with
  | (none, heap, deferred) => (none, { q with ready := pushAll deferred heap })
  | (some row, heap, deferred) =>
    (some row.item,
      { q with
        ready := pushAll deferred heap
        inflight := q.inflight.set row.item.taskId (clock (deferred.length + 1) + lease, row.item) })

/-- Where all readings are the same it is `claim`. -/
lemma claimReading_const (q : LocalQueue α) (now : Time) (lease : ℚ) :
    q.claimReading (fun _ => now) lease = q.claim now lease := by
  have same : ∀ heap deferred, popReading (α := α) (fun _ => now) heap deferred = popDue now heap deferred := by
    intro heap
    induction heap with
    | nil => exact fun _ => rfl
    | cons row heap ih =>
      intro deferred
      rw [popReading, popDue, ih]
  rw [LocalQueue.claimReading, same]
  rfl

/-- What `heapq` and the counter make of the ready rows. -/
structure Heap (q : LocalQueue α) : Prop where
  sorted : q.ready.Pairwise Row.le
  seqs : (q.ready.map Row.seq).Nodup
  bound : ∀ row ∈ q.ready, row.seq ≤ q.sequence
  rank : ∀ row ∈ q.ready, row.rank = -pyInt row.item.priority

def Row.Before (a b : Row α) : Prop := pyInt b.item.priority < pyInt a.item.priority ∨
  pyInt a.item.priority = pyInt b.item.priority ∧ a.seq < b.seq

/-- No row that is read before the first one that may run has ripened since the claim began. -/
def Unripe (clock : ℕ → Time) (ready : List (Row α)) : Prop := ∀ front row back, ready = front ++ row :: back →
  Runnable (clock front.length) row.item → ∃ other ∈ front ++ [row], Runnable (clock 0) other.item

lemma popReading_cases (clock : ℕ → Time) (heap deferred : List (Row α)) :
    (∃ front row back, heap = front ++ row :: back ∧
      (∀ front' row' back', front = front' ++ row' :: back' → row'.item.due (clock (deferred.length + front'.length)) = false) ∧
      row.item.due (clock (deferred.length + front.length)) = true ∧
      popReading clock heap deferred = (some row, back, deferred ++ front)) ∨
    (∀ front row back, heap = front ++ row :: back → row.item.due (clock (deferred.length + front.length)) = false) ∧
      popReading clock heap deferred = (none, [], deferred ++ heap) := by
  induction heap generalizing deferred with
  | nil =>
    refine .inr ⟨fun front row back is => ?_, by rw [popReading, List.append_nil]⟩
    simp at is
  | cons row heap ih =>
    rw [popReading]
    split
    · rename_i due
      refine .inl ⟨[], row, heap, rfl, fun front' row' back' is => ?_, due, by rw [List.append_nil]⟩
      simp at is
    · rename_i due
      rw [Bool.not_eq_true] at due
      have step : ∀ {front row'} {back : List (Row α)} {rows}, row :: rows = front ++ row' :: back →
          (front = [] ∧ row' = row) ∨ ∃ front', front = row :: front' ∧ rows = front' ++ row' :: back := by
        intro front row' back rows is
        cases front with
        | nil =>
          cases is
          exact .inl ⟨rfl, rfl⟩
        | cons first front' =>
          cases is
          exact .inr ⟨front', rfl, rfl⟩
      have shift : ∀ n, (deferred ++ [row]).length + n = deferred.length + (n + 1) := by
        intro n
        rw [List.length_append, List.length_singleton]
        omega
      rcases ih (deferred ++ [row]) with ⟨front, row', back, is, before, due', ran⟩ | ⟨before, ran⟩
      · rw [shift] at due'
        refine .inl ⟨row :: front, row', back, by rw [is]; rfl, fun front' r back' is' => ?_, due', by rw [ran, List.append_assoc]; rfl⟩
        rcases step is' with ⟨rfl, rfl⟩ | ⟨front', rfl, rest⟩
        · exact due
        · have := before front' r back' rest
          rwa [shift] at this
      · refine .inr ⟨fun front' r back' is' => ?_, by rw [ran, List.append_assoc]; rfl⟩
        rcases step is' with ⟨rfl, rfl⟩ | ⟨front', rfl, rest⟩
        · exact due
        · have := before front' r back' rest
          rwa [shift] at this

variable {q : LocalQueue α}

lemma Heap.pushAll (heap : Heap q) {front back : List (Row α)} (sub : (front ++ back).Sublist q.ready) :
    pushAll front back = front ++ back := by
  have sorted := heap.sorted.sublist sub
  have perm : (Queue.pushAll front back).Perm (front ++ back) := pushAll_perm front back
  refine List.Perm.eq_of_pairwise ?_ (pushAll_sorted front (sorted.sublist (List.sublist_append_right _ _))) sorted perm
  intro a b left right le le'
  have same : a.seq = b.seq := by
    unfold Row.le at le le'
    omega
  exact List.inj_on_of_nodup_map heap.seqs (sub.subset (perm.subset left)) (sub.subset right) same

lemma Heap.before (heap : Heap q) {front back : List (Row α)} {row other : Row α}
    (is : q.ready = front ++ row :: back) (within : other ∈ back) : row.Before other := by
  have sorted := heap.sorted
  have seqs := heap.seqs
  have rank := heap.rank row (is ▸ by simp)
  have rank' := heap.rank other (is ▸ by simp [within])
  rw [is, List.pairwise_append, List.pairwise_cons] at sorted
  rw [is, List.map_append, List.map_cons, List.nodup_append, List.nodup_cons] at seqs
  have le := sorted.2.1.1 other within
  have ne : row.seq ≠ other.seq := fun same => seqs.2.1.1 (same ▸ List.mem_map_of_mem within)
  unfold Row.le at le
  unfold Row.Before
  omega

lemma Heap.claimReading (heap : Heap q) (clock : ℕ → Time) (lease : ℚ) :
    (∃ front row back, q.ready = front ++ row :: back ∧
      (∀ front' row' back', front = front' ++ row' :: back' → row'.item.due (clock front'.length) = false) ∧
      row.item.due (clock front.length) = true ∧ q.claimReading clock lease = (some row.item, { q with
        ready := front ++ back
        inflight := q.inflight.set row.item.taskId (clock (front.length + 1) + lease, row.item) })) ∨
    (∀ front row back, q.ready = front ++ row :: back → row.item.due (clock front.length) = false) ∧
      q.claimReading clock lease = (none, q) := by
  have zero : ∀ n, ([] : List (Row α)).length + n = n := Nat.zero_add
  rcases popReading_cases clock q.ready [] with ⟨front, row, back, is, before, due, ran⟩ | ⟨before, ran⟩
  · simp only [zero] at before due
    refine .inl ⟨front, row, back, is, before, due, ?_⟩
    have sub : (front ++ back).Sublist q.ready := by
      rw [is]
      exact (List.sublist_cons_self row back).append_left front
    rw [LocalQueue.claimReading, ran]
    show (some row.item, _) = _
    rw [List.nil_append, heap.pushAll sub]
  · simp only [zero] at before
    refine .inr ⟨before, ?_⟩
    have sub : (q.ready ++ []).Sublist q.ready := by rw [List.append_nil]
    rw [LocalQueue.claimReading, ran]
    show (none, { q with ready := Queue.pushAll q.ready [] }) = _
    rw [heap.pushAll sub, List.append_nil]

/-- The local backend does what a claim is to do. -/
def LocalQueue.Claims (q : LocalQueue α) (clock : ℕ → Time) (lease : ℚ) : Prop :=
  Serves Row.item Row.Before (clock 0) (fun deadline => ∃ n, deadline = clock n + lease) q.ready
    (q.claimReading clock lease).2.ready q.inflight (q.claimReading clock lease).2.inflight (q.claimReading clock lease).1

lemma Runnable.later {now later : Time} (le : now ≤ later) {i : Item α} (may : Runnable now i) : Runnable later i :=
  fun t is => (may t is).trans le

lemma Heap.claims_iff (heap : Heap q) {clock : ℕ → Time} (forward : Monotone clock) (epoch : 0 ≤ clock 0)
    (lease : ℚ) : q.Claims clock lease ↔ Unripe clock q.ready := by
  have due : ∀ {n} {i : Item α}, i.due (clock n) = true ↔ Runnable (clock n) i := fun {n _} =>
    due_iff (epoch.trans (forward (Nat.zero_le n)))
  have late : ∀ n {i : Item α}, i.due (clock n) = false → ¬ Runnable (clock 0) i := by
    intro n i not may
    rw [due.2 (may.later (forward (Nat.zero_le n)))] at not
    cases not
  rw [LocalQueue.Claims]
  rcases heap.claimReading clock lease with ⟨front, row, back, is, before, may, ran⟩ | ⟨none, ran⟩
  · rw [ran]
    constructor
    · intro serves front' row' back' is' may'
      obtain ⟨_, _, _, -, -, -, runs, -⟩ := serves.first row.item rfl
      -- the row that is served is read no later than one that is due when it is read
      have prefix₁ : front ++ [row] <+: q.ready := ⟨back, by rw [is, List.append_assoc]; rfl⟩
      have prefix₂ : front' ++ [row'] <+: q.ready := ⟨back', by rw [is', List.append_assoc]; rfl⟩
      refine ⟨row, ?_, runs⟩
      rcases List.prefix_or_prefix_of_prefix prefix₁ prefix₂ with early | early
      · exact early.subset (List.mem_append_right _ (List.mem_singleton.2 rfl))
      · rcases List.prefix_concat_iff.1 early with same | ⟨rest, same⟩
        · rw [same]
          exact List.mem_append_right _ (List.mem_singleton.2 rfl)
        · have not := before front' row' rest (by rw [← same, List.append_assoc]; rfl)
          rw [due.2 may'] at not
          cases not
    · intro unripe
      have others : ∀ other ∈ front, ¬ Runnable (clock 0) other.item := by
        intro other within
        obtain ⟨front', back', is'⟩ := List.append_of_mem within
        exact late front'.length (before front' other back' is')
      have runs : Runnable (clock 0) row.item := by
        obtain ⟨other, within, runs⟩ := unripe front row back is (due.1 may)
        rcases List.mem_append.1 within with earlier | same
        · exact absurd runs (others other earlier)
        · rwa [List.mem_singleton.1 same] at runs
      refine ⟨⟨fun _ => ⟨row, is ▸ by simp, runs⟩, fun _ => rfl⟩, fun no => (by cases no), fun i served => ?_⟩
      cases served
      refine ⟨front, row, back, is, rfl, rfl, runs, fun other within runs' => ?_, _, ⟨_, rfl⟩, rfl⟩
      rcases List.mem_append.1 within with earlier | later
      · exact absurd runs' (others other earlier)
      · exact heap.before is later
  · rw [ran]
    refine ⟨fun _ front row back is may => ?_, fun _ => ⟨⟨fun some => (by cases some), ?_⟩, fun _ => ⟨rfl, rfl⟩,
      fun i served => (by cases served)⟩⟩
    · have not := none front row back is
      rw [due.2 may] at not
      cases not
    · rintro ⟨row, within, may⟩
      obtain ⟨front, back, is⟩ := List.append_of_mem within
      exact absurd may (late front.length (none front row back is))

lemma Heap.fewer {q' : LocalQueue α} (heap : Heap q) (sub : q'.ready.Sublist q.ready) (same : q'.sequence = q.sequence) :
    Heap q' where
  sorted := heap.sorted.sublist sub
  seqs := heap.seqs.sublist (sub.map _)
  bound row within := by
    rw [same]
    exact heap.bound row (sub.subset within)
  rank row within := heap.rank row (sub.subset within)

lemma Heap.push (heap : Heap q) (i : Item α) : Heap (q.push i) := by
  have perm := heappush_perm ⟨-pyInt i.priority, q.sequence + 1, i⟩ q.ready
  have cases : ∀ row ∈ (q.push i).ready, row = ⟨-pyInt i.priority, q.sequence + 1, i⟩ ∨ row ∈ q.ready :=
    fun row within => List.mem_cons.1 (perm.subset within)
  refine ⟨List.Pairwise.orderedInsert _ _ heap.sorted, ?_, fun row within => ?_, fun row within => ?_⟩
  · refine ((perm.map Row.seq).nodup_iff).2 (List.nodup_cons.2 ⟨fun within => ?_, heap.seqs⟩)
    obtain ⟨row, there, same⟩ := List.mem_map.1 within
    have := heap.bound row there
    simp only at same
    omega
  · rcases cases row within with rfl | old
    · exact le_rfl
    · exact (heap.bound row old).trans (Nat.le_succ _)
  · rcases cases row within with rfl | old
    · rfl
    · exact heap.rank row old

lemma Heap.run (heap : Heap q) (call : Call α) : Heap (q.run call) := by
  cases call with
  | enqueue now uuid newAttempt task => exact heap.push _
  | claim now lease =>
    show Heap (q.claim now lease).2
    rw [← claimReading_const]
    rcases heap.claimReading (fun _ => now) lease with ⟨front, row, back, is, -, -, ran⟩ | ⟨-, ran⟩
    · rw [ran]
      refine heap.fewer ?_ rfl
      rw [is]
      exact (List.sublist_cons_self row back).append_left front
    · rw [ran]
      exact heap
  | ack id => exact heap.fewer (List.Sublist.refl _) rfl
  | renew id now lease =>
    rw [LocalQueue.run, LocalQueue.renew]
    cases q.inflight.get? id with
    | none => exact heap
    | some e => exact heap.fewer (List.Sublist.refl _) rfl
  | release id now uuid =>
    rw [LocalQueue.run, LocalQueue.release]
    cases q.inflight.get? id with
    | none => exact heap
    | some e => exact (heap.fewer (List.Sublist.refl _) rfl : Heap (q.ack id)).push _
  | requeueExpired clock now uuid =>
    rw [LocalQueue.run, LocalQueue.requeueExpired_eq]
    generalize q.expired (nowOr clock now) = gone
    obtain ⟨ready, sequence⟩ := takeAll_ready gone q
    have taken : Heap (gone.foldl (fun q e => q.ack e.1) q) := heap.fewer (by rw [ready]) sequence
    refine List.foldlRecOn gone _ taken fun q heap e _ => heap.push _
  | discard id => exact heap.fewer List.filter_sublist rfl

lemma heap_run (calls : List (Call α)) : Heap (calls.foldl LocalQueue.run {}) := by
  refine List.foldlRecOn calls _ ⟨List.Pairwise.nil, List.nodup_nil, ?_, ?_⟩ fun q heap call _ => heap.run call
  · exact List.forall_mem_nil _
  · exact List.forall_mem_nil _

/-! ## Redis -/

variable (text : Item Members → String)

/-- What a sorted set makes of the ready rows: its members are texts. -/
structure Zset (ready : List ZRow) : Prop where
  sorted : ready.Pairwise (ZRow.le text)
  texts : (ready.map fun row => text row.item).Nodup

def ZRow.Before (inserted : ZRow → ℕ) (a b : ZRow) : Prop := pyInt b.item.priority < pyInt a.item.priority ∨
  pyInt a.item.priority = pyInt b.item.priority ∧ inserted a < inserted b

/-- Redis does what a claim is to do. -/
def RedisQueue.Claims (q : RedisQueue) (inserted : ZRow → ℕ) (now : Time) (lease : ℚ) : Prop :=
  Serves ZRow.item (ZRow.Before inserted) now (· = now + lease) q.ready (q.claim text now lease).2.ready q.inflight
    (q.claim text now lease).2.inflight (q.claim text now lease).1

/-- The condition of a claim on Redis. -/
structure Reaches (inserted : ZRow → ℕ) (now : Time) (lease : ℚ) (ready : List ZRow) : Prop where
  hundred : (∃ row ∈ ready, Runnable now row.item) → ∃ row ∈ ready.take 100, Runnable now row.item
  deadline : (∃ row ∈ ready, Runnable now row.item) → Short 14 (now + lease)
  first : ∀ row, ready.find? (fun row => row.item.luaDue now) = some row → row.item.Survives ∧
    ∀ other ∈ ready, other ≠ row → Runnable now other.item → row.Before inserted other

lemma zscan_cases (now : Time) (n : ℕ) (z deferred : List ZRow) :
    (∃ front row back, z = front ++ row :: back ∧ front.length < n ∧ (∀ other ∈ front, other.item.luaDue now = false) ∧
      row.item.luaDue now = true ∧ zscan now n z deferred = (some row, back, deferred ++ front)) ∨
    (∀ row ∈ z.take n, row.item.luaDue now = false) ∧ zscan now n z deferred = (none, z.drop n, deferred ++ z.take n) := by
  induction n generalizing z deferred with
  | zero =>
    refine .inr ⟨fun row within => (by cases within), ?_⟩
    rw [zscan, List.take_zero, List.append_nil, List.drop_zero]
  | succ n ih =>
    cases z with
    | nil => exact .inr ⟨fun row within => (by cases within), by rw [zscan, List.take_nil, List.append_nil, List.drop_nil]⟩
    | cons row z =>
      rw [zscan]
      split
      · rename_i due
        exact .inl ⟨[], row, z, rfl, Nat.succ_pos n, fun other within => (by cases within), due, by rw [List.append_nil]⟩
      · rename_i not
        rw [Bool.not_eq_true] at not
        rcases ih z (deferred ++ [row]) with ⟨front, row', back, is, less, before, due, ran⟩ | ⟨none, ran⟩
        · refine .inl ⟨row :: front, row', back, by rw [is]; rfl, Nat.succ_lt_succ less,
            List.forall_mem_cons.2 ⟨not, before⟩, due, by rw [ran, List.append_assoc]; rfl⟩
        · exact .inr ⟨List.forall_mem_cons.2 ⟨not, none⟩, by rw [ran, List.append_assoc]; rfl⟩

variable {text}

lemma Zset.zaddAll {ready : List ZRow} (set : Zset text ready) {front back : List ZRow} (sub : (front ++ back).Sublist ready) :
    zaddAll text front back = front ++ back := by
  have sorted := set.sorted.sublist sub
  have texts := set.texts.sublist (sub.map _)
  have items : ((front ++ back).map ZRow.item).Nodup := by
    refine List.Nodup.of_map text ?_
    rwa [List.map_map]
  have perm : (Queue.zaddAll text front back).Perm (front ++ back) := zaddAll_perm items
  refine List.Perm.eq_of_pairwise ?_ (zaddAll_sorted (sorted.sublist (List.sublist_append_right _ _))) sorted perm
  intro a b left right le le'
  have same : a.key text = b.key text := le_antisymm le le'
  have text_eq : text a.item = text b.item := congrArg (fun key => (ofLex key).2) same
  exact List.inj_on_of_nodup_map texts (perm.subset left) right text_eq

lemma Zset.claim {q : RedisQueue} (set : Zset text q.ready) (now : Time) (lease : ℚ) :
    (∃ front row back, q.ready = front ++ row :: back ∧ front.length < 100 ∧
      (∀ other ∈ front, other.item.luaDue now = false) ∧ row.item.luaDue now = true ∧
      q.claim text now lease = (some row.item, {
        ready := front ++ back
        inflight := q.inflight.set row.item.taskId (luaNum (now + lease), row.item.recode) })) ∨
    (∀ row ∈ q.ready.take 100, row.item.luaDue now = false) ∧ q.claim text now lease = (none, q) := by
  rcases zscan_cases now 100 q.ready [] with ⟨front, row, back, is, less, before, due, ran⟩ | ⟨never, ran⟩
  · refine .inl ⟨front, row, back, is, less, before, due, ?_⟩
    have sub : (front ++ back).Sublist q.ready := by
      rw [is]
      exact (List.sublist_cons_self row back).append_left front
    rw [RedisQueue.claim, ran]
    show (some row.item, _) = _
    rw [List.nil_append, set.zaddAll sub]
  · refine .inr ⟨never, ?_⟩
    have whole : q.ready.take 100 ++ q.ready.drop 100 = q.ready := List.take_append_drop 100 q.ready
    have sub : (q.ready.take 100 ++ q.ready.drop 100).Sublist q.ready := by rw [whole]
    rw [RedisQueue.claim, ran]
    show (none, { q with ready := Queue.zaddAll text (q.ready.take 100) (q.ready.drop 100) }) = _
    rw [set.zaddAll sub, whole]

lemma Zset.claims_iff {q : RedisQueue} (set : Zset text q.ready) (inserted : ZRow → ℕ) (now : Time) (lease : ℚ) :
    q.Claims text inserted now lease ↔ Reaches inserted now lease q.ready := by
  have late : ∀ {i : Item Members}, i.luaDue now = false → ¬ Runnable now i := by
    intro i not may
    rw [luaDue_iff.2 may] at not
    cases not
  rw [RedisQueue.Claims]
  rcases set.claim now lease with ⟨front, row, back, is, less, before, due, ran⟩ | ⟨never, ran⟩
  · have runs : Runnable now row.item := luaDue_iff.1 due
    have within : row ∈ q.ready := is ▸ by simp
    have found : q.ready.find? (fun row => row.item.luaDue now) = some row := by
      rw [is, List.find?_append, List.find?_eq_none.2 (fun other there => by rw [before other there]; decide), Option.none_or]
      exact List.find?_cons_of_pos due
    have texts := set.texts
    rw [is, List.map_append, List.map_cons, List.nodup_append, List.nodup_cons] at texts
    -- the others are those that are not the row
    have others : ∀ other, other ∈ front ++ back ↔ other ∈ q.ready ∧ other ≠ row := by
      intro other
      rw [is, List.mem_append, List.mem_append, List.mem_cons]
      constructor
      · rintro (earlier | later)
        · refine ⟨.inl earlier, ?_⟩
          rintro rfl
          exact texts.2.2 _ (List.mem_map_of_mem earlier) _ List.mem_cons_self rfl
        · refine ⟨.inr (.inr later), ?_⟩
          rintro rfl
          exact texts.2.1.1 (List.mem_map_of_mem later)
      · rintro ⟨earlier | same | later, ne⟩
        · exact .inl earlier
        · exact absurd same ne
        · exact .inr later
    rw [ran]
    constructor
    · intro serves
      obtain ⟨front', row', back', is', left, same, -, first, deadline, rfl, record⟩ := serves.first row.item rfl
      have both : (luaNum (now + lease), row.item.recode) = (now + lease, row.item) := by
        have := congrArg (fun inflight => Dict.get? inflight row.item.taskId) record
        simpa using this
      obtain ⟨short, survives⟩ := Prod.mk.inj both
      have rows : row' = row := by
        refine List.inj_on_of_nodup_map set.texts (is' ▸ by simp) within ?_
        rw [same]
      refine ⟨fun _ => ⟨row, ?_, runs⟩, fun _ => luaNum_eq_self.1 short, fun row'' found' => ?_⟩
      · rw [is, List.take_append]
        refine List.mem_append_right _ ?_
        obtain ⟨n, more⟩ : ∃ n, 100 - front.length = n + 1 := ⟨100 - front.length - 1, by omega⟩
        rw [more, List.take_succ_cons]
        exact List.mem_cons_self
      · rw [found] at found'
        cases found'
        refine ⟨Item.recode_eq_self.1 survives, fun other there ne may => ?_⟩
        rw [← rows]
        refine first other ?_ may
        rw [← left]
        exact (others other).2 ⟨there, ne⟩
    · intro reaches
      obtain ⟨survives, first⟩ := reaches.first row found
      refine ⟨⟨fun _ => ⟨row, within, runs⟩, fun _ => rfl⟩, fun no => (by cases no), fun i served => ?_⟩
      cases served
      refine ⟨front, row, back, is, rfl, rfl, runs, fun other there => ?_, _, rfl, ?_⟩
      · obtain ⟨there, ne⟩ := (others other).1 there
        exact first other there ne
      · rw [luaNum_eq_self.2 (reaches.deadline ⟨row, within, runs⟩), Item.recode_eq_self.2 survives]
  · rw [ran]
    constructor
    · intro serves
      have no : ¬ ∃ row ∈ q.ready, Runnable now row.item := by
        intro some
        cases serves.some_iff.2 some
      refine ⟨fun some => absurd some no, fun some => absurd some no, fun row found => ?_⟩
      exact absurd ⟨row, List.mem_of_find?_eq_some found, luaDue_iff.1 (List.find?_some (p := fun row : ZRow => row.item.luaDue now) found)⟩ no
    · intro reaches
      refine ⟨⟨fun some => (by cases some), fun some => ?_⟩, fun _ => ⟨rfl, rfl⟩, fun i served => (by cases served)⟩
      obtain ⟨row, within, may⟩ := reaches.hundred some
      exact absurd may (late (never row within))

/-- **A claim serves the first row that may run**, and moves nothing else: locally unless a row ripens while the heap is
read, and on Redis if and only if a row that may run is among the first hundred, stands where it was put in, and comes
through Lua as it is. -/
theorem claim_serves_first :
    (∀ (q : LocalQueue α) (clock : ℕ → Time) (lease : ℚ), Heap q → Monotone clock → 0 ≤ clock 0 →
      (q.Claims clock lease ↔ Unripe clock q.ready)) ∧
    ∀ (text : Item Members → String) (q : RedisQueue) (inserted : ZRow → ℕ) (now : Time) (lease : ℚ), Zset text q.ready →
      (q.Claims text inserted now lease ↔ Reaches inserted now lease q.ready) :=
  ⟨fun _ _ lease heap forward epoch => heap.claims_iff forward epoch lease,
    fun _ _ inserted now lease set => set.claims_iff inserted now lease⟩

/-- The elder of two tasks is served on both backends. -/
theorem claim_serves_elder :
    ((releaseCalls.take 2).foldl LocalQueue.run {} : LocalQueue Members).Claims (fun _ => 3) 90 ∧
    RedisQueue.Claims (fun i => if i = elder then "a" else "b")
      { ready := [⟨pyScore elder, elder⟩, ⟨pyScore younger, younger⟩] } (fun row => row.item.taskId) 3 90 := by
  have first : Reaches (fun row => row.item.taskId) 3 90 [⟨pyScore elder, elder⟩, ⟨pyScore younger, younger⟩] := by
    refine ⟨fun some => some, fun _ => ?_, fun row found => ?_⟩
    · have short : Short 14 ((93 : ℤ) : ℚ) := short_intCast (by decide)
      norm_num at short ⊢
      exact short
    · have is : (⟨pyScore elder, elder⟩ : ZRow) = row := Option.some.inj found
      subst is
      refine ⟨elder_survives, fun other within ne _ => ?_⟩
      simp only [List.mem_cons, List.not_mem_nil, or_false] at within
      rcases within with rfl | rfl
      · exact absurd rfl ne
      · exact .inr ⟨rfl, by decide⟩
  refine ⟨(claim_serves_first.1 _ _ 90 (heap_run _) monotone_const (by decide)).2 ?_,
    (claim_serves_first (α := Unit).2 _ _ _ 3 90 ⟨?_, by decide⟩).2 first⟩
  · exact fun front row back _ runs => ⟨row, List.mem_append_right _ (List.mem_singleton.2 rfl), runs⟩
  · refine List.pairwise_pair.2 (le_of_score_lt ?_)
    norm_num [pyScore, elder, younger, pyInt]

/-- A hundred tasks that wait until 1000, and one that does not, which was put in last. -/
def waiting (n : ℕ) : Item Members := ⟨n, 5, n, if n = 100 then none else some 1000, .nil⟩

def hundred : RedisQueue := { ready := (List.range 101).map fun n => ⟨pyScore (waiting n), waiting n⟩ }

/-- **A task that may run is not served.** -/
theorem claim_starves : Zset (fun i => String.ofList (List.replicate i.taskId 'a')) hundred.ready ∧
    (∃ row ∈ hundred.ready, Runnable 500 row.item) ∧
    (hundred.claim (fun i => String.ofList (List.replicate i.taskId 'a')) 500 90).1 = none ∧
    ¬ hundred.Claims (fun i => String.ofList (List.replicate i.taskId 'a')) (fun row => row.item.taskId) 500 90 := by
  have set : Zset (fun i => String.ofList (List.replicate i.taskId 'a')) hundred.ready := by
    refine ⟨List.pairwise_map.2 (List.pairwise_lt_range.imp fun {m n} less => le_of_score_lt ?_), ?_⟩
    · have : (m : ℚ) < n := by exact_mod_cast less
      have five : ∀ n, pyInt (waiting n).priority = pyInt 5 := fun n => rfl
      show -(pyInt (waiting m).priority : ℚ) * 10000000000 + (m : ℚ) < -(pyInt (waiting n).priority : ℚ) * 10000000000 + (n : ℚ)
      rw [five, five]
      linarith
    · rw [hundred, List.map_map]
      refine List.Nodup.map (fun m n same => ?_) List.nodup_range
      have := congrArg (fun text : String => text.toList.length) same
      simpa [waiting] using this
  have some : ∃ row ∈ hundred.ready, Runnable 500 row.item := by
    refine ⟨⟨pyScore (waiting 100), waiting 100⟩, List.mem_map_of_mem (List.mem_range.2 (by decide)), fun t is => ?_⟩
    rw [waiting, if_pos rfl] at is
    cases is
  have never : (hundred.claim (fun i => String.ofList (List.replicate i.taskId 'a')) 500 90).1 = none := by
    rcases set.claim 500 90 with ⟨front, row, back, is, less, -, due, -⟩ | ⟨-, ran⟩
    · -- the first hundred wait
      have early : row ∈ hundred.ready.take 100 := by
        rw [is, List.take_append]
        refine List.mem_append_right _ ?_
        obtain ⟨n, more⟩ : ∃ n, 100 - front.length = n + 1 := ⟨100 - front.length - 1, by omega⟩
        rw [more, List.take_succ_cons]
        exact List.mem_cons_self
      rw [hundred, ← List.map_take, List.take_range] at early
      obtain ⟨n, within, rfl⟩ := List.mem_map.1 early
      have less := List.mem_range.1 within
      have waits := luaDue_iff.1 due 1000 (by
        rw [waiting, if_neg]
        omega)
      exact absurd waits (by norm_num)
    · rw [ran]
  refine ⟨set, some, never, fun claims => ?_⟩
  have served := claims.some_iff.2 some
  rw [never] at served
  cases served

end Vertep.Queue
