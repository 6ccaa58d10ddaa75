import Vertep.Queue.Conservation
import Vertep.Queue.Redis

/-!
# The two backends as one queue (`core/queue.py`)

The Redis backend puts a released or expired task back under the score of its original `enqueued_at`,
the local one gives it a new sequence number, so the two need not serve tasks in the same order.
`Meets` says of a call, on the state before it, that it leaves them no room to differ: a task that is
put into the ready set is younger than the ready tasks of its priority. `Agree` is the simulation
between the two states, kept by every such call.
-/

namespace Vertep.Queue
open Lib

instance {α : Type} : Std.Total (Row.le (α := α)) := ⟨fun a b => by unfold Row.le; omega⟩

instance {α : Type} : IsTrans (Row α) Row.le := ⟨fun a b c => by unfold Row.le; omega⟩

/-! ## When a call leaves no room -/

/-- An integer priority and a Unix time of at most ten digits. -/
structure InRange (i : Item Members) : Prop where
  priority : ∃ n : ℤ, i.priority = n
  nonneg : 0 ≤ i.enqueuedAt
  lt : i.enqueuedAt < 10000000000

/-- `a` is of another priority than `b` or was enqueued before it. -/
def Older (a b : Item Members) : Prop := a.priority = b.priority → a.enqueuedAt < b.enqueuedAt

def Fits (ready : List (Row Members)) (i : Item Members) : Prop := ∀ row ∈ ready, Older row.item i

def ScanReaches (now : Time) (ready : List (Row Members)) : Prop :=
  (∃ row ∈ ready, row.item.due now) → ∃ row ∈ ready.take 100, row.item.due now

/-- The sweep at `current` puts back the same tasks on both sides, each of them younger than the ready
tasks of its priority and than those put back before it. -/
structure SweepFits (q : LocalQueue Members) (current : Time) : Prop where
  deadline : ∀ id d i, q.inflight.get? id = some (d, i) → (luaNum d ≤ current ↔ d ≤ current)
  survives : ∀ e ∈ q.expired current, e.2.2.Survives
  fits : ∀ e ∈ q.expired current, Fits q.ready e.2.2
  inOrder : (q.expired current).Pairwise (fun a b => Older a.2.2 b.2.2)

/-- The call leaves the backends no room to differ. -/
def Meets (q : LocalQueue Members) : Call Members → Prop
  | .enqueue now uuid newAttempt task =>
    some (stamp now uuid newAttempt task).taskId ∉ q.tasks.map Task.taskId ∧
    InRange (stamp now uuid newAttempt task) ∧ Fits q.ready (stamp now uuid newAttempt task)
  | .claim now _ => 0 ≤ now ∧ ScanReaches now q.ready
  | .release id _ _ => ∀ d i, q.inflight.get? id = some (d, i) → i.Survives ∧ Fits q.ready i
  | .requeueExpired clock now _ => SweepFits q (nowOr clock now)
  | .ack _ | .renew _ _ _ | .discard _ => True

/-! ## The order of the heap -/

/-- The heap is sorted, and its sequence numbers run with the enqueue times of each priority. -/
structure Ordered (q : LocalQueue Members) : Prop where
  sorted : q.ready.Pairwise Row.le
  seqs : (q.ready.map Row.seq).Nodup
  bound : ∀ row ∈ q.ready, row.seq ≤ q.sequence
  rank : ∀ row ∈ q.ready, row.rank = -pyInt row.item.priority
  inRange : ∀ row ∈ q.ready, InRange row.item
  older : ∀ a ∈ q.ready, ∀ b ∈ q.ready, a.seq < b.seq → Older a.item b.item

lemma pyInt_intCast (n : ℤ) : pyInt n = n := by simp [pyInt]

variable {q : LocalQueue Members}

lemma Ordered.of_perm (o : Ordered q) {ready : List (Row Members)}
    (gone : List (Row Members)) (p : (gone ++ ready).Perm q.ready) (sorted : ready.Pairwise Row.le)
    (inflight : Dict TaskId (Time × Item Members)) :
    Ordered { q with ready := ready, inflight := inflight } := by
  have sub : ∀ row ∈ ready, row ∈ q.ready := fun row h => p.subset (List.mem_append_right _ h)
  refine ⟨sorted, ?_, fun row h => o.bound row (sub row h), fun row h => o.rank row (sub row h),
    fun row h => o.inRange row (sub row h), fun a ha b hb => o.older a (sub a ha) b (sub b hb)⟩
  have nd := ((p.map Row.seq).nodup_iff).2 o.seqs
  exact nd.sublist ((List.sublist_append_right gone ready).map _)

variable {i : Item Members}

lemma Ordered.push (o : Ordered q) (r : InRange i)
    (fits : Fits q.ready i) : Ordered (q.push i) := by
  have p := heappush_perm ⟨-pyInt i.priority, q.sequence + 1, i⟩ q.ready
  have cases : ∀ row ∈ (q.push i).ready, row = ⟨-pyInt i.priority, q.sequence + 1, i⟩ ∨ row ∈ q.ready :=
    fun row h => List.mem_cons.1 (p.subset h)
  refine ⟨List.Pairwise.orderedInsert _ _ o.sorted, ?_, ?_, ?_, ?_, ?_⟩
  · refine ((p.map Row.seq).nodup_iff).2 ?_
    rw [List.map_cons, List.nodup_cons]
    refine ⟨fun h => ?_, o.seqs⟩
    obtain ⟨row, hr, e⟩ := List.mem_map.1 h
    have := o.bound row hr
    simp only at e
    omega
  · intro row h
    rcases cases row h with rfl | h
    · exact le_refl _
    · exact (o.bound row h).trans (Nat.le_succ _)
  · intro row h
    rcases cases row h with rfl | h
    · rfl
    · exact o.rank row h
  · intro row h
    rcases cases row h with rfl | h
    · exact r
    · exact o.inRange row h
  · intro a ha b hb lt
    rcases cases a ha with rfl | ha
    · rcases cases b hb with rfl | hb
      · exact absurd lt (lt_irrefl _)
      · have := o.bound b hb
        simp only at lt
        omega
    · rcases cases b hb with rfl | hb
      · exact fits a ha
      · exact o.older a ha b hb lt

def Row.toZ (row : Row Members) : ZRow := ⟨pyScore row.item, row.item⟩

lemma luaScore_eq (r : InRange i) : luaScore i = pyScore i := by
  obtain ⟨n, hn⟩ := r.priority
  simp [luaScore, pyScore, hn, pyInt_intCast]

lemma Ordered.score_lt (o : Ordered q) {a b : Row Members} (ha : a ∈ q.ready)
    (hb : b ∈ q.ready) (le : Row.le a b) (ne : a.seq ≠ b.seq) : a.toZ.score < b.toZ.score := by
  obtain ⟨m, hm⟩ := (o.inRange a ha).priority
  obtain ⟨n, hn⟩ := (o.inRange b hb).priority
  have ra := o.rank a ha
  have rb := o.rank b hb
  rw [hm, pyInt_intCast] at ra
  rw [hn, pyInt_intCast] at rb
  simp only [Row.toZ, pyScore, hm, hn, pyInt_intCast]
  rcases le with lt | ⟨e, le⟩
  · -- one step of priority outweighs every difference of enqueue times
    have step : (n : ℚ) + 1 ≤ m := by
      have : n + 1 ≤ m := by omega
      exact_mod_cast this
    have := (o.inRange a ha).lt
    have := (o.inRange b hb).nonneg
    linarith
  · have same : m = n := by omega
    have := o.older a ha b hb (lt_of_le_of_ne le ne) (by rw [hm, hn, same])
    rw [same]
    linarith

lemma Ordered.scores (o : Ordered q) :
    q.ready.Pairwise (fun a b => a.toZ.score < b.toZ.score) := by
  have both := o.sorted.and (List.pairwise_map.1 o.seqs)
  exact both.imp_of_mem (fun ha hb h => o.score_lt ha hb h.1 h.2)

variable {now : Time} {id uuid : TaskId}

section
variable {text : Item Members → String}

lemma le_of_score_lt {a b : ZRow} (h : a.score < b.score) : ZRow.le text a b :=
  Prod.Lex.toLex_le_toLex.2 (.inl h)

lemma score_le_of_le {a b : ZRow} (h : ZRow.le text a b) : a.score ≤ b.score := by
  rcases Prod.Lex.toLex_le_toLex.1 h with h | h
  · exact h.le
  · exact h.1.le

lemma Ordered.toZ_sorted (o : Ordered q) :
    (q.ready.map Row.toZ).Pairwise (ZRow.le text) :=
  List.pairwise_map.2 (o.scores.imp le_of_score_lt)

lemma Ordered.eq_of_perm (o : Ordered q) {z : List ZRow}
    (sorted : z.Pairwise (ZRow.le text)) (p : z.Perm (q.ready.map Row.toZ)) :
    z = q.ready.map Row.toZ := by
  refine List.Perm.eq_of_pairwise ?_ sorted o.toZ_sorted p
  intro a b ha hb hab hba
  obtain ⟨ra, hra, rfl⟩ := List.mem_map.1 (p.subset ha)
  obtain ⟨rb, hrb, rfl⟩ := List.mem_map.1 hb
  have e : ra.toZ.score = rb.toZ.score := le_antisymm (score_le_of_le hab) (score_le_of_le hba)
  -- different rows of the heap have different scores
  rcases Std.Total.total (r := Row.le) ra rb with h | h
  · by_contra ne
    have lt := o.score_lt hra hrb h (fun es => ne ?_)
    · exact absurd e lt.ne
    · rw [List.inj_on_of_nodup_map o.seqs hra hrb es]
  · by_contra ne
    have lt := o.score_lt hrb hra h (fun es => ne ?_)
    · exact absurd e lt.ne'
    · rw [List.inj_on_of_nodup_map o.seqs hrb hra es]

/-! ## The simulation -/

/-- The sorted set has the rows of the heap in its order, and the hash what Lua made of the in-flight
records. -/
structure Agree (l : LocalQueue Members) (r : RedisQueue) : Prop where
  ordered : Ordered l
  distinct : l.Distinct
  filed : l.Filed
  inRange : ∀ id d i, l.inflight.get? id = some (d, i) → InRange i
  ready : r.ready = l.ready.map Row.toZ
  inflight : ∀ id, r.inflight.get? id = (l.inflight.get? id).map (fun e => (luaNum e.1, e.2.recode))

variable {l : LocalQueue Members} {r : RedisQueue}

lemma LocalQueue.Distinct.items (nd : l.Distinct) : ((l.ready.map Row.toZ).map ZRow.item).Nodup := by
  have ids : (l.readyTasks.map Task.taskId).Nodup :=
    nd.sublist ((List.sublist_append_left _ _).map _)
  rw [LocalQueue.readyTasks, List.map_map] at ids
  rw [List.map_map]
  refine List.Nodup.of_map (fun i : Item Members => i.toTask.taskId) ?_
  rwa [List.map_map]

lemma Agree.ready_sorted (h : Agree l r) : r.ready.Pairwise (ZRow.le text) := by
  rw [h.ready]
  exact h.ordered.toZ_sorted

lemma Agree.push (h : Agree l r) (text : Item Members → String)
    (new : some i.taskId ∉ l.tasks.map Task.taskId) (range : InRange i) (fits : Fits l.ready i) :
    Agree (l.push i) { r with ready := zadd text ⟨pyScore i, i⟩ r.ready } := by
  have o := h.ordered.push range fits
  have nd : (l.push i).Distinct := by
    refine (((LocalQueue.push_tasks l i).map Task.taskId).nodup_iff).2 ?_
    exact List.nodup_cons.2 ⟨new, h.distinct⟩
  have p : (zadd text ⟨pyScore i, i⟩ r.ready).Perm ((l.push i).ready.map Row.toZ) := by
    have others : r.ready.filter (fun row => row.item ≠ i) = r.ready := by
      rw [List.filter_eq_self]
      intro z hz
      rw [h.ready] at hz
      obtain ⟨row, hr, rfl⟩ := List.mem_map.1 hz
      simp only [decide_eq_true_eq]
      intro e
      have held : row.item.toTask ∈ l.tasks :=
        LocalQueue.mem_tasks.2 (.inl (List.mem_map.2 ⟨row, hr, rfl⟩))
      exact new (List.mem_map.2 ⟨_, held, congrArg (fun i : Item Members => some i.taskId) e⟩)
    have p := @zadd_perm text ⟨pyScore i, i⟩ r.ready
    rw [others, h.ready] at p
    rw [h.ready]
    exact p.trans ((heappush_perm ⟨-pyInt i.priority, l.sequence + 1, i⟩ l.ready).map Row.toZ).symm
  exact ⟨o, nd, h.filed, h.inRange, o.eq_of_perm (zadd_sorted h.ready_sorted) p, h.inflight⟩

lemma Agree.ack (h : Agree l r) (id : TaskId) : Agree (l.ack id) (r.ack id) where
  ordered := ⟨h.ordered.sorted, h.ordered.seqs, h.ordered.bound, h.ordered.rank, h.ordered.inRange,
    h.ordered.older⟩
  distinct := h.distinct.sublist ((l.ack_tasks_sublist id).map _)
  filed := h.filed.ack id
  inRange k d i hg := by
    simp only [LocalQueue.ack, Dict.get?_pop] at hg
    split at hg
    · cases hg
    · exact h.inRange k d i hg
  ready := h.ready
  inflight k := by
    simp only [LocalQueue.ack, RedisQueue.ack, Dict.get?_pop]
    split
    · rfl
    · exact h.inflight k

lemma Agree.discard (h : Agree l r) (id : TaskId) : Agree (l.discard id) (r.discard id) where
  ordered := by
    have p := List.filter_append_perm (fun row : Row Members => row.item.taskId = id) l.ready
    refine h.ordered.of_perm (l.ready.filter (fun row => row.item.taskId = id)) ?_
      (h.ordered.sorted.sublist List.filter_sublist) (l.ack id).inflight
    simpa using p
  distinct := h.distinct.sublist ((l.discard_tasks_sublist id).map _)
  filed := h.filed.ack id
  inRange := (h.ack id).inRange
  ready := by
    simp only [RedisQueue.discard, LocalQueue.discard, h.ready, List.filter_map]
    rfl
  inflight := (h.ack id).inflight

lemma Agree.renew (h : Agree l r) (id : TaskId) (now : Time) (lease : ℚ) :
    Agree (l.renew id now lease).2 (r.renew id now lease).2 := by
  have moved := LocalQueue.renew_tasks h.filed id now lease
  have nd : (l.renew id now lease).2.Distinct := ((moved.1.map Task.taskId).nodup_iff).2 h.distinct
  unfold LocalQueue.renew RedisQueue.renew at *
  cases hg : l.inflight.get? id with
  | none =>
    have hr : r.inflight.get? id = none := by rw [h.inflight, hg]; rfl
    simp only [hr]
    exact h
  | some e =>
    have hr : r.inflight.get? id = some (luaNum e.1, e.2.recode) := by rw [h.inflight, hg]; rfl
    simp only [hg] at nd moved
    simp only [hr]
    refine ⟨⟨h.ordered.sorted, h.ordered.seqs, h.ordered.bound, h.ordered.rank, h.ordered.inRange,
      h.ordered.older⟩, nd, moved.2, ?_, h.ready, ?_⟩
    · intro k d i hk
      simp only [Dict.get?_set] at hk
      split at hk
      · cases hk
        exact h.inRange id _ _ hg
      · exact h.inRange k d i hk
    · intro k
      simp only [Dict.get?_set]
      split
      · simp
      · exact h.inflight k

/-! ### Claims -/

lemma popDue_served (now : Time) (heap deferred : List (Row Members)) :
    (popDue now heap deferred).1 = heap.find? (fun row => row.item.due now) := by
  induction heap generalizing deferred with
  | nil => rfl
  | cons row heap ih =>
    simp only [popDue, List.find?_cons]
    cases row.item.due now with
    | true => rfl
    | false => exact ih _

lemma popDue_suffix (now : Time) (heap deferred : List (Row Members)) :
    (popDue now heap deferred).2.1 <:+ heap := by
  induction heap generalizing deferred with
  | nil => exact List.suffix_refl _
  | cons row heap ih =>
    simp only [popDue]
    split
    · exact List.suffix_cons _ _
    · exact (ih _).trans (List.suffix_cons _ _)

lemma zscan_served (now : Time) (n : ℕ) (z deferred : List ZRow) :
    (zscan now n z deferred).1 = (z.take n).find? (fun row => row.item.luaDue now) := by
  induction n generalizing z deferred with
  | zero => rfl
  | succ n ih =>
    cases z with
    | nil => rfl
    | cons row z =>
      simp only [zscan, List.take_succ_cons, List.find?_cons]
      cases row.item.luaDue now with
      | true => rfl
      | false => exact ih z _

lemma pushAll_sorted {α : Type} (rows : List (Row α)) {heap : List (Row α)} (h : heap.Pairwise Row.le) :
    (pushAll rows heap).Pairwise Row.le := by
  induction rows generalizing heap with
  | nil => exact h
  | cons row rows ih => exact ih (List.Pairwise.orderedInsert _ _ h)

lemma luaDue_eq (nonneg : 0 ≤ now) (i : Item Members) : i.luaDue now = i.due now := by
  cases hb : i.notBefore with
  | none => simp [Item.luaDue, Item.due, hb, nonneg]
  | some t => simp [Item.luaDue, Item.due, hb, ← decide_not]

lemma find?_take {β : Type} {p : β → Bool} {xs : List β} {n : ℕ}
    (h : (∃ x ∈ xs, p x) → ∃ x ∈ xs.take n, p x) : (xs.take n).find? p = xs.find? p := by
  have split := List.take_append_drop n xs
  cases hf : (xs.take n).find? p with
  | some x =>
    rw [← split, List.find?_append, hf]
    rfl
  | none =>
    refine Eq.symm (List.find?_eq_none.2 fun x hx px => ?_)
    obtain ⟨y, hy, py⟩ := h ⟨x, hx, px⟩
    exact List.find?_eq_none.1 hf y hy py

lemma Agree.served (h : Agree l r) (nonneg : 0 ≤ now)
    (reaches : ScanReaches now l.ready) :
    (zscan now 100 r.ready []).1 = (popDue now l.ready []).1.map Row.toZ := by
  have due : (fun row : Row Members => row.toZ.item.luaDue now) = fun row => row.item.due now :=
    funext fun row => luaDue_eq nonneg row.item
  rw [zscan_served, popDue_served, h.ready, ← List.map_take, List.find?_map, Function.comp_def, due,
    find?_take reaches]

lemma Agree.left (h : Agree l r) (text : Item Members → String) (now : Time) :
    let s := zscan now 100 r.ready []
    (zaddAll text s.2.2 s.2.1).Pairwise (ZRow.le text) ∧
      (s.1.toList ++ zaddAll text s.2.2 s.2.1).Perm (l.ready.map Row.toZ) := by
  intro s
  have p : (s.1.toList ++ (s.2.2 ++ s.2.1)).Perm r.ready := zscan_perm now 100 r.ready []
  have items : (r.ready.map ZRow.item).Nodup := by
    rw [h.ready]
    exact h.distinct.items
  have nd : ((s.2.2 ++ s.2.1).map ZRow.item).Nodup :=
    (((p.map ZRow.item).nodup_iff).2 items).sublist ((List.sublist_append_right _ _).map _)
  refine ⟨zaddAll_sorted (h.ready_sorted.sublist (zscan_suffix _ _ _ _).sublist), ?_⟩
  rw [← h.ready]
  exact ((zaddAll_perm nd).append_left _).trans p

lemma RedisQueue.claim_cases (r : RedisQueue) (text : Item Members → String) (now : Time) (lease : ℚ) :
    let s := zscan now 100 r.ready []
    (s.1 = none ∧ r.claim text now lease = (none, { r with ready := zaddAll text s.2.2 s.2.1 })) ∨
    ∃ row, s.1 = some row ∧ r.claim text now lease = (some row.item,
      { ready := zaddAll text s.2.2 s.2.1
        inflight := r.inflight.set row.item.taskId (luaNum (now + lease), row.item.recode) }) := by
  intro s
  rcases hs : zscan now 100 r.ready [] with ⟨row, z, deferred⟩
  cases row with
  | none => exact .inl ⟨by simp [s, hs], by simp [claim, s, hs]⟩
  | some row => exact .inr ⟨row, by simp [s, hs], by simp [claim, s, hs]⟩

lemma Agree.claim (h : Agree l r) {lease : ℚ} (m : Meets l (.claim now lease)) :
    (r.claim text now lease).1 = (l.claim now lease).1 ∧
      Agree (l.claim now lease).2 (r.claim text now lease).2 := by
  have served := h.served m.1 m.2
  obtain ⟨zsorted, zperm⟩ := h.left text now
  have lperm := popDue_perm now l.ready []
  have lsorted := pushAll_sorted (popDue now l.ready []).2.2
    (h.ordered.sorted.sublist (popDue_suffix now l.ready []).sublist)
  have moved := LocalQueue.claim_tasks h.distinct h.filed now lease
  have nd : (l.claim now lease).2.Distinct := ((moved.1.map Task.taskId).nodup_iff).2 h.distinct
  rw [List.append_nil] at lperm
  rcases LocalQueue.claim_cases l now lease with ⟨hl, el⟩ | ⟨row, hl, el⟩
  · rcases RedisQueue.claim_cases r text now lease with ⟨hr, er⟩ | ⟨z, hr, er⟩
    · rw [el] at nd moved
      rw [el, er]
      rw [hl] at lperm
      rw [hr] at zperm
      have o := h.ordered.of_perm [] lperm lsorted l.inflight
      refine ⟨rfl, o, nd, moved.2, h.inRange, o.eq_of_perm zsorted ?_, h.inflight⟩
      exact zperm.trans (lperm.map Row.toZ).symm
    · rw [hr, hl] at served
      cases served
  · rcases RedisQueue.claim_cases r text now lease with ⟨hr, er⟩ | ⟨z, hr, er⟩
    · rw [hr, hl] at served
      cases served
    · rw [el] at nd moved
      rw [el, er]
      rw [hr, hl] at served
      obtain rfl : z = row.toZ := by simpa using served
      rw [hl] at lperm
      rw [hr] at zperm
      have o := h.ordered.of_perm [row] lperm lsorted
        (l.inflight.set row.item.taskId (now + lease, row.item))
      refine ⟨rfl, o, nd, moved.2, ?_, o.eq_of_perm zsorted ?_, ?_⟩
      · intro k d i hk
        simp only [Dict.get?_set] at hk
        split at hk
        · cases hk
          exact h.ordered.inRange row (LocalQueue.mem_of_popDue hl)
        · exact h.inRange k d i hk
      · exact (zperm.trans (lperm.map Row.toZ).symm).cons_inv
      · intro k
        simp only [Dict.get?_set, Row.toZ]
        split
        · rfl
        · exact h.inflight k

/-! ### Releases and sweeps -/

lemma LocalQueue.Distinct.ack_new (nd : l.Distinct) {d : Time}
    (hg : l.inflight.get? id = some (d, i)) :
    some i.taskId ∉ (l.ack id).tasks.map Task.taskId := by
  have p := (LocalQueue.ack_tasks hg).map Task.taskId
  exact (List.nodup_cons.1 (p.nodup_iff.1 nd)).1

lemma Agree.release (h : Agree l r) (m : Meets l (.release id now uuid)) :
    Agree (l.release id now uuid).2 (r.release text id).2 := by
  unfold LocalQueue.release RedisQueue.release
  cases hg : l.inflight.get? id with
  | none =>
    have hr : r.inflight.get? id = none := by rw [h.inflight, hg]; rfl
    simp only [hr]
    exact h
  | some e =>
    obtain ⟨d, i⟩ := e
    obtain ⟨survives, fits⟩ := m d i hg
    have same : i.recode = i := Item.recode_eq_self.2 survives
    have hr : r.inflight.get? id = some (luaNum d, i) := by
      rw [h.inflight, hg, Option.map_some, same]
    have range := h.inRange id d i hg
    have pushed := (h.ack id).push text (h.distinct.ack_new hg) range fits
    simp only [hr, RedisQueue.putBack, same, luaScore_eq range]
    exact pushed

lemma Ordered.pushEach {items : List (TaskId × Time × Item Members)}
    (o : Ordered q) (range : ∀ e ∈ items, InRange e.2.2) (fits : ∀ e ∈ items, Fits q.ready e.2.2)
    (inOrder : items.Pairwise (fun a b => Older a.2.2 b.2.2)) :
    Ordered (items.foldl (fun q e => q.push e.2.2) q) := by
  induction items generalizing q with
  | nil => exact o
  | cons e items ih =>
    obtain ⟨first, rest⟩ := List.pairwise_cons.1 inOrder
    refine ih (o.push (range e List.mem_cons_self) (fits e List.mem_cons_self))
      (fun e' he' => range e' (List.mem_cons_of_mem _ he')) (fun e' he' row hrow => ?_) rest
    rcases List.mem_cons.1 ((heappush_perm _ _).subset hrow) with rfl | hrow
    · exact first e' he'
    · exact fits e' (List.mem_cons_of_mem _ he') row hrow

lemma pushEach_ready (items : List (TaskId × Time × Item Members)) (q : LocalQueue Members) :
    ((items.foldl (fun q e => q.push e.2.2) q).ready.map Row.toZ).Perm
      (items.map (fun e => ⟨pyScore e.2.2, e.2.2⟩) ++ q.ready.map Row.toZ) := by
  induction items generalizing q with
  | nil => exact .refl _
  | cons e items ih =>
    refine (ih _).trans ?_
    refine (((heappush_perm _ _).map Row.toZ).append_left _).trans ?_
    exact List.perm_middle

lemma pushEach_inflight (items : List (TaskId × Time × Item Members)) (q : LocalQueue Members) :
    (items.foldl (fun q e => q.push e.2.2) q).inflight = q.inflight := by
  induction items generalizing q with
  | nil => rfl
  | cons e items ih => exact ih _

lemma takeAll_ready {α : Type} (items : List (TaskId × Time × Item α)) (q : LocalQueue α) :
    (items.foldl (fun q e => q.ack e.1) q).ready = q.ready ∧
      (items.foldl (fun q e => q.ack e.1) q).sequence = q.sequence := by
  induction items generalizing q with
  | nil => exact ⟨rfl, rfl⟩
  | cons e items ih => exact ih (q.ack e.1)

lemma takeAll_get? (items : List (TaskId × Time × Item Members)) (q : LocalQueue Members)
    (k : TaskId) : (items.foldl (fun q e => q.ack e.1) q).inflight.get? k =
      if k ∈ items.map Prod.fst then none else q.inflight.get? k := by
  induction items generalizing q with
  | nil => rfl
  | cons e items ih =>
    obtain ⟨k', e⟩ := e
    rw [List.foldl_cons, ih]
    simp only [LocalQueue.ack, Dict.get?_pop, List.map_cons, List.mem_cons]
    by_cases hk : k = k'
    · simp [hk]
    · simp only [hk, Ne.symm hk, if_false, false_or]

lemma putBackAll_ready (rows : List (TaskId × ℚ × Item Members)) (q : RedisQueue) :
    (rows.foldl (fun q e => q.putBack text e.1 e.2.2) q).ready =
      zaddAll text (rows.map (fun e => ⟨luaScore e.2.2, e.2.2.recode⟩)) q.ready := by
  induction rows generalizing q with
  | nil => rfl
  | cons e rows ih => exact ih _

lemma putBackAll_get? (rows : List (TaskId × ℚ × Item Members)) (q : RedisQueue) (k : TaskId) :
    (rows.foldl (fun q e => q.putBack text e.1 e.2.2) q).inflight.get? k =
      if k ∈ rows.map Prod.fst then none else q.inflight.get? k := by
  induction rows generalizing q with
  | nil => rfl
  | cons e rows ih =>
    obtain ⟨k', e⟩ := e
    rw [List.foldl_cons, ih]
    simp only [RedisQueue.putBack, Dict.get?_pop, List.map_cons, List.mem_cons]
    by_cases hk : k = k'
    · simp [hk]
    · simp only [hk, Ne.symm hk, if_false, false_or]

lemma Agree.entries (h : Agree l r) : r.inflight.entries.Perm
    (l.inflight.entries.map (fun e => (e.1, luaNum e.2.1, e.2.2.recode))) := by
  have keys : ((l.inflight.entries.map (fun e => (e.1, luaNum e.2.1, e.2.2.recode))).map
      Prod.fst).Nodup := by
    rw [List.map_map]
    exact l.inflight.nodup
  refine (List.perm_ext_iff_of_nodup r.inflight.nodup.of_map keys.of_map).2 ?_
  intro ⟨k, d, i⟩
  rw [Dict.mem_entries_iff, h.inflight, List.mem_map]
  constructor
  · intro hg
    obtain ⟨e, he, e'⟩ := Option.map_eq_some_iff.1 hg
    exact ⟨(k, e), Dict.mem_entries_iff.2 he, by rw [← e']⟩
  · intro ⟨e, he, e'⟩
    cases e'
    rw [Dict.mem_entries_iff.1 he]
    rfl

lemma Agree.expired (h : Agree l r) {current : Time} (m : SweepFits l current) :
    (r.expired current).Perm ((l.expired current).map (fun e => (e.1, luaNum e.2.1, e.2.2))) := by
  have p := h.entries.filter (fun e => e.2.1 ≤ current)
  rw [List.filter_map] at p
  have same : l.inflight.entries.filter
      ((fun e => decide (e.2.1 ≤ current)) ∘ fun e => (e.1, luaNum e.2.1, e.2.2.recode)) =
        l.inflight.entries.filter (fun e => e.2.1 ≤ current) := by
    refine List.filter_congr fun e he => ?_
    exact decide_eq_decide.2 (m.deadline e.1 e.2.1 e.2.2 (Dict.mem_entries_iff.1 he))
  rw [same] at p
  have sorted := (List.mergeSort_perm (l.inflight.entries.filter (fun e => e.2.1 ≤ current)) expiredLe)
  refine p.trans ((sorted.symm.map _).trans ?_)
  refine List.Perm.of_eq (List.map_congr_left fun e he => ?_)
  rw [Item.recode_eq_self.2 (m.survives e he)]

lemma Agree.requeueExpired (h : Agree l r) {clock : Time} {now : Option Time}
    (m : Meets l (.requeueExpired clock now uuid)) :
    Agree (l.requeueExpired clock now uuid).2 (r.requeueExpired text clock now).2 := by
  have moved := LocalQueue.requeueExpired_tasks h.filed clock now uuid
  have nd : (l.requeueExpired clock now uuid).2.Distinct :=
    ((moved.1.map Task.taskId).nodup_iff).2 h.distinct
  have m : SweepFits l (nowOr clock now) := m
  have same := h.expired m
  rw [LocalQueue.requeueExpired_eq] at nd moved ⊢
  simp only [RedisQueue.requeueExpired]
  generalize nowOr clock now = current at *
  have held : ∀ e ∈ l.expired current, InRange e.2.2 :=
    fun e he => h.inRange e.1 e.2.1 e.2.2 (LocalQueue.mem_expired he)
  obtain ⟨taken, seq⟩ := takeAll_ready (l.expired current) l
  have o : Ordered ((l.expired current).foldl (fun q e => q.push e.2.2)
      ((l.expired current).foldl (fun q e => q.ack e.1) l)) := by
    refine Ordered.pushEach ?_ held (fun e he => ?_) m.inOrder
    · refine ⟨?_, ?_, ?_, ?_, ?_, ?_⟩
      all_goals simp only [taken, seq]
      · exact h.ordered.sorted
      · exact h.ordered.seqs
      · exact h.ordered.bound
      · exact h.ordered.rank
      · exact h.ordered.inRange
      · exact h.ordered.older
    · rw [taken]
      exact m.fits e he
  have pushed := pushEach_ready (l.expired current)
    ((l.expired current).foldl (fun q e => q.ack e.1) l)
  rw [taken] at pushed
  have zrows : ((r.expired current).map (fun e => (⟨luaScore e.2.2, e.2.2.recode⟩ : ZRow)) ++
      r.ready).Perm ((l.expired current).map (fun e => ⟨pyScore e.2.2, e.2.2⟩) ++
        l.ready.map Row.toZ) := by
    rw [h.ready]
    refine ((same.map _).trans (List.Perm.of_eq ?_)).append_right _
    rw [List.map_map]
    refine List.map_congr_left fun e he => ?_
    simp [luaScore_eq (held e he), Item.recode_eq_self.2 (m.survives e he)]
  have keys : ∀ k, k ∈ (r.expired current).map Prod.fst ↔ k ∈ (l.expired current).map Prod.fst := by
    intro k
    rw [(same.map Prod.fst).mem_iff, List.map_map]
    rfl
  refine ⟨o, nd, moved.2, ?_, ?_, ?_⟩
  · intro k d i hk
    rw [pushEach_inflight, takeAll_get?] at hk
    split at hk
    · cases hk
    · exact h.inRange k d i hk
  · refine o.eq_of_perm (?_ : List.Pairwise (ZRow.le text) _) ?_
    · rw [putBackAll_ready]
      exact zaddAll_sorted h.ready_sorted
    · rw [putBackAll_ready]
      refine (zaddAll_perm ?_).trans (zrows.trans pushed.symm)
      exact (((zrows.trans pushed.symm).map ZRow.item).nodup_iff).2 nd.items
  · intro k
    rw [putBackAll_get?, pushEach_inflight, takeAll_get?]
    by_cases hk : k ∈ (l.expired current).map Prod.fst
    · rw [if_pos ((keys k).2 hk), if_pos hk]
      rfl
    · rw [if_neg (fun h' => hk ((keys k).1 h')), if_neg hk]
      exact h.inflight k

/-! ### Runs -/

lemma Agree.run (h : Agree l r) {c : Call Members} (m : Meets l c) :
    Agree (l.run c) (r.run text c) := by
  cases c with
  | enqueue now uuid newAttempt task => exact h.push text m.1 m.2.1 m.2.2
  | claim now lease => exact (h.claim m).2
  | ack id => exact h.ack id
  | renew id now lease => exact h.renew id now lease
  | release id now uuid => exact h.release m
  | requeueExpired clock now uuid => exact h.requeueExpired m
  | discard id => exact h.discard id

end

/-- Both backends get the same call, which leaves them no room to differ. -/
def BothStep (text : Item Members → String) (s s' : LocalQueue Members × RedisQueue) : Prop :=
  ∃ c, Meets s.1 c ∧ s' = (s.1.run c, s.2.run text c)

/-- `a` is served before `b`: by higher priority, then by earlier `enqueued_at`. -/
def ServedBefore (a b : Item Members) : Prop :=
  b.priority < a.priority ∨ a.priority = b.priority ∧ a.enqueuedAt < b.enqueuedAt

lemma Ordered.servedBefore (o : Ordered q) :
    (q.ready.map Row.item).Pairwise ServedBefore := by
  rw [List.pairwise_map]
  refine (o.sorted.and (List.pairwise_map.1 o.seqs)).imp_of_mem ?_
  intro a b ha hb ⟨le, ne⟩
  obtain ⟨m, hm⟩ := (o.inRange a ha).priority
  obtain ⟨n, hn⟩ := (o.inRange b hb).priority
  have ra := o.rank a ha
  have rb := o.rank b hb
  rw [hm, pyInt_intCast] at ra
  rw [hn, pyInt_intCast] at rb
  simp only [ServedBefore, hm, hn, Int.cast_lt, Int.cast_inj]
  rcases le with lt | ⟨e, le⟩
  · left
    omega
  · have e' : m = n := by omega
    exact .inr ⟨e', o.older a ha b hb (lt_of_le_of_ne le ne) (by rw [hm, hn, e'])⟩

/-- In every run whose calls leave no room, both backends have the same ready order, by priority and
original `enqueued_at`, and every claim returns the same task from both. -/
theorem backends_agree {text : Item Members → String} {s : LocalQueue Members × RedisQueue}
    (run : Reach (· = ({}, {})) (BothStep text) s) :
    s.2.ready.map ZRow.item = s.1.ready.map Row.item ∧
    (s.1.ready.map Row.item).Pairwise ServedBefore ∧
    ∀ now lease, Meets s.1 (.claim now lease) →
      (s.2.claim text now lease).1 = (s.1.claim now lease).1 := by
  have h : Agree s.1 s.2 := by
    refine run.invariant (I := fun s => Agree s.1 s.2) ?_ ?_
    · intro s hs
      subst hs
      exact ⟨⟨List.Pairwise.nil, List.nodup_nil, nofun, nofun, nofun, nofun⟩, List.nodup_nil,
        nofun, nofun, rfl, fun _ => rfl⟩
    · intro s s' h ⟨c, m, e⟩
      rw [e]
      exact h.run m
  refine ⟨?_, h.ordered.servedBefore, fun now lease m => (h.claim m).1⟩
  rw [h.ready, List.map_map]
  rfl

def elder : Item Members := ⟨1, 5, 1, none, .nil⟩

def younger : Item Members := ⟨2, 5, 2, none, .nil⟩

def releaseCalls : List (Call Members) :=
  [.enqueue 1 1 false elder.toTask, .enqueue 2 2 false younger.toTask, .claim 3 90, .release 1 4 0]

lemma elder_survives : elder.Survives :=
  ⟨short_intCast (m := 5) (by decide), short_intCast (m := 1) (by decide), nofun, trivial⟩

lemma zadd_pair (text : Item Members → String) {a b : ZRow} (ne : a.item ≠ b.item)
    (lt : a.score < b.score) : zadd text b [a] = [a, b] ∧ zadd text a [b] = [a, b] := by
  have le : ZRow.le text a b := le_of_score_lt lt
  have not : ¬ ZRow.le text b a := fun h => absurd (score_le_of_le h) (not_le.2 lt)
  constructor
  · simp [zadd, ne, List.orderedInsert, not]
  · simp [zadd, ne.symm, le]

lemma enqueue_both (text : Item Members → String) :
    RedisQueue.run text (RedisQueue.run text {} (.enqueue 1 1 false elder.toTask))
      (.enqueue 2 2 false younger.toTask) =
        { ready := [⟨pyScore elder, elder⟩, ⟨pyScore younger, younger⟩] } := by
  have pair := (zadd_pair text (a := ⟨pyScore elder, elder⟩) (b := ⟨pyScore younger, younger⟩)
    (by decide) (by norm_num [pyScore, elder, younger])).1
  exact congrArg (fun ready => ({ ready := ready } : RedisQueue)) pair

/-- Redis serves the released task again, the local backend the one that came after it. -/
theorem released_task_loses_place :
    ((releaseCalls.foldl LocalQueue.run {}).claim 5 90).1 = some younger ∧
    ((releaseCalls.foldl (RedisQueue.run (fun _ => "")) {}).claim (fun _ => "") 5 90).1 =
      some elder := by
  refine ⟨by decide, ?_⟩
  have same := Item.recode_eq_self.2 elder_survives
  have released : releaseCalls.foldl (RedisQueue.run (fun _ => "")) {} =
      { ready := zadd (fun _ => "") ⟨luaScore elder.recode, elder.recode.recode⟩
          [⟨pyScore younger, younger⟩] } := by
    simp only [releaseCalls, List.foldl_cons, List.foldl_nil, enqueue_both]
    rfl
  have pair := (zadd_pair (fun _ => "") (a := ⟨luaScore elder, elder⟩)
    (b := ⟨pyScore younger, younger⟩) (by decide)
    (by norm_num [luaScore, pyScore, elder, younger, pyInt])).2
  rw [released, same, same, pair]
  rfl

/-- The elder goes into flight alone, and both backends serve the younger next. -/
theorem backends_agree_pair :
    let calls := releaseCalls.take 3
    let l := calls.foldl LocalQueue.run {}
    let r := calls.foldl (RedisQueue.run (fun _ => "")) {}
    l.inflight.keys = [1] ∧ (r.claim (fun _ => "") 4 90).1 = (l.claim 4 90).1 := by
  have fresh : InRange elder ∧ InRange younger :=
    ⟨⟨⟨5, rfl⟩, by decide, by decide⟩, ⟨⟨5, rfl⟩, by decide, by decide⟩⟩
  have r0 : Reach (· = ({}, {})) (BothStep (fun _ => ""))
    (({}, {}) : LocalQueue Members × RedisQueue) := .init rfl
  have r1 := r0.step ⟨.enqueue 1 1 false elder.toTask, ⟨by decide, fresh.1, nofun⟩, rfl⟩
  have r2 := r1.step ⟨.enqueue 2 2 false younger.toTask, ⟨by decide, fresh.2, ?_⟩, rfl⟩
  · have r3 := r2.step ⟨.claim 3 90, ⟨by decide, fun _ => by decide⟩, rfl⟩
    exact ⟨by decide, (backends_agree r3).2.2 4 90 ⟨by decide, fun _ => by decide⟩⟩
  · intro row hr _
    have e : row = ⟨-5, 1, elder⟩ := List.mem_singleton.1 hr
    rw [e]
    decide

end Vertep.Queue
