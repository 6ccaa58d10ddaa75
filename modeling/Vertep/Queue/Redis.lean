import Mathlib.Data.String.Basic
import Vertep.Queue.Json

/-!
# The Redis queue backend

Embedding of `core/queue.py`, class `TaskQueue`, on its Redis route: the sorted set
`vertep:tasks:ready` and the hash `vertep:tasks:inflight`. The scripts `CLAIM_LUA`, `RENEW_LUA`,
`REQUEUE_LUA` and `RELEASE_LUA` run atomically, so each operation is one function of the state; the
dead-letter list, which is changed by single commands, has its own module.

A sorted set is kept as the list of its rows in the order in which Redis serves them: by score, then
by the bytes of the member. The bytes are a parameter `text`, since nothing here depends on how a dict
is spelled; scores are exact numbers. A hash lists its fields in the order they were set, which Redis
does not promise and no result below uses.
-/

namespace Vertep.Queue
open Lib

/-- A row of the sorted set. -/
structure ZRow where
  score : ℚ
  item : Item Members
deriving DecidableEq

structure RedisQueue where
  ready : List ZRow := []
  inflight : Dict TaskId (ℚ × Item Members) := ∅
deriving DecidableEq

/-- The score `enqueue` computes. -/
def pyScore (i : Item Members) : ℚ := -pyInt i.priority * 10000000000 + i.enqueuedAt

/-- The score `REQUEUE_LUA` and `RELEASE_LUA` compute. -/
def luaScore (i : Item Members) : ℚ := -i.priority * 10000000000 + i.enqueuedAt

/-- `CLAIM_LUA` serves a row unless its `not_before` is in the future. -/
def Item.luaDue (now : Time) (i : Item Members) : Bool :=
  match i.notBefore with
  | none => true
  | some t => !(now < t)

section
variable (text : Item Members → String)

def ZRow.key (r : ZRow) : ℚ ×ₗ String := toLex (r.score, text r.item)

def ZRow.le (a b : ZRow) : Prop := a.key text ≤ b.key text

instance : DecidableRel (ZRow.le text) := fun a b => by
  unfold ZRow.le
  infer_instance

instance : Std.Total (ZRow.le text) := ⟨fun a b => le_total (a.key text) (b.key text)⟩

instance : IsTrans ZRow (ZRow.le text) := ⟨fun _ _ _ h h' => le_trans (α := ℚ ×ₗ String) h h'⟩

/-- `ZADD`: a member that is already there moves to its new score. -/
def zadd (row : ZRow) (z : List ZRow) : List ZRow :=
  (z.filter (fun r => r.item ≠ row.item)).orderedInsert (ZRow.le text) row

def zaddAll (rows z : List ZRow) : List ZRow := rows.foldl (fun z r => zadd text r z) z

/-- The loop of `CLAIM_LUA`, which pops at most `n` rows. -/
def zscan (now : Time) : ℕ → List ZRow → List ZRow → Option ZRow × List ZRow × List ZRow
  | 0, z, deferred => (none, z, deferred)
  | _ + 1, [], deferred => (none, [], deferred)
  | n + 1, row :: z, deferred =>
    if row.item.luaDue now then (some row, z, deferred) else zscan now n z (deferred ++ [row])

/-- Order of the list `requeue_expired` returns. -/
def requeuedLe (a b : Item Members) : Bool :=
  -pyInt a.priority < -pyInt b.priority ∨ -pyInt a.priority = -pyInt b.priority ∧
    (a.enqueuedAt < b.enqueuedAt ∨ a.enqueuedAt = b.enqueuedAt ∧ a.taskId ≤ b.taskId)

namespace RedisQueue

variable (q : RedisQueue)

def enqueue (now : Time) (uuid : TaskId) (newAttempt : Bool) (task : Task Members) :
    Item Members × RedisQueue :=
  let item := stamp now uuid newAttempt task
  (item, { q with ready := zadd text ⟨pyScore item, item⟩ q.ready })

/-- `claim`: the task is returned as it was stored, and its decoded copy goes into the hash. -/
def claim (now : Time) (lease : ℚ) : Option (Item Members) × RedisQueue :=
  match zscan now 100 q.ready [] with
  | (none, z, deferred) => (none, { q with ready := zaddAll text deferred z })
  | (some row, z, deferred) =>
    (some row.item,
      { ready := zaddAll text deferred z
        inflight := q.inflight.set row.item.taskId (luaNum (now + lease), row.item.recode) })

def ack (id : TaskId) : RedisQueue := { q with inflight := q.inflight.pop id }

def renew (id : TaskId) (now : Time) (lease : ℚ) : Bool × RedisQueue :=
  match q.inflight.get? id with
  | none => (false, q)
  | some (_, item) =>
    (true, { q with inflight := q.inflight.set id (luaNum (now + lease), item.recode) })

def discard (id : TaskId) : RedisQueue :=
  { q.ack id with ready := q.ready.filter (fun row => row.item.taskId ≠ id) }

/-- A record leaves the hash and its task goes back into the sorted set. -/
def putBack (id : TaskId) (task : Item Members) : RedisQueue :=
  { ready := zadd text ⟨luaScore task, task.recode⟩ q.ready
    inflight := q.inflight.pop id }

def release (id : TaskId) : Option (Item Members) × RedisQueue :=
  match q.inflight.get? id with
  | none => (none, q)
  | some (_, task) => (some task.recode, q.putBack text id task)

def expired (current : Time) : List (TaskId × ℚ × Item Members) :=
  q.inflight.entries.filter (fun e => e.2.1 ≤ current)

def requeueExpired (clock : Time) (now : Option Time) : List (Item Members) × RedisQueue :=
  let rows := q.expired (nowOr clock now)
  ((rows.map (fun e => e.2.2.recode)).mergeSort requeuedLe,
    rows.foldl (fun q e => q.putBack text e.1 e.2.2) q)

def find (id : TaskId) : Option (Item Members) :=
  match q.inflight.get? id with
  | some (_, item) => some item
  | none => (q.ready.find? (fun row => row.item.taskId = id)).map ZRow.item

def inflightTasks : List (Item Members) := q.inflight.values.map Prod.snd

/-- The queue after a call. -/
def run : Call Members → RedisQueue
  | .enqueue now uuid newAttempt task => (q.enqueue text now uuid newAttempt task).2
  | .claim now lease => (q.claim text now lease).2
  | .ack id => q.ack id
  | .renew id now lease => (q.renew id now lease).2
  | .release id _ _ => (q.release text id).2
  | .requeueExpired clock now _ => (q.requeueExpired text clock now).2
  | .discard id => q.discard id

end RedisQueue
end

/-! ## Sorted sets -/

variable {z rows : List ZRow}

section
variable {text : Item Members → String}

lemma zadd_perm (row : ZRow) (z : List ZRow) :
    (zadd text row z).Perm (row :: z.filter (fun r => r.item ≠ row.item)) :=
  List.perm_orderedInsert _ _ _

lemma mem_zadd {row r : ZRow} :
    r ∈ zadd text row z ↔ r = row ∨ r ∈ z ∧ r.item ≠ row.item := by
  rw [(zadd_perm row z).mem_iff]
  simp

lemma zadd_sorted {row : ZRow} (h : z.Pairwise (ZRow.le text)) :
    (zadd text row z).Pairwise (ZRow.le text) :=
  List.Pairwise.orderedInsert _ _ (h.sublist List.filter_sublist)

lemma zaddAll_sorted (h : z.Pairwise (ZRow.le text)) :
    (zaddAll text rows z).Pairwise (ZRow.le text) := by
  induction rows generalizing z with
  | nil => exact h
  | cons r rows ih => exact ih (zadd_sorted h)

lemma zaddAll_perm (nd : ((rows ++ z).map ZRow.item).Nodup) :
    (zaddAll text rows z).Perm (rows ++ z) := by
  induction rows generalizing z with
  | nil => exact .refl _
  | cons r rows ih =>
    have new : z.filter (fun r' => r'.item ≠ r.item) = z := by
      rw [List.filter_eq_self]
      intro r' hr'
      simp only [List.cons_append, List.map_cons, List.nodup_cons] at nd
      simp only [ne_eq, decide_eq_true_eq]
      intro e
      exact nd.1 (List.mem_map.2 ⟨r', List.mem_append_right _ hr', e⟩)
    have p : (zadd text r z).Perm (r :: z) := by
      have p := @zadd_perm text r z
      rwa [new] at p
    have mid : (rows ++ zadd text r z).Perm (r :: rows ++ z) :=
      (p.append_left rows).trans List.perm_middle
    exact (ih (((mid.map ZRow.item).nodup_iff).2 nd)).trans mid

lemma zscan_perm (now : Time) (n : ℕ) (z deferred : List ZRow) :
    ((zscan now n z deferred).1.toList ++ ((zscan now n z deferred).2.2 ++
      (zscan now n z deferred).2.1)).Perm (deferred ++ z) := by
  induction n generalizing z deferred with
  | zero => exact .refl _
  | succ n ih =>
    cases z with
    | nil => exact .refl _
    | cons row z =>
      simp only [zscan]
      split
      · simp only [Option.toList_some, List.singleton_append]
        exact List.perm_middle.symm
      · refine (ih z _).trans ?_
        simp

lemma zscan_suffix (now : Time) (n : ℕ) (z deferred : List ZRow) :
    (zscan now n z deferred).2.1 <:+ z := by
  induction n generalizing z deferred with
  | zero => exact List.suffix_refl _
  | succ n ih =>
    cases z with
    | nil => exact List.suffix_refl _
    | cons row z =>
      simp only [zscan]
      split
      · exact List.suffix_cons _ _
      · exact (ih z _).trans (List.suffix_cons _ _)

end

end Vertep.Queue
