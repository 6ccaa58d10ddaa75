import Mathlib.Algebra.Order.Ring.Rat
import Mathlib.Data.List.Sort
import Mathlib.Data.Prod.Lex
import Vertep.Lib.Dict

/-!
# The local queue backend

Embedding of `core/queue.py`, class `TaskQueue`, on its local route (`self._redis is None`): the
heap `_local`, the dict `_inflight`, the counter `_sequence` and the list `_dead_letters`.

Python → Lean naming: `_local` → `ready`, `_inflight` → `inflight`, `_dead_letters` → `deadLetters`,
`requeue_expired` → `requeueExpired`, `dead_letter` → `deadLetter`, `requeue_dead_letter` →
`requeueDeadLetter`. A task dict is a record of the keys the queue itself reads or writes and of a
`payload` of any type for all other keys: `Task` as a caller hands it in (each key may be absent),
`Item` as `enqueue` leaves it (`task_id`, `priority` and `enqueued_at` are set). The keys `error` and
`failed_at` belong to dead letters: no caller enqueues a task that has them.

`heapq` is modelled by what it documents: `heappop` returns the least row, so `ready` is kept as the
list of rows in the order in which the heap serves them, `heappush` is Mathlib's `orderedInsert` and
`heapify` after a deletion has nothing to do. Rows are compared as the tuples
`(-int(priority), sequence)`; the sequence numbers differ, so the dict behind them is never compared.
`time.time()` is an argument of an operation, the readings within one call taken as equal, and so is
the value `uuid4` returns.
The generation counter of `_bump` is read by the queue page only and is left out.
-/

namespace Vertep.Queue
open Lib

/-- `uuid.uuid4().hex`: an opaque name. -/
abbrev TaskId := Nat

/-- `time.time()`, taken as an exact number. -/
abbrev Time := ℚ

/-- A task dict as a caller hands it to the queue. -/
structure Task (α : Type) where
  taskId : Option TaskId := none
  priority : Option ℚ := none
  enqueuedAt : Option Time := none
  notBefore : Option Time := none
  payload : α
deriving DecidableEq

/-- A task dict as `enqueue` stores it. -/
structure Item (α : Type) where
  taskId : TaskId
  priority : ℚ
  enqueuedAt : Time
  notBefore : Option Time
  payload : α
deriving DecidableEq

/-- A dead-letter entry: the task dict and its keys `error` and `failed_at`. -/
structure DeadLetter (α : Type) where
  task : Task α
  error : Option String
  failedAt : Time
deriving DecidableEq

/-- A heap row `(-int(priority), sequence, item)`. -/
structure Row (α : Type) where
  rank : ℤ
  seq : ℕ
  item : Item α
deriving DecidableEq

variable {α : Type}

def Item.toTask (i : Item α) : Task α :=
  ⟨some i.taskId, some i.priority, some i.enqueuedAt, i.notBefore, i.payload⟩

/-- `int(x)`: truncation towards zero. -/
def pyInt (x : ℚ) : ℤ := x.num.tdiv x.den

def Row.le (a b : Row α) : Prop := a.rank < b.rank ∨ a.rank = b.rank ∧ a.seq ≤ b.seq

instance : DecidableRel (Row.le (α := α)) := fun a b => by
  unfold Row.le
  infer_instance

/-- `now or time.time()`. -/
def nowOr (clock : Time) : Option Time → Time
  | none => clock
  | some t => if t = 0 then clock else t

structure LocalQueue (α : Type) where
  ready : List (Row α) := []
  inflight : Dict TaskId (Time × Item α) := ∅
  sequence : ℕ := 0
  deadLetters : List (DeadLetter α) := []
deriving DecidableEq

def heappush (row : Row α) (heap : List (Row α)) : List (Row α) := heap.orderedInsert Row.le row

/-- The dict `enqueue` stores for a task: a new id where none was given or a new attempt starts, and
the defaults of `priority` and `enqueued_at`. -/
def stamp (now : Time) (uuid : TaskId) (newAttempt : Bool) (task : Task α) : Item α where
  taskId := if newAttempt then uuid else task.taskId.getD uuid
  priority := task.priority.getD 5
  enqueuedAt := if newAttempt then now else task.enqueuedAt.getD now
  notBefore := task.notBefore
  payload := task.payload

/-- A ready row is due: `float(row[2].get("not_before", 0)) <= time.time()`. -/
def Item.due (now : Time) (i : Item α) : Bool := i.notBefore.getD 0 ≤ now

/-- The loop of `claim`: pop rows until one is due. It returns that row, the heap that is left and
the rows that were set aside. -/
def popDue (now : Time) : List (Row α) → List (Row α) → Option (Row α) × List (Row α) × List (Row α)
  | [], deferred => (none, [], deferred)
  | row :: heap, deferred =>
    if row.item.due now then (some row, heap, deferred) else popDue now heap (deferred ++ [row])

def pushAll (rows heap : List (Row α)) : List (Row α) := rows.foldl (fun h r => heappush r h) heap

/-- Order in which `requeue_expired` returns the rows to the heap: oldest lease first, then higher
priority, then id. -/
def expiredLe (a b : TaskId × Time × Item α) : Bool :=
  a.2.1 < b.2.1 ∨ a.2.1 = b.2.1 ∧
    (-pyInt a.2.2.priority < -pyInt b.2.2.priority ∨
      -pyInt a.2.2.priority = -pyInt b.2.2.priority ∧ a.1 ≤ b.1)

namespace LocalQueue

variable (q : LocalQueue α)

/-- The heap row of a stored item takes the next sequence number. -/
def push (item : Item α) : LocalQueue α :=
  { q with
    sequence := q.sequence + 1
    ready := heappush ⟨-pyInt item.priority, q.sequence + 1, item⟩ q.ready }

def enqueue (now : Time) (uuid : TaskId) (newAttempt : Bool) (task : Task α) :
    Item α × LocalQueue α :=
  let item := stamp now uuid newAttempt task
  (item, q.push item)

def claim (now : Time) (lease : ℚ) : Option (Item α) × LocalQueue α :=
  match popDue now q.ready [] with
  | (none, heap, deferred) => (none, { q with ready := pushAll deferred heap })
  | (some row, heap, deferred) =>
    (some row.item,
      { q with
        ready := pushAll deferred heap
        inflight := q.inflight.set row.item.taskId (now + lease, row.item) })

def ack (id : TaskId) : LocalQueue α := { q with inflight := q.inflight.pop id }

def renew (id : TaskId) (now : Time) (lease : ℚ) : Bool × LocalQueue α :=
  match q.inflight.get? id with
  | none => (false, q)
  | some (_, item) => (true, { q with inflight := q.inflight.set id (now + lease, item) })

def discard (id : TaskId) : LocalQueue α :=
  { q.ack id with ready := q.ready.filter (fun row => row.item.taskId ≠ id) }

/-- `release`: `_take_inflight`, then `enqueue` of the same dict. -/
def release (id : TaskId) (now : Time) (uuid : TaskId) : Option (Item α) × LocalQueue α :=
  match q.inflight.get? id with
  | none => (none, q)
  | some (_, item) =>
    let (queued, q') := (q.ack id).enqueue now uuid false item.toTask
    (some queued, q')

/-- The in-flight records whose deadline has passed, in the order in which they are requeued. -/
def expired (current : Time) : List (TaskId × Time × Item α) :=
  (q.inflight.entries.filter (fun e => e.2.1 ≤ current)).mergeSort expiredLe

def requeueExpired (clock : Time) (now : Option Time) (uuid : TaskId) :
    List (Item α) × LocalQueue α :=
  let records := q.expired (nowOr clock now)
  let taken := records.foldl (fun q r => q.ack r.1) q
  records.foldl (fun acc r =>
    let (queued, q') := acc.2.enqueue clock uuid false r.2.2.toTask
    (acc.1 ++ [queued], q')) ([], taken)

def deadLetter (task : Task α) (error : Option String) (now : Time) : LocalQueue α :=
  { q with
    inflight := match task.taskId with
      | some id => q.inflight.pop id
      | none => q.inflight
    deadLetters := q.deadLetters ++ [⟨task, error, now⟩] }

/-- `requeue_dead_letter`: the first entry with that id leaves the list and starts a new attempt. -/
def requeueDeadLetter (id : TaskId) (now : Time) (uuid : TaskId) : Option (Item α) × LocalQueue α :=
  match q.deadLetters.find? (fun d => d.task.taskId = some id) with
  | none => (none, q)
  | some d =>
    let rest := { q with
      deadLetters := q.deadLetters.eraseP (fun d => d.task.taskId = some id) }
    let (queued, q') := rest.enqueue now uuid true d.task
    (some queued, q')

def hasTask (id : TaskId) : Bool :=
  q.inflight.contains id || q.ready.any (fun row => row.item.taskId = id)

def inflightActive (id : TaskId) (now : Time) : Bool :=
  match q.inflight.get? id with
  | none => false
  | some (deadline, _) => now < deadline

end LocalQueue

/-- A call of the queue, with the clock and the `uuid4` it reads. -/
inductive Call (α : Type) where
  | enqueue (now : Time) (uuid : TaskId) (newAttempt : Bool) (task : Task α)
  | claim (now : Time) (lease : ℚ)
  | ack (id : TaskId)
  | renew (id : TaskId) (now : Time) (lease : ℚ)
  | release (id : TaskId) (now : Time) (uuid : TaskId)
  | requeueExpired (clock : Time) (now : Option Time) (uuid : TaskId)
  | discard (id : TaskId)

/-- The queue after a call. -/
def LocalQueue.run (q : LocalQueue α) : Call α → LocalQueue α
  | .enqueue now uuid newAttempt task => (q.enqueue now uuid newAttempt task).2
  | .claim now lease => (q.claim now lease).2
  | .ack id => q.ack id
  | .renew id now lease => (q.renew id now lease).2
  | .release id now uuid => (q.release id now uuid).2
  | .requeueExpired clock now uuid => (q.requeueExpired clock now uuid).2
  | .discard id => q.discard id

end Vertep.Queue
