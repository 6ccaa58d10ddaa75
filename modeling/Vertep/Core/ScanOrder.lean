import Vertep.Core.Claims
import Vertep.Queue.Claiming

/-!
# What a scan leaves of the order (`core/api/tasks.py`)

A scan that hands out nothing is to leave the ready queue as it was, and one that hands out a task all but that task. Tasks
that were kept aside come back under new sequence numbers, behind every row of their priority: they come back to their
places only where no row that stays was behind them.
-/

namespace Vertep.Core
open Lib Queue

/-! ## What is claimed -/

section
variable (env : Env) (worker : Worker) (jobs : Dict JobId Job)

/-- What the scan does with a task; one whose Job is gone is dropped. -/
def scanned (item : Item TaskBody) : Verdict :=
  match jobs.get? item.payload.jobId with
  | none => .drop
  | some job => verdict env worker jobs job item

def claimOrder (c : System) : List (Item TaskBody) := c.queue.ready.map Row.item

/-- A claim that hands out nothing and drops nothing leaves the order as it was, and one that hands out a task leaves the
others in their order; no other task leaves but one that is dropped. -/
def Invisible (env : Env) (p : Claim) (c : System) : Prop :=
  let r := claimTask env p c
  (r.1 = .ok none → (∀ item ∈ claimOrder c, item ∈ claimOrder r.2) → claimOrder r.2 = claimOrder c) ∧
  ∀ task, r.1 = .ok (some task) → (claimOrder r.2).Sublist (claimOrder c) ∧ task ∉ claimOrder r.2 ∧
    ∀ worker, admitted env p c = some worker → ∀ item ∈ claimOrder c, item ∈ claimOrder r.2 ∨ item = task ∨
      scanned env worker c.jobs item = .drop ∨ scanned env worker c.jobs item = .releaseAndDrop

def Ahead (a b : Row TaskBody) : Prop := a.rank < b.rank ∨ a.rank = b.rank ∧ a.seq < b.seq

variable (rows : List (Row TaskBody))

def Reached (row : Row TaskBody) : Prop := row ∈ rows ∧ row.item.due env.now ∧
  ∀ other ∈ rows, other.item.due env.now → scanned env worker jobs other.item = .take → Ahead row other

def KeptAside (row : Row TaskBody) : Prop := Reached env worker jobs rows row ∧ scanned env worker jobs row.item = .hold

/-- A row that leaves the queue. -/
def LeavesQueue (row : Row TaskBody) : Prop :=
  (Reached env worker jobs rows row ∧ (scanned env worker jobs row.item = .drop ∨
    scanned env worker jobs row.item = .releaseAndDrop)) ∨
  (row ∈ rows ∧ row.item.due env.now ∧ scanned env worker jobs row.item = .take ∧
    ∀ other ∈ rows, other.item.due env.now → scanned env worker jobs other.item = .take → other = row ∨ Ahead row other)

def Unbroken : Prop := ∀ row ∈ rows, Reached env worker jobs rows row → scanned env worker jobs row.item ≠ .releaseAndDrop

def Matters : Prop := (∃ row ∈ rows, row.item.due env.now ∧ scanned env worker jobs row.item = .take) ∨
  ∀ row ∈ rows, row.item.due env.now → scanned env worker jobs row.item = .hold

/-- The condition of a scan: a row of the priority of one that is kept aside, and behind it, is kept aside as well, with no
release between them, or leaves. -/
def InPlace : Prop := Matters env worker jobs rows → ∀ row ∈ rows, ∀ other ∈ rows, KeptAside env worker jobs rows row →
  ¬ LeavesQueue env worker jobs rows other → row.rank = other.rank → row.seq < other.seq →
  KeptAside env worker jobs rows other ∧ ∀ between, Reached env worker jobs rows between →
    scanned env worker jobs between.item = .releaseAndDrop → ¬ (Ahead row between ∧ Ahead between other)

end

/-! ## The queue -/

lemma Heap.strict {q : LocalQueue TaskBody} (heap : Heap q) : q.ready.Pairwise Ahead := by
  refine (heap.sorted.and (List.pairwise_map.1 heap.seqs)).imp fun {a b} both => ?_
  unfold Row.le at both
  unfold Ahead
  omega

lemma Heap.ahead {q : LocalQueue TaskBody} (heap : Heap q) {front back : List (Row TaskBody)} {row : Row TaskBody}
    (is : q.ready = front ++ row :: back) : ∀ other ∈ back, Ahead row other := by
  have strict := Heap.strict heap
  rw [is, List.pairwise_append, List.pairwise_cons] at strict
  exact strict.2.1.1

lemma Heap.claims {q : LocalQueue TaskBody} (heap : Heap q) (now : Time) (lease : ℚ) :
    (∃ front row back, q.ready = front ++ row :: back ∧ (∀ other ∈ front, other.item.due now = false) ∧
      row.item.due now = true ∧ q.claim now lease = (some row.item, { q with
        ready := front ++ back
        inflight := q.inflight.set row.item.taskId (now + lease, row.item) })) ∨
    (∀ row ∈ q.ready, row.item.due now = false) ∧ q.claim now lease = (none, q) := by
  rw [← claimReading_const]
  rcases heap.claimReading (fun _ => now) lease with ⟨front, row, back, is, before, due, ran⟩ | ⟨never, ran⟩
  · refine .inl ⟨front, row, back, is, fun other within => ?_, due, ran⟩
    obtain ⟨front', back', split⟩ := List.append_of_mem within
    exact before front' other back' split
  · refine .inr ⟨fun row within => ?_, ran⟩
    obtain ⟨front, back, split⟩ := List.append_of_mem within
    exact never front row back split

def putBack (q : LocalQueue TaskBody) (row : Row TaskBody) : LocalQueue TaskBody :=
  (q.ack row.item.taskId).push row.item

lemma release_eq {q : LocalQueue TaskBody} {row : Row TaskBody} {d : Time}
    (flies : q.inflight.get? row.item.taskId = some (d, row.item)) (now : Time) (uuid : TaskId) :
    (q.release row.item.taskId now uuid).2 = putBack q row := by
  rw [LocalQueue.release, flies]
  rfl

lemma releaseAll_queue (env : Env) {held : List (Row TaskBody)} {c : System}
    (flies : ∀ row ∈ held, ∃ d, c.queue.inflight.get? row.item.taskId = some (d, row.item))
    (ids : (held.map fun row => row.item.taskId).Nodup) :
    (c.releaseAll env (held.map fun row => row.item.taskId)).queue = held.foldl putBack c.queue ∧
      (c.releaseAll env (held.map fun row => row.item.taskId)).jobs = c.jobs := by
  induction held generalizing c with
  | nil => exact ⟨rfl, rfl⟩
  | cons row held ih =>
    obtain ⟨d, is⟩ := flies row List.mem_cons_self
    rw [List.map_cons, List.nodup_cons] at ids
    have rest := ih (c := { c with queue := (c.queue.release row.item.taskId env.now c.nextId).2, nextId := c.nextId + 1 })
      (fun other within => ?_) ids.2
    · rw [release_eq is] at rest
      have step : c.releaseAll env ((row :: held).map fun row => row.item.taskId) =
          ({ c with queue := putBack c.queue row, nextId := c.nextId + 1 } : System).releaseAll env
            (held.map fun row => row.item.taskId) := by
        rw [List.map_cons, System.releaseAll, List.foldl_cons, release_eq is]
        rfl
      rw [step]
      exact rest
    · obtain ⟨d', is'⟩ := flies other (List.mem_cons_of_mem _ within)
      have other_ne : row.item.taskId ≠ other.item.taskId := fun same => ids.1 (List.mem_map.2 ⟨other, within, same.symm⟩)
      refine ⟨d', ?_⟩
      rw [release_eq is, putBack, LocalQueue.push, LocalQueue.ack, Dict.get?_pop, if_neg other_ne]
      exact is'

lemma putBackAll (held : List (Row TaskBody)) {q : LocalQueue TaskBody} (heap : Heap q) :
    q.sequence ≤ (held.foldl putBack q).sequence ∧ ∃ back : List (Row TaskBody), List.Forall₂ (fun row row' => row'.item = row.item ∧ row'.rank = -pyInt row.item.priority)
      held back ∧ back.Pairwise (fun a b => a.seq < b.seq) ∧ (∀ row ∈ back, q.sequence < row.seq) ∧
      (held.foldl putBack q).ready.Perm (back ++ q.ready) ∧ Heap (held.foldl putBack q) := by
  induction held generalizing q with
  | nil => exact ⟨le_rfl, [], .nil, .nil, List.forall_mem_nil _, .refl _, heap⟩
  | cons row held ih =>
    have acked : Heap (q.ack row.item.taskId) := heap.fewer (List.Sublist.refl _) rfl
    obtain ⟨later, back, items, order, above, perm, heap'⟩ := ih (acked.push row.item)
    refine ⟨(Nat.le_succ _).trans later, ⟨-pyInt row.item.priority, q.sequence + 1, row.item⟩ :: back, .cons ⟨rfl, rfl⟩ items,
      .cons (fun other within => above other within) order, ?_, ?_, heap'⟩
    · refine List.forall_mem_cons.2 ⟨Nat.lt_succ_self _, fun other within => ?_⟩
      exact (Nat.lt_succ_self _).trans (above other within)
    · refine perm.trans ?_
      have pushed := heappush_perm ⟨-pyInt row.item.priority, q.sequence + 1, row.item⟩ q.ready
      exact ((pushed.append_left back).trans List.perm_middle)

lemma give_queue (c : System) (p : Claim) (worker : Worker) (job : Job) (item : Item TaskBody) :
    (c.give p worker job item).queue = c.queue := by
  rw [System.give]
  show (c.on item.payload.jobId job (Act.take p.nodeName item)).2.queue = c.queue
  rw [System.on, Act.take]
  cases item.payload.claimKind with
  | scene =>
    simp only [Act.theJob_bind]
    cases sceneForTask job item.taskId with
    | none => rfl
    | some scene => split <;> rfl
  | _ => rfl

/-! ## The scan -/

def begun (old : Item TaskBody → ℕ) (row : Row TaskBody) : Row TaskBody := { row with seq := old row.item }

section
variable (env : Env) (worker : Worker) (jobs : Dict JobId Job) (rows : List (Row TaskBody)) (old : Item TaskBody → ℕ)

/-- What holds during the scan, of the rows it began with: the ready queue, and what is kept aside. -/
structure Scan (held : List (Row TaskBody)) (q : LocalQueue TaskBody) : Prop where
  heap : Heap q
  bound : ∀ row ∈ rows, row.seq ≤ q.sequence
  ids : ((q.ready ++ held).map fun row => row.item.taskId).Nodup
  rank : ∀ row ∈ held, row.rank = -pyInt row.item.priority
  home : ∀ row ∈ q.ready ++ held, begun old row ∈ rows
  seqs : ∀ row ∈ q.ready ++ held, row.seq = old row.item ∨ ∀ other ∈ rows, other.seq < row.seq
  -- only a task that was kept aside is moved
  still : ∀ row ∈ q.ready, row.seq = old row.item ∨ row.item.due env.now ∧ scanned env worker jobs row.item = .hold
  kept : ∀ row ∈ held, KeptAside env worker jobs rows (begun old row)
  flies : ∀ row ∈ held, ∃ d, q.inflight.get? row.item.taskId = some (d, row.item)
  first : ∀ row ∈ held, ∀ other ∈ q.ready, other.item.due env.now → Ahead row other
  before : held.Pairwise Ahead

/-- What has not been dropped is still there, and has not moved if nothing went back. -/
structure Whole (held : List (Row TaskBody)) (q : LocalQueue TaskBody) : Prop where
  all : ∀ row ∈ rows, (∃ other ∈ q.ready ++ held, begun old other = row) ∨ Reached env worker jobs rows row ∧
    (scanned env worker jobs row.item = .drop ∨ scanned env worker jobs row.item = .releaseAndDrop)
  unmoved : Unbroken env worker jobs rows → ∀ row ∈ q.ready ++ held, row.seq = old row.item

/-- What holds as well where the condition is met. -/
structure InOrder (held : List (Row TaskBody)) (q : LocalQueue TaskBody) : Prop where
  order : ∀ a ∈ q.ready, ∀ b ∈ q.ready, Ahead a b → ¬ LeavesQueue env worker jobs rows (begun old a) →
    ¬ LeavesQueue env worker jobs rows (begun old b) → Ahead (begun old a) (begun old b)
  -- a task that was moved stands before those of its priority that were not
  moved : ∀ a ∈ q.ready, a.seq ≠ old a.item → ∀ b ∈ q.ready ++ held, b.seq = old b.item → b.item.due env.now →
    scanned env worker jobs b.item = .hold → a.rank = b.rank → old a.item < old b.item
  first : ∀ row ∈ held, ∀ other ∈ q.ready, other.item.due env.now → Ahead (begun old row) (begun old other)
  before : held.Pairwise fun a b => Ahead (begun old a) (begun old b)

end

variable {env : Env} {p : Claim} {worker : Worker} {jobs : Dict JobId Job} {rows : List (Row TaskBody)}
  {old : Item TaskBody → ℕ} {held : List (Row TaskBody)} {q q' : LocalQueue TaskBody} {row : Row TaskBody}

lemma begun_eq (same : row.seq = old row.item) : begun old row = row := by
  rw [begun, ← same]

variable {a b other : Row TaskBody}

lemma Ahead.irrefl : ¬ Ahead a a := by
  unfold Ahead
  omega

lemma Ahead.asymm (first : Ahead a b) : ¬ Ahead b a := by
  unfold Ahead at *
  omega

instance : Std.Antisymm Ahead := ⟨fun _ _ first second => absurd second first.asymm⟩

instance : Std.Irrefl Ahead := ⟨fun _ => Ahead.irrefl⟩

lemma not_leaves_of_hold {row : Row TaskBody} (hold : scanned env worker jobs row.item = .hold) :
    ¬ LeavesQueue env worker jobs rows row := by
  rintro (⟨-, is | is⟩ | ⟨-, -, is, -⟩)
  all_goals
    rw [hold] at is
    cases is

lemma Scan.ahead_begun (scan : Scan env worker jobs rows old held q) (left : a ∈ q.ready ++ held)
    (right : b ∈ q.ready ++ held) (there : b.seq = old b.item) (ahead : Ahead a b) : Ahead (begun old a) (begun old b) := by
  have within := scan.home b right
  rw [begun_eq there] at within ⊢
  rcases scan.seqs a left with same | above
  · rwa [begun_eq same]
  · have := above b within
    unfold Ahead at *
    unfold begun
    dsimp only
    omega

/-! ### Serving a row -/

/-- A row that a claim serves, with what is left. -/
structure Served (env : Env) (q : LocalQueue TaskBody) (row : Row TaskBody) (q' : LocalQueue TaskBody) : Prop where
  within : row ∈ q.ready
  due : row.item.due env.now = true
  sub : q'.ready.Sublist q.ready
  others : ∀ other, other ∈ q.ready ↔ other = row ∨ other ∈ q'.ready
  first : ∀ other ∈ q'.ready, other.item.due env.now → Ahead row other
  sequence : q'.sequence = q.sequence
  inflight : ∃ d, q'.inflight = q.inflight.set row.item.taskId (d, row.item)
  fewer : q'.ready.length + 1 = q.ready.length

lemma served_of_claim (heap : Heap q) {item : Item TaskBody} (is : q.claim env.now env.lease = (some item, q')) :
    ∃ row, row.item = item ∧ Served env q row q' := by
  rcases Heap.claims heap env.now env.lease with ⟨front, row, back, split, before, due, ran⟩ | ⟨-, ran⟩
  · rw [ran] at is
    obtain ⟨rfl, rfl⟩ := Prod.mk.inj is |>.imp Option.some.inj id
    refine ⟨row, rfl, split ▸ by simp, due, ?_, fun other => ?_, fun other within => ?_, rfl, ⟨_, rfl⟩, ?_⟩
    · show (front ++ back).Sublist q.ready
      rw [split]
      exact (List.sublist_cons_self row back).append_left front
    · rw [split]
      simp only [List.mem_append, List.mem_cons]
      tauto
    · rcases List.mem_append.1 within with earlier | later
      · intro due'
        rw [before other earlier] at due'
        cases due'
      · exact fun _ => Heap.ahead heap split other later
    · show (front ++ back).length + 1 = q.ready.length
      rw [split]
      simp only [List.length_append, List.length_cons]
      omega
  · rw [ran] at is
    cases is

lemma Scan.take_ready (scan : Scan env worker jobs rows old held q) (whole : Whole env worker jobs rows old held q) (within : other ∈ rows)
    (take : scanned env worker jobs other.item = .take) : other ∈ q.ready := by
  rcases whole.all other within with ⟨row, there, is⟩ | ⟨-, is | is⟩
  · rcases List.mem_append.1 there with ready | aside
    · rcases scan.still row ready with same | ⟨-, hold⟩
      · rw [← is, begun_eq same]
        exact ready
      · rw [← is] at take
        exact absurd (hold.symm.trans take) (by decide)
    · have hold := (scan.kept row aside).2
      rw [is, take] at hold
      cases hold
  all_goals
    rw [take] at is
    cases is

lemma Scan.take_still (scan : Scan env worker jobs rows old held q) (within : other ∈ q.ready)
    (take : scanned env worker jobs other.item ≠ .hold) : other.seq = old other.item := by
  rcases scan.still other within with same | ⟨-, hold⟩
  · exact same
  · exact absurd hold take

lemma Scan.served_ahead (scan : Scan env worker jobs rows old held q) (whole : Whole env worker jobs rows old held q)
    (served : Served env q row q')
    (within : other ∈ rows) (due : other.item.due env.now) (take : scanned env worker jobs other.item = .take) :
    other = row ∨ Ahead (begun old row) other := by
  have ready := scan.take_ready whole within take
  have same := scan.take_still ready (by rw [take]; decide)
  rcases (served.others other).1 ready with is | rest
  · exact .inl is
  · refine .inr ?_
    have ahead := scan.ahead_begun (List.mem_append_left _ served.within) (List.mem_append_left _ ready) same
      (served.first other rest due)
    rwa [begun_eq same] at ahead

lemma Scan.reached (scan : Scan env worker jobs rows old held q) (whole : Whole env worker jobs rows old held q)
    (served : Served env q row q') (not : scanned env worker jobs row.item ≠ .take) : Reached env worker jobs rows (begun old row) := by
  refine ⟨scan.home row (List.mem_append_left _ served.within), served.due, fun other within due take => ?_⟩
  rcases scan.served_ahead whole served within due take with rfl | ahead
  · exact absurd take not
  · exact ahead

lemma Served.subset (served : Served env q row q') : q'.ready ++ held ⊆ q.ready ++ held :=
  (served.sub.append_right held).subset

lemma Served.subset_aside (served : Served env q row q') : q'.ready ++ (held ++ [row]) ⊆ q.ready ++ held := by
  rw [← List.append_assoc]
  exact List.append_subset.2 ⟨served.subset, List.cons_subset.2 ⟨List.mem_append_left _ served.within, List.nil_subset _⟩⟩

lemma Scan.serve (scan : Scan env worker jobs rows old held q) (served : Served env q row q') :
    Scan env worker jobs rows old held q' ∧ (∀ other ∈ q'.ready ++ held, other.item.taskId ≠ row.item.taskId) := by
  have sub : q'.ready ++ held ⊆ q.ready ++ held := served.subset
  have perm : q.ready.Perm (row :: q'.ready) := by
    have nodup : q.ready.Nodup := List.Nodup.of_map _ scan.heap.seqs
    refine (List.perm_ext_iff_of_nodup nodup ?_).2 fun other => by rw [served.others, List.mem_cons]
    refine List.nodup_cons.2 ⟨fun again => ?_, nodup.sublist served.sub⟩
    exact Ahead.irrefl (served.first row again served.due)
  have ids := ((perm.append_right held).map fun row => row.item.taskId).nodup_iff.1 scan.ids
  rw [List.cons_append, List.map_cons, List.nodup_cons] at ids
  have apart : ∀ other ∈ q'.ready ++ held, other.item.taskId ≠ row.item.taskId := by
    intro other within same
    apply ids.1
    rw [← same]
    exact List.mem_map_of_mem (f := fun row : Row TaskBody => row.item.taskId) within
  refine ⟨⟨scan.heap.fewer served.sub served.sequence, ?_, ids.2, scan.rank, fun other within => scan.home other (sub within),
    fun other within => scan.seqs other (sub within), fun other within => scan.still other (served.sub.subset within),
    scan.kept, fun other within => ?_, fun other within other' there => scan.first other within other' (served.sub.subset there),
    scan.before⟩, apart⟩
  · rw [served.sequence]
    exact scan.bound
  · obtain ⟨d, is⟩ := scan.flies other within
    obtain ⟨d', inflight⟩ := served.inflight
    refine ⟨d, ?_⟩
    rw [inflight, Dict.get?_set, if_neg (apart other (List.mem_append_right _ within)).symm]
    exact is

lemma InOrder.serve (order : InOrder env worker jobs rows old held q) (served : Served env q row q') :
    InOrder env worker jobs rows old held q' where
  order a left b right := order.order a (served.sub.subset left) b (served.sub.subset right)
  moved a left ne b right := order.moved a (served.sub.subset left) ne b (served.subset right)
  first row within other there := order.first row within other (served.sub.subset there)
  before := order.before

lemma Scan.ack (scan : Scan env worker jobs rows old held q) {id : TaskId} (other : ∀ row ∈ held, row.item.taskId ≠ id) :
    Scan env worker jobs rows old held (q.ack id) where
  heap := scan.heap.fewer (List.Sublist.refl _) rfl
  bound := scan.bound
  ids := scan.ids
  rank := scan.rank
  home := scan.home
  seqs := scan.seqs
  still := scan.still
  kept := scan.kept
  flies row within := by
    obtain ⟨d, is⟩ := scan.flies row within
    refine ⟨d, ?_⟩
    rw [LocalQueue.ack, Dict.get?_pop, if_neg (other row within).symm]
    exact is
  first := scan.first
  before := scan.before

lemma Whole.drop (whole : Whole env worker jobs rows old held q)
    (served : Served env q row q') (reached : Reached env worker jobs rows (begun old row))
    (drop : scanned env worker jobs row.item = .drop ∨ scanned env worker jobs row.item = .releaseAndDrop) :
    Whole env worker jobs rows old held q' where
  all other within := by
    rcases whole.all other within with ⟨there, member, is⟩ | gone
    · rcases List.mem_append.1 member with ready | aside
      · rcases (served.others there).1 ready with rfl | rest
        · rw [← is]
          exact .inr ⟨reached, drop⟩
        · exact .inl ⟨there, List.mem_append_left _ rest, is⟩
      · exact .inl ⟨there, List.mem_append_right _ aside, is⟩
    · exact .inr gone
  unmoved unbroken other within := whole.unmoved unbroken other (served.subset within)

lemma Scan.keep (scan : Scan env worker jobs rows old held q) (served : Served env q row q')
    (kept : KeptAside env worker jobs rows (begun old row)) : Scan env worker jobs rows old (held ++ [row]) q' := by
  obtain ⟨rest, apart⟩ := scan.serve served
  refine ⟨rest.heap, rest.bound, ?_, ?_, fun other within => scan.home other (served.subset_aside within),
    fun other within => scan.seqs other (served.subset_aside within), rest.still, ?_, ?_, ?_, ?_⟩
  · rw [← List.append_assoc, List.map_append]
    refine List.Nodup.append rest.ids (List.nodup_singleton _) ?_
    rw [List.map_singleton, List.disjoint_singleton]
    intro within
    obtain ⟨other, there, same⟩ := List.mem_map.1 within
    exact apart other there same
  · exact List.forall_mem_append.2 ⟨rest.rank, List.forall_mem_singleton.2 (scan.heap.rank row served.within)⟩
  · exact List.forall_mem_append.2 ⟨rest.kept, List.forall_mem_singleton.2 kept⟩
  · refine List.forall_mem_append.2 ⟨rest.flies, List.forall_mem_singleton.2 ?_⟩
    obtain ⟨d, inflight⟩ := served.inflight
    exact ⟨d, by rw [inflight, Dict.get?_set, if_pos rfl]⟩
  · exact List.forall_mem_append.2 ⟨rest.first, List.forall_mem_singleton.2 served.first⟩
  · refine List.pairwise_append.2 ⟨scan.before, List.pairwise_singleton _ _, fun other within last is => ?_⟩
    rw [List.mem_singleton.1 is]
    exact scan.first other within row served.within served.due

lemma Whole.keep (whole : Whole env worker jobs rows old held q) (served : Served env q row q') :
    Whole env worker jobs rows old (held ++ [row]) q' where
  all other within := by
    rcases whole.all other within with ⟨there, member, is⟩ | gone
    · refine .inl ⟨there, ?_, is⟩
      rw [← List.append_assoc]
      rcases List.mem_append.1 member with ready | aside
      · rcases (served.others there).1 ready with rfl | rest
        · exact List.mem_append_right _ (List.mem_singleton.2 rfl)
        · exact List.mem_append_left _ (List.mem_append_left _ rest)
      · exact List.mem_append_left _ (List.mem_append_right _ aside)
    · exact .inr gone
  unmoved unbroken other within := whole.unmoved unbroken other (served.subset_aside within)

lemma InOrder.keep (order : InOrder env worker jobs rows old held q) (scan : Scan env worker jobs rows old held q)
    (served : Served env q row q') (kept : KeptAside env worker jobs rows (begun old row)) :
    InOrder env worker jobs rows old (held ++ [row]) q' := by
  have rest := order.serve served
  refine ⟨rest.order, fun a left ne b right => ?_, ?_, ?_⟩
  · exact order.moved a (served.sub.subset left) ne b (served.subset_aside right)
  · refine List.forall_mem_append.2 ⟨rest.first, List.forall_mem_singleton.2 fun other within due => ?_⟩
    have ahead := served.first other within due
    have there := served.sub.subset within
    -- a task that was not moved stands where it did, and two that are kept aside do not leave
    rcases scan.still other there with same | ⟨-, hold⟩
    · exact scan.ahead_begun (List.mem_append_left _ served.within) (List.mem_append_left _ there) same ahead
    · exact order.order row served.within other there ahead (not_leaves_of_hold kept.2) (not_leaves_of_hold hold)
  · refine List.pairwise_append.2 ⟨order.before, List.pairwise_singleton _ _, fun other within last is => ?_⟩
    rw [List.mem_singleton.1 is]
    exact order.first other within row served.within served.due

/-! ### Putting back -/

/-- No row that stays, of the priority of one that is kept aside, was behind it. -/
def Fits (env : Env) (worker : Worker) (jobs : Dict JobId Job) (rows : List (Row TaskBody)) (old : Item TaskBody → ℕ)
    (held : List (Row TaskBody)) (q : LocalQueue TaskBody) : Prop :=
  ∀ a ∈ held, ∀ b ∈ q.ready, ¬ LeavesQueue env worker jobs rows (begun old b) → a.rank = b.rank → old b.item < old a.item

lemma exists_kept {back : List (Row TaskBody)}
    (items : List.Forall₂ (fun row row' => row'.item = row.item ∧ row'.rank = -pyInt row.item.priority) held back)
    {row' : Row TaskBody} (within : row' ∈ back) :
    ∃ row ∈ held, row'.item = row.item ∧ row'.rank = -pyInt row.item.priority := by
  obtain ⟨n, less, rfl⟩ := List.mem_iff_getElem.1 within
  obtain ⟨length, each⟩ := List.forall₂_iff_get.1 items
  have less' : n < held.length := length ▸ less
  exact ⟨held[n], List.getElem_mem less', each n less' less⟩

lemma back_before {R : Row TaskBody → Row TaskBody → Prop} {back : List (Row TaskBody)}
    (items : List.Forall₂ (fun row row' => row'.item = row.item ∧ row'.rank = -pyInt row.item.priority) held back)
    (order : back.Pairwise fun a b => a.seq < b.seq) (before : held.Pairwise R) (left : a ∈ back)
    (right : b ∈ back) (less : a.seq < b.seq) : ∃ a' ∈ held, ∃ b' ∈ held, a.item = a'.item ∧ b.item = b'.item ∧ R a' b' := by
  induction items with
  | nil => cases left
  | @cons first first' held back same rest ih =>
    obtain ⟨here, later⟩ := List.pairwise_cons.1 before
    obtain ⟨here', later'⟩ := List.pairwise_cons.1 order
    rcases List.mem_cons.1 left with rfl | left' <;> rcases List.mem_cons.1 right with rfl | right'
    · exact absurd less (lt_irrefl _)
    · obtain ⟨b', member, is, -⟩ := exists_kept rest right'
      exact ⟨first, List.mem_cons_self, b', List.mem_cons_of_mem _ member, same.1, is, here b' member⟩
    · have := here' a left'
      omega
    · obtain ⟨a', member, b', member', is⟩ := ih later' later left' right'
      exact ⟨a', List.mem_cons_of_mem _ member, b', List.mem_cons_of_mem _ member', is⟩

/-- What the ready queue is when those that were kept aside are back: each under a number of its own, greater than any
before. -/
structure Returned (held : List (Row TaskBody)) (q q' : LocalQueue TaskBody) : Prop where
  heap : Heap q'
  later : q.sequence ≤ q'.sequence
  ids : (q'.ready.map fun row => row.item.taskId).Perm ((q.ready ++ held).map fun row => row.item.taskId)
  cases : ∀ row, row ∈ q'.ready → row ∈ q.ready ∨ ∃ other ∈ held, row.item = other.item ∧ row.rank = other.rank ∧
    q.sequence < row.seq
  ready : ∀ row ∈ q.ready, row ∈ q'.ready
  back : ∀ row ∈ held, ∃ other ∈ q'.ready, other.item = row.item ∧ other.rank = row.rank ∧ q.sequence < other.seq
  order : ∀ {R : Row TaskBody → Row TaskBody → Prop}, held.Pairwise R → ∀ a ∈ q'.ready, ∀ b ∈ q'.ready,
    q.sequence < a.seq → a.seq < b.seq → ∃ a' ∈ held, ∃ b' ∈ held, a.item = a'.item ∧ b.item = b'.item ∧ R a' b'

lemma Scan.returned (scan : Scan env worker jobs rows old held q) : Returned held q (held.foldl putBack q) := by
  obtain ⟨later, back, items, order, above, perm, heap⟩ := putBackAll held scan.heap
  have member : ∀ row, row ∈ (held.foldl putBack q).ready ↔ row ∈ back ∨ row ∈ q.ready := fun row => by
    rw [perm.mem_iff, List.mem_append]
  have which : ∀ row ∈ (held.foldl putBack q).ready, q.sequence < row.seq → row ∈ back := by
    intro row within less
    rcases (member row).1 within with new | ready
    · exact new
    · exact absurd (scan.heap.bound row ready) (by omega)
  have same : back.map (fun row => row.item.taskId) = held.map fun row => row.item.taskId := by
    clear order above perm member which scan later heap
    induction items with
    | nil => rfl
    | cons first _ ih => rw [List.map_cons, List.map_cons, first.1, ih]
  refine ⟨heap, later, ?_, fun row within => ?_, fun row within => (member row).2 (.inr within), fun row within => ?_,
    fun before a left b right less less' => ?_⟩
  · refine (perm.map _).trans ?_
    rw [List.map_append, List.map_append, same]
    exact List.perm_append_comm
  · rcases (member row).1 within with new | ready
    · obtain ⟨other, there, item, rank⟩ := exists_kept items new
      exact .inr ⟨other, there, item, rank.trans (scan.rank other there).symm, above row new⟩
    · exact .inl ready
  · obtain ⟨n, less, rfl⟩ := List.mem_iff_getElem.1 within
    obtain ⟨length, each⟩ := List.forall₂_iff_get.1 items
    have less' : n < back.length := length ▸ less
    have there : back[n] ∈ back := List.getElem_mem less'
    obtain ⟨item, rank⟩ := each n less less'
    exact ⟨back[n], (member _).2 (.inl there), item, rank.trans (scan.rank _ within).symm, above _ there⟩
  · exact back_before items order before (which a left less) (which b right (less.trans less')) less'

lemma begun_congr (item : a.item = b.item) (rank : a.rank = b.rank) : begun old a = begun old b := by
  unfold begun
  rw [item, rank]

lemma Returned.scan (scan : Scan env worker jobs rows old held q) (back : Returned held q q') :
    Scan env worker jobs rows old [] q' := by
  have kept : ∀ row ∈ q'.ready ++ [], row ∈ q.ready ∨ ∃ other ∈ held, begun old row = begun old other ∧ row.item = other.item ∧
      q.sequence < row.seq := by
    intro row within
    rw [List.append_nil] at within
    rcases back.cases row within with ready | ⟨other, there, item, rank, less⟩
    · exact .inl ready
    · exact .inr ⟨other, there, begun_congr item rank, item, less⟩
  refine ⟨back.heap, fun row within => (scan.bound row within).trans back.later, ?_, List.forall_mem_nil _,
    fun row within => ?_, fun row within => ?_, fun row within => ?_, List.forall_mem_nil _, List.forall_mem_nil _,
    List.forall_mem_nil _, List.Pairwise.nil⟩
  · rw [List.append_nil]
    exact back.ids.nodup_iff.2 scan.ids
  · rcases kept row within with ready | ⟨other, there, same, -, -⟩
    · exact scan.home row (List.mem_append_left _ ready)
    · rw [same]
      exact scan.home other (List.mem_append_right _ there)
  · rcases kept row within with ready | ⟨other, there, -, -, less⟩
    · exact scan.seqs row (List.mem_append_left _ ready)
    · exact .inr fun row' member => (scan.bound row' member).trans_lt less
  · rcases kept row (List.mem_append_left _ within) with ready | ⟨other, there, -, item, -⟩
    · exact scan.still row ready
    · refine .inr ?_
      rw [item]
      exact ⟨(scan.kept other there).1.2.1, (scan.kept other there).2⟩

lemma Returned.whole (whole : Whole env worker jobs rows old held q) (back : Returned held q q')
    (broken : ¬ Unbroken env worker jobs rows) : Whole env worker jobs rows old [] q' where
  all row within := by
    rcases whole.all row within with ⟨there, member, is⟩ | gone
    · refine .inl ?_
      rw [List.append_nil]
      rcases List.mem_append.1 member with ready | aside
      · exact ⟨there, back.ready there ready, is⟩
      · obtain ⟨other, ready, item, rank, -⟩ := back.back there aside
        exact ⟨other, ready, (begun_congr item rank).trans is⟩
    · exact .inr gone
  unmoved unbroken := absurd unbroken broken

lemma Returned.inOrder (scan : Scan env worker jobs rows old held q) (order : InOrder env worker jobs rows old held q)
    (back : Returned held q q') (fits : Fits env worker jobs rows old held q) : InOrder env worker jobs rows old [] q' := by
  refine ⟨fun a left b right ahead stays stays' => ?_, fun a left moved b right same due hold rank => ?_, List.forall_mem_nil _,
    List.Pairwise.nil⟩
  · rcases back.cases a left with ready | ⟨a', there, item, rank, less⟩
    · rcases back.cases b right with ready' | ⟨b', there', item', rank', less'⟩
      · exact order.order a ready b ready' ahead stays stays'
      · -- one that went back is behind all of its priority
        have earlier : a.rank = b'.rank → old a.item < old b'.item := fun same =>
          fits b' there' a ready stays same.symm
        rw [← rank', ← item'] at earlier
        unfold Ahead at ahead ⊢
        unfold begun
        dsimp only
        omega
    · rcases back.cases b right with ready' | ⟨b', there', item', rank', less'⟩
      · have := scan.heap.bound b ready'
        unfold Ahead at ahead ⊢
        unfold begun
        dsimp only
        omega
      · rcases ahead with above | ⟨same, earlier⟩
        · exact .inl above
        · obtain ⟨a'', member, b'', member', is, is', before⟩ := back.order order.before a left b right less earlier
          unfold Ahead begun at before ⊢
          dsimp only at before ⊢
          rw [is, is']
          have ra : a.rank = -pyInt a.item.priority := back.heap.rank a left
          have rb : b.rank = -pyInt b.item.priority := back.heap.rank b right
          refine .inr ⟨same, ?_⟩
          have ranks : a''.rank = b''.rank := by
            rw [scan.rank a'' member, scan.rank b'' member', ← is, ← is', ← ra, ← rb, same]
          omega
  · rw [List.append_nil] at right
    have ready' : b ∈ q.ready := by
      rcases back.cases b right with ready | ⟨b', there, item, -, less⟩
      · exact ready
      · have within := scan.home b' (List.mem_append_right _ there)
        have := scan.bound _ within
        rw [begun] at this
        dsimp only at this
        rw [← item, ← same] at this
        omega
    rcases back.cases a left with ready | ⟨a', there, item, rank', less⟩
    · exact order.moved a ready moved b (List.mem_append_left _ ready') same due hold rank
    · have ahead := order.first a' there b ready' due
      rw [item]
      unfold Ahead begun at ahead
      dsimp only at ahead
      omega

lemma fits_of_served (scan : Scan env worker jobs rows old held q) (whole : Whole env worker jobs rows old held q)
    (order : InOrder env worker jobs rows old held q) (served : Served env q row q') (seqs : (rows.map Row.seq).Nodup)
    (condition : InPlace env worker jobs rows) (takes : Matters env worker jobs rows)
    (is : scanned env worker jobs row.item = .take ∨ scanned env worker jobs row.item = .releaseAndDrop) :
    Fits env worker jobs rows old held q' := by
  obtain ⟨-, apart⟩ := scan.serve served
  have still : row.seq = old row.item := scan.take_still served.within (by rcases is with is | is <;> rw [is] <;> decide)
  have within : row ∈ rows := by
    have := scan.home row (List.mem_append_left _ served.within)
    rwa [begun_eq still] at this
  intro a aside b ready stays rank
  have member := scan.home a (List.mem_append_right _ aside)
  have there := served.sub.subset ready
  have member' := scan.home b (List.mem_append_left _ there)
  by_contra behind
  have less : old a.item < old b.item := by
    refine lt_of_le_of_ne (not_lt.1 behind) fun same => ?_
    have both := congrArg Row.item (List.inj_on_of_nodup_map seqs member member' same)
    have ids := scan.ids
    rw [List.map_append, List.nodup_append] at ids
    exact ids.2.2 _ (List.mem_map_of_mem there) _ (List.mem_map_of_mem aside) (congrArg Item.taskId both.symm)
  obtain ⟨kept, between⟩ := condition takes _ member _ member' (scan.kept a aside) stays rank less
  -- the row that is served stands between the two, which are of its priority
  have ahead := scan.first a aside row served.within served.due
  have ahead' := served.first b ready kept.1.2.1
  have early : a.seq = old a.item := by
    rcases scan.seqs a (List.mem_append_right _ aside) with same | above
    · exact same
    · have := above row within
      unfold Ahead at ahead ahead'
      omega
  have before : old b.item < row.seq := by
    rcases is with take | drop
    · have := kept.1.2.2 row within served.due take
      unfold Ahead begun at this
      unfold Ahead at ahead ahead'
      dsimp only at this
      omega
    · have reached := scan.reached whole served (by rw [drop]; decide)
      rw [begun_eq still] at reached
      have not := between row reached drop
      have ne : old b.item ≠ row.seq := fun same => by
        have both := congrArg Row.item (List.inj_on_of_nodup_map seqs member' within same)
        exact apart b (List.mem_append_left _ ready) (congrArg Item.taskId both)
      unfold Ahead begun at not
      unfold Ahead at ahead ahead'
      dsimp only at not
      omega
  -- so the later one was moved, and stands before the other
  have moved : b.seq ≠ old b.item := by
    intro same
    unfold Ahead at ahead ahead'
    omega
  have := order.moved b there moved a (List.mem_append_right _ aside) early (scan.kept a aside).1.2.1 (scan.kept a aside).2
    rank.symm
  omega

end Vertep.Core
