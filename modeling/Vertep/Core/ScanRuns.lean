import Vertep.Core.Operations
import Vertep.Core.ScanOrder

/-!
# Whole scans (`core/api/tasks.py`)

How a scan ends, by one step after another, and from that what it leaves: the order of the ready queue, where its condition
is met; and a scan that puts nothing back on its way leaves the order only there.
-/

namespace Vertep.Core
open Lib Queue

variable {env : Env} {p : Claim} {worker : Worker} {jobs : Dict JobId Job} {rows : List (Row TaskBody)}
  {old : Item TaskBody → ℕ} {held : List (Row TaskBody)} {q q' : LocalQueue TaskBody} {row : Row TaskBody}

/-! ## How a scan ends -/

def Gone (rows : List (Row TaskBody)) (old : Item TaskBody → ℕ) (held : List (Row TaskBody)) (q : LocalQueue TaskBody) : Prop :=
  ∃ row ∈ rows, ∀ other ∈ q.ready ++ held, begun old other ≠ row

/-- What holds during a scan of at most `n` rows; `good` is that the condition is met. -/
structure Scanning (env : Env) (worker : Worker) (jobs : Dict JobId Job) (rows : List (Row TaskBody))
    (old : Item TaskBody → ℕ) (good : Prop) (held : List (Row TaskBody)) (q : LocalQueue TaskBody) : Prop where
  scan : Scan env worker jobs rows old held q
  whole : Whole env worker jobs rows old held q
  order : good → InOrder env worker jobs rows old held q

/-- The number of rows that a scan may still look at is that of the ready rows, unless it has dropped one. -/
def Enough (env : Env) (worker : Worker) (jobs : Dict JobId Job) (rows : List (Row TaskBody)) (old : Item TaskBody → ℕ)
    (n : ℕ) (held : List (Row TaskBody)) (q : LocalQueue TaskBody) : Prop :=
  q.ready.length ≤ n ∨ ¬ Unbroken env worker jobs rows ∧ Gone rows old held q

lemma Returned.gone (back : Returned held q q') (gone : Gone rows old held q) : Gone rows old [] q' := by
  obtain ⟨row, within, absent⟩ := gone
  refine ⟨row, within, fun other there => ?_⟩
  rw [List.append_nil] at there
  rcases back.cases other there with ready | ⟨other', aside, item, rank, -⟩
  · exact absent other (List.mem_append_left _ ready)
  · rw [begun_congr item rank]
    exact absent other' (List.mem_append_right _ aside)

lemma Enough.serve {n : ℕ} (enough : Enough env worker jobs rows old (n + 1) held q) (served : Served env q row q')
    {held' : List (Row TaskBody)} (sub : ∀ other ∈ q'.ready ++ held', other ∈ q.ready ++ held) :
    Enough env worker jobs rows old n held' q' := by
  rcases enough with few | ⟨broken, gone, within, absent⟩
  · refine .inl ?_
    have := served.fewer
    omega
  · exact .inr ⟨broken, gone, within, fun other there => absent other (sub other there)⟩

variable {good : Prop}

lemma claimScan_ends (seqs : (rows.map Row.seq).Nodup)
    (condition : good → InPlace env worker jobs rows ∧ Matters env worker jobs rows) (n : ℕ) (held : List (Row TaskBody))
    (c : System) (same : c.jobs = jobs) (scanning : Scanning env worker jobs rows old good held c.queue)
    (enough : Enough env worker jobs rows old n held c.queue) :
    (∃ held' q, Scanning env worker jobs rows old good held' q ∧
      (claimScan env p worker n (held.map fun row => row.item.taskId) c).1 = none ∧
      (claimScan env p worker n (held.map fun row => row.item.taskId) c).2.queue = held'.foldl putBack q ∧
      ((∀ row ∈ q.ready, row.item.due env.now = false) ∨ ¬ Unbroken env worker jobs rows ∧ Gone rows old held' q)) ∨
    ∃ held' q row q', Scanning env worker jobs rows old good held' q ∧ Served env q row q' ∧
      scanned env worker jobs row.item = .take ∧
      (claimScan env p worker n (held.map fun row => row.item.taskId) c).1 = some row.item ∧
      (claimScan env p worker n (held.map fun row => row.item.taskId) c).2.queue = held'.foldl putBack q' := by
  have ids : ∀ {held q}, Scan env worker jobs rows old held q → (held.map fun row => row.item.taskId).Nodup := by
    intro held q scan
    have := scan.ids
    rw [List.map_append, List.nodup_append] at this
    exact this.2.1
  induction n generalizing held c with
  | zero =>
    refine .inl ⟨held, c.queue, scanning, rfl, (releaseAll_queue env scanning.scan.flies (ids scanning.scan)).1, ?_⟩
    rcases enough with none | gone
    · refine .inl fun row within => ?_
      rw [List.length_eq_zero_iff.1 (Nat.le_zero.1 none)] at within
      cases within
    · exact .inr gone
  | succ n ih =>
    rw [claimScan]
    rcases claims : c.queue.claim env.now env.lease with ⟨served, q'⟩
    cases served with
    | none =>
      have nothing : (∀ row ∈ c.queue.ready, row.item.due env.now = false) ∧ q' = c.queue := by
        rcases Heap.claims scanning.scan.heap env.now env.lease with ⟨front, row, back, -, -, -, ran⟩ | ⟨never, ran⟩
        · rw [ran] at claims
          cases claims
        · rw [ran] at claims
          cases claims
          exact ⟨never, rfl⟩
      rw [nothing.2]
      exact .inl ⟨held, c.queue, scanning, rfl, (releaseAll_queue env scanning.scan.flies (ids scanning.scan)).1, .inl nothing.1⟩
    | some item =>
      obtain ⟨row, rfl, served⟩ := served_of_claim scanning.scan.heap claims
      obtain ⟨rest, apart⟩ := scanning.scan.serve served
      have sub : ∀ other ∈ q'.ready ++ held, other ∈ c.queue.ready ++ held := fun _ within => served.subset within
      -- a row that is dropped is gone
      have dropped : (scanned env worker jobs row.item = .drop ∨ scanned env worker jobs row.item = .releaseAndDrop) →
          Scanning env worker jobs rows old good held q' ∧ Gone rows old held q' := by
        intro drop
        have reached := scanning.scan.reached scanning.whole served (by rcases drop with is | is <;> rw [is] <;> decide)
        refine ⟨⟨rest, scanning.whole.drop served reached drop, fun met => (scanning.order met).serve served⟩,
          begun old row, reached.1, fun other within is => ?_⟩
        have both : (begun old other).item.taskId = (begun old row).item.taskId := by rw [is]
        exact apart other within both
      have acked : scanned env worker jobs row.item = .drop →
          (∀ q'', q'' = q'.ack row.item.taskId → Scanning env worker jobs rows old good held q'' ∧
            Enough env worker jobs rows old n held q'') := by
        rintro drop _ rfl
        obtain ⟨after, -⟩ := dropped (.inl drop)
        refine ⟨⟨after.scan.ack fun other within => apart other (List.mem_append_right _ within), ⟨after.whole.all,
          after.whole.unmoved⟩, fun met => ?_⟩, enough.serve served sub⟩
        have := after.order met
        exact ⟨this.order, this.moved, this.first, this.before⟩
      dsimp only
      cases found : c.jobs.get? row.item.payload.jobId with
      | none =>
        have drop : scanned env worker jobs row.item = .drop := by rw [scanned, ← same, found]
        obtain ⟨after, more⟩ := acked drop _ rfl
        exact ih held { c with queue := q'.ack row.item.taskId } same after more
      | some job =>
        have verdicts : scanned env worker jobs row.item = verdict env worker c.jobs job row.item := by
          rw [scanned, ← same, found]
        dsimp only
        cases is : verdict env worker c.jobs job row.item with
        | drop =>
          obtain ⟨after, more⟩ := acked (verdicts.trans is) _ rfl
          exact ih held { c with queue := q'.ack row.item.taskId } same after more
        | hold =>
          have hold := verdicts.trans is
          have kept : KeptAside env worker jobs rows (begun old row) :=
            ⟨scanning.scan.reached scanning.whole served (by rw [hold]; decide), hold⟩
          have next := ih (held ++ [row]) { c with queue := q' } same
            ⟨scanning.scan.keep served kept, scanning.whole.keep served,
              fun met => (scanning.order met).keep scanning.scan served kept⟩ (enough.serve served fun other within => ?_)
          · rwa [List.map_append, List.map_singleton] at next
          · rw [← List.append_assoc] at within
            rcases List.mem_append.1 within with before | now
            · exact sub other before
            · rw [List.mem_singleton.1 now]
              exact List.mem_append_left _ served.within
        | releaseAndDrop =>
          have drop := verdicts.trans is
          obtain ⟨after, gone⟩ := dropped (.inr drop)
          have reached := scanning.scan.reached scanning.whole served (by rw [drop]; decide)
          have broken : ¬ Unbroken env worker jobs rows := fun unbroken => unbroken _ reached.1 reached drop
          obtain ⟨queue, jobs'⟩ := releaseAll_queue env (c := { c with queue := q' }) after.scan.flies (ids after.scan)
          have back := after.scan.returned
          have returned := back.scan after.scan
          have next := ih [] { (({ c with queue := q' } : System).releaseAll env (held.map fun row => row.item.taskId)) with
            queue := (held.foldl putBack q').ack row.item.taskId } (jobs'.trans same)
            ⟨returned.ack fun other within => (by cases within), ?_, fun met => ?_⟩ (.inr ⟨broken, back.gone gone⟩)
          · rw [queue]
            exact next
          · have := back.whole after.whole broken
            exact ⟨this.all, this.unmoved⟩
          · obtain ⟨inPlace, matters⟩ := condition met
            have fits := fits_of_served scanning.scan scanning.whole (scanning.order met) served seqs inPlace matters (.inr drop)
            have := back.inOrder after.scan (after.order met) fits
            exact ⟨this.order, this.moved, this.first, this.before⟩
        | take =>
          refine .inr ⟨held, c.queue, row, q', scanning, served, verdicts.trans is, rfl, ?_⟩
          rw [give_queue]
          exact (releaseAll_queue env (c := { c with queue := q' }) rest.flies (ids rest)).1

/-! ## The order -/

def putIn (rows : List (Row TaskBody)) (item : Item TaskBody) : ℕ :=
  ((rows.find? fun row => row.item.taskId = item.taskId).map Row.seq).getD 0

variable {c : System}

lemma eq_of_item (ids : (rows.map fun row => row.item.taskId).Nodup) {a b : Row TaskBody} (left : a ∈ rows) (right : b ∈ rows)
    (same : a.item = b.item) : a = b :=
  List.inj_on_of_nodup_map ids left right (congrArg Item.taskId same)

lemma putIn_eq (ids : (rows.map fun row => row.item.taskId).Nodup) (within : row ∈ rows) : row.seq = putIn rows row.item := by
  obtain ⟨other, found⟩ := Option.isSome_iff_exists.1 (List.find?_isSome
    (p := fun other : Row TaskBody => other.item.taskId = row.item.taskId) |>.2 ⟨row, within, by simp⟩)
  have same : other.item.taskId = row.item.taskId := by simpa using List.find?_some found
  rw [putIn, found, List.inj_on_of_nodup_map ids (List.mem_of_find?_eq_some found) within same]
  rfl

lemma scanning_start (heap : Heap q) (ids : (q.ready.map fun row => row.item.taskId).Nodup) {good : Prop} :
    Scanning env worker jobs q.ready (putIn q.ready) good [] q := by
  have still : ∀ row ∈ q.ready ++ [], row.seq = putIn q.ready row.item := by
    intro row within
    rw [List.append_nil] at within
    exact putIn_eq ids within
  have same : ∀ row ∈ q.ready, begun (putIn q.ready) row = row := fun row within => begun_eq (putIn_eq ids within)
  refine ⟨⟨heap, heap.bound, by rwa [List.append_nil], List.forall_mem_nil _, fun row within => ?_,
    fun row within => .inl (still row within), fun row within => .inl (putIn_eq ids within), List.forall_mem_nil _,
    List.forall_mem_nil _, List.forall_mem_nil _, .nil⟩, ⟨fun row within => .inl ⟨row, List.mem_append_left _ within, same row within⟩,
    fun _ => still⟩, fun _ => ⟨fun a left b right ahead _ _ => ?_, fun a left moved => ?_, List.forall_mem_nil _, .nil⟩⟩
  · rw [List.append_nil] at within
    rwa [same row within]
  · rwa [same a left, same b right]
  · exact absurd (putIn_eq ids left) moved

lemma sublist_of_ahead {some all : List (Row TaskBody)} (sub : some ⊆ all) (left : some.Pairwise Ahead)
    (right : all.Pairwise Ahead) : some.Sublist all :=
  List.sublist_of_subperm_of_pairwise (List.subperm_of_subset left.nodup sub) left right

lemma Returned.ahead (back : Returned held q q') (order : InOrder env worker jobs rows old [] q')
    (stays : ∀ row ∈ q'.ready, ¬ LeavesQueue env worker jobs rows (begun old row)) :
    (q'.ready.map (begun old)).Pairwise Ahead := by
  refine List.pairwise_map.2 ((Heap.strict back.heap).imp_of_mem fun {a b} left right ahead => ?_)
  exact order.order a left b right ahead (stays a left) (stays b right)

lemma claimOrder_begun (old : Item TaskBody → ℕ) (ready : List (Row TaskBody)) : (ready.map (begun old)).map Row.item = ready.map Row.item := by
  rw [List.map_map]
  rfl

lemma Returned.there (back : Returned held q q') {other : Row TaskBody} (within : other ∈ q.ready ++ held)
    (is : begun old other = row) : ∃ other ∈ q'.ready, begun old other = row := by
  rcases List.mem_append.1 within with ready | aside
  · exact ⟨other, back.ready other ready, is⟩
  · obtain ⟨again, ready, item, rank, -⟩ := back.back other aside
    exact ⟨again, ready, (begun_congr item rank).trans is⟩

lemma invisible_of_inPlace (heap : Heap c.queue) (ids : (c.queue.ready.map fun row => row.item.taskId).Nodup)
    (condition : InPlace env worker c.jobs c.queue.ready) (n : ℕ) (few : c.queue.ready.length ≤ n) :
    let r := claimScan env p worker n [] c
    (r.1 = none → (∀ item ∈ claimOrder c, item ∈ claimOrder r.2) → claimOrder r.2 = claimOrder c) ∧
    ∀ task, r.1 = some task → (claimOrder r.2).Sublist (claimOrder c) ∧ task ∉ claimOrder r.2 ∧
      ∀ item ∈ claimOrder c, item ∈ claimOrder r.2 ∨ item = task ∨ scanned env worker c.jobs item = .drop ∨
        scanned env worker c.jobs item = .releaseAndDrop := by
  intro r
  have strict := Heap.strict heap
  have start : Scanning env worker c.jobs c.queue.ready (putIn c.queue.ready) (Matters env worker c.jobs c.queue.ready) []
    c.queue := scanning_start heap ids
  rcases claimScan_ends (p := p) heap.seqs (fun matters => ⟨condition, matters⟩) n [] c rfl start (.inl few) with
    ⟨held, q, scanning, result, queue, ends⟩ | ⟨held, q, row, q', scanning, served, take, result, queue⟩
  · refine ⟨fun _ remain => ?_, fun task is => ?_⟩
    swap
    · rw [show r.1 = none from result] at is
      cases is
    have back := scanning.scan.returned
    have final : Scan env worker c.jobs c.queue.ready (putIn c.queue.ready) [] (held.foldl putBack q) := back.scan scanning.scan
    have order_eq : claimOrder r.2 = (held.foldl putBack q).ready.map Row.item := by
      rw [claimOrder, show r.2.queue = held.foldl putBack q from queue]
    -- every row is there, so that none was dropped and none waits for another turn
    have present : ∀ row ∈ c.queue.ready, ∃ other ∈ q.ready ++ held, begun (putIn c.queue.ready) other = row := by
      intro row within
      by_contra absent
      have gone : Gone c.queue.ready (putIn c.queue.ready) held q :=
        ⟨row, within, fun other there is => absent ⟨other, there, is⟩⟩
      obtain ⟨row', member, none⟩ := back.gone gone
      have still := remain row'.item (List.mem_map_of_mem member)
      rw [order_eq] at still
      obtain ⟨other, there, item⟩ := List.mem_map.1 still
      exact none other (List.mem_append_left _ there)
        (eq_of_item ids (final.home other (List.mem_append_left _ there)) member item)
    have idle : ∀ row ∈ q.ready, row.item.due env.now = false := by
      rcases ends with idle | ⟨-, row, within, absent⟩
      · exact idle
      · obtain ⟨other, there, is⟩ := present row within
        exact absurd is (absent other there)
    have hold : ∀ row ∈ c.queue.ready, row.item.due env.now → scanned env worker c.jobs row.item = .hold := by
      intro row within due
      obtain ⟨other, there, rfl⟩ := present row within
      rcases List.mem_append.1 there with ready | aside
      · have not := idle other ready
        rw [show other.item.due env.now = true from due] at not
        cases not
      · exact (scanning.scan.kept other aside).2
    have stays : ∀ row ∈ c.queue.ready, ¬ LeavesQueue env worker c.jobs c.queue.ready row := by
      intro row within leaves
      have due : row.item.due env.now = true := by
        rcases leaves with ⟨reached, -⟩ | ⟨-, due, -⟩
        · exact reached.2.1
        · exact due
      exact not_leaves_of_hold (hold row within due) leaves
    have fits : Fits env worker c.jobs c.queue.ready (putIn c.queue.ready) held q := by
      intro a aside b ready stays rank
      have member := scanning.scan.home a (List.mem_append_right _ aside)
      have member' := scanning.scan.home b (List.mem_append_left _ ready)
      by_contra behind
      have less : putIn c.queue.ready a.item < putIn c.queue.ready b.item := by
        refine lt_of_le_of_ne (not_lt.1 behind) fun same => ?_
        have both := congrArg Row.item (List.inj_on_of_nodup_map heap.seqs member member' same)
        have ids' := scanning.scan.ids
        rw [List.map_append, List.nodup_append] at ids'
        exact ids'.2.2 _ (List.mem_map_of_mem ready) _ (List.mem_map_of_mem aside) (congrArg Item.taskId both.symm)
      obtain ⟨kept, -⟩ := condition (.inr hold) _ member _ member' (scanning.scan.kept a aside) stays rank less
      have not := idle b ready
      rw [show b.item.due env.now = true from kept.1.2.1] at not
      cases not
    have ahead := back.ahead (back.inOrder scanning.scan (scanning.order (.inr hold)) fits) fun row within =>
      stays _ (final.home row (List.mem_append_left _ within))
    have same : (held.foldl putBack q).ready.map (begun (putIn c.queue.ready)) = c.queue.ready := by
      refine List.Pairwise.eq_of_mem_iff ahead strict fun row => ⟨fun within => ?_, fun within => ?_⟩
      · obtain ⟨other, there, rfl⟩ := List.mem_map.1 within
        exact final.home other (List.mem_append_left _ there)
      · obtain ⟨other, there, is⟩ := present row within
        obtain ⟨again, ready, is'⟩ := back.there there is
        exact List.mem_map.2 ⟨again, ready, is'⟩
    rw [order_eq, claimOrder, ← claimOrder_begun (putIn c.queue.ready), same]
  · refine ⟨fun is => ?_, fun task is => ?_⟩
    · rw [show r.1 = some row.item from result] at is
      cases is
    obtain rfl : row.item = task := Option.some.inj ((show r.1 = some row.item from result).symm.trans is)
    obtain ⟨rest, apart⟩ := scanning.scan.serve served
    have back := rest.returned
    have final : Scan env worker c.jobs c.queue.ready (putIn c.queue.ready) [] (held.foldl putBack q') := back.scan rest
    have order_eq : claimOrder r.2 = (held.foldl putBack q').ready.map Row.item := by
      rw [claimOrder, show r.2.queue = held.foldl putBack q' from queue]
    have still : begun (putIn c.queue.ready) row = row :=
      begun_eq (scanning.scan.take_still served.within (by rw [take]; decide))
    have within : row ∈ c.queue.ready := still ▸ scanning.scan.home row (List.mem_append_left _ served.within)
    have matters : Matters env worker c.jobs c.queue.ready := .inl ⟨row, within, served.due, take⟩
    have fits := fits_of_served scanning.scan scanning.whole (scanning.order matters) served heap.seqs condition matters (.inl take)
    have stays : ∀ other ∈ (held.foldl putBack q').ready,
        ¬ LeavesQueue env worker c.jobs c.queue.ready (begun (putIn c.queue.ready) other) := by
      intro other there leaves
      rcases back.cases other there with ready | ⟨other', aside, item, rank, -⟩
      · -- what is due and not kept aside stands behind the task that is handed out
        have not : scanned env worker c.jobs (begun (putIn c.queue.ready) other).item ≠ .hold := fun hold =>
          not_leaves_of_hold hold leaves
        have same := begun_eq (rest.take_still ready not)
        rw [same] at leaves
        rcases leaves with ⟨reached, -⟩ | ⟨-, due, -, least⟩
        · exact (served.first other ready reached.2.1).asymm (reached.2.2 row within served.due take)
        · have ahead := served.first other ready due
          rcases least row within served.due take with rfl | ahead'
          · exact Ahead.irrefl ahead
          · exact ahead.asymm ahead'
      · rw [begun_congr item rank] at leaves
        exact not_leaves_of_hold (rest.kept other' aside).2 leaves
    have ahead := back.ahead (back.inOrder rest ((scanning.order matters).serve served) fits) stays
    refine ⟨?_, ?_, fun item member => ?_⟩
    · rw [order_eq, ← claimOrder_begun (putIn c.queue.ready)]
      refine (sublist_of_ahead (fun row' there => ?_) ahead strict).map Row.item
      obtain ⟨other, there', rfl⟩ := List.mem_map.1 there
      exact final.home other (List.mem_append_left _ there')
    · rw [order_eq]
      intro again
      obtain ⟨other, there, same⟩ := List.mem_map.1 again
      rcases back.cases other there with ready | ⟨other', aside, item, -, -⟩
      · exact apart other (List.mem_append_left _ ready) (congrArg Item.taskId same)
      · exact apart other' (List.mem_append_right _ aside) (congrArg Item.taskId (item.symm.trans same))
    · obtain ⟨row', there, rfl⟩ := List.mem_map.1 member
      rcases scanning.whole.all row' there with ⟨other, known, begun⟩ | ⟨-, drop⟩
      · rw [order_eq]
        have known' : other = row ∨ other ∈ q'.ready ++ held := by
          rcases List.mem_append.1 known with ready | aside
          · rcases (served.others other).1 ready with same | ready
            · exact .inl same
            · exact .inr (List.mem_append_left _ ready)
          · exact .inr (List.mem_append_right _ aside)
        rcases known' with rfl | known'
        · refine .inr (.inl ?_)
          rw [← begun]
          rfl
        · obtain ⟨again, ready, is'⟩ := back.there known' begun
          refine .inl (List.mem_map.2 ⟨again, ready, ?_⟩)
          rw [← is']
          rfl
      · exact .inr (.inr drop)

lemma ahead_of_sublist (strict : rows.Pairwise Ahead) (ids : (rows.map fun row => row.item.taskId).Nodup)
    {ready : List (Row TaskBody)} (heap : ready.Pairwise Ahead) (sub : (ready.map Row.item).Sublist (rows.map Row.item))
    {a b a' b' : Row TaskBody} (left : a' ∈ ready) (right : b' ∈ ready) (ahead : Ahead a' b') (member : a ∈ rows)
    (member' : b ∈ rows) (same : a'.item = a.item) (same' : b'.item = b.item) : Ahead a b := by
  have pair : [a', b'].Sublist ready := by
    refine sublist_of_ahead (fun row within => ?_) (List.pairwise_pair.2 ahead) heap
    rcases List.mem_cons.1 within with rfl | within
    · exact left
    · rwa [List.mem_singleton.1 within]
  obtain ⟨found, there, is⟩ := List.sublist_map_iff.1 ((pair.map Row.item).trans sub)
  obtain ⟨x, y, rfl⟩ := List.length_eq_two.1 (by simpa using (congrArg List.length is).symm)
  have both := List.pairwise_pair.1 (strict.sublist there)
  simp only [List.map_cons, List.map_nil, List.cons.injEq, and_true] at is
  rw [eq_of_item ids member (there.subset (by simp)) (same.symm.trans is.1),
    eq_of_item ids member' (there.subset (by simp)) (same'.symm.trans is.2)]
  exact both

lemma inPlace_of_invisible (heap : Heap c.queue) (ids : (c.queue.ready.map fun row => row.item.taskId).Nodup)
    (unbroken : Unbroken env worker c.jobs c.queue.ready) (n : ℕ) (few : c.queue.ready.length ≤ n)
    (idle : (claimScan env p worker n [] c).1 = none → (∀ item ∈ claimOrder c, item ∈ claimOrder (claimScan env p worker n [] c).2) →
      claimOrder (claimScan env p worker n [] c).2 = claimOrder c)
    (taken : ∀ task, (claimScan env p worker n [] c).1 = some task →
      (claimOrder (claimScan env p worker n [] c).2).Sublist (claimOrder c)) :
    InPlace env worker c.jobs c.queue.ready := by
  intro matters row within other within' kept stays rank less
  have strict := Heap.strict heap
  have start : Scanning env worker c.jobs c.queue.ready (putIn c.queue.ready) False [] c.queue := scanning_start heap ids
  by_contra apart
  have aside : ¬ KeptAside env worker c.jobs c.queue.ready other := fun kept' =>
    apart ⟨kept', fun between reached drop => absurd drop (unbroken between reached.1 reached)⟩
  -- where the first is kept aside and the second is not, they change places
  have flipped : ∀ (held : List (Row TaskBody)) (q : LocalQueue TaskBody),
      Scan env worker c.jobs c.queue.ready (putIn c.queue.ready) held q → (∀ row ∈ held, row.seq = putIn c.queue.ready row.item) →
      row ∈ held → other ∈ q.ready →
      ((held.foldl putBack q).ready.map Row.item).Sublist (claimOrder c) → False := by
    intro held q scan still there there' sub
    have back := scan.returned
    obtain ⟨again, ready, item, rank', later⟩ := back.back row there
    have behind : Ahead other again := by
      have := scan.heap.bound other there'
      unfold Ahead
      omega
    have ahead := ahead_of_sublist strict ids (Heap.strict back.heap) sub (back.ready other there') ready behind within' within rfl item
    unfold Ahead at ahead
    omega
  have known : ∀ {held q}, Scanning env worker c.jobs c.queue.ready (putIn c.queue.ready) False held q → ∀ row ∈ c.queue.ready,
      (scanned env worker c.jobs row.item ≠ .drop ∧ scanned env worker c.jobs row.item ≠ .releaseAndDrop ∨
        ¬ LeavesQueue env worker c.jobs c.queue.ready row) → row ∈ q.ready ++ held := by
    intro held q scanning row within not
    rcases scanning.whole.all row within with ⟨there, member, is⟩ | ⟨reached, drop⟩
    · rwa [← is, begun_eq (scanning.whole.unmoved unbroken there member)]
    · rcases not with ⟨no, no'⟩ | stays
      · rcases drop with drop | drop
        · exact absurd drop no
        · exact absurd drop no'
      · exact absurd (.inl ⟨reached, drop⟩) stays
  have hold : scanned env worker c.jobs row.item ≠ .drop ∧ scanned env worker c.jobs row.item ≠ .releaseAndDrop := by
    rw [kept.2]
    decide
  rcases claimScan_ends (p := p) heap.seqs (fun no => no.elim) n [] c rfl start (.inl few) with
    ⟨held, q, scanning, result, queue, ends⟩ | ⟨held, q, served, q', scanning, serves, take, result, queue⟩
  · have waits : ∀ row ∈ q.ready, row.item.due env.now = false := by
      rcases ends with waits | ⟨broken, -⟩
      · exact waits
      · exact absurd unbroken broken
    have order_eq : claimOrder (claimScan env p worker n [] c).2 = (held.foldl putBack q).ready.map Row.item := by
      rw [claimOrder]
      exact congrArg (fun q : LocalQueue TaskBody => q.ready.map Row.item) queue
    have all : ∀ row ∈ c.queue.ready, row.item.due env.now → scanned env worker c.jobs row.item = .hold := by
      rcases matters with ⟨take, there, due, is⟩ | all
      · have not := waits take (scanning.scan.take_ready scanning.whole there is)
        rw [due] at not
        cases not
      · exact all
    have there : row ∈ held := by
      rcases List.mem_append.1 (known scanning row within (.inl hold)) with ready | there
      · have not := waits row ready
        rw [kept.1.2.1] at not
        cases not
      · exact there
    have there' : other ∈ q.ready := by
      rcases List.mem_append.1 (known scanning other within' (.inr stays)) with ready | there'
      · exact ready
      · have := scanning.scan.kept other there'
        rw [begun_eq (scanning.whole.unmoved unbroken other (List.mem_append_right _ there'))] at this
        exact absurd this aside
    refine flipped held q scanning.scan (fun row within => scanning.whole.unmoved unbroken row (List.mem_append_right _ within))
      there there' ?_
    have same := idle result fun item member => ?_
    · rw [order_eq] at same
      rw [same]
    · obtain ⟨row', within'', rfl⟩ := List.mem_map.1 member
      rw [order_eq]
      have here : ∃ other ∈ q.ready ++ held, begun (putIn c.queue.ready) other = row' := by
        rcases scanning.whole.all row' within'' with here | ⟨reached, drop⟩
        · exact here
        · have := all row' within'' reached.2.1
          rcases drop with drop | drop
          all_goals
            rw [this] at drop
            cases drop
      obtain ⟨other', member', is⟩ := here
      obtain ⟨again, ready, is'⟩ := scanning.scan.returned.there member' is
      refine List.mem_map.2 ⟨again, ready, ?_⟩
      rw [← is']
      rfl
  · obtain ⟨rest, -⟩ := scanning.scan.serve serves
    have order_eq : claimOrder (claimScan env p worker n [] c).2 = (held.foldl putBack q').ready.map Row.item := by
      rw [claimOrder]
      exact congrArg (fun q : LocalQueue TaskBody => q.ready.map Row.item) queue
    have still : begun (putIn c.queue.ready) served = served :=
      begun_eq (scanning.scan.take_still serves.within (by rw [take]; decide))
    have ready : served ∈ c.queue.ready := still ▸ scanning.scan.home served (List.mem_append_left _ serves.within)
    have there : row ∈ held := by
      rcases List.mem_append.1 (known scanning row within (.inl hold)) with waits | there
      · rcases (serves.others row).1 waits with rfl | waits
        · rw [kept.2] at take
          cases take
        · exact absurd (kept.1.2.2 served ready serves.due take) (serves.first row waits kept.1.2.1).asymm
      · exact there
    have there' : other ∈ q'.ready := by
      rcases List.mem_append.1 (known scanning other within' (.inr stays)) with waits | there'
      · rcases (serves.others other).1 waits with rfl | waits
        · refine absurd (.inr ⟨within', serves.due, take, fun third member due is => ?_⟩) stays
          have := scanning.scan.served_ahead scanning.whole serves member due is
          rwa [still] at this
        · exact waits
      · have := scanning.scan.kept other there'
        rw [begun_eq (scanning.whole.unmoved unbroken other (List.mem_append_right _ there'))] at this
        exact absurd this aside
    refine flipped held q' rest (fun row within => scanning.whole.unmoved unbroken row (List.mem_append_right _ within)) there there' ?_
    have sub := taken served.item result
    rwa [order_eq] at sub

/-! ## Claims -/

/-- **A claim leaves the order of the others as it was**, where what it keeps aside goes back to its place; and only there,
unless rows are put back on the way. -/
theorem claim_leaves_order (env : Env) (p : Claim) (c : System) (heap : Heap c.queue)
    (ids : (c.queue.ready.map fun row => row.item.taskId).Nodup) :
    ((env.authorized → ∀ worker, admitted env p c = some worker → InPlace env worker c.jobs c.queue.ready) →
      Invisible env p c) ∧
    ((∀ worker, admitted env p c = some worker → Unbroken env worker c.jobs c.queue.ready) →
      (Invisible env p c ↔
        (env.authorized → ∀ worker, admitted env p c = some worker → InPlace env worker c.jobs c.queue.ready))) := by
  have few : c.queue.ready.length ≤ max 1 c.queue.ready.length := Nat.le_max_right _ _
  have enough : (env.authorized → ∀ worker, admitted env p c = some worker → InPlace env worker c.jobs c.queue.ready) →
      Invisible env p c := by
    intro condition
    rw [Invisible, claimTask]
    by_cases authorized : env.authorized = true
    · rw [if_neg (by rw [authorized]; decide)]
      rcases admits : admitted env p c with _ | worker
      · exact ⟨fun _ _ => rfl, fun task is => by cases is⟩
      · obtain ⟨idle, taken⟩ := invisible_of_inPlace (p := p) heap ids (condition authorized worker admits) _ few
        refine ⟨fun is => idle (Except.ok.inj is), fun task is => ?_⟩
        obtain ⟨sub, gone, others⟩ := taken task (Except.ok.inj is)
        refine ⟨sub, gone, fun worker' same => ?_⟩
        cases same
        exact others
    · rw [if_pos authorized]
      exact ⟨fun is => (by cases is), fun task is => (by cases is)⟩
  refine ⟨enough, fun unbroken => ⟨fun invisible authorized worker admits => ?_, enough⟩⟩
  rw [Invisible, claimTask, if_neg (by rw [authorized]; decide), admits] at invisible
  refine inPlace_of_invisible (p := p) heap ids (unbroken worker admits) _ few (fun is => ?_) fun task is => ?_
  · exact invisible.1 (congrArg Except.ok is)
  · exact (invisible.2 task (congrArg Except.ok is)).1

/-- A task is put in, and another of its priority that waits until 100. -/
def putBoth (first : Option Time) : List (Queue.Call TaskBody) :=
  [.enqueue 1 1 false { notBefore := first, payload := { jobId := 0 } },
    .enqueue 2 2 false { notBefore := some 100, payload := { jobId := 0 } }]

def delayed (first : Option Time) : System where
  jobs := (∅ : Dict JobId Job).set 0 { status := .assetGeneration }
  workers := (∅ : Dict NodeName Worker).set 7 { status := .ready }
  queue := (putBoth first).foldl LocalQueue.run {}
  nextId := 3

def Env.unable (now : Time) : Env := { Env.plain now with selects := fun _ _ _ => false }

/-- Both are due and kept aside, and go back in their order. -/
theorem claim_leaves_order_held : (claimTask (.unable 100) ⟨7, true, true⟩ (delayed none)).1 = .ok none ∧
    (claimOrder (claimTask (.unable 100) ⟨7, true, true⟩ (delayed none)).2).map Item.taskId = [1, 2] ∧
    Invisible (.unable 100) ⟨7, true, true⟩ (delayed none) := by
  refine ⟨by decide +kernel, by decide +kernel, ?_⟩
  refine (claim_leaves_order _ _ _ (heap_run _) (by decide +kernel)).1 fun _ worker admits => ?_
  have held : ∀ row ∈ (delayed none).queue.ready, row.item.due 100 = true ∧
      scanned (.unable 100) worker (delayed none).jobs row.item = .hold := by
    have all : ∀ worker ∈ admitted (.unable 100) ⟨7, true, true⟩ (delayed none), ∀ row ∈ (delayed none).queue.ready,
      row.item.due 100 = true ∧ scanned (.unable 100) worker (delayed none).jobs row.item = .hold := by decide +kernel
    exact all worker admits
  intro _ row within other within' kept stays same behind
  refine ⟨⟨⟨within', (held other within').1, fun third there _ take => ?_⟩, (held other within').2⟩,
    fun between reached release => ?_⟩
  · rw [(held third there).2] at take
    cases take
  · rw [(held between reached.1).2] at release
    cases release
/-- **A task that the worker cannot run** is put back behind one that waits. -/
theorem claim_moves_held : (claimTask (.unable 10) ⟨7, true, true⟩ (delayed none)).1 = .ok none ∧
    (claimOrder (delayed none)).map Item.taskId = [1, 2] ∧
    (claimOrder (claimTask (.unable 10) ⟨7, true, true⟩ (delayed none)).2).map Item.taskId = [2, 1] ∧
    ¬ Invisible (.unable 10) ⟨7, true, true⟩ (delayed none) := by
  have answer : (claimTask (.unable 10) ⟨7, true, true⟩ (delayed none)).1 = .ok none := by decide +kernel
  have before : (claimOrder (delayed none)).map Item.taskId = [1, 2] := by decide +kernel
  have after : (claimOrder (claimTask (.unable 10) ⟨7, true, true⟩ (delayed none)).2).map Item.taskId = [2, 1] := by
    decide +kernel
  have remain : ∀ item ∈ claimOrder (delayed none),
      item ∈ claimOrder (claimTask (.unable 10) ⟨7, true, true⟩ (delayed none)).2 := by decide +kernel
  refine ⟨answer, before, after, fun invisible => ?_⟩
  have same := congrArg (List.map Item.taskId) (invisible.1 answer remain)
  rw [after, before] at same
  exact absurd same (by decide)

end Vertep.Core
