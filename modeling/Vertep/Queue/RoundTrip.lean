import Vertep.Lib.Reach
import Vertep.Queue.Redis

/-!
# What Redis gives back (`core/queue.py`)

Every lease cycle of the Redis backend sends a task dict through Lua, so the copies of a task in the
ready set and in the hash need not be the dict that was enqueued. Whatever the run, a copy is the
enqueued dict or that dict recoded once (`AnyCopy`), and it is the enqueued one in every run exactly
when the dict survives Lua.
-/

namespace Vertep.Queue
open Lib

variable {rows z : List ZRow} {i x : Item Members} {uuid k : TaskId}

namespace RedisQueue

/-! ## Copies -/

/-- Every copy in the queue satisfies `P`, and the hash files each under its id. -/
structure All (P : Item Members → Prop) (q : RedisQueue) : Prop where
  ready : ∀ row ∈ q.ready, P row.item
  inflight : ∀ id d i, q.inflight.get? id = some (d, i) → i.taskId = id ∧ P i

def Has (q : RedisQueue) (id : TaskId) : Prop :=
  (∃ row ∈ q.ready, row.item.taskId = id) ∨ (q.inflight.get? id).isSome

variable {text : Item Members → String} {P : Item Members → Prop} {q : RedisQueue} {id : TaskId}

lemma zaddAll_all (h : ∀ r ∈ rows, P r.item) (hz : ∀ r ∈ z, P r.item) :
    ∀ r ∈ zaddAll text rows z, P r.item := by
  induction rows generalizing z with
  | nil => exact hz
  | cons r rows ih =>
    refine ih (fun r' hr' => h r' (List.mem_cons_of_mem _ hr')) ?_
    intro r' hr'
    rcases mem_zadd.1 hr' with rfl | ⟨hr', -⟩
    · exact h _ List.mem_cons_self
    · exact hz _ hr'

lemma exists_zadd (text : Item Members → String) (row : ZRow)
    (h : row.item.taskId = id ∨ ∃ r ∈ z, r.item.taskId = id) : ∃ r ∈ zadd text row z, r.item.taskId = id := by
  rcases h with h | ⟨r, hr, h⟩
  · exact ⟨row, mem_zadd.2 (.inl rfl), h⟩
  · by_cases e : r.item = row.item
    · exact ⟨row, mem_zadd.2 (.inl rfl), by rw [← e, h]⟩
    · exact ⟨r, mem_zadd.2 (.inr ⟨hr, e⟩), h⟩

lemma exists_zaddAll (h : ∃ r ∈ rows ++ z, r.item.taskId = id) :
    ∃ r ∈ zaddAll text rows z, r.item.taskId = id := by
  induction rows generalizing z with
  | nil => exact h
  | cons row rows ih =>
    refine ih ?_
    obtain ⟨r, hr, h⟩ := h
    rcases List.mem_cons.1 hr with rfl | hr
    · obtain ⟨r', hr', h'⟩ := exists_zadd text r (z := z) (.inl h)
      exact ⟨r', List.mem_append_right _ hr', h'⟩
    · rcases List.mem_append.1 hr with hr | hr
      · exact ⟨r, List.mem_append_left _ hr, h⟩
      · obtain ⟨r', hr', h'⟩ := exists_zadd text row (.inr ⟨r, hr, h⟩)
        exact ⟨r', List.mem_append_right _ hr', h'⟩

lemma All.set (a : All P q) {d : ℚ} (h : P i) :
    All P { q with inflight := q.inflight.set i.taskId (d, i) } where
  ready := a.ready
  inflight k d' i' hg := by
    simp only [Dict.get?_set] at hg
    split at hg
    · rename_i e
      cases hg
      exact ⟨e, h⟩
    · exact a.inflight k d' i' hg

lemma All.ack (a : All P q) (id : TaskId) : All P (q.ack id) where
  ready := a.ready
  inflight k d i hg := by
    simp only [RedisQueue.ack, Dict.get?_pop] at hg
    split at hg
    · cases hg
    · exact a.inflight k d i hg

lemma All.discard (a : All P q) (id : TaskId) : All P (q.discard id) where
  ready row hr := a.ready row (List.mem_filter.1 hr).1
  inflight := (a.ack id).inflight

lemma All.enqueue (a : All P q) {now : Time} {newAttempt : Bool}
    {task : Task Members} (h : P (stamp now uuid newAttempt task)) :
    All P (q.enqueue text now uuid newAttempt task).2 where
  ready row hr := by
    rcases mem_zadd.1 hr with rfl | ⟨hr, -⟩
    · exact h
    · exact a.ready row hr
  inflight := a.inflight

section
variable (closed : ∀ i, P i → P i.recode)
include closed

lemma All.claim (a : All P q) (now : Time) (lease : ℚ) : All P (q.claim text now lease).2 := by
  have p := zscan_perm now 100 q.ready []
  rw [List.nil_append] at p
  unfold RedisQueue.claim
  split
  · rename_i z deferred hs
    rw [hs] at p
    refine ⟨?_, a.inflight⟩
    exact zaddAll_all (fun r hr => a.ready r (p.subset (by simp [hr])))
      (fun r hr => a.ready r (p.subset (by simp [hr])))
  · rename_i row z deferred hs
    rw [hs] at p
    have served : P row.item := a.ready row (p.subset (by simp))
    refine ⟨?_, (a.set (i := row.item.recode) (closed _ served)).inflight⟩
    exact zaddAll_all (fun r hr => a.ready r (p.subset (by simp [hr])))
      (fun r hr => a.ready r (p.subset (by simp [hr])))

lemma All.renew (a : All P q) (id : TaskId) (now : Time) (lease : ℚ) :
    All P (q.renew id now lease).2 := by
  unfold RedisQueue.renew
  split
  · exact a
  · rename_i d i hg
    obtain ⟨rfl, h⟩ := a.inflight _ _ _ hg
    exact a.set (i := i.recode) (closed _ h)

lemma All.putBack (a : All P q) (id : TaskId) {task : Item Members} (h : P task) :
    All P (q.putBack text id task) where
  ready row hr := by
    rcases mem_zadd.1 hr with rfl | ⟨hr, -⟩
    · exact closed _ h
    · exact a.ready row hr
  inflight := (a.ack id).inflight

lemma All.release (a : All P q) (id : TaskId) : All P (q.release text id).2 := by
  unfold RedisQueue.release
  split
  · exact a
  · rename_i d i hg
    exact a.putBack closed id (a.inflight _ _ _ hg).2

lemma All.putBackAll (a : All P q) {rows : List (TaskId × ℚ × Item Members)}
    (h : ∀ e ∈ rows, P e.2.2) : All P (rows.foldl (fun q e => q.putBack text e.1 e.2.2) q) := by
  induction rows generalizing q with
  | nil => exact a
  | cons e rows ih =>
    refine ih (a.putBack closed e.1 (h e List.mem_cons_self)) ?_
    exact fun e' he' => h e' (List.mem_cons_of_mem _ he')

end

lemma mem_expired {current : Time} {e : TaskId × ℚ × Item Members} (h : e ∈ q.expired current) :
    q.inflight.get? e.1 = some e.2 :=
  Dict.mem_entries_iff.1 (List.mem_filter.1 h).1

lemma All.requeueExpired (closed : ∀ i, P i → P i.recode) (a : All P q) (clock : Time)
    (now : Option Time) : All P (q.requeueExpired text clock now).2 :=
  a.putBackAll closed (fun _ he => (a.inflight _ _ _ (mem_expired he)).2)

/-! ## A task is not lost -/

lemma Has.enqueue (h : q.Has id) (now : Time) (uuid : TaskId) (newAttempt : Bool)
    (task : Task Members) : (q.enqueue text now uuid newAttempt task).2.Has id := by
  rcases h with h | h
  · exact .inl (exists_zadd text _ (.inr h))
  · exact .inr h

lemma Has.claim (h : q.Has id) (now : Time) (lease : ℚ) : (q.claim text now lease).2.Has id := by
  have p := zscan_perm now 100 q.ready []
  rw [List.nil_append] at p
  unfold RedisQueue.claim
  split
  · rename_i z deferred hs
    rw [hs] at p
    rcases h with ⟨r, hr, h⟩ | h
    · refine .inl (exists_zaddAll ⟨r, ?_, h⟩)
      simpa using p.symm.subset hr
    · exact .inr h
  · rename_i row z deferred hs
    rw [hs] at p
    by_cases e : row.item.taskId = id
    · right
      simp [e]
    · rcases h with ⟨r, hr, h⟩ | h
      · left
        refine exists_zaddAll ⟨r, ?_, h⟩
        rcases List.mem_append.1 (p.symm.subset hr) with hr | hr
        · refine absurd ?_ e
          rw [← List.mem_singleton.1 hr, h]
        · exact hr
      · right
        simpa [e] using h

lemma Has.renew (h : q.Has id) (k : TaskId) (now : Time) (lease : ℚ) :
    (q.renew k now lease).2.Has id := by
  unfold RedisQueue.renew
  split
  · exact h
  · rcases h with h | h
    · exact .inl h
    · right
      simp only [Dict.get?_set]
      split
      · rfl
      · exact h

lemma Has.putBack (h : q.Has id) (text : Item Members → String) (task : Item Members) :
    (q.putBack text task.taskId task).Has id := by
  by_cases e : task.taskId = id
  · exact .inl (exists_zadd text _ (.inl e))
  · rcases h with h | h
    · exact .inl (exists_zadd text _ (.inr h))
    · right
      simpa [RedisQueue.putBack, e] using h

lemma Has.release (a : All P q) (h : q.Has id) (k : TaskId) : (q.release text k).2.Has id := by
  unfold RedisQueue.release
  split
  · exact h
  · rename_i d i hg
    obtain ⟨rfl, -⟩ := a.inflight _ _ _ hg
    exact h.putBack text i

lemma Has.putBackAll {rows : List (TaskId × ℚ × Item Members)} (h : q.Has id)
    (filed : ∀ e ∈ rows, e.2.2.taskId = e.1) :
    (rows.foldl (fun q e => q.putBack text e.1 e.2.2) q).Has id := by
  induction rows generalizing q with
  | nil => exact h
  | cons e rows ih =>
    refine ih ?_ (fun e' he' => filed e' (List.mem_cons_of_mem _ he'))
    have back := h.putBack text e.2.2
    rwa [filed e List.mem_cons_self] at back

lemma Has.requeueExpired (a : All P q) (h : q.Has id) (clock : Time) (now : Option Time) :
    (q.requeueExpired text clock now).2.Has id :=
  h.putBackAll (fun _ he => (a.inflight _ _ _ (mem_expired he)).1)

lemma Has.ack (h : q.Has id) (ne : k ≠ id) : (q.ack k).Has id := by
  rcases h with h | h
  · exact .inl h
  · right
    simpa [RedisQueue.ack, ne] using h

lemma Has.discard (h : q.Has id) (ne : k ≠ id) : (q.discard k).Has id := by
  rcases h with ⟨r, hr, h⟩ | h
  · left
    refine ⟨r, List.mem_filter.2 ⟨hr, ?_⟩, h⟩
    simpa [h] using ne.symm
  · right
    simpa [RedisQueue.discard, RedisQueue.ack, ne] using h

/-- `find` of an id that is there returns a copy. -/
lemma find_of_has (a : All P q) (h : q.Has id) : ∃ i, q.find id = some i ∧ i.taskId = id ∧ P i := by
  unfold find
  cases hg : q.inflight.get? id with
  | some r =>
    obtain ⟨d, i⟩ := r
    exact ⟨i, rfl, a.inflight _ _ _ hg⟩
  | none =>
    rcases h with ⟨r, hr, h⟩ | h
    · cases hf : q.ready.find? (fun row => row.item.taskId = id) with
      | none => simpa [h] using List.find?_eq_none.1 hf r hr
      | some row =>
        have hid := List.find?_some hf
        simp only [decide_eq_true_eq] at hid
        exact ⟨row.item, rfl, hid, a.ready _ (List.mem_of_find?_eq_some hf)⟩
    · rw [hg] at h
      cases h

end RedisQueue

/-! ## Runs -/

section
variable (text : Item Members → String)

/-- A new task has an id that no task of the queue has. -/
def Call.Fresh (q : RedisQueue) : Call Members → Prop
  | .enqueue now uuid newAttempt task => ¬ q.Has (stamp now uuid newAttempt task).taskId
  | _ => True

def RedisStep (q q' : RedisQueue) : Prop := ∃ c : Call Members, c.Fresh q ∧ q' = q.run text c

/-- Any call but an `ack` or `discard` of the task `id`. -/
def KeepStep (id : TaskId) (q q' : RedisQueue) : Prop :=
  ∃ c : Call Members, c.Fresh q ∧ c ≠ .ack id ∧ c ≠ .discard id ∧ q' = q.run text c

/-- Whenever `i` is enqueued, every later look at it gives `i`, as long as it is in the queue. -/
def RoundTrips (i : Item Members) : Prop :=
  ∀ q₀, Reach (· = {}) (RedisStep text) q₀ → ¬ q₀.Has i.taskId →
  ∀ now uuid newAttempt task, stamp now uuid newAttempt task = i →
  ∀ q, Reach (· = (q₀.enqueue text now uuid newAttempt task).2) (KeepStep text i.taskId) q →
    q.find i.taskId = some i ∧ (∀ x ∈ q.inflightTasks, x.taskId = i.taskId → x = i) ∧
    ∀ now lease x, (q.claim text now lease).1 = some x → x.taskId = i.taskId → x = i

end

variable {text : Item Members → String} {q : RedisQueue}

/-- A copy of `i` is `i` itself or `i` recoded. -/
def AnyCopy (i x : Item Members) : Prop := x.taskId = i.taskId → x = i ∨ x = i.recode

lemma AnyCopy.recode (h : AnyCopy i x) : AnyCopy i x.recode := by
  intro e
  rcases h e with rfl | rfl
  · exact .inr rfl
  · exact .inr (by simp)

lemma RedisQueue.All.run {P : Item Members → Prop} (a : q.All P) (closed : ∀ i, P i → P i.recode)
    {c : Call Members} (fresh : c.Fresh q) (new : ∀ i : Item Members, ¬ q.Has i.taskId → P i) :
    (q.run text c).All P := by
  cases c with
  | enqueue now uuid newAttempt task => exact a.enqueue (new _ fresh)
  | claim now lease => exact a.claim closed now lease
  | ack id => exact a.ack id
  | renew id now lease => exact a.renew closed id now lease
  | release id now uuid => exact a.release closed id
  | requeueExpired clock now uuid => exact a.requeueExpired closed clock now
  | discard id => exact a.discard id

/-- No call but its own `ack` or `discard` takes a task out. -/
lemma RedisQueue.Has.run {P : Item Members → Prop} (a : q.All P) {id : TaskId} (h : q.Has id)
    {c : Call Members} (ack : c ≠ .ack id) (discard : c ≠ .discard id) : (q.run text c).Has id := by
  cases c with
  | enqueue now uuid newAttempt task => exact h.enqueue now uuid newAttempt task
  | claim now lease => exact h.claim now lease
  | ack k => exact h.ack (fun e => ack (by rw [e]))
  | renew k now lease => exact h.renew k now lease
  | release k now uuid => exact h.release a k
  | requeueExpired clock now uuid => exact h.requeueExpired a clock now
  | discard k => exact h.discard (fun e => discard (by rw [e]))

lemma reach_all {q : RedisQueue} (r : Reach (· = {}) (RedisStep text) q) : q.All (fun _ => True) := by
  refine r.invariant (I := fun q => q.All (fun _ => True)) ?_ ?_
  · intro s hs
    subst hs
    exact ⟨fun _ h => (List.not_mem_nil h).elim, fun _ _ _ h => by cases h⟩
  · intro s s' a ⟨c, fresh, e⟩
    rw [e]
    exact a.run (fun _ _ => trivial) fresh (fun _ _ => trivial)

/-- After the enqueue of `i` the queue has a copy of it, and all copies of it are known. -/
lemma all_anyCopy_enqueue {q₀ : RedisQueue} (a : q₀.All (fun _ => True))
    (new : ¬ q₀.Has i.taskId) {now : Time} {newAttempt : Bool} {task : Task Members}
    (e : stamp now uuid newAttempt task = i) :
    (q₀.enqueue text now uuid newAttempt task).2.All (AnyCopy i) ∧
      (q₀.enqueue text now uuid newAttempt task).2.Has i.taskId := by
  subst e
  have old : q₀.All (AnyCopy (stamp now uuid newAttempt task)) := by
    refine ⟨fun row hr he => absurd (.inl ⟨row, hr, he⟩) new, fun id d x hg => ?_⟩
    refine ⟨(a.inflight id d x hg).1, fun he => absurd (.inr ?_) new⟩
    rw [← he, (a.inflight id d x hg).1, hg]
    rfl
  refine ⟨old.enqueue (fun _ => .inl rfl), .inl ?_⟩
  exact RedisQueue.exists_zadd text _ (.inl rfl)

lemma reach_anyCopy {q₁ : RedisQueue} (start : q₁.All (AnyCopy i) ∧ q₁.Has i.taskId)
    (r : Reach (· = q₁) (KeepStep text i.taskId) q) : q.All (AnyCopy i) ∧ q.Has i.taskId := by
  refine r.invariant (I := fun q => q.All (AnyCopy i) ∧ q.Has i.taskId) ?_ ?_
  · intro s hs
    subst hs
    exact start
  · intro s s' ⟨a, has⟩ ⟨c, fresh, ack, discard, e⟩
    rw [e]
    refine ⟨a.run (fun _ h => h.recode) fresh (fun x new ex => ?_), has.run a ack discard⟩
    rw [ex] at new
    exact absurd has new

lemma mem_of_claim {now : Time} {lease : ℚ}
    (h : (q.claim text now lease).1 = some x) : ∃ row ∈ q.ready, row.item = x := by
  have p := zscan_perm now 100 q.ready []
  unfold RedisQueue.claim at h
  split at h
  · cases h
  · rename_i row z deferred hs
    cases h
    rw [hs] at p
    exact ⟨row, p.subset (by simp), rfl⟩

lemma survives_of_roundTrips (h : RoundTrips text i) : i.Survives := by
  -- enqueue into the empty queue, then claim when it is due
  have none : ¬ ({} : RedisQueue).Has i.taskId := by
    rintro (⟨r, hr, -⟩ | h)
    · cases hr
    · cases h
  have r1 : Reach (· = (({} : RedisQueue).enqueue text 0 0 false i.toTask).2)
      (KeepStep text i.taskId) (({} : RedisQueue).enqueue text 0 0 false i.toTask).2 := .init rfl
  have due : i.luaDue (i.notBefore.getD 0) := by
    unfold Item.luaDue
    split <;> simp_all
  have look := (h {} (.init rfl) none 0 0 false i.toTask rfl _
    (r1.step ⟨.claim (i.notBefore.getD 0) 0, trivial, nofun, nofun, rfl⟩)).1
  rw [← Item.recode_eq_self]
  simpa [RedisQueue.run, RedisQueue.enqueue, RedisQueue.claim, RedisQueue.find, zadd, zscan, stamp, Item.toTask, due]
    using look

/-- A task comes back from Redis as it was enqueued, in every run, exactly when it survives Lua. -/
theorem redis_round_trips_iff (text : Item Members → String) (i : Item Members) :
    RoundTrips text i ↔ i.Survives := by
  constructor
  · exact survives_of_roundTrips
  · intro sv q₀ r₀ new now uuid newAttempt task e q r
    obtain ⟨a, has⟩ := reach_anyCopy (all_anyCopy_enqueue (reach_all r₀) new e) r
    have same : ∀ x, AnyCopy i x → x.taskId = i.taskId → x = i := by
      intro x hx ex
      rcases hx ex with rfl | rfl
      · rfl
      · exact Item.recode_eq_self.2 sv
    refine ⟨?_, ?_, ?_⟩
    · obtain ⟨x, hf, ex, hx⟩ := RedisQueue.find_of_has a has
      rw [hf, same x hx ex]
    · intro x hx ex
      obtain ⟨⟨d, y⟩, hy, rfl⟩ := List.mem_map.1 hx
      obtain ⟨⟨k, r⟩, he, e'⟩ := List.mem_map.1 hy
      simp only at e'
      subst e'
      exact same _ (a.inflight k d y (Dict.mem_entries_iff.1 he)).2 ex
    · intro now lease x hx ex
      obtain ⟨row, hr, rfl⟩ := mem_of_claim hx
      exact same _ (a.ready row hr) ex

/-- An empty list of materials comes back as an empty object. -/
theorem redis_loses_empty_list :
    ¬ RoundTrips (fun _ => "") ⟨1, 5, 1700000000, none, .cons "materials" (.arr .nil) .nil⟩ := by
  intro h
  have sv := (survives_of_roundTrips h).payload
  simp [Members.Survives, Json.Survives] at sv

end Vertep.Queue
