import Vertep.Lib.Custody
import Vertep.Lib.Reach
import Vertep.Queue.Json

/-!
# Dead letters in Redis

Embedding of `dead_letter` and `requeue_dead_letter` of `core/queue.py` on the Redis route, where each
is several commands on the list `vertep:tasks:dead` and the commands of concurrent calls interleave.
A call is a program counter `Pc`: `dead_letter` sends `HDEL` and `RPUSH`, `requeue_dead_letter` sends
`LRANGE`, `LSET` at the index at which it read its entry, `LREM` of the sentinel `__removed__` and
`ZADD`. A `requeue_dead_letter` that meets a sentinel in what it read ends in the error of
`json.loads`, and an `LSET` past the end of the list ends it in Redis' error.

An entry carries a number `tok` that no command reads: it tells two entries with one text apart.
-/

namespace Vertep.Queue
open Lib

abbrev CallId := ℕ

/-- A dead-letter entry, the `tok`-th one that was pushed. -/
structure Entry where
  tok : ℕ
  letter : DeadLetter Members

/-- An element of the dead list. -/
inductive Slot where
  | entry (e : Entry)
  | removed

def Slot.isRemoved : Slot → Bool
  | .removed => true
  | .entry _ => false

def Slot.entry? : Slot → Option Entry
  | .removed => none
  | .entry e => some e

/-- Where a call stands. -/
inductive Pc where
  | idle
  | pushing (letter : DeadLetter Members)
  | found (index : ℕ) (e : Entry)
  | marked (e : Entry)
  | unlinked (e : Entry)

/-- The entry a call has taken out of the list and not yet re-enqueued. -/
def Pc.hand : Pc → Option Entry
  | .marked e | .unlinked e => some e
  | _ => none

/-- The keys of Redis that the commands touch, and the calls under way. -/
structure DeadBox where
  dead : List Slot
  inflight : List TaskId
  requeued : List (Entry × Item Members)
  calls : CallId → Pc
  pushed : ℕ

/-- The loop over the rows of `LRANGE`: the first entry of that id and its index, unless a row before
it does not parse. -/
def findEntry (id : TaskId) : ℕ → List Slot → Pc
  | _, [] => .idle
  | _, .removed :: _ => .idle
  | k, .entry e :: rows => if e.letter.task.taskId = some id then .found k e else findEntry id (k + 1) rows

namespace DeadBox

variable (s : DeadBox)

def set (c : CallId) (pc : Pc) : CallId → Pc := Function.update s.calls c pc

/-- `LSET` of the sentinel, and the error of Redis past the end. -/
def lset (c : CallId) (index : ℕ) (e : Entry) : DeadBox :=
  if index < s.dead.length then
    { s with dead := s.dead.set index .removed, calls := s.set c (.marked e) }
  else { s with calls := s.set c .idle }

end DeadBox

/-- One command of one call, where an `LSET` is sent only if `ok`. -/
inductive Command (ok : DeadBox → ℕ → Entry → Prop) (s : DeadBox) : DeadBox → Prop where
  | hdel (c : CallId) (task : Task Members) (error : Option String) (now : Time) :
    s.calls c = .idle →
    Command ok s { s with
      inflight := s.inflight.filter (fun id => task.taskId ≠ some id)
      calls := s.set c (.pushing ⟨task, error, now⟩) }
  | rpush (c : CallId) {letter : DeadLetter Members} : s.calls c = .pushing letter →
    Command ok s { s with
      dead := s.dead ++ [.entry ⟨s.pushed, letter⟩], calls := s.set c .idle, pushed := s.pushed + 1 }
  | lrange (c : CallId) (id : TaskId) : s.calls c = .idle →
    Command ok s { s with calls := s.set c (findEntry id 0 s.dead) }
  | lset (c : CallId) {index : ℕ} {e : Entry} : s.calls c = .found index e → ok s index e →
    Command ok s (s.lset c index e)
  | lrem (c : CallId) {e : Entry} : s.calls c = .marked e →
    Command ok s { s with dead := s.dead.eraseP Slot.isRemoved, calls := s.set c (.unlinked e) }
  | zadd (c : CallId) {e : Entry} (now : Time) (uuid : TaskId) : s.calls c = .unlinked e →
    Command ok s { s with
      requeued := s.requeued ++ [(e, stamp now uuid true e.letter.task)], calls := s.set c .idle }

def DeadBox.Start (s : DeadBox) : Prop :=
  s.dead = [] ∧ s.requeued = [] ∧ s.pushed = 0 ∧ ∀ c, s.calls c = .idle

/-- The row at the index is still the one the call read, or the list now ends before it. -/
def Undisturbed (s : DeadBox) (index : ℕ) (e : Entry) : Prop :=
  s.dead[index]? = some (.entry e) ∨ s.dead[index]? = none

namespace DeadBox

variable (s : DeadBox)

def entries : List Entry := s.dead.filterMap Slot.entry?

def requeuedToks : List ℕ := s.requeued.map (fun p => p.1.tok)

def hand (c : CallId) : Option ℕ := (s.calls c).hand.map Entry.tok

/-- Every entry is at one place, and what was re-enqueued is the task of its entry. -/
structure Kept : Prop where
  custody : Custody (s.entries.map Entry.tok) s.hand s.requeuedToks s.pushed
  task : ∀ p ∈ s.requeued, ∃ now uuid, p.2 = stamp now uuid true p.1.letter.task

end DeadBox

/-! ## What each command does -/

section
variable {s : DeadBox}

lemma findEntry_hand (id : TaskId) (k : ℕ) (rows : List Slot) : (findEntry id k rows).hand = none := by
  induction rows generalizing k with
  | nil => rfl
  | cons row rows ih =>
    cases row with
    | removed => rfl
    | entry e =>
      simp only [findEntry]
      split
      · rfl
      · exact ih _

lemma hand_set (c : CallId) (pc : Pc) :
    (fun c' => (s.set c pc c').hand.map Entry.tok) =
      Function.update s.hand c (pc.hand.map Entry.tok) := by
  funext c'
  by_cases e : c' = c
  · subst e
    simp [DeadBox.set]
  · simp [DeadBox.set, DeadBox.hand, e]

lemma hand_set_same (c : CallId) (pc : Pc) (h : pc.hand = (s.calls c).hand) :
    (fun c' => (s.set c pc c').hand.map Entry.tok) = s.hand := by
  rw [hand_set, h]
  exact Function.update_eq_self c s.hand

/-- `LREM` of the sentinel touches no entry. -/
lemma entries_lrem (rows : List Slot) :
    (rows.eraseP Slot.isRemoved).filterMap Slot.entry? = rows.filterMap Slot.entry? := by
  induction rows with
  | nil => rfl
  | cons row rows ih =>
    cases row with
    | removed => rfl
    | entry e =>
      rw [List.eraseP_cons_of_neg (by simp [Slot.isRemoved])]
      simp [Slot.entry?, ih]

/-- `LSET` over an entry takes it out and leaves the others. -/
lemma entries_lset {rows : List Slot} {index : ℕ} {e : Entry} (h : rows[index]? = some (.entry e)) :
    (rows.filterMap Slot.entry?).Perm
      (e :: (rows.set index .removed).filterMap Slot.entry?) := by
  induction rows generalizing index with
  | nil => cases h
  | cons row rows ih =>
    cases index with
    | zero =>
      obtain rfl : row = .entry e := by simpa using h
      exact .refl _
    | succ index =>
      have p := @ih index (by simpa using h)
      cases row with
      | removed => exact p
      | entry e' =>
        simp only [List.set_cons_succ, Slot.entry?]
        exact (p.cons e').trans (List.Perm.swap e e' _)

/-- Every command whose `LSET` is undisturbed keeps each entry at one place. -/
lemma DeadBox.Kept.command {s' : DeadBox} (k : s.Kept) (cmd : Command Undisturbed s s') : s'.Kept := by
  have moved := k.custody
  cases cmd with
  | hdel c task error now h =>
    refine ⟨?_, k.task⟩
    rw [← hand_set_same c (.pushing ⟨task, error, now⟩) (by rw [h]; rfl)] at moved
    exact moved
  | rpush c h =>
    refine ⟨?_, k.task⟩
    rw [← hand_set_same c .idle (by rw [h]; rfl)] at moved
    simp only [DeadBox.entries, List.filterMap_append, List.map_append]
    exact moved.push
  | lrange c id h =>
    refine ⟨?_, k.task⟩
    rw [← hand_set_same c (findEntry id 0 s.dead) (by rw [h, findEntry_hand]; rfl)]
      at moved
    exact moved
  | @lset c index e h ok =>
    unfold DeadBox.lset
    split
    · rename_i lt
      refine ⟨?_, k.task⟩
      have here : s.dead[index]? = some (.entry e) := by
        rcases ok with ok | ok
        · exact ok
        · rw [List.getElem?_eq_none_iff] at ok
          omega
      have free : s.hand c = none := by simp [DeadBox.hand, h, Pc.hand]
      have hands : _ = Function.update s.hand c (some e.tok) := hand_set c (.marked e)
      have taken := moved.take free ((entries_lset here).map Entry.tok)
      rw [← hands] at taken
      exact taken
    · refine ⟨?_, k.task⟩
      rw [← hand_set_same c .idle (by rw [h]; rfl)] at moved
      exact moved
  | @lrem c e h =>
    refine ⟨?_, k.task⟩
    rw [← hand_set_same c (.unlinked e) (by rw [h]; rfl)] at moved
    simp only [DeadBox.entries, entries_lrem]
    exact moved
  | @zadd c e now uuid h =>
    refine ⟨?_, ?_⟩
    · have held : s.hand c = some e.tok := by simp [DeadBox.hand, h, Pc.hand]
      have hands : _ = Function.update s.hand c none := hand_set c .idle
      have given := moved.give held
      rw [← hands] at given
      simp only [DeadBox.requeuedToks, List.map_append]
      exact given
    · intro p hp
      rcases List.mem_append.1 hp with hp | hp
      · exact k.task p hp
      · rw [List.mem_singleton.1 hp]
        exact ⟨now, uuid, rfl⟩

lemma Command.entries {s' : DeadBox} (cmd : Command Undisturbed s s') {e : Entry}
    (h : e ∈ s.entries) :
    e ∈ s'.entries ∨ ∃ c index, s.calls c = .found index e ∧ s'.calls c = .marked e := by
  cases cmd with
  | hdel c task error now _ => exact .inl h
  | rpush c _ =>
    left
    simp only [DeadBox.entries, List.filterMap_append]
    exact List.mem_append_left _ h
  | lrange c id _ => exact .inl h
  | @lset c index e' hc ok =>
    unfold DeadBox.lset
    split
    · rename_i lt
      have here : s.dead[index]? = some (.entry e') := by
        rcases ok with ok | ok
        · exact ok
        · rw [List.getElem?_eq_none_iff] at ok
          omega
      rcases List.mem_cons.1 ((entries_lset here).mem_iff.1 h) with rfl | h
      · exact .inr ⟨c, index, hc, by simp [DeadBox.set]⟩
      · exact .inl h
    · exact .inl h
  | lrem c _ =>
    left
    simp only [DeadBox.entries, entries_lrem]
    exact h
  | zadd c now uuid _ => exact .inl h

end

/-! ## Runs -/

/-- The `t`-th entry is in the dead list, or it was re-enqueued, once. -/
def DeadBox.Settled (s : DeadBox) (t : ℕ) : Prop :=
  (s.entries.map Entry.tok).count t = 1 ∧ s.requeuedToks.count t = 0 ∨
  (s.entries.map Entry.tok).count t = 0 ∧ s.requeuedToks.count t = 1

lemma DeadBox.Kept.settled_iff {s : DeadBox} (k : s.Kept) (t : ℕ) :
    s.Settled t ↔ t ∈ s.entries.map Entry.tok ∨ t ∈ s.requeuedToks := by
  constructor
  · intro h
    rcases h with h | h
    · exact .inl (List.one_le_count_iff.1 h.1.ge)
    · exact .inr (List.one_le_count_iff.1 h.2.ge)
  · intro h
    rcases h with h | h
    · exact .inl ⟨List.count_eq_one_of_mem k.custody.storeOnce h,
        List.count_eq_zero.2 (k.custody.store_delivered h)⟩
    · refine .inr ⟨List.count_eq_zero.2 (fun h' => k.custody.store_delivered h' h), ?_⟩
      exact List.count_eq_one_of_mem k.custody.deliveredOnce h

/-- In every interleaving in which each `LSET` is undisturbed, every entry is in the list, in the
hands of one call or re-enqueued, once; it is in the list or re-enqueued exactly when no call stands
between its `LSET` and its `ZADD`; and a command takes out no entry but the one its call re-enqueues,
under whose task the new attempt runs. -/
theorem dead_letters_settled {s : DeadBox} (r : Reach DeadBox.Start (Command Undisturbed) s) :
    Custody (s.entries.map Entry.tok) s.hand s.requeuedToks s.pushed ∧
    ((∀ c, s.hand c = none) ↔ ∀ t < s.pushed, s.Settled t) ∧
    (∀ p ∈ s.requeued, ∃ now uuid, p.2 = stamp now uuid true p.1.letter.task) ∧
    ∀ s', Command Undisturbed s s' → ∀ e ∈ s.entries,
      e ∈ s'.entries ∨ ∃ c index, s.calls c = .found index e ∧ s'.calls c = .marked e := by
  have k : s.Kept := by
    refine r.invariant (I := DeadBox.Kept) ?_ (fun _ _ k cmd => k.command cmd)
    intro s ⟨dead, requeued, pushed, idle⟩
    have hands : s.hand = fun _ => none := by
      funext c
      simp [DeadBox.hand, idle c, Pc.hand]
    refine ⟨?_, by simp [requeued]⟩
    simp only [DeadBox.entries, DeadBox.requeuedToks, dead, requeued, pushed, hands]
    exact Custody.empty
  refine ⟨k.custody, ?_, k.task, fun s' cmd e he => cmd.entries he⟩
  rw [k.custody.hands_empty_iff]
  simp only [k.settled_iff]

def startBox : DeadBox := ⟨[], [1, 2], [], fun _ => .idle, 0⟩

def letterOf (id : TaskId) : DeadLetter Members :=
  ⟨⟨some id, some 5, some 1, none, .nil⟩, some "worker lost", 2⟩

/-- Two entries, one of them retried by an undisturbed call. -/
theorem dead_letters_settled_retry : ∃ s : DeadBox, s.requeuedToks = [0] ∧
    s.entries.map Entry.tok = [1] ∧ ∀ t < s.pushed, s.Settled t := by
  have r0 : Reach DeadBox.Start (Command Undisturbed) startBox := .init ⟨rfl, rfl, rfl, fun _ => rfl⟩
  have r1 := r0.step (.hdel 0 (letterOf 1).task (some "worker lost") 2 rfl)
  have r2 := r1.step (.rpush 0 rfl)
  have r3 := r2.step (.hdel 0 (letterOf 2).task (some "worker lost") 2 rfl)
  have r4 := r3.step (.rpush 0 rfl)
  have r5 := r4.step (.lrange 0 1 rfl)
  have r6 := r5.step (.lset 0 rfl (.inl rfl))
  have r7 := r6.step (.lrem 0 rfl)
  have r8 := r7.step (.zadd 0 3 7 rfl)
  refine ⟨_, ?_, ?_, (dead_letters_settled r8).2.1.1 ?_⟩
  · rfl
  · rfl
  · intro c
    match c with
    | 0 => rfl
    | c + 1 => rfl

/-- Two replicas retry the same entry while another one stands behind it: the retried entry is
re-enqueued twice and the other one is lost. -/
theorem concurrent_retry_loses_entry : ∃ s : DeadBox,
    Reach DeadBox.Start (Command fun _ _ _ => True) s ∧ (∀ c, s.calls c = .idle) ∧
    s.pushed = 2 ∧ s.entries = [] ∧ s.requeuedToks = [0, 0] := by
  have r0 : Reach DeadBox.Start (Command fun _ _ _ => True) startBox :=
    .init ⟨rfl, rfl, rfl, fun _ => rfl⟩
  have r1 := r0.step (.hdel 0 (letterOf 1).task (some "worker lost") 2 rfl)
  have r2 := r1.step (.rpush 0 rfl)
  have r3 := r2.step (.hdel 0 (letterOf 2).task (some "worker lost") 2 rfl)
  have r4 := r3.step (.rpush 0 rfl)
  have r5 := r4.step (.lrange 0 1 rfl)
  have r6 := r5.step (.lrange 1 1 rfl)
  have r7 := r6.step (.lset 0 rfl trivial)
  have r8 := r7.step (.lrem 0 rfl)
  have r9 := r8.step (.zadd 0 3 7 rfl)
  have r10 := r9.step (.lset 1 rfl trivial)
  have r11 := r10.step (.lrem 1 rfl)
  have r12 := r11.step (.zadd 1 4 8 rfl)
  refine ⟨_, r12, ?_, rfl, rfl, rfl⟩
  intro c
  match c with
  | 0 => rfl
  | 1 => rfl
  | c + 2 => rfl

end Vertep.Queue
