import Mathlib.Data.List.Sort
import Mathlib.Data.Set.Finite.Lemmas
import Mathlib.Data.Set.Finite.List
import Vertep.Core.Models
import Vertep.Lib.Reach

/-!
# Turns between identical workers

Embedding of `core/turns.py`. Before `claim_task` looks for a task it asks `may_claim_now`, and once it has handed one
out it calls `record_claim`; no lock is held between the two. A worker waits while an identical worker that is idle and
alive has waited longer, and no longer than the timeout of the panel.
-/

namespace Vertep.Core.Turns
open Lib

/-- The fields of a worker record that `turns.py` reads; a time that is missing or cannot be read is `none`. -/
structure Worker where
  role : Option String := none
  capabilities : List String := []
  supportedTasks : List String := []
  supportedWorkflows : List String := []
  schedulerTags : List String := []
  gpuName : Option String := none
  vramMb : Option ℤ := none
  currentTask : Option String := none
  desiredState : Option String := none
  status : Option String := none
  lastSeen : Option ℚ := none
  /-- `scheduler_last_claim_at or 0`. -/
  lastClaimAt : ℚ := 0

/-- `HEARTBEAT_TIMEOUT` and `turn_timeout_seconds()`. -/
structure Env where
  heartbeatTimeout : ℤ := 45
  turnTimeout : ℤ := 45

def sorted (names : List String) : List String := names.insertionSort (· ≤ ·)

/-- What makes two workers interchangeable for any task. -/
def Worker.identity (w : Worker) : Option String × List (List String) × Option String × Option ℤ :=
  (w.role, [w.capabilities, w.supportedTasks, w.supportedWorkflows, w.schedulerTags].map sorted, w.gpuName, w.vramMb)

def truthy (field : Option String) : Bool := field.any (· ≠ "")

def Worker.idleAndAlive (env : Env) (now : ℚ) (w : Worker) : Bool :=
  if truthy w.currentTask || truthy w.desiredState || w.status = some "BUSY" || w.status = some "OFFLINE" then false
  else w.lastSeen.any fun seen => now - seen ≤ env.heartbeatTimeout

abbrev Workers := Dict NodeName Worker

/-- What `any` looks for among the workers. -/
def Ahead (env : Env) (now : ℚ) (node : NodeName) (me : Worker) (name : NodeName) (other : Worker) : Prop :=
  name ≠ node ∧ other.identity = me.identity ∧ other.idleAndAlive env now = true ∧ other.lastClaimAt < me.lastClaimAt

instance (env : Env) (now : ℚ) (node : NodeName) (me : Worker) (name : NodeName) (other : Worker) :
    Decidable (Ahead env now node me name other) := inferInstanceAs (Decidable (_ ∧ _))

def waitingLonger (env : Env) (now : ℚ) (node : NodeName) (me : Worker) (workers : Workers) : Bool :=
  me.lastClaimAt ≠ 0 && workers.entries.any fun e => Ahead env now node me e.1 e.2

/-- The answer, and `_yielding_since` as it leaves it. -/
def mayClaimNow (env : Env) (now : ℚ) (node : NodeName) (workers : Workers) (yieldingSince : Dict NodeName ℚ) :
    Bool × Dict NodeName ℚ :=
  match workers.get? node with
  | none => (true, yieldingSince)
  | some me =>
    if ¬ waitingLonger env now node me workers then (true, yieldingSince.pop node)
    else
      let since := (yieldingSince.get? node).getD now
      if env.turnTimeout ≤ now - since then (true, yieldingSince.pop node) else (false, yieldingSince.set node since)

/-! ## Runs -/

inductive Event where
  | waits (node : NodeName) (at_ : ℚ)
  | goes (node : NodeName)
  | claims (node : NodeName) (at_ : ℚ)
  | restarts

structure World where
  workers : Workers := ∅
  yieldingSince : Dict NodeName ℚ := ∅
  log : List Event := []

def World.asks (env : Env) (now : ℚ) (node : NodeName) (w : World) : World :=
  let (may, yieldingSince) := mayClaimNow env now node w.workers w.yieldingSince
  { w with
    yieldingSince := yieldingSince
    log := if ¬ w.workers.contains node then w.log else (if may then .goes node else .waits node now) :: w.log }

/-- `record_claim`; where the record is gone, it raises once it has forgotten that the worker waits. -/
def World.records (now : ℚ) (node : NodeName) (w : World) : World :=
  match w.workers.get? node with
  | none => { w with yieldingSince := w.yieldingSince.pop node, log := .goes node :: w.log }
  | some me =>
    { workers := w.workers.set node { me with lastClaimAt := now }
      yieldingSince := w.yieldingSince.pop node
      log := .claims node now :: w.log }

/-- The claim requests of all workers, at any times; what else writes the records, which keeps the time of the last
claim, forgets it, or brings back one that was saved before; and a new process. -/
inductive Step : World → World → Prop where
  | asks (w) (env : Env) (now : ℚ) (node : NodeName) : Step w (w.asks env now node)
  | records (w) (now : ℚ) (node : NodeName) : Step w (w.records now node)
  | others (w : World) (workers : Workers) :
    (∀ node me, workers.get? node = some me → me.lastClaimAt = 0 ∨ .claims node me.lastClaimAt ∈ w.log) →
    Step w { w with workers := workers }
  | restarts (w : World) : Step w { w with yieldingSince := ∅, log := .restarts :: w.log }

abbrev Reachable : World → Prop := Reach (· = {}) Step

/-- When the worker was first told to wait, since it last got through. -/
def waitingSince (node : NodeName) : List Event → Option ℚ
  | [] | .restarts :: _ => none
  | .waits name at_ :: log => if name = node then (waitingSince node log).or (some at_) else waitingSince node log
  | .goes name :: log | .claims name _ :: log => if name = node then none else waitingSince node log

/-- The clocks of the workers agree with the log. -/
structure World.Sound (w : World) : Prop where
  since : ∀ node, w.yieldingSince.get? node = waitingSince node w.log
  claims : ∀ node me, w.workers.get? node = some me → me.lastClaimAt = 0 ∨ .claims node me.lastClaimAt ∈ w.log

variable {env : Env} {now : ℚ} {node : NodeName} {w w' : World}

lemma World.Sound.older (sound : w.Sound) (e : Event) (name : NodeName) (me : Worker)
    (here : w.workers.get? name = some me) : me.lastClaimAt = 0 ∨ .claims name me.lastClaimAt ∈ e :: w.log :=
  (sound.claims name me here).imp_right (List.mem_cons_of_mem e)

lemma World.Sound.asks (sound : w.Sound) : (w.asks env now node).Sound := by
  unfold World.asks mayClaimNow
  cases here : w.workers.get? node with
  | none => simpa [Dict.contains, here] using sound
  | some me =>
    have listed : w.workers.contains node := by simp [Dict.contains, here]
    have goes : World.Sound { w with yieldingSince := w.yieldingSince.pop node, log := .goes node :: w.log } :=
      ⟨fun name => by rw [Dict.get?_pop, waitingSince, sound.since], sound.older _⟩
    dsimp only
    rw [if_neg (not_not.2 listed)]
    split
    · exact goes
    split
    · exact goes
    · refine ⟨fun name => ?_, sound.older _⟩
      change _ = waitingSince name (.waits node now :: w.log)
      rw [Dict.get?_set, waitingSince, sound.since, sound.since]
      split
      · rename_i same
        rw [← same]
        cases waitingSince node w.log <;> rfl
      · rfl

lemma Step.sound (step : Step w w') (sound : w.Sound) : w'.Sound := by
  cases step with
  | asks env now node => exact sound.asks
  | records now node =>
    unfold World.records
    cases here : w.workers.get? node with
    | none => exact ⟨fun name => by rw [Dict.get?_pop, waitingSince, sound.since], sound.older _⟩
    | some me =>
      refine ⟨fun name => by rw [Dict.get?_pop, waitingSince, sound.since], fun name other there => ?_⟩
      rw [Dict.get?_set] at there
      split at there
      · rename_i same
        cases there
        exact .inr (same ▸ List.mem_cons_self)
      · exact sound.older _ name other there
  | others workers kept => exact ⟨sound.since, kept⟩
  | restarts => exact ⟨fun name => rfl, sound.older _⟩

lemma Reachable.sound (reach : Reachable w) : w.Sound :=
  Reach.invariant (fun _ is => is ▸ ⟨fun _ => rfl, fun _ _ there => by cases there⟩)
    (fun _ _ sound step => step.sound sound) reach

/-! ## Who may claim -/

lemma waitingLonger_iff {me : Worker} {workers : Workers} : waitingLonger env now node me workers = true ↔
    me.lastClaimAt ≠ 0 ∧ ∃ name other, workers.get? name = some other ∧ Ahead env now node me name other := by
  simp only [waitingLonger, Bool.and_eq_true, decide_eq_true_eq, List.any_eq_true, Prod.exists, Dict.mem_entries_iff]

lemma mayClaimNow_iff {me : Worker} {workers : Workers} {yieldingSince : Dict NodeName ℚ}
    (here : workers.get? node = some me) : (mayClaimNow env now node workers yieldingSince).1 = true ↔
      (waitingLonger env now node me workers = true → env.turnTimeout ≤ now - (yieldingSince.get? node).getD now) := by
  unfold mayClaimNow
  rw [here]
  dsimp only
  by_cases waits : waitingLonger env now node me workers = true
  · rw [if_neg (not_not.2 waits)]
    split <;> simp [*]
  · simp [waits]

/-- **Turns.** A worker that is let through has waited for the timeout since it was first told to, or has no claim on
record, or every identical worker that is idle and alive has claimed a task since its own last claim. -/
theorem turns_alternate (reach : Reachable w) {me : Worker} (here : w.workers.get? node = some me)
    (may : (mayClaimNow env now node w.workers w.yieldingSince).1 = true) :
    env.turnTimeout ≤ now - (waitingSince node w.log).getD now ∨ me.lastClaimAt ≤ 0 ∨
      ∀ name other, name ≠ node → w.workers.get? name = some other → other.identity = me.identity →
        other.idleAndAlive env now = true → ∃ at_, me.lastClaimAt ≤ at_ ∧ .claims name at_ ∈ w.log := by
  have sound := reach.sound
  have may := (mayClaimNow_iff here).1 may
  rw [sound.since] at may
  by_cases waits : waitingLonger env now node me w.workers = true
  · exact .inl (may waits)
  · refine .inr (or_iff_not_imp_left.2 fun claimed name other apart there same idle => ?_)
    have positive : 0 < me.lastClaimAt := not_le.1 claimed
    have later : me.lastClaimAt ≤ other.lastClaimAt := by
      by_contra earlier
      exact waits (waitingLonger_iff.2 ⟨positive.ne', name, other, there, apart, same, idle, not_le.1 earlier⟩)
    exact ⟨other.lastClaimAt, later, (sound.claims name other there).resolve_left (positive.trans_le later).ne'⟩

/-- Worker 1 has claimed a task at 10, and was told at 20 to wait for worker 2, which is like it. -/
def waiting : World :=
  World.asks {} 20 1 (World.records 10 1
    { workers := (Dict.set ∅ 1 { lastSeen := some 20 }).set 2 { lastSeen := some 20 } })

lemma waiting_reached : Reachable waiting := by
  refine .step (.step (.step (.init rfl) (.others _ _ fun node me here => .inl ?_)) (.records _ 10 1)) (.asks _ {} 20 1)
  simp only [Dict.get?_set] at here
  split at here
  · cases here
    rfl
  split at here
  · cases here
    rfl
  · cases here

lemma waiting_first : waiting.workers.get? 1 = some { lastSeen := some 20, lastClaimAt := 10 } := rfl

theorem turns_alternate_waiting :
    ((45 : ℤ) : ℚ) ≤ 65 - (waitingSince 1 waiting.log).getD 65 ∨ (10 : ℚ) ≤ 0 ∨
      ∀ name other, name ≠ 1 → waiting.workers.get? name = some other → other.identity = Worker.identity {} →
        other.idleAndAlive {} 65 = true → ∃ at_, 10 ≤ at_ ∧ .claims name at_ ∈ waiting.log :=
  @turns_alternate {} 65 1 _ waiting_reached _ waiting_first (by decide +kernel)

/-- A worker that is told to wait has an identical one before it, and was first told less than the timeout ago. -/
theorem waits_are_bounded (reach : Reachable w)
    (told : (mayClaimNow env now node w.workers w.yieldingSince).1 = false) :
    now - (waitingSince node w.log).getD now < env.turnTimeout ∧ ∃ me name other, w.workers.get? node = some me ∧
      w.workers.get? name = some other ∧ Ahead env now node me name other := by
  cases here : w.workers.get? node with
  | none => simp [mayClaimNow, here] at told
  | some me =>
    have refused := mt (mayClaimNow_iff here).2 (Bool.eq_false_iff.1 told)
    rw [Classical.not_imp, reach.sound.since, not_le] at refused
    obtain ⟨_, name, other, there, ahead⟩ := waitingLonger_iff.1 refused.1
    exact ⟨refused.2, me, name, other, rfl, there, ahead⟩

theorem waits_are_bounded_waiting : 25 - (waitingSince 1 waiting.log).getD 25 < ((45 : ℤ) : ℚ) ∧
    ∃ me name other, waiting.workers.get? 1 = some me ∧ waiting.workers.get? name = some other ∧
      Ahead {} 25 1 me name other :=
  @waits_are_bounded {} 25 1 _ waiting_reached (by decide +kernel)

/-- Of the identical workers that are idle and alive, one may claim at once, whoever was told to wait before. -/
theorem some_worker_has_its_turn (env : Env) (now : ℚ) (workers : Workers) (yieldingSince : Dict NodeName ℚ)
    (node : NodeName) (me : Worker) (here : workers.get? node = some me) (idle : me.idleAndAlive env now = true) :
    ∃ name other, workers.get? name = some other ∧ other.identity = me.identity ∧
      other.idleAndAlive env now = true ∧ (mayClaimNow env now name workers yieldingSince).1 = true := by
  let alike : Set (NodeName × Worker) :=
    {e | e ∈ workers.entries ∧ e.2.identity = me.identity ∧ e.2.idleAndAlive env now = true}
  have finite : alike.Finite := workers.entries.finite_toSet.subset fun _ within => within.1
  obtain ⟨⟨name, other⟩, ⟨there, same, alive⟩, first⟩ := alike.exists_min_image (fun e => e.2.lastClaimAt) finite
    ⟨(node, me), Dict.mem_entries_iff.2 here, rfl, idle⟩
  have there := Dict.mem_entries_iff.1 there
  refine ⟨name, other, there, same, alive, (mayClaimNow_iff there).2 fun waits => ?_⟩
  obtain ⟨_, name', other', there', _, same', alive', earlier⟩ := waitingLonger_iff.1 waits
  exact absurd (first (name', other') ⟨Dict.mem_entries_iff.2 there', same'.trans same, alive'⟩) (not_le.2 earlier)

theorem some_worker_has_its_turn_waiting : ∃ name other, waiting.workers.get? name = some other ∧
    other.identity = Worker.identity { lastSeen := some 20, lastClaimAt := 10 } ∧ other.idleAndAlive {} 25 = true ∧
      (mayClaimNow {} 25 name waiting.workers waiting.yieldingSince).1 = true :=
  some_worker_has_its_turn {} 25 _ _ 1 _ waiting_first (by decide +kernel)

end Vertep.Core.Turns
