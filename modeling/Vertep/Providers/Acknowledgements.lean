import Vertep.Providers.Crashes

/-!
# Acknowledgements of an activation (`core/provider_switch.py`)

A heartbeat reads the record of the activation first and takes the lock afterwards, so that whole switches can happen
between the two. What it acknowledges must then be the transaction that is current when it holds the lock.
-/

namespace Vertep.Providers
open Lib Command

/-- The process: its world, and what the heartbeats under way have read. -/
structure System where
  world : World
  reads : List Transaction

inductive Event where
  /-- A heartbeat reads the record. What it can read while a switch is under way, the switch leaves or has found. -/
  | look (tx : Transaction)
  /-- It takes the lock, with what it has read. -/
  | acknowledge (tx : Transaction) (faults : Point → Fate) (nodeName : String) (worker : Worker)
  | switch (r : Request)
  | start (environ : Vars) (faults : Point → Fate)

/-- What an event makes of the system. -/
inductive Takes (host : Host) (s : System) : Event → System → Prop where
  | look (tx : Transaction) (pending : s.world.inStatus .awaitingWorker = some tx) :
    Takes host s (.look tx) { s with reads := tx :: s.reads }
  | acknowledge (tx : Transaction) (read : tx ∈ s.reads) (faults : Point → Fate) (nodeName : String) (worker : Worker) :
    Takes host s (.acknowledge tx faults nodeName worker)
      { s with world := (reconcileHolding host faults nodeName worker tx s.world).2 }
  | switch (r : Request) : Takes host s (.switch r) { s with world := (switchProvider host r s.world).2 }
  | start (environ : Vars) (faults : Point → Fate) :
    Takes host s (.start environ faults) ⟨(applyProviderOverrides faults { s.world with environ }).2, []⟩

/-- The transaction is the one of the record, and it was not rolled back. -/
def Current (w : World) (tx : Transaction) : Prop :=
  ∃ t, w.activation = some t ∧ t.number = tx.number ∧ (t.status = .awaitingWorker ∨ t.status = .committed)

def Newer (w : World) (tx : Transaction) : Prop := ∃ t, w.activation = some t ∧ tx.number < t.number

/-- The record becomes `COMMITTED`. -/
def Becomes (w w' : World) (t : Transaction) : Prop := w'.inStatus .committed = some t ∧ w.inStatus .committed ≠ some t

/-- The workers that are named reported the selection. -/
def Reported (host : Host) (watch : Watch) (t : Transaction) : Prop :=
  ∀ name ∈ t.targets, ∃ workers ∈ watch.first :: watch.later, ∃ worker, workers.get? name = some worker ∧
    worker.providerConfigRevision = some (host.revision (allowlisted t.selected))

/-- A transaction is confirmed only for itself, and one that is not current overwrites nothing. -/
def ForItself (host : Host) : Event → World → World → Prop
  | .acknowledge tx _ _ worker, w, w' =>
    (∀ t, Becomes w w' t → t.number = tx.number ∧ Current w tx ∧
      worker.providerConfigRevision = some (host.revision (allowlisted tx.selected))) ∧
    (Newer w tx → w'.overrides = w.overrides ∧ w'.activation = w.activation)
  | .switch r, w, w' => ∀ t, Becomes w w' t → t.number = w.started + 1 ∧ t.targets ≠ [] ∧ Reported host r.watch t
  | _, w, w' => ∀ t, ¬ Becomes w w' t

/-- What the heartbeat has read is still current where it acknowledges it, and no later one where it refuses it. -/
def Timely (host : Host) : Event → World → Prop
  | .acknowledge tx faults _ worker, w =>
    Acknowledges host worker tx w →
      if Refuses host w.environ tx.slot (executorConfig w) worker then
        Newer w tx → faults .refuseOverrides ≠ .lands ∨ (faults .refuseRecord ≠ .lands ∧ tx.previous = w.overrides)
      else faults .acknowledge = .lands → Current w tx
  | _, _ => True

/-- The event ends between the two writes of a superseding or of a refusal. -/
def Interrupted (host : Host) : Event → World → Prop
  | .acknowledge tx faults _ worker, w =>
    Acknowledges host worker tx w ∧ Refuses host w.environ tx.slot (executorConfig w) worker ∧ Current w tx ∧
      TornAt faults .refuseOverrides .refuseRecord tx
  | .switch r, w => Torn host (.switch r) w
  | _, _ => False

def MovesTimely (host : Host) (s s' : System) : Prop :=
  ∃ event, Takes host s event s' ∧ Timely host event s.world ∧ ¬ Interrupted host event s.world

/-- The record names the selection in force, and what was read is a transaction that was begun. -/
structure Consistent (s : System) : Prop where
  named : ∀ t, s.world.activation = some t → t.status = .awaitingWorker ∨ t.status = .committed →
    s.world.overrides = t.selected
  counted : ∀ t, s.world.activation = some t → t.number ≤ s.world.started
  read : ∀ tx ∈ s.reads, ∃ t, s.world.activation = some t ∧ tx.number ≤ t.number ∧
    (t.number = tx.number → t.selected = tx.selected)

variable {host : Host} {r : Request} {s s' : System} {w w' : World} {tx : Transaction}

/-! ## What the workers reported -/

variable {expected : List (String × String)}

lemma verifyRound_reported {environ : Vars} {slot : String} {workers : Workers}
    {names pending : List String} (passed : verifyRound host environ slot expected workers names = .ok pending) :
    ∀ name ∈ names, name ∈ pending ∨ ∃ worker, workers.get? name = some worker ∧
      worker.providerConfigRevision = some (host.revision expected) := by
  induction names generalizing pending with
  | nil => exact List.forall_mem_nil _
  | cons n names ih =>
    rw [verifyRound] at passed
    split at passed
    · obtain ⟨rest, checked, kept⟩ := except_bind_ok.1 passed
      obtain rfl := Except.ok.inj kept
      refine List.forall_mem_cons.2 ⟨.inl List.mem_cons_self, fun name member => ?_⟩
      exact (ih checked name member).imp_left (List.mem_cons_of_mem _)
    · rename_i revision
      split at passed
      · cases passed
      refine List.forall_mem_cons.2 ⟨.inr ?_, ih passed⟩
      cases found : workers.get? n with
      | none =>
        rw [found] at revision
        exact absurd nofun revision
      | some worker =>
        rw [found] at revision
        exact ⟨worker, rfl, not_not.1 revision⟩

lemma verifyRounds_reported {environ : Vars} {slot : String} {rounds : List Workers}
    {names : List String} (passed : verifyRounds host environ slot expected rounds names = .ok ()) :
    ∀ name ∈ names, ∃ workers ∈ rounds, ∃ worker, workers.get? name = some worker ∧
      worker.providerConfigRevision = some (host.revision expected) := by
  induction rounds generalizing names with
  | nil =>
    cases names with
    | nil => exact List.forall_mem_nil _
    | cons n names => cases passed
  | cons workers rounds ih =>
    cases names with
    | nil => exact List.forall_mem_nil _
    | cons n names =>
      simp only [verifyRounds] at passed
      obtain ⟨pending, round, passed⟩ := except_bind_ok.1 passed
      intro name member
      obtain waits | reported := verifyRound_reported round name member
      · obtain ⟨later, among, reported⟩ := ih passed name waits
        exact ⟨later, List.mem_cons_of_mem _ among, reported⟩
      · exact ⟨workers, List.mem_cons_self, reported⟩

lemma verifyWorkers_reported {watch : Watch} {environ : Vars} {slot : String} {tx : Transaction}
    (passed : verifyWorkers host watch environ slot (allowlisted tx.selected) tx.targets = .ok ()) :
    Reported host watch tx := by
  unfold verifyWorkers at passed
  split at passed
  · cases passed
  · exact verifyRounds_reported passed

/-! ## What is consistent -/

lemma Consistent.current (consistent : Consistent s) (read : tx ∈ s.reads) (current : Current s.world tx) :
    s.world.overrides = tx.selected := by
  obtain ⟨t, recorded, number, status⟩ := current
  obtain ⟨t', recorded', _, same⟩ := consistent.read tx read
  obtain rfl := Option.some.inj (recorded.symm.trans recorded')
  exact (consistent.named t recorded status).trans (same number)

lemma Consistent.config (consistent : Consistent s) (read : tx ∈ s.reads) (current : Current s.world tx) :
    executorConfig s.world = allowlisted tx.selected := by
  rw [executorConfig_eq, consistent.current read current]
  obtain ⟨t, recorded, _, waiting | committed⟩ := current
  · exact World.inStatus_eq_none recorded waiting (by decide)
  · exact World.inStatus_eq_none recorded committed (by decide)

lemma Consistent.not_newer (consistent : Consistent s) (read : tx ∈ s.reads) (newer : ¬ Newer s.world tx) :
    ∃ t, s.world.activation = some t ∧ t.number = tx.number ∧ t.selected = tx.selected := by
  obtain ⟨t, recorded, le, same⟩ := consistent.read tx read
  have number : t.number = tx.number := by
    by_contra differs
    exact newer ⟨t, recorded, by omega⟩
  exact ⟨t, recorded, number, same number⟩

variable {t t' : Transaction}

lemma Consistent.rerecorded (consistent : Consistent s) (recorded : s.world.activation = some t)
    (recorded' : w'.activation = some t') (number : t'.number = t.number) (selected : t'.selected = t.selected)
    (started : w'.started = s.world.started)
    (named : t'.status = .awaitingWorker ∨ t'.status = .committed → w'.overrides = t'.selected) :
    Consistent { s with world := w' } := by
  refine ⟨fun u found status => ?_, fun u found => ?_, fun tx read => ?_⟩
  · obtain rfl := Option.some.inj (recorded'.symm.trans found)
    exact named status
  · obtain rfl := Option.some.inj (recorded'.symm.trans found)
    rw [started, number]
    exact consistent.counted t recorded
  · obtain ⟨u, found, le, same⟩ := consistent.read tx read
    obtain rfl := Option.some.inj (recorded.symm.trans found)
    exact ⟨t', recorded', by omega, fun eq => selected.trans (same (number.symm.trans eq))⟩

lemma Consistent.renewed (consistent : Consistent s) (recorded : w'.activation = some t)
    (number : t.number = s.world.started + 1) (started : w'.started = t.number)
    (named : t.status = .awaitingWorker ∨ t.status = .committed → w'.overrides = t.selected) :
    Consistent { s with world := w' } := by
  refine ⟨fun u found status => ?_, fun u found => ?_, fun tx read => ?_⟩
  · obtain rfl := Option.some.inj (recorded.symm.trans found)
    exact named status
  · obtain rfl := Option.some.inj (recorded.symm.trans found)
    exact started.ge
  · obtain ⟨u, found, le, _⟩ := consistent.read tx read
    have counted := consistent.counted u found
    exact ⟨t, recorded, by omega, fun eq => by omega⟩

lemma Consistent.untouched (consistent : Consistent s) (overrides : w'.overrides = s.world.overrides)
    (activation : w'.activation = s.world.activation) (started : w'.started = s.world.started) :
    Consistent { s with world := w' } :=
  ⟨fun t found status => overrides.trans (consistent.named t (activation.symm.trans found) status),
    fun t found => started ▸ consistent.counted t (activation.symm.trans found),
    fun tx read => activation ▸ consistent.read tx read⟩

variable {x : Except Failure Unit}

lemma Consistent.superseded (consistent : Consistent s) (went : Superseded r s.world x w')
    (free : r.lockFree = true) (whole : ¬ Torn host (.switch r) s.world) : Consistent { s with world := w' } := by
  cases went with
  | clear clear => exact consistent
  | foreign e tx pending other => exact consistent
  | own tx pending same x w' went =>
    obtain ⟨recorded, status⟩ := World.inStatus_eq_some.1 pending
    cases went with
    | unwritten e lost => exact consistent
    | unmarked e landed lost =>
      refine consistent.rerecorded recorded recorded rfl rfl rfl fun _ => ?_
      show tx.previous = tx.selected
      by_contra differs
      exact whole ⟨free, tx, pending, same, landed, lost, differs⟩
    | marked landed marked =>
      exact consistent.rerecorded recorded rfl rfl rfl rfl (by rintro (⟨⟨⟩⟩ | ⟨⟨⟩⟩))

lemma Consistent.activated (consistent : Consistent s) {selection : Selection}
    (left : Activated host r selection s.world (beginTransaction host r selection s.world) x w') :
    Consistent { s with world := w' } := by
  have applying : (beginTransaction host r selection s.world).status = .applying := rfl
  have number : (beginTransaction host r selection s.world).number = s.world.started + 1 := rfl
  generalize beginTransaction host r selection s.world = tx at *
  have begun (overrides environ : Vars) : Consistent { s with world := { s.world.begun tx with overrides, environ } } := by
    refine consistent.renewed rfl number rfl fun status => ?_
    rw [applying] at status
    exact absurd status (by decide)
  cases left with
  | unrecorded e lost => exact consistent
  | unselected e recorded lost => exact begun _ _
  | verified recorded written landed workers => exact consistent.renewed rfl number rfl fun _ => rfl
  | reverted recorded written e w' left =>
    cases left with
    | stopped | unrestored e lost | unmarked e landed lost => exact begun _ _
    | marked e landed marked => exact consistent.renewed rfl number rfl (by rintro (⟨⟨⟩⟩ | ⟨⟨⟩⟩))

lemma Consistent.switch (consistent : Consistent s) (whole : ¬ Torn host (.switch r) s.world) :
    Consistent { s with world := (switchProvider host r s.world).2 } := by
  have went := switchProvider_cases host r s.world
  generalize switchProvider host r s.world = result at went
  obtain ⟨x, w'⟩ := result
  dsimp only at went ⊢
  cases went with
  | busy e locked => exact consistent
  | blocked e w' free went | refused e w' free went checks | unchanged w' free went checks =>
    exact consistent.superseded went free whole
  | activated w₁ free went selection checks x w' left => exact (consistent.superseded went free whole).activated left

lemma Consistent.acknowledge (consistent : Consistent s) {faults : Point → Fate} {nodeName : String} {worker : Worker}
    (read : tx ∈ s.reads) (timely : Timely host (.acknowledge tx faults nodeName worker) s.world)
    (whole : ¬ Interrupted host (.acknowledge tx faults nodeName worker) s.world) :
    Consistent { s with world := (reconcileHolding host faults nodeName worker tx s.world).2 } := by
  have went := reconcileHolding_cases host faults nodeName worker tx s.world
  generalize reconcileHolding host faults nodeName worker tx s.world = result at went
  obtain ⟨x, w'⟩ := result
  dsimp only at went ⊢
  cases went with
  | ignored ignores => exact consistent
  | lost e accepts lost => exact consistent
  | acknowledged reports accepts landed =>
    have current : Current s.world tx := by
      have := timely reports
      rw [if_neg accepts] at this
      exact this landed
    have selected := consistent.current read current
    obtain ⟨t, recorded, number, _⟩ := current
    obtain ⟨t', recorded', _, same⟩ := consistent.read tx read
    obtain rfl := Option.some.inj (recorded.symm.trans recorded')
    exact consistent.rerecorded recorded rfl number.symm (same number).symm rfl fun _ => selected
  | refused reports refuses x w' went =>
    have late := timely reports
    rw [if_pos refuses] at late
    cases went with
    | unwritten e lost => exact consistent
    | unmarked e landed lost =>
      by_cases newer : Newer s.world tx
      · have same := ((late newer).resolve_left (not_not.2 landed)).2
        exact consistent.untouched same rfl rfl
      · obtain ⟨t, recorded, number, selected⟩ := consistent.not_newer read newer
        refine consistent.rerecorded recorded recorded rfl rfl rfl fun status => ?_
        show tx.previous = t.selected
        rw [selected]
        by_contra differs
        exact whole ⟨reports, refuses, ⟨t, recorded, number, status⟩, landed, lost, differs⟩
    | marked landed marked =>
      have newest : ¬ Newer s.world tx := fun newer =>
        (late newer).elim (fun lost => lost landed) fun lost => lost.1 marked
      obtain ⟨t, recorded, number, selected⟩ := consistent.not_newer read newest
      exact consistent.rerecorded recorded rfl number.symm selected.symm rfl (by rintro (⟨⟨⟩⟩ | ⟨⟨⟩⟩))

lemma Consistent.moves (consistent : Consistent s) (moves : MovesTimely host s s') : Consistent s' := by
  obtain ⟨event, takes, timely, whole⟩ := moves
  cases takes with
  | look tx pending =>
    refine ⟨consistent.named, consistent.counted, List.forall_mem_cons.2 ⟨?_, consistent.read⟩⟩
    exact ⟨tx, (World.inStatus_eq_some.1 pending).1, le_rfl, fun _ => rfl⟩
  | acknowledge tx read faults nodeName worker => exact consistent.acknowledge read timely whole
  | switch r => exact consistent.switch whole
  | start environ faults =>
    obtain ⟨_, environ', left⟩ | ⟨tx, x, w₁, environ', half, went, left⟩ :=
      applyProviderOverrides_cases faults { s.world with environ }
    · rw [left]
      exact ⟨consistent.named, consistent.counted, List.forall_mem_nil _⟩
    · rw [left]
      obtain ⟨recorded, status⟩ := World.inStatus_eq_some.1 half
      have stopped : Consistent ⟨{ s.world with environ }, []⟩ :=
        ⟨consistent.named, consistent.counted, List.forall_mem_nil _⟩
      cases went with
      | unwritten e lost => exact stopped.untouched rfl rfl rfl
      | unmarked e landed lost =>
        refine stopped.rerecorded recorded recorded rfl rfl rfl fun open_ => ?_
        rw [status] at open_
        exact absurd open_ (by decide)
      | marked landed marked => exact stopped.rerecorded recorded rfl rfl rfl rfl (by rintro (⟨⟨⟩⟩ | ⟨⟨⟩⟩))

lemma reach_consistent {s₀ : System} (start : Consistent s₀) (run : Relation.ReflTransGen (MovesTimely host) s₀ s) :
    Consistent s := by
  induction run with
  | refl => exact start
  | tail _ moves ih => exact ih.moves moves

/-! ## What an event confirms -/

/-- A record that is not written anew does not become `COMMITTED`. -/
lemma not_becomes_of_same (same : w'.activation = w.activation) : ¬ Becomes w w' t := by
  rintro ⟨becomes, was⟩
  refine was ?_
  rw [World.inStatus, ← same]
  exact becomes

/-- A record in another status has not become `COMMITTED`. -/
lemma not_becomes_of_status (recorded : w'.activation = some t') (status : t'.status ≠ .committed) :
    ¬ Becomes w w' t := by
  rintro ⟨becomes, _⟩
  rw [World.inStatus_eq_none recorded rfl status] at becomes
  cases becomes

lemma PutBack.not_becomes {faults : Point → Fate} {overrides record : Point} {targets : List String}
    (went : PutBack faults overrides record tx targets w x w') :
    ¬ Becomes w w' t := by
  cases went with
  | unwritten e lost | unmarked e landed lost => exact not_becomes_of_same rfl
  | marked landed marked => exact not_becomes_of_status rfl (by rintro ⟨⟩)

lemma Superseded.not_becomes (went : Superseded r w x w') :
    ¬ Becomes w w' t := by
  cases went with
  | clear clear | foreign e tx pending other => exact not_becomes_of_same rfl
  | own tx pending same x w' went => exact went.not_becomes

lemma Superseded.started (went : Superseded r w x w') : w'.started = w.started := by
  cases went with
  | clear clear => rfl
  | foreign e tx pending other => rfl
  | own tx pending same x w' went => cases went <;> rfl

/-- A direct switch becomes `COMMITTED` only where all of its targets reported what it has selected. -/
lemma switch_forItself (host : Host) (r : Request) (w : World) :
    ForItself host (.switch r) w (switchProvider host r w).2 := by
  have went := switchProvider_cases host r w
  generalize switchProvider host r w = result at went
  obtain ⟨x, w'⟩ := result
  show ∀ t, Becomes w w' t → _
  intro t becomes
  dsimp only at went
  cases went with
  | busy e locked => exact absurd becomes (not_becomes_of_same rfl)
  | blocked e w' free went | refused e w' free went checks | unchanged w' free went checks =>
    exact absurd becomes went.not_becomes
  | activated w₁ free went selection checks x w' left =>
    cases left with
    | unrecorded e lost => exact absurd becomes went.not_becomes
    | unselected e recorded lost => exact absurd becomes (not_becomes_of_status rfl (by rintro ⟨⟩))
    | verified recorded written landed workers =>
      obtain ⟨same, status⟩ := World.inStatus_eq_some.1 becomes.1
      obtain rfl := Option.some.inj same
      refine ⟨congrArg (· + 1) went.started, fun none => ?_, verifyWorkers_reported workers⟩
      have waiting : (beginTransaction host r selection w₁).verified.status = .awaitingWorker := if_pos none
      exact Status.noConfusion (waiting.symm.trans status)
    | reverted recorded written e w' left =>
      cases left with
      | stopped | unrestored e lost | unmarked e landed lost | marked e landed marked =>
        exact absurd becomes (not_becomes_of_status rfl (by rintro ⟨⟩))

lemma Consistent.forItself_iff (consistent : Consistent s) (read : tx ∈ s.reads) (faults : Point → Fate)
    (nodeName : String) (worker : Worker) :
    ForItself host (.acknowledge tx faults nodeName worker) s.world
        (reconcileHolding host faults nodeName worker tx s.world).2 ↔
      Timely host (.acknowledge tx faults nodeName worker) s.world := by
  have went := reconcileHolding_cases host faults nodeName worker tx s.world
  generalize reconcileHolding host faults nodeName worker tx s.world = result at went
  obtain ⟨x, w'⟩ := result
  dsimp only at went ⊢
  cases went with
  | ignored ignores =>
    exact iff_of_true ⟨fun t becomes => absurd becomes (not_becomes_of_same rfl), fun _ => ⟨rfl, rfl⟩⟩
      fun reports => absurd reports ignores
  | lost e accepts lost =>
    refine iff_of_true ⟨fun t becomes => absurd becomes (not_becomes_of_same rfl), fun _ => ⟨rfl, rfl⟩⟩ fun _ => ?_
    rw [if_neg accepts]
    exact fun landed => absurd landed lost
  | acknowledged reports accepts landed =>
    constructor
    · rintro ⟨itself, _⟩ _
      rw [if_neg accepts]
      intro _
      by_contra late
      refine late (itself _ ⟨World.inStatus_eq_some.2 ⟨rfl, rfl⟩, fun was => late ?_⟩).2.1
      obtain ⟨recorded, _⟩ := World.inStatus_eq_some.1 was
      exact ⟨_, recorded, rfl, .inr rfl⟩
    · intro timely
      have current : Current s.world tx := by
        have itself := timely reports
        rw [if_neg accepts] at itself
        exact itself landed
      constructor
      · rintro t ⟨becomes, _⟩
        obtain ⟨same, _⟩ := World.inStatus_eq_some.1 becomes
        obtain rfl := Option.some.inj same
        exact ⟨rfl, current, consistent.config read current ▸ reports.2⟩
      · rintro ⟨t, recorded, later⟩
        obtain ⟨t', recorded', number, _⟩ := current
        obtain rfl := Option.some.inj (recorded.symm.trans recorded')
        omega
  | refused reports refuses x w' went =>
    constructor
    · rintro ⟨_, kept⟩ _
      rw [if_pos refuses]
      intro newer
      obtain ⟨overrides, activation⟩ := kept newer
      cases went with
      | unwritten e lost => exact .inl lost
      | unmarked e landed lost => exact .inr ⟨lost, overrides⟩
      | marked landed marked =>
        obtain ⟨t, recorded, later⟩ := newer
        obtain rfl := Option.some.inj (activation.trans recorded)
        exact absurd later (lt_irrefl _)
    · intro timely
      have late := timely reports
      rw [if_pos refuses] at late
      refine ⟨fun t becomes => absurd becomes went.not_becomes, fun newer => ?_⟩
      cases went with
      | unwritten e lost => exact ⟨rfl, rfl⟩
      | unmarked e landed lost => exact ⟨((late newer).resolve_left (not_not.2 landed)).2, rfl⟩
      | marked landed marked => exact absurd (late newer) (by simp [landed, marked])

/-- From every state that timely events lead to: an event confirms a transaction only for itself, and one that is not current
overwrites nothing, exactly when it is in time. -/
theorem activation_is_confirmed_for_itself (host : Host) {s₀ s s' : System} (start : Consistent s₀)
    (run : Relation.ReflTransGen (MovesTimely host) s₀ s) (event : Event) (takes : Takes host s event s') :
    ForItself host event s.world s'.world ↔ Timely host event s.world := by
  have consistent := reach_consistent start run
  cases takes with
  | look tx pending => exact iff_of_true (fun t => not_becomes_of_same rfl) trivial
  | acknowledge tx read faults nodeName worker => exact consistent.forItself_iff read faults nodeName worker
  | switch r => exact iff_of_true (switch_forItself host r s.world) trivial
  | start environ faults =>
    refine iff_of_true (fun t => ?_) trivial
    obtain ⟨_, environ', left⟩ | ⟨tx, x, w₁, environ', half, went, left⟩ :=
      applyProviderOverrides_cases faults { s.world with environ }
    · rw [left]
      exact not_becomes_of_same rfl
    · rw [left]
      exact went.not_becomes

/-! ## A heartbeat around a switch -/

def onBaseline : Worker := { capabilities := ["speech_synthesis"], providerConfigRevision := some "" }

lemma untouched_consistent : Consistent ⟨untouched, []⟩ :=
  ⟨by rintro _ ⟨⟩, by rintro _ ⟨⟩, List.forall_mem_nil _⟩

lemma looked (tx : Transaction) (pending : mockPending.inStatus .awaitingWorker = some tx) :
    Relation.ReflTransGen (MovesTimely plainHost) ⟨untouched, []⟩ ⟨mockPending, [tx]⟩ :=
  .tail (.single ⟨.switch (requestTts "mock"), .switch _, trivial, untouched_not_torn _⟩)
    ⟨.look tx, .look tx pending, trivial, not_false⟩

/-- What the heartbeat acknowledges at once is confirmed for itself. -/
theorem activation_is_confirmed_for_itself_at_once :
    ∃ tx, mockPending.inStatus .awaitingWorker = some tx ∧
      ForItself plainHost (.acknowledge tx (fun _ => .lands) "voice-1" onBaseline) mockPending
        (reconcileHolding plainHost (fun _ => .lands) "voice-1" onBaseline tx mockPending).2 := by
  have waits : (mockPending.inStatus .awaitingWorker).isSome = true := by decide +kernel
  obtain ⟨tx, pending⟩ := Option.isSome_iff_exists.1 waits
  obtain ⟨recorded, status⟩ := World.inStatus_eq_some.1 pending
  refine ⟨tx, pending, (activation_is_confirmed_for_itself plainHost untouched_consistent (looked tx pending) _
    (.acknowledge tx List.mem_cons_self _ _ _)).2 fun _ => ?_⟩
  split
  · rintro ⟨t, found, later⟩
    obtain rfl := Option.some.inj (found.symm.trans recorded)
    exact absurd later (lt_irrefl _)
  · exact fun _ => ⟨tx, recorded, rfl, .inl status⟩

/-- The heartbeat has read the first selection; a switch with a typo supersedes it and fails; the worker reports what was
selected before, which is the configuration now, and the heartbeat commits the selection that was rolled back. -/
theorem stale_acknowledgement_commits :
    ∃ s s' event, Relation.ReflTransGen (MovesTimely plainHost) ⟨untouched, []⟩ s ∧ Takes plainHost s event s' ∧
      ¬ ForItself plainHost event s.world s'.world := by
  have waits : (mockPending.inStatus .awaitingWorker).map (fun tx => tx.slot) = some "tts" := by decide +kernel
  obtain ⟨tx, pending, slot⟩ := Option.map_eq_some_iff.1 waits
  let s : System := ⟨(switchProvider plainHost (requestTts "mokc") mockPending).2, [tx]⟩
  have whole : ¬ Torn plainHost (.switch (requestTts "mokc")) mockPending := fun ⟨_, _, _, _, _, lost, _⟩ => lost rfl
  have run : Relation.ReflTransGen (MovesTimely plainHost) ⟨untouched, []⟩ s :=
    .tail (looked tx pending) ⟨.switch (requestTts "mokc"), .switch _, trivial, whole⟩
  have config : executorConfig s.world = [] := by
    show executorConfig (switchProvider plainHost (requestTts "mokc") mockPending).2 = []
    decide +kernel
  have rolled : (s.world.inStatus .rolledBack).isSome = true := by
    show ((switchProvider plainHost (requestTts "mokc") mockPending).2.inStatus .rolledBack).isSome = true
    decide +kernel
  refine ⟨s, _, .acknowledge tx (fun _ => .lands) "voice-1" onBaseline, run,
    .acknowledge tx List.mem_cons_self _ _ _, fun itself => ?_⟩
  have timely := ((reach_consistent untouched_consistent run).forItself_iff List.mem_cons_self _ _ _).1 itself
  have reports : Acknowledges plainHost onBaseline tx s.world := by
    refine ⟨?_, by rw [config]; rfl⟩
    rw [slot]
    rintro _ ⟨⟩
    exact List.mem_cons_self
  have accepts : ¬ Refuses plainHost s.world.environ tx.slot (executorConfig s.world) onBaseline := by
    rw [config, slot]
    rintro (error | ⟨engine, _⟩ | ⟨_, member, _⟩)
    · exact absurd error (by decide)
    · exact absurd engine (by decide)
    · exact List.not_mem_nil member
  have current := timely reports
  rw [if_neg accepts] at current
  obtain ⟨t, recorded, _, status⟩ := current rfl
  obtain ⟨t', found⟩ := Option.isSome_iff_exists.1 rolled
  obtain ⟨recorded', status'⟩ := World.inStatus_eq_some.1 found
  obtain rfl := Option.some.inj (recorded.symm.trans recorded')
  rw [status'] at status
  exact absurd status (by decide)

end Vertep.Providers
