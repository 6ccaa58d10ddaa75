import Vertep.Providers.Failures

/-!
# Crashes of a switch (`core/provider_switch.py`)

What the next start finds after the process ended at any place inside a call. A call is `Torn` when it ends between
the two writes that put the overrides back under a record that still waits.
-/

namespace Vertep.Providers
open Lib Command

/-- The overrides are the ones that the record is about. -/
def Sound (w : World) : Prop :=
  match w.activation with
  | none => w.overrides = w.confirmed
  | some tx =>
    match tx.status with
    | .applying => tx.previous = w.confirmed
    | .awaitingWorker => tx.previous = w.confirmed ∧ w.overrides = tx.selected
    | .committed => w.overrides = tx.selected ∧ w.confirmed = tx.selected
    | .rolledBack => w.overrides = w.confirmed

/-- The last confirmed selection is in force and nothing is open, or a selection that the record names is. -/
def Recovered (w : World) : Prop :=
  (w.overrides = w.confirmed ∧ ∀ tx, w.activation = some tx → ¬ tx.Open) ∨
  ∃ tx, w.activation = some tx ∧ (tx.status = .awaitingWorker ∨ tx.status = .committed) ∧ w.overrides = tx.selected

def restart (environ : Vars) (w : World) : World := (applyProviderOverrides (fun _ => .lands) { w with environ }).2

/-- A call of one of the functions that write the records. -/
inductive Call where
  | switch (r : Request)
  | reconcile (lockFree : Bool) (faults : Point → Fate) (nodeName : String) (worker : Worker)
  | start (environ : Vars) (faults : Point → Fate)

/-- The world that a call leaves, whether it returns, raises or is cut short. -/
def Call.run (host : Host) : Call → World → World
  | .switch r, w => (switchProvider host r w).2
  | .reconcile lockFree faults nodeName worker, w => (reconcileProviderActivation host lockFree faults nodeName worker w).2
  | .start environ faults, w => (applyProviderOverrides faults { w with environ }).2

def TornAt (faults : Point → Fate) (overrides record : Point) (tx : Transaction) : Prop :=
  faults overrides = .lands ∧ faults record ≠ .lands ∧ tx.previous ≠ tx.selected

/-- The call ends between the two writes of a superseding or of a refusal. -/
def Torn (host : Host) : Call → World → Prop
  | .switch r, w => r.lockFree = true ∧ ∃ tx, w.inStatus .awaitingWorker = some tx ∧ tx.slot = r.slot ∧
      TornAt r.faults .supersedeOverrides .supersedeRecord tx
  | .reconcile lockFree faults _ worker, w => lockFree = true ∧ ∃ tx, w.inStatus .awaitingWorker = some tx ∧
      Acknowledges host worker tx w ∧ Refuses host w.environ tx.slot (executorConfig w) worker ∧
      TornAt faults .refuseOverrides .refuseRecord tx
  | .start _ _, _ => False

/-- The call begins a transaction over one that an earlier call has left half applied. -/
def Overwrites (host : Host) : Call → World → Prop
  | .switch r, w => Begins host r w ∧ ∃ tx, w.inStatus .applying = some tx ∧ tx.previous ≠ w.overrides
  | _, _ => False

def Step (host : Host) (w w' : World) : Prop :=
  ∃ call : Call, ¬ Torn host call w ∧ ¬ Overwrites host call w ∧ w' = call.run host w

variable {host : Host} {r : Request} {w w' : World} {tx : Transaction}

/-! ## What is sound -/

lemma Sound.awaiting (sound : Sound w) (pending : w.inStatus .awaitingWorker = some tx) :
    tx.previous = w.confirmed ∧ w.overrides = tx.selected := by
  obtain ⟨recorded, status⟩ := World.inStatus_eq_some.1 pending
  simpa [Sound, recorded, status] using sound

lemma Sound.applying (sound : Sound w) (half : w.inStatus .applying = some tx) : tx.previous = w.confirmed := by
  obtain ⟨recorded, status⟩ := World.inStatus_eq_some.1 half
  simpa [Sound, recorded, status] using sound

lemma Sound.confirmed (sound : Sound w) (clear : w.inStatus .awaitingWorker = none)
    (whole : ∀ tx, w.inStatus .applying = some tx → tx.previous = w.overrides) : w.overrides = w.confirmed := by
  unfold Sound at sound
  cases recorded : w.activation with
  | none => simpa only [recorded] using sound
  | some tx =>
    rw [recorded] at sound
    cases status : tx.status <;> simp only [status] at sound
    · exact (whole tx (World.inStatus_eq_some.2 ⟨recorded, status⟩)).symm.trans sound
    · rw [World.inStatus_eq_some.2 ⟨recorded, status⟩] at clear
      cases clear
    · exact sound.1.trans sound.2.symm
    · exact sound

variable {faults : Point → Fate} {x : Except Failure Unit}

lemma PutBack.sound {overrides record : Point} {targets : List String}
    (went : PutBack faults overrides record tx targets w x w') (sound : Sound w) (recorded : w.activation = some tx)
    (open_ : tx.Open) (whole : tx.status = .awaitingWorker → ¬ TornAt faults overrides record tx) : Sound w' := by
  have previous : tx.previous = w.confirmed := by
    obtain applying | waiting := open_
    · exact sound.applying (World.inStatus_eq_some.2 ⟨recorded, applying⟩)
    · exact (sound.awaiting (World.inStatus_eq_some.2 ⟨recorded, waiting⟩)).1
  cases went with
  | unwritten e lost => exact sound
  | unmarked e landed lost =>
    obtain applying | waiting := open_
    · simpa [Sound, World.restored, recorded, applying] using previous
    · have same : tx.previous = tx.selected := by
        by_contra differs
        exact whole waiting ⟨landed, lost, differs⟩
      simpa [Sound, World.restored, recorded, waiting] using ⟨previous, same⟩
  | marked landed marked => exact previous

lemma Activated.sound {selection : Selection}
    (left : Activated host r selection w tx x w') (sound : Sound w) (applying : tx.status = .applying)
    (previous : tx.previous = w.overrides) (confirmed : r.faults .applying = .lands → w.overrides = w.confirmed) :
    Sound w' := by
  have begun (recorded : r.faults .applying = .lands) (overrides environ : Vars) :
      Sound { w.begun tx with overrides, environ } := by
    simpa [Sound, World.begun, applying] using previous.trans (confirmed recorded)
  cases left with
  | unrecorded e lost => exact sound
  | unselected e recorded lost => exact begun recorded _ _
  | verified recorded written landed workers =>
    unfold Sound
    by_cases targets : tx.targets = []
    · simpa [Transaction.verified, World.selecting, targets] using previous.trans (confirmed recorded)
    · simp [Transaction.verified, World.selecting, targets]
  | reverted recorded written e w' left =>
    cases left with
    | stopped | unrestored e lost | unmarked e landed lost => exact begun recorded _ _
    | marked e landed marked => exact confirmed recorded

lemma switch_sound (sound : Sound w) (whole : ¬ Torn host (.switch r) w) (apart : ¬ Overwrites host (.switch r) w) :
    Sound (switchProvider host r w).2 := by
  have went := switchProvider_cases host r w
  generalize switchProvider host r w = result at went
  obtain ⟨x, w'⟩ := result
  dsimp only at went ⊢
  have superseded (free : r.lockFree = true) {x : Except Failure Unit} {w' : World} (went : Superseded r w x w') :
      Sound w' := by
    cases went with
    | clear clear => exact sound
    | foreign e tx pending other => exact sound
    | own tx pending same x w' went =>
      obtain ⟨recorded, status⟩ := World.inStatus_eq_some.1 pending
      exact went.sound sound recorded (.inr status) fun _ torn => whole ⟨free, tx, pending, same, torn⟩
  cases went with
  | busy e locked => exact sound
  | blocked e w' free went | refused e w' free went checks | unchanged w' free went checks => exact superseded free went
  | activated w₁ free went selection checks x w' left =>
    refine left.sound (superseded free went) rfl rfl fun recorded => ?_
    cases went with
    | clear clear =>
      refine sound.confirmed clear fun tx half => ?_
      by_contra differs
      exact apart ⟨⟨free, clear, ⟨selection, checks⟩, recorded⟩, tx, half, differs⟩
    | own tx pending same x w' went =>
      cases went with
      | marked landed marked => exact (sound.awaiting pending).1

lemma reconcile_sound {lockFree : Bool} {nodeName : String} {worker : Worker} (sound : Sound w)
    (whole : ¬ Torn host (.reconcile lockFree faults nodeName worker) w) :
    Sound (reconcileProviderActivation host lockFree faults nodeName worker w).2 := by
  unfold reconcileProviderActivation
  rw [read_bind]
  cases pending : w.inStatus .awaitingWorker with
  | none => exact sound
  | some tx =>
    dsimp only
    split
    · exact sound
    rename_i free
    obtain ⟨recorded, status⟩ := World.inStatus_eq_some.1 pending
    have went := reconcileHolding_cases host faults nodeName worker tx w
    generalize reconcileHolding host faults nodeName worker tx w = result at went
    obtain ⟨x, w'⟩ := result
    dsimp only at went ⊢
    cases went with
    | ignored ignores => exact sound
    | refused reports refuses x w' went =>
      refine went.sound sound recorded (.inr status) fun _ torn => whole ?_
      exact ⟨by simpa using free, tx, pending, reports, refuses, torn⟩
    | lost e accepts lost => exact sound
    | acknowledged reports accepts landed => exact ⟨(sound.awaiting pending).2, rfl⟩

lemma start_sound (environ : Vars) (faults : Point → Fate) (sound : Sound w) :
    Sound (applyProviderOverrides faults { w with environ }).2 := by
  obtain ⟨_, environ', left⟩ | ⟨tx, x, w₁, environ', half, went, left⟩ :=
    applyProviderOverrides_cases faults { w with environ }
  · rw [left]
    exact sound
  · obtain ⟨recorded, status⟩ := World.inStatus_eq_some.1 half
    have kept : Sound { w with environ } := sound
    rw [left]
    refine went.sound kept recorded (.inl status) fun waiting => ?_
    rw [status] at waiting
    cases waiting

lemma Call.sound {call : Call} (sound : Sound w) (whole : ¬ Torn host call w) (apart : ¬ Overwrites host call w) :
    Sound (call.run host w) := by
  cases call with
  | switch r => exact switch_sound sound whole apart
  | reconcile lockFree faults nodeName worker => exact reconcile_sound sound whole
  | start environ faults => exact start_sound environ faults sound

lemma reach_sound {w₀ : World} (start : Sound w₀) (run : Relation.ReflTransGen (Step host) w₀ w) : Sound w := by
  induction run with
  | refl => exact start
  | tail _ step ih =>
    obtain ⟨call, whole, apart, rfl⟩ := step
    exact Call.sound ih whole apart

/-! ## The next start -/

lemma restart_whole (environ : Vars) (whole : w.inStatus .applying = none) :
    (restart environ w).overrides = w.overrides ∧ (restart environ w).activation = w.activation ∧
      (restart environ w).confirmed = w.confirmed := by
  unfold restart
  obtain ⟨_, environ', left⟩ | ⟨tx, x, w₁, environ', half, _⟩ :=
    applyProviderOverrides_cases (fun _ => .lands) { w with environ }
  · rw [left]
    exact ⟨rfl, rfl, rfl⟩
  · exact absurd (half.symm.trans whole) (Option.some_ne_none tx)

lemma restart_half (environ : Vars) (half : w.inStatus .applying = some tx) :
    (restart environ w).overrides = tx.previous ∧ (restart environ w).activation = some tx.undone ∧
      (restart environ w).confirmed = w.confirmed := by
  unfold restart
  obtain ⟨whole, _⟩ | ⟨t, x, w₁, environ', found, went, left⟩ :=
    applyProviderOverrides_cases (fun _ => .lands) { w with environ }
  · exact absurd (half.symm.trans whole) (Option.some_ne_none tx)
  · obtain rfl := Option.some.inj (found.symm.trans half)
    rw [left]
    cases went with
    | unwritten e lost | unmarked e landed lost => exact absurd rfl lost
    | marked landed marked => exact ⟨rfl, rfl, rfl⟩

lemma Sound.recovered (sound : Sound w) (environ : Vars) : Recovered (restart environ w) := by
  cases half : w.inStatus .applying with
  | some tx =>
    obtain ⟨overrides, activation, confirmed⟩ := restart_half environ half
    refine .inl ⟨(overrides.trans (sound.applying half)).trans confirmed.symm, fun t recorded => ?_⟩
    obtain rfl := Option.some.inj (activation.symm.trans recorded)
    exact (by decide : ¬ (Status.rolledBack = .applying ∨ Status.rolledBack = .awaitingWorker))
  | none =>
    obtain ⟨overrides, activation, confirmed⟩ := restart_whole environ half
    unfold Recovered
    rw [overrides, activation, confirmed]
    cases pending : w.inStatus .awaitingWorker with
    | some tx =>
      obtain ⟨recorded, status⟩ := World.inStatus_eq_some.1 pending
      exact .inr ⟨tx, recorded, .inl status, (sound.awaiting pending).2⟩
    | none =>
      refine .inl ⟨sound.confirmed pending fun tx found => ?_, fun tx recorded open_ => ?_⟩
      · exact absurd (found.symm.trans half) (Option.some_ne_none tx)
      · obtain applying | waiting := open_
        · exact absurd ((World.inStatus_eq_some.2 ⟨recorded, applying⟩).symm.trans half) (Option.some_ne_none tx)
        · exact absurd ((World.inStatus_eq_some.2 ⟨recorded, waiting⟩).symm.trans pending) (Option.some_ne_none tx)

lemma PutBack.torn {overrides record : Point} {targets : List String}
    (went : PutBack faults overrides record tx targets w x w') (landed : faults overrides = .lands)
    (lost : faults record ≠ .lands) : x ≠ .ok () ∧ w' = w.restored tx := by
  cases went with
  | unwritten e lost => exact absurd landed lost
  | unmarked e _ _ => exact ⟨by rintro ⟨⟩, rfl⟩
  | marked _ marked => exact absurd marked lost

lemma Torn.run {call : Call} (torn : Torn host call w) :
    ∃ tx, w.inStatus .awaitingWorker = some tx ∧ tx.previous ≠ tx.selected ∧ call.run host w = w.restored tx := by
  cases call with
  | switch r =>
    obtain ⟨free, tx, pending, same, landed, lost, differs⟩ := torn
    refine ⟨tx, pending, differs, ?_⟩
    have went := switchProvider_cases host r w
    show (switchProvider host r w).2 = w.restored tx
    generalize switchProvider host r w = result at went
    obtain ⟨x, w'⟩ := result
    dsimp only at went ⊢
    have superseded {x : Except Failure Unit} {w' : World} (went : Superseded r w x w') :
        x ≠ .ok () ∧ w' = w.restored tx := by
      cases went with
      | clear clear => exact absurd (pending.symm.trans clear) (Option.some_ne_none tx)
      | foreign e t found other =>
        obtain rfl := Option.some.inj (found.symm.trans pending)
        exact absurd same other
      | own t found _ x w' went =>
        obtain rfl := Option.some.inj (found.symm.trans pending)
        exact went.torn landed lost
    cases went with
    | busy e locked => exact absurd (locked.symm.trans free) (by decide)
    | blocked e w' _ went => exact (superseded went).2
    | refused e w' _ went checks | unchanged w' _ went checks | activated w₁ _ went selection checks x w' left =>
      exact absurd rfl (superseded went).1
  | reconcile lockFree faults nodeName worker =>
    obtain ⟨free, tx, pending, reports, refuses, landed, lost, differs⟩ := torn
    refine ⟨tx, pending, differs, ?_⟩
    have went := reconcileHolding_cases host faults nodeName worker tx w
    have left : (reconcileHolding host faults nodeName worker tx w).2 = w.restored tx := by
      generalize reconcileHolding host faults nodeName worker tx w = result at went
      obtain ⟨x, w'⟩ := result
      dsimp only at went ⊢
      cases went with
      | ignored ignores => exact absurd reports ignores
      | refused _ _ x w' went => exact (went.torn landed lost).2
      | lost e accepts _ | acknowledged _ accepts _ => exact absurd refuses accepts
    simp only [Call.run, reconcileProviderActivation, read_bind, pending, free, Bool.true_eq_false, if_false, left]
  | start environ faults => exact torn.elim

lemma not_recovered_of_torn (call : Call) (torn : Torn host call w) (environ : Vars) :
    ¬ Recovered (restart environ (call.run host w)) := by
  obtain ⟨tx, pending, differs, left⟩ := torn.run
  obtain ⟨recorded, status⟩ := World.inStatus_eq_some.1 pending
  have kept : (w.restored tx).activation = some tx := recorded
  obtain ⟨overrides, activation, confirmed⟩ :=
    restart_whole environ (World.inStatus_eq_none kept status (by decide : Status.awaitingWorker ≠ .applying))
  rw [left, Recovered, overrides, activation, kept]
  rintro (⟨_, closed⟩ | ⟨t, same, _, selected⟩)
  · exact closed tx rfl (.inr status)
  · obtain rfl := Option.some.inj same
    exact differs selected

/-- From every state that calls lead to which are neither torn nor begin over what is half applied: wherever the next such
call ends, the next start recovers, exactly when it is not torn. -/
theorem next_start_recovers (host : Host) {w₀ w : World} (start : Sound w₀)
    (run : Relation.ReflTransGen (Step host) w₀ w) (call : Call) (apart : ¬ Overwrites host call w) (environ : Vars) :
    Recovered (restart environ (call.run host w)) ↔ ¬ Torn host call w :=
  ⟨fun recovered torn => not_recovered_of_torn call torn environ recovered,
    fun whole => (Call.sound (reach_sound start run) whole apart).recovered environ⟩

lemma untouched_sound : Sound untouched := rfl

lemma untouched_not_torn (r : Request) : ¬ Torn plainHost (.switch r) untouched := by
  rintro ⟨_, tx, pending, _⟩
  exact Option.some_ne_none tx pending.symm

lemma untouched_not_overwritten (r : Request) : ¬ Overwrites plainHost (.switch r) untouched := by
  rintro ⟨_, tx, half, _⟩
  exact Option.some_ne_none tx half.symm

/-- A process that ends before the outcome of the first selection is recorded. -/
theorem next_start_recovers_from_untouched :
    Recovered (restart (fun _ => none) ((Call.switch { requestTts "mock" with
      faults := fun point => if point = .outcome then .crashes else .lands }).run plainHost untouched)) :=
  (next_start_recovers plainHost untouched_sound .refl _ (untouched_not_overwritten _) _).2 (untouched_not_torn _)

/-- A second selection, of a process that ends between the two writes of the superseding. -/
def cutShort : Request :=
  { requestTts "piper" with faults := fun point => if point = .supersedeRecord then .crashes else .lands }

/-- It leaves the old overrides under a record that waits for a worker to confirm the first selection. -/
theorem superseding_is_torn :
    Sound untouched ∧ Relation.ReflTransGen (Step plainHost) untouched mockPending ∧
      ¬ Recovered (restart (fun _ => none) ((Call.switch cutShort).run plainHost mockPending)) := by
  refine ⟨rfl, .single ⟨.switch (requestTts "mock"), untouched_not_torn _, untouched_not_overwritten _, rfl⟩, ?_⟩
  have waits : (mockPending.inStatus .awaitingWorker).map (fun tx =>
      (tx.slot, tx.previous "TTS_PROVIDER", tx.selected "TTS_PROVIDER")) = some ("tts", none, some "mock") := by
    decide +kernel
  obtain ⟨tx, pending, fields⟩ := Option.map_eq_some_iff.1 waits
  obtain ⟨slot, previous, selected⟩ : tx.slot = "tts" ∧ tx.previous "TTS_PROVIDER" = none ∧
      tx.selected "TTS_PROVIDER" = some "mock" := by simpa using fields
  refine not_recovered_of_torn (.switch cutShort) ⟨rfl, tx, pending, slot, rfl, by decide, fun same => ?_⟩ _
  rw [same, selected] at previous
  cases previous

end Vertep.Providers
