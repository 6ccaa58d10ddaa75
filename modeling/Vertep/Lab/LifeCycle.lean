import Vertep.Lab.Steps

/-!
# The life of a lease (`core/api/lab_lease.py`)

There is one lease at most; it is granted once, may be revoked once, with a deadline that stays, and is dropped. A
heartbeat and the list of active leases know no lease past its end. An inference call is checked before it waits for
its body and is not checked again, so its lease may have ended when the call is forwarded.
-/

namespace Vertep.Lab
open Lib

/-- A granted lease has no deadline but its expiry, a revoked one has one. -/
def Lease.Sound (lease : Lease) : Prop := lease.reclaimAt.isSome ↔ lease.state = .revoking

/-- What may become of a lease: a revoked one stays as it is, deadline included, until it is gone. -/
def Ages (before after : Option Lease) : Prop :=
  match before with
  | none => after = none
  | some lease => lease.state = .revoking → after = none ∨ after = some lease

lemma Ages.refl (lease : Option Lease) : Ages lease lease := by
  cases lease with
  | none => rfl
  | some lease => exact fun _ => .inr rfl

lemma Ages.none (lease : Option Lease) : Ages lease none := by
  cases lease with
  | none => rfl
  | some lease => exact fun _ => .inl rfl

lemma Ages.trans {a b c : Option Lease} (ab : Ages a b) (bc : Ages b c) : Ages a c := by
  cases a with
  | none =>
    cases (show b = Option.none from ab)
    exact bc
  | some lease =>
    intro revoked
    obtain rfl | rfl := ab revoked
    · exact .inl bc
    · exact bc revoked

lemma ages_filter (before : Option Lease) (p : Lease → Bool) : Ages before (before.filter p) := by
  cases before with
  | none => rfl
  | some lease =>
    rw [Option.filter_some]
    split
    · exact .refl _
    · exact .none _

lemma ages_revoke (grace : ℤ) (now : ℚ) (before : Option Lease) : Ages before (before.map (·.revoke grace now)) := by
  cases before with
  | none => rfl
  | some lease =>
    intro revoked
    rw [Option.map_some, Lease.revoke, if_neg (by rw [revoked]; exact nofun)]
    exact .inr rfl

/-- What a section does to the table that grants no lease. -/
structure Shrinks (before after : Leases) : Prop where
  length : after.entries.length ≤ before.entries.length
  ages : ∀ leaseId, Ages (before.get? leaseId) (after.get? leaseId)
  kept : ∀ leaseId lease', after.get? leaseId = some lease' →
    ∃ lease, before.get? leaseId = some lease ∧ (lease.Sound → lease'.Sound)

lemma Shrinks.refl (leases : Leases) : Shrinks leases leases :=
  ⟨le_refl _, fun _ => .refl _, fun _ lease found => ⟨lease, found, id⟩⟩

lemma Shrinks.trans {a b c : Leases} (ab : Shrinks a b) (bc : Shrinks b c) : Shrinks a c := by
  refine ⟨bc.length.trans ab.length, fun leaseId => (ab.ages leaseId).trans (bc.ages leaseId), ?_⟩
  intro leaseId lease'' found
  obtain ⟨lease', found', sound'⟩ := bc.kept leaseId lease'' found
  obtain ⟨lease, found, sound⟩ := ab.kept leaseId lease' found'
  exact ⟨lease, found, sound' ∘ sound⟩

lemma shrinks_dropFinished (now : ℚ) (leases : Leases) : Shrinks leases (dropFinished now leases) := by
  refine ⟨List.length_filter_le _ _, fun leaseId => ?_, fun leaseId lease' found => ?_⟩
  · rw [dropFinished, Dict.get?_filter]
    exact ages_filter _ _
  · rw [dropFinished, Dict.get?_filter] at found
    obtain ⟨found, _⟩ := Option.filter_eq_some_iff.1 found
    exact ⟨lease', found, id⟩

lemma Lease.Sound.revoke {lease : Lease} (grace : ℤ) (now : ℚ) (sound : lease.Sound) : (lease.revoke grace now).Sound := by
  unfold Lease.revoke
  split
  · exact ⟨fun _ => rfl, fun _ => rfl⟩
  · exact sound

lemma shrinks_revokeAll (grace : ℤ) (now : ℚ) (leases : Leases) : Shrinks leases (revokeAll grace now leases) := by
  refine ⟨by simp [revokeAll, Dict.map], fun leaseId => ?_, fun leaseId lease' found => ?_⟩
  · rw [revokeAll, Dict.get?_map]
    exact ages_revoke grace now _
  · rw [revokeAll, Dict.get?_map] at found
    obtain ⟨lease, before, rfl⟩ := Option.map_eq_some_iff.1 found
    exact ⟨lease, before, (·.revoke grace now)⟩

lemma shrinks_pop (leaseId : String) (leases : Leases) : Shrinks leases (leases.pop leaseId) := by
  refine ⟨List.length_filter_le _ _, fun other => ?_, fun other lease' found => ?_⟩
  · rw [Dict.get?_pop]
    split
    · exact .none _
    · exact .refl _
  · rw [Dict.get?_pop] at found
    split at found
    · cases found
    · exact ⟨lease', found, id⟩

lemma shrinks_holdSection (grace : ℤ) (now : ℚ) (queueDepth : ℕ) (leases : Leases) :
    Shrinks leases (holdSection grace now queueDepth leases).2 := by
  unfold holdSection
  split
  · exact (shrinks_dropFinished now leases).trans (shrinks_revokeAll grace now _)
  · exact shrinks_dropFinished now leases

variable {leaseId : String}

lemma shrinks_extended {leases : Leases} {lease : Lease} (expiresAt : ℚ)
    (found : leases.get? leaseId = some lease) (granted : lease.state = .granted) :
    Shrinks leases (leases.set leaseId { lease with expiresAt := expiresAt }) := by
  have there : leaseId ∈ leases.keys := Dict.mem_keys_iff.2 ⟨lease, found⟩
  refine ⟨?_, fun other => ?_, fun other lease' found' => ?_⟩
  · have keys := congrArg List.length
      (Dict.keys_set_of_mem (v := { lease with expiresAt := expiresAt }) there)
    simpa [Dict.keys] using keys.le
  · rw [Dict.get?_set]
    split
    · next same =>
      subst same
      rw [found]
      exact fun revoked => absurd (granted.symm.trans revoked) (by decide)
    · exact .refl _
  · rw [Dict.get?_set] at found'
    split at found'
    · next same =>
      subst same
      cases found'
      exact ⟨lease, found, id⟩
    · exact ⟨lease', found', id⟩

lemma shrinks_heartbeat (grace : ℤ) (now : ℚ) (pressure : Pressure) (dispatchAllowed : Bool) (leaseId : String)
    (ttl : Option ℤ) (leases : Leases) :
    Shrinks leases (heartbeatSection grace now pressure dispatchAllowed leaseId ttl leases).2 := by
  unfold heartbeatSection
  split
  · exact .refl _
  next lease found =>
  split
  · exact shrinks_revokeAll grace now leases
  split
  · exact .refl _
  next granted =>
  split
  · exact shrinks_pop leaseId leases
  · exact shrinks_extended _ found (not_not.1 granted)

/-! ## What is reported -/

variable {grace : ℤ}

lemma heartbeat_active {now : ℚ} {pressure : Pressure} {dispatchAllowed : Bool}
    {ttl : Option ℤ} {leases : Leases}
    (active : (heartbeatSection grace now pressure dispatchAllowed leaseId ttl leases).1.active = true) :
    Usable now leaseId leases := by
  unfold heartbeatSection at active
  split at active
  · cases active
  next lease found =>
  split at active
  · cases active
  split at active
  · cases active
  next granted =>
  split at active
  · cases active
  next unexpired => exact ⟨lease, found, not_not.1 granted, not_le.1 unexpired⟩

lemma status_active {now : ℚ} {leases : Leases} (listed : leaseId ∈ (statusSection now leases).1) :
    ∃ lease, leases.get? leaseId = some lease ∧ now < lease.deadline := by
  rw [statusSection, List.mem_insertionSort, Dict.mem_keys_iff] at listed
  obtain ⟨lease, found⟩ := listed
  rw [dropFinished, Dict.get?_filter] at found
  obtain ⟨found, unfinished⟩ := Option.filter_eq_some_iff.1 found
  exact ⟨lease, found, of_decide_eq_true unfinished⟩

/-! ## Steps -/

/-- A lease that is new is the only one. -/
structure Grants (s s' : State) : Prop where
  grants : ∃ leaseId lease, leaseId ∉ s.issued ∧ s'.leases = (∅ : Leases).set leaseId lease ∧
    s'.issued = leaseId :: s.issued ∧ lease.Sound

variable {s s' : State}

lemma Step.leases (step : Step grace s s') :
    (Shrinks s.leases s'.leases ∧ s'.issued = s.issued) ∨ Grants s s' := by
  cases step with
  | look => exact .inl ⟨.refl _, rfl⟩
  | claim thread claim here step =>
    refine .inl ?_
    cases step with
    | hold | pass => exact ⟨shrinks_holdSection grace s.clock s.ready.length s.leases, rfl⟩
    | returnHeld | endHeld =>
      unfold State.putBack
      split <;> exact ⟨.refl _, rfl⟩
    | _ => exact ⟨.refl _, rfl⟩
  | lab step =>
    cases step with
    | grant _ request fresh lease granted =>
      obtain ⟨_, _, _, state, reclaimAt, after⟩ := requestSection_granted granted
      refine .inr ⟨request.leaseId, lease, fresh, after, rfl, ?_⟩
      rw [Lease.Sound, state, reclaimAt]
      exact ⟨nofun, nofun⟩
    | deny _ _ _ denied =>
      refine .inl ⟨?_, rfl⟩
      dsimp only
      rw [requestSection_denied denied]
      exact shrinks_dropFinished s.clock s.leases
    | heartbeat => exact .inl ⟨shrinks_heartbeat _ _ _ _ _ _ _, rfl⟩
    | release leaseId => exact .inl ⟨shrinks_pop leaseId s.leases, rfl⟩
    | status => exact .inl ⟨shrinks_dropFinished s.clock s.leases, rfl⟩
    | check | forward | «over» => exact .inl ⟨.refl _, rfl⟩
    | poll => exact .inl ⟨shrinks_revokeAll grace s.clock s.leases, rfl⟩
  | other step =>
    refine .inl ?_
    cases step with
    | requeue =>
      unfold State.putBack
      split <;> exact ⟨.refl _, rfl⟩
    | _ => exact ⟨.refl _, rfl⟩

/-- The invariant: one lease at most, known and in order. -/
structure Orderly (s : State) : Prop where
  one : s.leases.entries.length ≤ 1
  known : ∀ leaseId lease, s.leases.get? leaseId = some lease → leaseId ∈ s.issued ∧ lease.Sound

lemma Step.orderly (step : Step grace s s') (orderly : Orderly s) : Orderly s' := by
  obtain ⟨shrinks, issued⟩ | ⟨leaseId, lease, _, after, issued, sound⟩ := step.leases
  · refine ⟨shrinks.length.trans orderly.one, fun leaseId lease' found => ?_⟩
    obtain ⟨lease, before, sound⟩ := shrinks.kept leaseId lease' found
    have ⟨known, ordered⟩ := orderly.known leaseId lease before
    exact ⟨issued ▸ known, sound ordered⟩
  · refine ⟨by rw [after]; exact le_refl 1, fun other lease' found => ?_⟩
    rw [after, Dict.get?_set] at found
    split at found
    · next same =>
      cases found
      rw [issued, ← same]
      exact ⟨List.mem_cons_self, sound⟩
    · cases found

lemma Step.issued (step : Step grace s s') : s.issued ⊆ s'.issued := by
  obtain ⟨_, issued⟩ | ⟨_, _, _, _, issued, _⟩ := step.leases
  · exact issued ▸ List.Subset.refl _
  · exact issued ▸ List.subset_cons_self _ _

lemma Step.ages (step : Step grace s s') (known : leaseId ∈ s.issued) :
    Ages (s.leases.get? leaseId) (s'.leases.get? leaseId) := by
  obtain ⟨shrinks, _⟩ | ⟨other, lease, fresh, after, _, _⟩ := step.leases
  · exact shrinks.ages leaseId
  · have apart : other ≠ leaseId := by
      rintro rfl
      exact fresh known
    rw [after, Dict.get?_set, if_neg apart, Dict.get?_empty]
    exact .none _

/-- The lease of a call that waits for its body is not revoked, released or dropped, and does not expire. -/
def Patient (s s' : State) : Prop :=
  ∀ thread leaseId, s.waiting.get? thread = some leaseId → Usable s.clock leaseId s.leases →
    Usable s'.clock leaseId s'.leases

def PatientStep (grace : ℤ) (s s' : State) : Prop := Step grace s s' ∧ Patient s s'

lemma Step.waits (step : Step grace s s') {thread : ℕ}
    (waits : s'.waiting.get? thread = some leaseId) :
    s.waiting.get? thread = some leaseId ∨ Usable s'.clock leaseId s'.leases := by
  cases step with
  | look => exact .inl waits
  | claim _ _ _ step =>
    refine .inl ?_
    cases step with
    | returnHeld | endHeld =>
      unfold State.putBack at waits
      split at waits <;> exact waits
    | _ => exact waits
  | lab step =>
    cases step with
    | check other leaseId' _ usable =>
      rw [Dict.get?_set] at waits
      split at waits
      · cases waits
        exact .inr usable
      · exact .inl waits
    | forward other =>
      rw [Dict.get?_pop] at waits
      split at waits
      · cases waits
      · exact .inl waits
    | _ => exact .inl waits
  | other step =>
    refine .inl ?_
    cases step with
    | requeue =>
      unfold State.putBack at waits
      split at waits <;> exact waits
    | _ => exact waits

/-! ## Runs -/

lemma reach_orderly (reach : Reach Init (Step grace) s) : Orderly s := by
  refine reach.invariant ?_ fun _ _ orderly step => step.orderly orderly
  rintro s ⟨none, _⟩
  refine ⟨by rw [none]; exact Nat.zero_le 1, fun leaseId lease found => ?_⟩
  rw [none] at found
  cases found

lemma ages_of_steps (steps : Relation.ReflTransGen (Step grace) s s') :
    s.issued ⊆ s'.issued ∧ ∀ leaseId ∈ s.issued, Ages (s.leases.get? leaseId) (s'.leases.get? leaseId) := by
  induction steps with
  | refl => exact ⟨List.Subset.refl _, fun _ _ => .refl _⟩
  | tail _ step ih =>
    obtain ⟨issued, ages⟩ := ih
    exact ⟨List.Subset.trans issued step.issued, fun leaseId known => (ages leaseId known).trans (step.ages (issued known))⟩

lemma reach_patient (reach : Reach Init (PatientStep grace) s) (thread : ℕ) (leaseId : String)
    (waits : s.waiting.get? thread = some leaseId) : Usable s.clock leaseId s.leases := by
  refine reach.invariant (I := fun s => ∀ thread leaseId, s.waiting.get? thread = some leaseId →
    Usable s.clock leaseId s.leases) ?_ ?_ thread leaseId waits
  · rintro s ⟨_, _, _, none, _⟩ thread leaseId waits
    rw [none] at waits
    cases waits
  · rintro s s' usable ⟨step, patient⟩ thread leaseId waits
    obtain before | now := step.waits waits
    · exact patient thread leaseId before (usable thread leaseId before)
    · exact now

/-- **A lease lives once**: in every run there is one at most, none is granted again, the deadline of a revoked one
stays, and none is reported active after its end; and none is used after its end to forward a call, in every run in
which no lease ends while a call that was checked with it waits for its body. -/
theorem a_lease_lives_once (grace : ℤ) (s : State) (reach : Reach Init (Step grace) s) :
    s.leases.entries.length ≤ 1 ∧
    (∀ leaseId lease, s.leases.get? leaseId = some lease → lease.Sound) ∧
    (∀ s', Relation.ReflTransGen (Step grace) s s' → ∀ leaseId ∈ s.issued,
      Ages (s.leases.get? leaseId) (s'.leases.get? leaseId)) ∧
    (∀ dispatchAllowed leaseId ttl,
      (heartbeatSection grace s.clock s.pressure dispatchAllowed leaseId ttl s.leases).1.active = true →
        Usable s.clock leaseId s.leases) ∧
    (∀ leaseId ∈ (statusSection s.clock s.leases).1,
      ∃ lease, s.leases.get? leaseId = some lease ∧ s.clock < lease.deadline) ∧
    (Reach Init (PatientStep grace) s → ∀ thread leaseId, s.waiting.get? thread = some leaseId →
      Usable s.clock leaseId s.leases) := by
  have orderly := reach_orderly reach
  refine ⟨orderly.one, fun leaseId lease found => (orderly.known leaseId lease found).2, ?_, ?_, ?_, ?_⟩
  · exact fun s' steps leaseId known => (ages_of_steps steps).2 leaseId known
  · exact fun dispatchAllowed leaseId ttl active => heartbeat_active active
  · exact fun leaseId listed => status_active listed
  · exact reach_patient

/-! A lease of a minute, and a call that waits for its body. -/

def minute : Lease := ⟨"lease-0", "", 0, 60, .granted, 0, none⟩

def alone : State := ⟨0, ∅, [], [], [], ∅, ∅, ∅, ∅⟩

def minuteRequest : LeaseRequest := ⟨"lease-0", "", 0, some 60⟩

/-- The lease is granted. -/
def grantedState : State :=
  { alone with
    leases := (requestSection alone.clock alone.pressure true alone.workers.values minuteRequest alone.leases).2
    issued := ["lease-0"] }

def checkedState : State := { grantedState with waiting := (∅ : Dict ℕ String).set 0 "lease-0" }

lemma checkedState_reached : Reach Init (Step 90) checkedState := by
  have start : Reach Init (Step 90) alone := .init ⟨rfl, rfl, rfl, rfl, rfl⟩
  have granted : Reach Init (Step 90) grantedState :=
    start.step (.lab (.grant true minuteRequest List.not_mem_nil minute (by decide +kernel)))
  exact granted.step (.lab (.check 0 "lease-0" rfl (by decide +kernel)))

theorem a_lease_lives_once_from_check :
    checkedState.leases.entries.length ≤ 1 ∧
    (∀ leaseId lease, checkedState.leases.get? leaseId = some lease → lease.Sound) ∧
    (∀ s', Relation.ReflTransGen (Step 90) checkedState s' → ∀ leaseId ∈ checkedState.issued,
      Ages (checkedState.leases.get? leaseId) (s'.leases.get? leaseId)) ∧
    (∀ dispatchAllowed leaseId ttl,
      (heartbeatSection 90 checkedState.clock checkedState.pressure dispatchAllowed leaseId ttl
        checkedState.leases).1.active = true → Usable checkedState.clock leaseId checkedState.leases) ∧
    (∀ leaseId ∈ (statusSection checkedState.clock checkedState.leases).1,
      ∃ lease, checkedState.leases.get? leaseId = some lease ∧ checkedState.clock < lease.deadline) ∧
    (Reach Init (PatientStep 90) checkedState → ∀ thread leaseId, checkedState.waiting.get? thread = some leaseId →
      Usable checkedState.clock leaseId checkedState.leases) :=
  a_lease_lives_once 90 checkedState checkedState_reached

/-- A call is only forwarded with a lease that has not ended. -/
def ForwardsInTime (grace : ℤ) : Prop :=
  ∀ s s', Reach Init (Step grace) s → Step grace s s' → ∀ thread leaseId, s.waiting.get? thread = some leaseId →
    s'.running.get? thread = some leaseId → s.running.get? thread = none → Usable s.clock leaseId s.leases

/-- The lease expires while the call waits for its body. -/
theorem forwards_after_expiry : ¬ ForwardsInTime 90 := by
  intro inTime
  have late := checkedState_reached.step (.other (.tick 100 (by decide +kernel)))
  have forward : Step 90 { checkedState with clock := 100 } _ := .lab (.forward 0 "lease-0" rfl)
  have usable : Usable 100 "lease-0" checkedState.leases := inTime _ _ late forward 0 "lease-0" rfl rfl rfl
  exact absurd usable (by decide +kernel)

end Vertep.Lab
