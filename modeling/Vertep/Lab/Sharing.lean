import Vertep.Lab.Steps

/-!
# Production and the laboratory do not share a GPU (`core/api/lab_lease.py`)

The check of a claim and its scan of the queue are apart. A worker that was let pass because the queue was empty takes
what is queued after the check, also while a lease is granted. Where no task becomes ready in between, a GPU worker is
given a task only when the table of leases is empty.
-/

namespace Vertep.Lab
open Lib

/-- A claim of a GPU worker is past its check and may be given a task. -/
def Claim.Open (claim : Claim) : Prop :=
  claim.gpu = true ∧
    match claim.phase with
    | .passed | .scanning _ _ | .took _ _ _ => True
    | .holding | .handing _ _ | .ending _ => False

def State.Checked (s : State) : Prop := ∃ thread claim, s.claims.get? thread = some claim ∧ claim.Open

/-- A GPU worker's claim is given a task by the queue. -/
def State.Gives (s : State) (task : String) : Prop :=
  ∃ thread claim rounds held, s.claims.get? thread = some claim ∧ claim.gpu = true ∧
    claim.phase = .scanning (rounds + 1) held ∧ task ∈ s.ready

/-- A lease is granted, or it is revoked and its deadline is to come. -/
def Lease.Holds (now : ℚ) (lease : Lease) : Prop := lease.state = .granted ∨ now < lease.deadline

/-- A lease is granted, or revoked and neither released nor past its deadline. -/
def State.Lent (s : State) : Prop := ∃ leaseId lease, s.leases.get? leaseId = some lease ∧ lease.Holds s.clock

/-- While a lease is in the table and a GPU worker's claim is past its check, no task becomes ready. -/
def Calm (s s' : State) : Prop := s.Checked → s.leases ≠ ∅ → s'.ready ⊆ s.ready

def State.Guarded (s : State) : Prop := s.leases = ∅ ∨ s.ready = []

/-! ## Steps -/

variable {grace : ℤ} {s s' : State} {thread : ℕ}

lemma ClaimStep.guarded {claim : Claim} (step : ClaimStep grace s thread claim s')
    (guarded : s.Guarded) (calm : s.leases ≠ ∅ → s'.ready ⊆ s.ready) : s'.Guarded := by
  have kept : s.leases = ∅ → s'.leases = ∅ := by
    intro none
    cases step with
    | hold | pass => exact none ▸ holdSection_empty grace s.clock s.ready.length
    | returnHeld | endHeld =>
      unfold State.putBack
      split <;> exact none
    | _ => exact none
  by_cases none : s.leases = ∅
  · exact .inl (kept none)
  · have empty : s.ready = [] := guarded.resolve_left none
    have stays := calm none
    rw [empty] at stays
    exact .inr (List.subset_nil.1 stays)

lemma LabStep.guarded (step : LabStep grace s s') (guarded : s.Guarded) : s'.Guarded := by
  cases step with
  | grant _ _ _ _ granted => exact .inr (List.eq_nil_of_length_eq_zero (requestSection_granted granted).1)
  | deny _ _ _ denied =>
    refine guarded.imp_left fun none => ?_
    dsimp only
    rw [requestSection_denied denied, none, dropFinished_empty]
  | heartbeat => exact guarded.imp_left fun none => by rw [none, heartbeatSection_empty]
  | release => exact guarded.imp_left fun none => by rw [none, pop_empty]
  | status => exact guarded.imp_left fun none => by rw [statusSection, none, dropFinished_empty]
  | check | forward | «over» => exact guarded
  | poll => exact guarded.imp_left fun none => by rw [none, revokeAll_empty]

lemma OtherStep.leases (step : OtherStep s s') : s'.leases = s.leases := by
  cases step with
  | requeue =>
    unfold State.putBack
    split <;> rfl
  | _ => rfl

lemma Step.guarded (step : Step grace s s') (guarded : s.Guarded)
    (calm : s.leases ≠ ∅ → s'.ready ⊆ s.ready) : s'.Guarded := by
  cases step with
  | look => exact guarded
  | claim _ _ _ step => exact step.guarded guarded calm
  | lab step => exact step.guarded guarded
  | other step =>
    by_cases none : s.leases = ∅
    · exact .inl (step.leases.trans none)
    · have stays := calm none
      rw [guarded.resolve_left none] at stays
      exact .inr (List.subset_nil.1 stays)

lemma checked_setPhase {claim : Claim} {phase : Phase}
    (checked : (s.setPhase thread claim phase).Checked) :
    (claim.gpu = true ∧ Claim.Open { claim with phase := phase }) ∨ s.Checked := by
  obtain ⟨other, claim', found, past⟩ := checked
  rw [State.setPhase, Dict.get?_set] at found
  split at found
  · cases found
    exact .inl ⟨past.1, past⟩
  · exact .inr ⟨other, claim', found, past⟩

lemma checked_pop (claims : s'.claims = s.claims.pop thread) (checked : s'.Checked) :
    s.Checked := by
  obtain ⟨other, claim', found, past⟩ := checked
  rw [claims, Dict.get?_pop] at found
  split at found
  · cases found
  · exact ⟨other, claim', found, past⟩

lemma ClaimStep.opens {claim : Claim} (step : ClaimStep grace s thread claim s')
    (here : s.claims.get? thread = some claim) (checked : s'.Checked) : s.Checked ∨ s'.Guarded := by
  have before : claim.Open → s.Checked := fun past => ⟨thread, claim, here, past⟩
  cases step with
  | hold | refuse | hand | done => exact .inl (checked_pop rfl checked)
  | pass at_ free =>
    obtain empty | empty := holdSection_free free
    · exact .inr (.inl empty)
    · exact .inr (.inr (List.eq_nil_of_length_eq_zero empty))
  | limit at_ | stop at_ | ack at_ | keep at_ | take at_ =>
    obtain ⟨gpu, _⟩ | checked := checked_setPhase checked
    · exact .inl (before ⟨gpu, by rw [at_]; trivial⟩)
    · exact .inl checked
  | choose at_ =>
    obtain ⟨_, past⟩ | checked := checked_setPhase checked
    · exact absurd past.2 id
    · exact .inl checked
  | @returnHeld _ _ _ other | @endHeld _ _ other =>
    obtain ⟨_, past⟩ | checked := checked_setPhase checked
    · exact absurd past.2 id
    · refine .inl ?_
      unfold State.putBack at checked
      split at checked <;> exact checked

lemma Step.opens (step : Step grace s s') (checked : s'.Checked) :
    s.Checked ∨ s'.Guarded := by
  cases step with
  | look thread nodeName worker new known =>
    obtain ⟨other, claim', found, past⟩ := checked
    rw [Dict.get?_set] at found
    split at found
    · cases found
      by_cases none : s.leases = ∅
      · exact .inr (.inl none)
      · obtain ⟨gpu, past⟩ := past
        have worker : isGpuWorker worker := of_decide_eq_true gpu
        simp [none, worker] at past
    · exact .inl ⟨other, claim', found, past⟩
  | claim thread claim here step => exact step.opens here checked
  | lab step => cases step <;> exact .inl checked
  | other step =>
    refine .inl ?_
    cases step with
    | requeue =>
      unfold State.putBack at checked
      split at checked <;> exact checked
    | _ => exact checked

def CalmStep (grace : ℤ) (s s' : State) : Prop := Step grace s s' ∧ Calm s s'

lemma reach_guarded (reach : Reach Init (CalmStep grace) s) : s.Checked → s.Guarded := by
  refine reach.invariant (I := fun s => s.Checked → s.Guarded) (fun s init _ => .inl init.1) fun s s' guarded ⟨step, calm⟩ checked => ?_
  obtain before | guarded' := step.opens checked
  · exact step.guarded (guarded before) (calm before)
  · exact guarded'

/-- **Production and the laboratory do not share a GPU**, in every run in which no task becomes ready between the check
of a GPU worker's claim and the end of its scan while a lease is in the table. -/
theorem gpu_is_not_shared (grace : ℤ) (s : State) (reach : Reach Init (CalmStep grace) s) (task : String)
    (gives : s.Gives task) : ¬ s.Lent := by
  rintro ⟨leaseId, lease, found, _⟩
  obtain ⟨thread, claim, rounds, held, here, gpu, phase, ready⟩ := gives
  have checked : s.Checked := ⟨thread, claim, here, gpu, by rw [phase]; trivial⟩
  obtain none | empty := reach_guarded reach checked
  · rw [none] at found
    cases found
  · rw [empty] at ready
    cases ready

/-! One GPU worker, and a lease. -/

def gpuWorker : Worker := ⟨["image_generation"], 8192, some 8192, none⟩

def idle : State := ⟨0, ∅, [], [], [], (∅ : Dict String Worker).set "gpu" gpuWorker, ∅, ∅, ∅⟩

def lent : Lease := ⟨"lease-0", "", 0, 900, .granted, 0, none⟩

/-- A task is queued while the lease is granted. The first claim of the worker revokes the lease and is held, and the
one after the deadline is given the task. -/
theorem gpu_is_not_shared_reclaimed : ∃ s : State, s.issued = ["lease-0"] ∧ s.Gives "task" ∧ ¬ s.Lent := by
  have start : Reach Init (CalmStep 90) idle := .init ⟨rfl, rfl, rfl, rfl, rfl⟩
  have granted := start.step ⟨.lab (.grant true ⟨"lease-0", "", 0, none⟩ List.not_mem_nil lent (by decide +kernel)),
    fun _ _ => List.Subset.refl _⟩
  have enqueued := granted.step ⟨.other (.enqueue "task"), fun ⟨_, _, found, _⟩ => nomatch found⟩
  have looked := enqueued.step ⟨.look 0 "gpu" gpuWorker rfl rfl, fun _ _ => List.Subset.refl _⟩
  have held := looked.step
    ⟨.claim 0 ⟨"gpu", true, .holding⟩ (by decide +kernel) (.hold rfl (by decide +kernel)), fun _ _ => List.Subset.refl _⟩
  have later := held.step ⟨.other (.tick 100 (by decide +kernel)), fun _ _ => List.Subset.refl _⟩
  have again := later.step ⟨.look 0 "gpu" gpuWorker (by decide +kernel) rfl, fun _ _ => List.Subset.refl _⟩
  have passed := again.step
    ⟨.claim 0 ⟨"gpu", true, .holding⟩ (by decide +kernel) (.pass rfl (by decide +kernel)), fun _ _ => List.Subset.refl _⟩
  have scanning := passed.step
    ⟨.claim 0 ⟨"gpu", true, .passed⟩ (by decide +kernel) (.limit rfl), fun _ _ => List.Subset.refl _⟩
  refine ⟨_, ?_, ?_, gpu_is_not_shared 90 _ scanning "task" ?_⟩
  · rfl
  all_goals exact ⟨0, ⟨"gpu", true, .scanning 1 []⟩, 0, [], by decide +kernel, rfl, rfl, by decide +kernel⟩

def NeverShared (grace : ℤ) : Prop := ∀ s, Reach Init (Step grace) s → ∀ task, s.Gives task → ¬ s.Lent

/-- A lease is granted, the claim of the worker is checked, and then a task is queued. -/
theorem gpu_is_shared : ¬ NeverShared 90 := by
  intro never
  have start : Reach Init (Step 90) idle := .init ⟨rfl, rfl, rfl, rfl, rfl⟩
  have granted := start.step (.lab (.grant true ⟨"lease-0", "", 0, none⟩ (List.not_mem_nil) lent (by decide +kernel)))
  have looked := granted.step (.look 0 "gpu" gpuWorker rfl rfl)
  have passed := looked.step (.claim 0 ⟨"gpu", true, .holding⟩ (by decide +kernel) (.pass rfl (by decide +kernel)))
  have enqueued := passed.step (.other (.enqueue "task"))
  have scanning := enqueued.step (.claim 0 ⟨"gpu", true, .passed⟩ (by decide +kernel) (.limit rfl))
  refine never _ scanning "task" ⟨0, ⟨"gpu", true, .scanning 1 []⟩, 0, [], ?_⟩ ⟨"lease-0", lent, ?_⟩
  · decide +kernel
  · refine ⟨by decide +kernel, .inl rfl⟩

end Vertep.Lab
