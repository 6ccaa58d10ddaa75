import Mathlib.Algebra.Order.Field.Rat
import Mathlib.Data.List.Sort
import Vertep.Lib.Dict

/-!
# The leases of the laboratory

Embedding of `core/api/lab_lease.py`: what each of its lock sections does to the table of leases, with the reading of
the clock that the section is made with. The fields of a lease that no function reads again are left out.
-/

namespace Vertep.Lab
open Lib

inductive LeaseState where
  | granted | revoking
deriving DecidableEq

structure Lease where
  leaseId : String
  model : String
  grantedAt : ℚ
  expiresAt : ℚ
  state : LeaseState
  vramMb : ℤ
  reclaimAt : Option ℚ := none
deriving DecidableEq

abbrev Leases := Dict String Lease

structure Worker where
  capabilities : List String
  vramMb : ℤ
  freeVramMb : Option ℤ
  currentTask : Option String
deriving DecidableEq

def gpuCapabilities : List String := ["image_generation", "video_generation", "text_generation"]

def isGpuWorker (worker : Worker) : Prop := (∃ c ∈ worker.capabilities, c ∈ gpuCapabilities) ∨ 0 < worker.vramMb

instance : DecidablePred isGpuWorker := fun worker => by unfold isGpuWorker; infer_instance

def freeVramMb (workers : List Worker) : ℤ :=
  match (workers.filter isGpuWorker).map fun worker => worker.freeVramMb.getD worker.vramMb with
  | [] => 0
  | value :: values => values.foldl max value

/-- `_production_pressure`: the depth of the queue, and whether production is busy. -/
structure Pressure where
  queueDepth : ℕ
  busy : Bool

/-- The end of a lease: `lease.get("reclaim_at") or lease["expires_at"]`. -/
def Lease.deadline (lease : Lease) : ℚ := lease.reclaimAt.getD lease.expiresAt

def dropFinished (now : ℚ) (leases : Leases) : Leases := leases.filter fun lease => now < lease.deadline

/-- A granted lease is revoked, and is to be released within `grace` seconds. -/
def Lease.revoke (grace : ℤ) (now : ℚ) (lease : Lease) : Lease :=
  if lease.state = .granted then { lease with state := .revoking, reclaimAt := some (now + grace) } else lease

def revokeAll (grace : ℤ) (now : ℚ) (leases : Leases) : Leases := leases.map fun _ lease => lease.revoke grace now

/-- The section of `hold_gpu_for_laboratory`: whether the worker is held. -/
def holdSection (grace : ℤ) (now : ℚ) (queueDepth : ℕ) (leases : Leases) : Bool × Leases :=
  let leases := dropFinished now leases
  if 0 < queueDepth then
    let leases := revokeAll grace now leases
    (decide (leases ≠ ∅), leases)
  else (false, leases)

/-- `max(1, int(body.get("ttl_seconds") or 900))`. -/
def ttlSeconds (ttl : Option ℤ) : ℤ := max 1 ((ttl.filter (· ≠ 0)).getD 900)

/-- A request for a lease, with the id that is drawn for it. -/
structure LeaseRequest where
  leaseId : String
  model : String := ""
  vramMb : ℤ := 0
  ttl : Option ℤ := none

/-- The section of `request_lease`: the reason why it is denied, or the lease. -/
def requestSection (now : ℚ) (pressure : Pressure) (dispatchAllowed : Bool) (workers : List Worker)
    (request : LeaseRequest) (leases : Leases) : Except String Lease × Leases :=
  let leases := dropFinished now leases
  if dispatchAllowed = false then (.error "GPU is reserved for production", leases)
  else if 0 < pressure.queueDepth then (.error "production queue is not empty", leases)
  else if pressure.busy then (.error "GPU is busy with production work", leases)
  else if leases ≠ ∅ then (.error "another laboratory lease is active", leases)
  else if freeVramMb workers < request.vramMb then
    (.error ("model needs " ++ toString request.vramMb ++ " MB, only " ++ toString (freeVramMb workers) ++ " MB free"),
      leases)
  else
    let lease : Lease :=
      { leaseId := request.leaseId
        model := request.model
        grantedAt := now
        expiresAt := now + ttlSeconds request.ttl
        state := .granted
        vramMb := request.vramMb }
    (.ok lease, leases.set request.leaseId lease)

/-- What `heartbeat` answers. -/
structure Beat where
  active : Bool
  revoked : Bool
  expiresAt : Option ℚ
  reason : String
deriving DecidableEq

/-- The section of `heartbeat`. -/
def heartbeatSection (grace : ℤ) (now : ℚ) (pressure : Pressure) (dispatchAllowed : Bool) (leaseId : String)
    (ttl : Option ℤ) (leases : Leases) : Beat × Leases :=
  match leases.get? leaseId with
  | none => (⟨false, false, none, "unknown lease"⟩, leases)
  | some lease =>
    if lease.state = .granted ∧ (0 < pressure.queueDepth ∨ pressure.busy = true ∨ dispatchAllowed = false) then
      (⟨false, true, some lease.expiresAt, "production work arrived: lease revoked"⟩, revokeAll grace now leases)
    else if lease.state ≠ .granted then
      (⟨false, true, some lease.expiresAt, "production work arrived: lease revoked"⟩, leases)
    else if lease.expiresAt ≤ now then
      (⟨false, false, some lease.expiresAt, "lease expired"⟩, leases.pop leaseId)
    else
      let lease := { lease with expiresAt := now + ttlSeconds ttl }
      (⟨true, false, some lease.expiresAt, ""⟩, leases.set leaseId lease)

/-- The section of `status`: the leases that are listed as active. -/
def statusSection (now : ℚ) (leases : Leases) : List String × Leases :=
  let leases := dropFinished now leases
  (leases.keys.insertionSort (· ≤ ·), leases)

/-- `usable`, in `inference`. -/
def Usable (now : ℚ) (leaseId : String) (leases : Leases) : Prop :=
  ∃ lease, leases.get? leaseId = some lease ∧ lease.state = .granted ∧ now < lease.expiresAt

instance (now : ℚ) (leaseId : String) (leases : Leases) : Decidable (Usable now leaseId leases) :=
  inferInstanceAs (Decidable (∃ lease, lease ∈ leases.get? leaseId ∧ _))

/-! ## The empty table -/

@[simp] lemma dropFinished_empty (now : ℚ) : dropFinished now ∅ = ∅ := rfl

@[simp] lemma revokeAll_empty (grace : ℤ) (now : ℚ) : revokeAll grace now ∅ = ∅ := rfl

@[simp] lemma pop_empty (leaseId : String) : (∅ : Leases).pop leaseId = ∅ := rfl

@[simp] lemma heartbeatSection_empty (grace : ℤ) (now : ℚ) (pressure : Pressure) (dispatchAllowed : Bool)
    (leaseId : String) (ttl : Option ℤ) :
    (heartbeatSection grace now pressure dispatchAllowed leaseId ttl ∅).2 = ∅ := rfl

lemma holdSection_empty (grace : ℤ) (now : ℚ) (queueDepth : ℕ) : (holdSection grace now queueDepth ∅).2 = ∅ := by
  rw [holdSection, dropFinished_empty]
  split <;> rfl

variable {leases : Leases}

lemma holdSection_free {grace : ℤ} {now : ℚ} {queueDepth : ℕ}
    (free : (holdSection grace now queueDepth leases).1 = false) :
    (holdSection grace now queueDepth leases).2 = ∅ ∨ queueDepth = 0 := by
  unfold holdSection at free ⊢
  split at free
  · next deep =>
    rw [if_pos deep]
    exact .inl (not_not.1 (of_decide_eq_false free))
  · next empty => exact .inr (Nat.eq_zero_of_not_pos empty)

lemma requestSection_denied {now : ℚ} {pressure : Pressure} {dispatchAllowed : Bool} {workers : List Worker}
    {request : LeaseRequest} {reason : String}
    (denied : (requestSection now pressure dispatchAllowed workers request leases).1 = .error reason) :
    (requestSection now pressure dispatchAllowed workers request leases).2 = dropFinished now leases := by
  unfold requestSection at denied ⊢
  dsimp only at denied ⊢
  split
  · rfl
  split
  · rfl
  split
  · rfl
  split
  · rfl
  split
  · rfl
  · simp_all

lemma requestSection_granted {now : ℚ} {pressure : Pressure} {dispatchAllowed : Bool} {workers : List Worker}
    {request : LeaseRequest} {lease : Lease}
    (granted : (requestSection now pressure dispatchAllowed workers request leases).1 = .ok lease) :
    pressure.queueDepth = 0 ∧ pressure.busy = false ∧ dropFinished now leases = ∅ ∧
      lease.state = .granted ∧ lease.reclaimAt = none ∧
      (requestSection now pressure dispatchAllowed workers request leases).2 =
        (∅ : Leases).set request.leaseId lease := by
  unfold requestSection at granted ⊢
  dsimp only at granted ⊢
  split at granted
  · cases granted
  next allowed =>
  split at granted
  · cases granted
  next empty =>
  split at granted
  · cases granted
  next idle =>
  split at granted
  · cases granted
  next alone =>
  split at granted
  · cases granted
  next fits =>
  cases granted
  rw [if_neg allowed, if_neg empty, if_neg idle, if_neg alone, if_neg fits, not_not.1 alone]
  exact ⟨Nat.eq_zero_of_not_pos empty, Bool.eq_false_iff.2 idle, rfl, rfl, rfl, rfl⟩

end Vertep.Lab
