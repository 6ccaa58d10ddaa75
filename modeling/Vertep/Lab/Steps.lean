import Vertep.Lab.Leases
import Vertep.Lib.Reach

/-!
# The laboratory beside the queue (`core/api/lab_lease.py`)

The table of leases, the task queue, the workers, and the calls that are under way. A lock section and an operation of
the queue is one step each. `_claim_task` looks at the table without the lock, may take the section of
`hold_gpu_for_laboratory`, and then scans the queue; what it makes of a task depends on the job and is left open.
`inference` waits for the body of its request between its check and the call that it forwards.
-/

namespace Vertep.Lab
open Lib

/-- Where a claim is in `_claim_task`. -/
inductive Phase where
  /-- There were leases, and the worker has a GPU. -/
  | holding
  | passed
  /-- `rounds` are left of the scan, and the `held` tasks will be put back. -/
  | scanning (rounds : ℕ) (held : List String)
  | took (task : String) (rounds : ℕ) (held : List String)
  | handing (task : String) (held : List String)
  | ending (held : List String)
deriving DecidableEq

structure Claim where
  nodeName : String
  gpu : Bool
  phase : Phase
deriving DecidableEq

/-- The leases, the queue, the workers, and the calls under way. -/
structure State where
  clock : ℚ
  leases : Leases
  /-- The ids of all leases that were ever granted. -/
  issued : List String
  ready : List String
  inflight : List String
  workers : Dict String Worker
  claims : Dict ℕ Claim
  /-- The inference calls that wait for their body, each with its lease. -/
  waiting : Dict ℕ String
  /-- The inference calls that were forwarded. -/
  running : Dict ℕ String

/-- `_production_pressure`. -/
def State.pressure (s : State) : Pressure where
  queueDepth := s.ready.length
  busy := 0 < s.inflight.length ∨ ∃ worker ∈ s.workers.values, worker.currentTask.isSome

/-- `task_queue.release`, of a task that is in flight. -/
def State.putBack (s : State) (task : String) : State :=
  if task ∈ s.inflight then { s with ready := s.ready ++ [task], inflight := s.inflight.erase task } else s

def State.setPhase (s : State) (thread : ℕ) (claim : Claim) (phase : Phase) : State :=
  { s with claims := s.claims.set thread { claim with phase := phase } }

/-- The steps of `_claim_task`, each with the claim that makes it. -/
inductive ClaimStep (grace : ℤ) (s : State) : ℕ → Claim → State → Prop where
  | hold {thread claim} (here : claim.phase = .holding)
    (held : (holdSection grace s.clock s.ready.length s.leases).1 = true) :
    ClaimStep grace s thread claim
      { s with
        leases := (holdSection grace s.clock s.ready.length s.leases).2
        claims := s.claims.pop thread }
  | pass {thread claim} (here : claim.phase = .holding)
    (free : (holdSection grace s.clock s.ready.length s.leases).1 = false) :
    ClaimStep grace s thread claim
      ({ s with leases := (holdSection grace s.clock s.ready.length s.leases).2 }.setPhase thread claim .passed)
  | refuse {thread claim} (here : claim.phase = .passed) :
    ClaimStep grace s thread claim { s with claims := s.claims.pop thread }
  | limit {thread claim} (here : claim.phase = .passed) :
    ClaimStep grace s thread claim (s.setPhase thread claim (.scanning (max 1 s.ready.length) []))
  | take {thread claim rounds held task} (here : claim.phase = .scanning (rounds + 1) held) (found : task ∈ s.ready) :
    ClaimStep grace s thread claim
      ({ s with ready := s.ready.erase task, inflight := task :: s.inflight }.setPhase thread claim
        (.took task rounds held))
  | stop {thread claim rounds held} (here : claim.phase = .scanning rounds held) :
    ClaimStep grace s thread claim (s.setPhase thread claim (.ending held))
  | ack {thread claim task rounds held} (here : claim.phase = .took task rounds held) :
    ClaimStep grace s thread claim
      ({ s with inflight := s.inflight.erase task }.setPhase thread claim (.scanning rounds held))
  | keep {thread claim task rounds held} (here : claim.phase = .took task rounds held) :
    ClaimStep grace s thread claim (s.setPhase thread claim (.scanning rounds (held ++ [task])))
  | choose {thread claim task rounds held} (here : claim.phase = .took task rounds held) :
    ClaimStep grace s thread claim (s.setPhase thread claim (.handing task held))
  | returnHeld {thread claim task other held} (here : claim.phase = .handing task (other :: held)) :
    ClaimStep grace s thread claim ((s.putBack other).setPhase thread claim (.handing task held))
  | hand {thread claim task} (worker : Worker) (here : claim.phase = .handing task []) :
    ClaimStep grace s thread claim
      { s with
        workers := s.workers.set claim.nodeName { worker with currentTask := some task }
        claims := s.claims.pop thread }
  | endHeld {thread claim other held} (here : claim.phase = .ending (other :: held)) :
    ClaimStep grace s thread claim ((s.putBack other).setPhase thread claim (.ending held))
  | done {thread claim} (here : claim.phase = .ending []) :
    ClaimStep grace s thread claim { s with claims := s.claims.pop thread }

/-- The steps of the laboratory. -/
inductive LabStep (grace : ℤ) (s : State) : State → Prop where
  | grant (dispatchAllowed : Bool) (request : LeaseRequest) (fresh : request.leaseId ∉ s.issued) (lease : Lease)
    (granted : (requestSection s.clock s.pressure dispatchAllowed s.workers.values request s.leases).1 = .ok lease) :
    LabStep grace s
      { s with
        leases := (requestSection s.clock s.pressure dispatchAllowed s.workers.values request s.leases).2
        issued := request.leaseId :: s.issued }
  | deny (dispatchAllowed : Bool) (request : LeaseRequest) (reason : String)
    (denied : (requestSection s.clock s.pressure dispatchAllowed s.workers.values request s.leases).1 = .error reason) :
    LabStep grace s
      { s with leases := (requestSection s.clock s.pressure dispatchAllowed s.workers.values request s.leases).2 }
  | heartbeat (dispatchAllowed : Bool) (leaseId : String) (ttl : Option ℤ) :
    LabStep grace s
      { s with leases := (heartbeatSection grace s.clock s.pressure dispatchAllowed leaseId ttl s.leases).2 }
  | release (leaseId : String) : LabStep grace s { s with leases := s.leases.pop leaseId }
  | status : LabStep grace s { s with leases := (statusSection s.clock s.leases).2 }
  | check (thread : ℕ) (leaseId : String) (new : s.waiting.get? thread = none) (usable : Usable s.clock leaseId s.leases) :
    LabStep grace s { s with waiting := s.waiting.set thread leaseId }
  | forward (thread : ℕ) (leaseId : String) (body : s.waiting.get? thread = some leaseId) :
    LabStep grace s { s with waiting := s.waiting.pop thread, running := s.running.set thread leaseId }
  | poll (thread : ℕ) (leaseId : String) (running : s.running.get? thread = some leaseId) (work : s.ready ≠ []) :
    LabStep grace s { s with leases := revokeAll grace s.clock s.leases }
  | over (thread : ℕ) : LabStep grace s { s with running := s.running.pop thread }

/-- The steps of everything else: of the queue, of the workers and of the clock. -/
inductive OtherStep (s : State) : State → Prop where
  | enqueue (task : String) : OtherStep s { s with ready := s.ready ++ [task] }
  | requeue (task : String) : OtherStep s (s.putBack task)
  | ack (task : String) : OtherStep s { s with inflight := s.inflight.erase task }
  | discard (task : String) :
    OtherStep s { s with ready := s.ready.filter (· ≠ task), inflight := s.inflight.erase task }
  | worker (nodeName : String) (worker : Worker) : OtherStep s { s with workers := s.workers.set nodeName worker }
  | tick (time : ℚ) (later : s.clock ≤ time) : OtherStep s { s with clock := time }

/-- A step. The unlocked look at the table starts a claim. -/
inductive Step (grace : ℤ) : State → State → Prop where
  | look {s} (thread : ℕ) (nodeName : String) (worker : Worker) (new : s.claims.get? thread = none)
    (known : s.workers.get? nodeName = some worker) :
    Step grace s
      { s with
        claims := s.claims.set thread
          { nodeName := nodeName
            gpu := isGpuWorker worker
            phase := if s.leases = ∅ ∨ ¬ isGpuWorker worker then .passed else .holding } }
  | claim {s s'} (thread : ℕ) (claim : Claim) (here : s.claims.get? thread = some claim)
    (step : ClaimStep grace s thread claim s') : Step grace s s'
  | lab {s s'} (step : LabStep grace s s') : Step grace s s'
  | other {s s'} (step : OtherStep s s') : Step grace s s'

def Init (s : State) : Prop :=
  s.leases = ∅ ∧ s.issued = [] ∧ s.claims = ∅ ∧ s.waiting = ∅ ∧ s.running = ∅

end Vertep.Lab
