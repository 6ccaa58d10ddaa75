import Vertep.Workflow.Engine

/-!
# What the dispatcher does beside the engine (`core/dispatcher.py`)

Most calls of the dispatcher and of the transports leave jobs, attempts and documents alone. `Aside` is
all such a call can do: leases end or are renewed, results are reported, leases are revoked. Beside it
stands `LeaseBook`, what the lease table and the log say of each other; every call keeps it. A submission
is the one call that is no aside, and `Submits` is what it leaves.
-/

namespace Vertep.Workflow
open Lib Queue Command

variable {clock : ℕ → ℚ}

/-- `self._task_leases.get(task)`. -/
abbrev Engine.lease? (s : Engine) (task : DispatchId) : Option Lease := s.dispatcher.taskLeases.get? task

def Engine.Gone (s : Engine) (lease : LeaseId) : Prop := ∀ d l, s.lease? d = some l → l.leaseId ≠ lease

/-- The lease table and the log agree. -/
structure LeaseBook (s : Engine) : Prop where
  keyed : ∀ d l, s.lease? d = some l → l.taskId = d ∧ l.leaseId < s.nextLease
  distinct : ∀ d d' l l', s.lease? d = some l → s.lease? d' = some l' → l.leaseId = l'.leaseId → d = d'
  revoked : ∀ lease, .revoked lease ∈ s.log → lease < s.nextLease ∧ s.Gone lease
  accepted : ∀ l now, .accepted l now ∈ s.log →
    l.leaseId < s.nextLease ∧ s.Gone l.leaseId ∧ now < l.expiresAt ∧ .revoked l.leaseId ∉ s.log
  reported : ∀ lease value, s.futures.get? lease = some (.result value) → .reported lease value ∈ s.log

/-- What may enter the log aside. -/
def Event.Passing : Event → Prop
  | .reported _ _ | .revoked _ => True
  | .submitted _ _ | .accepted _ _ | .timedOut _ | .decided _ _ _ => False

/-- All that a call beside the engine does. -/
structure Aside (s s' : Engine) : Prop where
  jobs : s'.jobs = s.jobs
  attempts : s'.attempts = s.attempts
  journal : s'.journal = s.journal
  nextJob : s'.nextJob = s.nextJob
  nextLease : s.nextLease ≤ s'.nextLease
  leases : ∀ d l', s'.lease? d = some l' → ∃ l, s.lease? d = some l ∧ l.leaseId = l'.leaseId
  log : ∃ new, s'.log = new ++ s.log ∧ ∀ e ∈ new, e.Passing
  book : LeaseBook s → LeaseBook s'

lemma Aside.refl (s : Engine) : Aside s s where
  jobs := rfl
  attempts := rfl
  journal := rfl
  nextJob := rfl
  nextLease := le_refl _
  leases := fun _ l' h => ⟨l', h, rfl⟩
  log := ⟨[], rfl, nofun⟩
  book := id

variable {s s' s'' : Engine}

lemma Aside.trans (h : Aside s s') (h' : Aside s' s'') : Aside s s'' where
  jobs := h'.jobs.trans h.jobs
  attempts := h'.attempts.trans h.attempts
  journal := h'.journal.trans h.journal
  nextJob := h'.nextJob.trans h.nextJob
  nextLease := h.nextLease.trans h'.nextLease
  leases := fun d l'' found => by
    obtain ⟨l', found', same'⟩ := h'.leases d l'' found
    obtain ⟨l, found, same⟩ := h.leases d l' found'
    exact ⟨l, found, same.trans same'⟩
  log := by
    obtain ⟨new, eq, passing⟩ := h.log
    obtain ⟨new', eq', passing'⟩ := h'.log
    refine ⟨new' ++ new, by rw [eq', eq, List.append_assoc], fun e member => ?_⟩
    exact (List.mem_append.1 member).elim (passing' e) (passing e)
  book := h'.book ∘ h.book

instance : Std.Refl Aside := ⟨Aside.refl⟩

instance : IsTrans Engine Aside := ⟨fun _ _ _ => Aside.trans⟩

lemma Aside.log_mono (h : Aside s s') {e : Event} (member : e ∈ s.log) : e ∈ s'.log := by
  obtain ⟨new, eq, _⟩ := h.log
  rw [eq]
  exact List.mem_append_right new member

lemma aside_of (jobs : s'.jobs = s.jobs) (attempts : s'.attempts = s.attempts)
    (journal : s'.journal = s.journal) (nextJob : s'.nextJob = s.nextJob) (next : s'.nextLease = s.nextLease)
    (leases : ∀ d l', s'.lease? d = some l' →
      ∃ l, s.lease? d = some l ∧ l.leaseId = l'.leaseId ∧ l.taskId = l'.taskId)
    (new : List Event) (log : s'.log = new ++ s.log)
    (passing : ∀ e ∈ new, e.Passing ∧ ∀ lease, e = .revoked lease →
      ∃ d l, s.lease? d = some l ∧ l.leaseId = lease ∧ s'.lease? d = none)
    (futures : ∀ lease value, s'.futures.get? lease = some (.result value) →
      s.futures.get? lease = some (.result value) ∨ .reported lease value ∈ s'.log) : Aside s s' := by
  have gone (lease : LeaseId) (h : s.Gone lease) : s'.Gone lease := by
    intro d l' found
    obtain ⟨l, found, same, _⟩ := leases d l' found
    exact same ▸ h d l found
  constructor
  · exact jobs
  · exact attempts
  · exact journal
  · exact nextJob
  · exact next.ge
  · intro d l' found
    obtain ⟨l, found, same, _⟩ := leases d l' found
    exact ⟨l, found, same⟩
  · exact ⟨new, log, fun e member => (passing e member).1⟩
  intro h
  constructor
  · intro d l' found
    obtain ⟨l, found, same, task⟩ := leases d l' found
    rw [next, ← same, ← task]
    exact h.keyed d l found
  · intro d d' l' m' found found' eq
    obtain ⟨l, found, same, _⟩ := leases d l' found
    obtain ⟨m, found', same', _⟩ := leases d' m' found'
    exact h.distinct d d' l m found found' (same.trans (eq.trans same'.symm))
  · intro lease member
    rw [next]
    rcases List.mem_append.1 (log ▸ member) with member | member
    · obtain ⟨d, l, found, rfl, ended⟩ := (passing _ member).2 lease rfl
      refine ⟨(h.keyed d l found).2, fun d' l' found' same => ?_⟩
      obtain ⟨m, found'', same', _⟩ := leases d' l' found'
      cases h.distinct d d' l m found found'' (same.symm.trans same'.symm)
      rw [ended] at found'
      cases found'
    · obtain ⟨below, h⟩ := h.revoked lease member
      exact ⟨below, gone lease h⟩
  · intro l now member
    rcases List.mem_append.1 (log ▸ member) with member | member
    · exact ((passing _ member).1).elim
    obtain ⟨below, ended, alive, kept⟩ := h.accepted l now member
    refine ⟨next ▸ below, gone _ ended, alive, fun member => ?_⟩
    rcases List.mem_append.1 (log ▸ member) with member | member
    · obtain ⟨d, l', found, same, _⟩ := (passing _ member).2 _ rfl
      exact ended d l' found same
    · exact kept member
  · intro lease value found
    rcases futures lease value found with found | member
    · rw [log]
      exact List.mem_append_right new (h.reported lease value found)
    · exact member

/-! ## The calls beside the engine -/

lemma aside_quiet (jobs : s'.jobs = s.jobs) (attempts : s'.attempts = s.attempts)
    (journal : s'.journal = s.journal) (nextJob : s'.nextJob = s.nextJob) (next : s'.nextLease = s.nextLease)
    (log : s'.log = s.log) (leases : s'.dispatcher.taskLeases = s.dispatcher.taskLeases)
    (futures : s'.futures = s.futures) : Aside s s' := by
  refine aside_of jobs attempts journal nextJob next ?_ [] log (by simp) ?_
  · intro d l' found
    exact ⟨l', by rw [Engine.lease?, ← leases]; exact found, rfl, rfl⟩
  · intro lease value found
    exact .inl (futures ▸ found)

lemma aside_modifyDispatcher {f : Dispatcher → Dispatcher} (h : ∀ d, (f d).taskLeases = d.taskLeases) :
    Within Aside (modifyDispatcher f) :=
  ⟨fun s => aside_quiet rfl rfl rfl rfl rfl rfl (h s.dispatcher) rfl⟩

variable {α : Type}

@[simp] lemma time_bind (f : ℚ → EngineM α) (s : Engine) :
    (time clock >>= f) s = f (clock s.reads) { s with reads := s.reads + 1 } := rfl

@[simp] lemma modifyDispatcher_bind (f : Dispatcher → Dispatcher) (k : Unit → EngineM α)
    (s : Engine) :
    (modifyDispatcher f >>= k) s = k () { s with dispatcher := f s.dispatcher } := rfl

@[simp] lemma note_bind (e : Event) (k : Unit → EngineM α) (s : Engine) :
    (note e >>= k) s = k () { s with log := e :: s.log } := rfl

instance : Within Aside (time clock) :=
  ⟨fun _ => aside_quiet rfl rfl rfl rfl rfl rfl rfl rfl⟩

lemma cancel_leases (d : Dispatcher) (node : NodeId) (lease : Lease) :
    (d.cancel node lease).taskLeases = d.taskLeases := by
  unfold Dispatcher.cancel
  split
  · split <;> rfl
  · rfl

lemma aside_settle {lease : LeaseId} {future : Future} (new : List Event)
    (passing : ∀ e ∈ new, e.Passing ∧ ∀ lease, e ≠ .revoked lease)
    (told : ∀ value, future = .result value → .reported lease value ∈ new) :
    Aside s { s with futures := s.futures.set lease future, log := new ++ s.log } := by
  refine aside_of rfl rfl rfl rfl rfl (fun d l' found => ⟨l', found, rfl, rfl⟩) new rfl ?_ ?_
  · intro e member
    exact ⟨(passing e member).1, fun lease is => absurd is ((passing e member).2 lease)⟩
  · intro lease' value found
    rw [Dict.get?_set] at found
    split at found
    · rename_i same
      subst same
      exact .inr (List.mem_append_left _ (told value (Option.some.inj found)))
    · exact .inl found

instance aside_transportPoll (node : NodeId) : Within Aside (transportPoll node) := by
  constructor
  intro s
  simp only [transportPoll, read_bind]
  rcases s.dispatcher.transports.get? node with _ | _ | active
  · exact Aside.refl s
  · exact Aside.refl s
  · show Aside s (Prod.snd ((if _ then _ else if _ then _ else _ : EngineM _) s))
    split
    · exact Aside.refl s
    · split
      · exact (aside_settle [] (by simp) fun _ => Future.noConfusion).trans (aside_quiet rfl rfl rfl rfl rfl rfl rfl rfl)
      · exact aside_quiet rfl rfl rfl rfl rfl rfl rfl rfl

instance aside_transportResult (node : NodeId) (lease : LeaseId) (outcome : Except String WorkerResult) :
    Within Aside (transportResult node lease outcome) := by
  constructor
  intro s
  simp only [transportResult, read_bind]
  rcases s.dispatcher.transports.get? node with _ | _ | active
  · exact Aside.refl s
  · exact Aside.refl s
  · show Aside s (Prod.snd ((if _ then _ else _ : EngineM _) s))
    split
    · cases outcome with
      | error message =>
        exact (aside_settle [] (by simp) fun _ => Future.noConfusion).trans (aside_quiet rfl rfl rfl rfl rfl rfl rfl rfl)
      | ok value =>
        refine (aside_settle [.reported lease value] ?_ ?_).trans
          (aside_quiet rfl rfl rfl rfl rfl rfl rfl rfl)
        · intro e member
          cases List.mem_singleton.1 member
          exact ⟨trivial, fun _ => Event.noConfusion⟩
        · rintro _ ⟨⟩
          exact List.mem_singleton_self _
    · exact Aside.refl s

instance (task : DispatchId) (worker : NodeId) (lease : LeaseId) :
    Within Aside (ownsLease clock task worker lease) := by
  unfold ownsLease
  infer_instance

instance aside_renewLease (task : DispatchId) (worker : NodeId) (lease : LeaseId) :
    Within Aside (renewLease clock task worker lease) := by
  constructor
  intro s
  have read : Aside s { s with reads := s.reads + 1 } := aside_quiet rfl rfl rfl rfl rfl rfl rfl rfl
  simp only [renewLease, read_bind, time_bind]
  cases found : s.dispatcher.taskLeases.get? task with
  | none => exact read
  | some l =>
    show Aside s (Prod.snd ((if _ then _ else _ : EngineM _) _))
    split
    · exact read
    · apply read.trans
      simp only [modifyDispatcher_bind, pure_apply]
      refine aside_of rfl rfl rfl rfl rfl ?_ [] rfl (by simp) fun _ _ found => .inl found
      intro d l' found'
      simp only [Engine.lease?, Dict.get?_set] at found'
      split at found'
      · rename_i same
        cases found'
        exact ⟨l, same ▸ found, rfl, rfl⟩
      · exact ⟨l', found', rfl, rfl⟩

instance aside_revokeTask (task : DispatchId) : Within Aside (revokeTask task) := by
  constructor
  intro s
  simp only [revokeTask, read_bind]
  cases found : s.dispatcher.taskLeases.get? task with
  | none => exact Aside.refl s
  | some l =>
    simp only [modifyDispatcher_bind, note_bind, pure_apply]
    refine aside_of rfl rfl rfl rfl rfl ?_ [.revoked l.leaseId] rfl ?_ fun _ _ found => .inl found
    · intro d l' found'
      simp only [Engine.lease?, cancel_leases, Dict.get?_pop] at found'
      split at found'
      · cases found'
      · exact ⟨l', found', rfl, rfl⟩
    · intro e member
      cases List.mem_singleton.1 member
      refine ⟨trivial, ?_⟩
      rintro _ ⟨⟩
      refine ⟨task, l, found, rfl, ?_⟩
      simp [Engine.lease?, cancel_leases]

/-! ## Workers and candidates -/

instance aside_unregisterNode (node : NodeId) : Within Aside (unregisterNode node) := by
  unfold unregisterNode
  have removed := aside_modifyDispatcher (f := fun d => { d with nodeRegistry := d.nodeRegistry.pop node })
    fun _ => rfl
  infer_instance

instance aside_seen (node : NodeId) (now : ℚ) : Within Aside (modifyDispatcher fun d =>
    match d.nodeRegistry.get? node with
    | none => d
    | some info => { d with nodeRegistry := d.nodeRegistry.set node { info with lastHeartbeat := now } }) := by
  apply aside_modifyDispatcher
  intro d
  cases d.nodeRegistry.get? node <;> rfl

instance aside_heartbeat (node : NodeId) : Within Aside (heartbeat clock node) := by
  unfold heartbeat
  infer_instance

instance aside_registerWorker (node : NodeId) (capabilities : List String) (resources : Resources)
    (modules : Dict String Manifest) :
    Within Aside (registerWorker clock node capabilities resources modules) := by
  unfold registerWorker
  have modules : Within Aside (write fun s => { s with moduleRegistry := modules } : EngineM Unit) :=
    ⟨fun _ => aside_quiet rfl rfl rfl rfl rfl rfl rfl rfl⟩
  have registered (now : ℚ) : Within Aside (modifyDispatcher fun d =>
      { d with
        nodeRegistry := d.nodeRegistry.set node ⟨capabilities, resources, now⟩
        transports := if d.transports.contains node then d.transports else d.transports.set node none }) :=
    aside_modifyDispatcher fun _ => rfl
  refine .next fun s => ?_
  cases s.dispatcher.transports.get? node with
  | none => infer_instance
  | some active? => cases active? <;> infer_instance

instance aside_observeWorkers (workers : Dict NodeId WorkerRecord) :
    Within Aside (observeWorkers workers) := by
  unfold observeWorkers
  refine .next fun s => Within.forEach _ fun entry _ => ?_
  cases workers.get? entry.1 with
  | none => infer_instance
  | some worker =>
    apply aside_modifyDispatcher
    intro d
    cases d.nodeRegistry.get? entry.1 <;> rfl

instance (node : NodeId) (leases : List Lease) :
    Within Aside (holdsLease clock node leases) := by
  induction leases with
  | nil => exact within_pure false
  | cons lease leases ih =>
    rw [holdsLease]
    infer_instance

instance (required : List String) (request : TaskRequest) (node : NodeId)
    (info : NodeInfo) : Within Aside (isCandidate clock required request node info) := by
  unfold isCandidate
  refine .next fun s => ?_
  cases s.dispatcher.transports.get? node with
  | none => infer_instance
  | some active? => cases active? <;> infer_instance

instance aside_findCandidates (required : List String) (request : TaskRequest)
    (nodes : List (NodeId × NodeInfo)) : Within Aside (findCandidates clock required request nodes) := by
  induction nodes with
  | nil => exact within_pure []
  | cons node nodes ih =>
    rw [findCandidates]
    infer_instance

instance aside_alreadyOwned (task : DispatchId) : Within Aside (alreadyOwned clock task) := by
  unfold alreadyOwned
  refine .next fun s => ?_
  cases s.dispatcher.taskLeases.get? task <;> infer_instance

/-! ## Submissions -/

/-- The dispatcher gave out a new lease. -/
structure Granted (task : DispatchId) (lease : Lease) (s s' : Engine) : Prop where
  jobs : s'.jobs = s.jobs
  attempts : s'.attempts = s.attempts
  journal : s'.journal = s.journal
  nextJob : s'.nextJob = s.nextJob
  futures : s'.futures = s.futures
  log : s'.log = s.log
  next : s'.nextLease = s.nextLease + 1
  id : lease.leaseId = s.nextLease
  named : lease.taskId = task
  leases : ∀ d, s'.lease? d = if task = d then some lease else s.lease? d

variable {lease : Lease} {task : DispatchId}

lemma Granted.gone (g : Granted task lease s s')
    {old : LeaseId} (below : old < s.nextLease) (gone : s.Gone old) : s'.Gone old := by
  intro d l found
  rw [g.leases] at found
  split at found
  · cases found
    rw [g.id]
    exact below.ne'
  · exact gone d l found

lemma Granted.book (g : Granted task lease s s')
    (h : LeaseBook s) : LeaseBook s' := by
  constructor
  · intro d l found
    rw [g.leases] at found
    rw [g.next]
    split at found
    · cases found
      exact ⟨g.named.trans ‹_›, g.id ▸ Nat.lt_succ_self _⟩
    · obtain ⟨key, below⟩ := h.keyed d l found
      exact ⟨key, below.trans (Nat.lt_succ_self _)⟩
  · intro d d' l l' found found' same
    rw [g.leases] at found found'
    split at found <;> split at found'
    · exact Eq.trans (Eq.symm ‹task = d›) ‹_›
    · cases found
      exact absurd (same.symm.trans g.id) (h.keyed d' l' found').2.ne
    · cases found'
      exact absurd (same.trans g.id) (h.keyed d l found).2.ne
    · exact h.distinct d d' l l' found found' same
  · intro old member
    obtain ⟨below, gone⟩ := h.revoked old (g.log ▸ member)
    exact ⟨g.next ▸ below.trans (Nat.lt_succ_self _), g.gone below gone⟩
  · intro l now member
    obtain ⟨below, gone, alive, kept⟩ := h.accepted l now (g.log ▸ member)
    exact ⟨g.next ▸ below.trans (Nat.lt_succ_self _), g.gone below gone, alive, g.log ▸ kept⟩
  · intro old value found
    rw [g.log]
    exact h.reported old value (g.futures ▸ found)

lemma Granted.revoked (g : Granted task lease s s') :
    Aside s (revokeTask task s').2 := by
  have ended : Aside s' (revokeTask task s').2 := (aside_revokeTask task).leads s'
  have here : s'.lease? task = some lease := by rw [g.leases, if_pos rfl]
  constructor
  · exact ended.jobs.trans g.jobs
  · exact ended.attempts.trans g.attempts
  · exact ended.journal.trans g.journal
  · exact ended.nextJob.trans g.nextJob
  · exact (Nat.le_succ _).trans (g.next.ge.trans ended.nextLease)
  · intro d l' found
    simp only [revokeTask, read_bind, show s'.dispatcher.taskLeases.get? task = some lease from here,
      modifyDispatcher_bind, note_bind, pure_apply, Engine.lease?, cancel_leases, Dict.get?_pop] at found
    split at found
    · cases found
    · rename_i other
      rw [show s'.dispatcher.taskLeases.get? d = _ from g.leases d, if_neg other] at found
      exact ⟨l', found, rfl⟩
  · obtain ⟨new, log, passing⟩ := ended.log
    exact ⟨new, g.log ▸ log, passing⟩
  · exact ended.book ∘ g.book

/-- What a submission that returns leaves. -/
structure Submits (request : TaskRequest) (lease : Lease) (s s' : Engine) : Prop where
  jobs : s'.jobs = s.jobs
  attempts : s'.attempts = s.attempts
  journal : s'.journal = s.journal
  nextJob : s'.nextJob = s.nextJob
  task : lease.taskId = request.taskId
  fresh : s.nextLease ≤ lease.leaseId
  next : lease.leaseId < s'.nextLease
  leases : ∀ d l', s'.lease? d = some l' → d = request.taskId ∧ l' = lease ∨
    d ≠ request.taskId ∧ ∃ l, s.lease? d = some l ∧ l.leaseId = l'.leaseId
  log : ∃ new, s'.log = .submitted request lease :: (new ++ s.log) ∧ ∀ e ∈ new, e.Passing
  book : LeaseBook s → LeaseBook s'

lemma alreadyOwned_returns (task : DispatchId) (s : Engine) : Returns (alreadyOwned clock task) s := by
  simp only [alreadyOwned, returns_read_bind]
  cases s.dispatcher.taskLeases.get? task with
  | none => exact returns_pure _ s
  | some lease => exact ⟨_, rfl⟩

lemma holdsLease_returns (node : NodeId) (leases : List Lease) (s : Engine) :
    Returns (holdsLease clock node leases) s := by
  induction leases generalizing s with
  | nil => exact returns_pure _ s
  | cons lease leases ih =>
    rw [holdsLease, returns_ite]
    split
    · show Returns (if _ then _ else _ : EngineM Bool) _
      rw [returns_ite]
      split
      · exact returns_pure _ _
      · exact ih _
    · exact ih s

lemma isCandidate_returns (required : List String) (request : TaskRequest) (node : NodeId)
    (info : NodeInfo) (s : Engine) : Returns (isCandidate clock required request node info) s := by
  have free : Returns (do
      let now ← time clock
      if now - info.lastHeartbeat > 45 then pure false
      else do
        let held ← holdsLease clock node s.dispatcher.taskLeases.values
        pure (!held && info.suits required request) : EngineM Bool) s := by
    show Returns (if _ then _ else _ : EngineM Bool) _
    rw [returns_ite]
    split
    · exact returns_pure _ _
    · exact (returns_bind_of fun _ _ => returns_pure _ _).2 (holdsLease_returns ..)
  simp only [isCandidate, returns_read_bind]
  rcases s.dispatcher.transports.get? node with _ | _ | active
  · exact free
  · exact free
  · exact returns_pure _ s

lemma findCandidates_returns (required : List String) (request : TaskRequest)
    (nodes : List (NodeId × NodeInfo)) (s : Engine) :
    Returns (findCandidates clock required request nodes) s := by
  induction nodes generalizing s with
  | nil => exact returns_pure _ s
  | cons node nodes ih =>
    rw [findCandidates, returns_bind]
    obtain ⟨suitable, ok⟩ := isCandidate_returns required request node.1 node.2 s
    refine ⟨suitable, ok, ?_⟩
    exact (returns_bind_of fun _ _ => returns_pure _ _).2 (ih _)

lemma returns_within {R : Engine → Engine → Prop} {m : EngineM α}
    (h : Returns m s) (within : Within R m) : ∃ a s', m s = (.ok a, s') ∧ R s s' := by
  obtain ⟨a, ok⟩ := h
  exact ⟨a, (m s).2, Prod.ext ok rfl, within.leads s⟩

lemma seen_leases (d : Dispatcher) (node : NodeId) (now : ℚ) : (match d.nodeRegistry.get? node with
    | none => d
    | some info => { d with nodeRegistry := d.nodeRegistry.set node { info with lastHeartbeat := now } } :
      Dispatcher).taskLeases = d.taskLeases := by
  cases d.nodeRegistry.get? node <;> rfl

lemma assignTask_ends (request : TaskRequest) (s : Engine) :
    (∃ reason s', assignTask clock request s = (.ok (.error reason), s') ∧ Aside s s') ∨
    ∃ lease s₀ s', assignTask clock request s = (.ok (.ok lease), s') ∧ Aside s s₀ ∧
      Granted request.taskId lease s₀ s' := by
  obtain ⟨owned, s₁, asked, aside⟩ := returns_within (alreadyOwned_returns request.taskId s)
    (aside_alreadyOwned request.taskId)
  simp only [assignTask]
  rw [bind_of_ok asked]
  cases owned with
  | true => exact .inl ⟨_, s₁, rfl, aside⟩
  | false =>
    simp only [Bool.false_eq_true, if_false, read_bind]
    obtain ⟨candidates, s₂, searched, aside'⟩ := returns_within
      (findCandidates_returns request.required request s₁.dispatcher.nodeRegistry.entries s₁)
      (aside_findCandidates request.required request s₁.dispatcher.nodeRegistry.entries)
    rw [bind_of_ok searched]
    have aside := aside.trans aside'
    cases candidates with
    | nil => exact .inl ⟨_, s₂, rfl, aside⟩
    | cons node others =>
      refine .inr ⟨_, { s₂ with reads := s₂.reads + 1 + 1 }, _, rfl,
        aside.trans (aside_quiet rfl rfl rfl rfl rfl rfl rfl rfl), ?_⟩
      refine ⟨rfl, rfl, rfl, rfl, rfl, rfl, rfl, rfl, rfl, fun d => ?_⟩
      exact (congrArg (Dict.get? · d) (seen_leases _ node _)).trans (Dict.get?_set _ _ _ _)

lemma Granted.sent {request : TaskRequest} (g : Granted request.taskId lease s s') (jobs : s''.jobs = s'.jobs)
    (attempts : s''.attempts = s'.attempts) (journal : s''.journal = s'.journal)
    (nextJob : s''.nextJob = s'.nextJob) (next : s''.nextLease = s'.nextLease)
    (leases : ∀ d, s''.lease? d = s'.lease? d) (log : s''.log = .submitted request lease :: s'.log)
    (futures : s''.futures = s'.futures.set lease.leaseId .waiting) : Submits request lease s s'' where
  jobs := jobs.trans g.jobs
  attempts := attempts.trans g.attempts
  journal := journal.trans g.journal
  nextJob := nextJob.trans g.nextJob
  task := g.named
  fresh := g.id.ge
  next := by
    rw [next, g.next, g.id]
    exact Nat.lt_succ_self _
  leases := fun d l' found => by
    rw [leases, g.leases] at found
    split at found
    · rename_i same
      exact .inl ⟨same.symm, (Option.some.inj found).symm⟩
    · rename_i other
      exact .inr ⟨Ne.symm other, l', found, rfl⟩
  log := ⟨[], by rw [log, g.log]; rfl, by simp⟩
  book := fun h => by
    have h := g.book h
    have old {e : Event} (member : e ∈ s''.log) (other : e ≠ .submitted request lease) : e ∈ s'.log :=
      (List.mem_cons.1 (log ▸ member)).resolve_left other
    constructor
    · intro d l found
      rw [next]
      exact h.keyed d l ((leases d).symm.trans found)
    · intro d d' l l' found found'
      exact h.distinct d d' l l' ((leases d).symm.trans found) ((leases d').symm.trans found')
    · intro id member
      obtain ⟨below, gone⟩ := h.revoked id (old member Event.noConfusion)
      exact ⟨next ▸ below, fun d l found => gone d l ((leases d).symm.trans found)⟩
    · intro l now member
      obtain ⟨below, gone, alive, kept⟩ := h.accepted l now (old member Event.noConfusion)
      exact ⟨next ▸ below, fun d l found => gone d l ((leases d).symm.trans found), alive,
        fun member => kept (old member Event.noConfusion)⟩
    · intro id value found
      rw [futures, Dict.get?_set] at found
      split at found
      · cases found
      · rw [log]
        exact List.mem_cons_of_mem _ (h.reported id value found)

lemma Submits.after {request : TaskRequest} (aside : Aside s s')
    (h : Submits request lease s' s'') : Submits request lease s s'' where
  jobs := h.jobs.trans aside.jobs
  attempts := h.attempts.trans aside.attempts
  journal := h.journal.trans aside.journal
  nextJob := h.nextJob.trans aside.nextJob
  task := h.task
  fresh := aside.nextLease.trans h.fresh
  next := h.next
  leases := fun d l' found => by
    rcases h.leases d l' found with is | ⟨other, l, found, same⟩
    · exact .inl is
    · obtain ⟨l₀, found, same₀⟩ := aside.leases d l found
      exact .inr ⟨other, l₀, found, same₀.trans same⟩
  log := by
    obtain ⟨new, log, passing⟩ := aside.log
    obtain ⟨new', log', passing'⟩ := h.log
    refine ⟨new' ++ new, by rw [log', log, List.append_assoc], fun e member => ?_⟩
    exact (List.mem_append.1 member).elim (passing' e) (passing e)
  book := h.book ∘ aside.book

lemma submitTask_ends (request : TaskRequest) (s : Engine) :
    (∃ message s', submitTask clock request s = (.error (.runtimeError message), s') ∧ Aside s s') ∨
    ∃ lease s', submitTask clock request s = (.ok lease, s') ∧ Submits request lease s s' := by
  simp only [submitTask]
  rcases assignTask_ends request s with ⟨reason, s₁, run, aside⟩ | ⟨lease, s₀, s₁, run, aside, g⟩
  · rw [bind_of_ok run]
    exact .inl ⟨_, s₁, rfl, aside⟩
  rw [bind_of_ok run]
  simp only [read_bind]
  have undone : ∃ s', revokeTask request.taskId s₁ = (.ok true, s') ∧ Aside s s' := by
    refine ⟨(revokeTask request.taskId s₁).2, ?_, aside.trans g.revoked⟩
    have here : s₁.dispatcher.taskLeases.get? request.taskId = some lease := by
      rw [show s₁.dispatcher.taskLeases.get? _ = _ from g.leases _, if_pos rfl]
    simp only [revokeTask, read_bind, here, modifyDispatcher_bind, note_bind, pure_apply]
  obtain ⟨s', revoked, left⟩ := undone
  split
  · -- the transport takes the request unless it is busy
    have ends : transportSubmit lease.workerId request lease s₁ = (.error (.runtimeError "Worker is busy"), s₁) ∨
        ∃ s₂, transportSubmit lease.workerId request lease s₁ = (.ok (), s₂) ∧
          Submits request lease s₀ s₂ := by
      simp only [transportSubmit, read_bind]
      rcases s₁.dispatcher.transports.get? lease.workerId with _ | _ | active
      · exact .inr ⟨_, rfl, g.sent rfl rfl rfl rfl rfl (fun _ => rfl) rfl rfl⟩
      · exact .inr ⟨_, rfl, g.sent rfl rfl rfl rfl rfl (fun _ => rfl) rfl rfl⟩
      · exact .inl rfl
    rcases ends with busy | ⟨s₂, taken, sent⟩
    · refine .inl ⟨"Worker is busy", s', ?_, left⟩
      apply bind_of_error
      rw [handle_of_error busy, bind_of_ok revoked, raise_apply]
    · refine .inr ⟨lease, s₂, ?_, .after aside sent⟩
      rw [bind_of_ok (handle_of_ok taken _), pure_apply]
  · refine .inl ⟨"Selected worker has no execution transport", s', ?_, left⟩
    rw [bind_of_ok revoked, raise_apply]

end Vertep.Workflow
