import Vertep.Workflow.Attempts

/-!
# Leases are exclusive and used once (`core/dispatcher.py`)

What the dispatcher does to its lease table over time: `Ages` is all that a call does to the leases that
are there already, they end or are renewed before they expire. A new lease goes to a node all of whose
leases expired by the reading at which it was looked at, and that is what keeps the table exclusive.
-/

namespace Vertep.Workflow
open Lib Queue Command

/-! ## The calls -/

/-- What is asked of the dispatcher and of the transports it sends through. -/
inductive Call where
  | register (node : NodeId) (capabilities : List String) (resources : Resources)
      (modules : Dict String Manifest)
  | heartbeat (node : NodeId)
  | observe (workers : Dict NodeId WorkerRecord)
  | assign (request : TaskRequest)
  | submit (request : TaskRequest)
  | poll (node : NodeId)
  | report (node : NodeId) (lease : LeaseId) (outcome : Except String WorkerResult)
  | renew (task : DispatchId) (worker : NodeId) (lease : LeaseId)
  | accept (task : DispatchId) (worker : NodeId) (lease : LeaseId)
  | revoke (task : DispatchId)
  | unregister (node : NodeId)

section
variable (clock : ℕ → ℚ)

/-- The state a call leaves, whether it returns or raises. -/
def Call.after (s : Engine) : Call → Engine
  | .register node capabilities resources modules =>
    (registerWorker clock node capabilities resources modules s).2
  | .heartbeat node => (Workflow.heartbeat clock node s).2
  | .observe workers => (observeWorkers workers s).2
  | .assign request => (assignTask clock request s).2
  | .submit request => (submitTask clock request s).2
  | .poll node => (transportPoll node s).2
  | .report node lease outcome => (transportResult node lease outcome s).2
  | .renew task worker lease => (renewLease clock task worker lease s).2
  | .accept task worker lease => (acceptResult clock task worker lease s).2
  | .revoke task => (revokeTask task s).2
  | .unregister node => (unregisterNode node s).2

abbrev Calls : Engine → Engine → Prop :=
  Relation.ReflTransGen fun s s' => ∃ call : Call, s' = call.after clock s

/-- The lease expired by one of the first `n` readings. -/
def Lease.Lapsed (n : ℕ) (l : Lease) : Prop := ∃ k < n, l.expiresAt ≤ clock k

def Engine.Free (s : Engine) (node : NodeId) : Prop :=
  ∀ d l, s.lease? d = some l → l.workerId = node → l.Lapsed clock s.reads

/-- Of two leases of one node, one has expired. -/
def Engine.Exclusive (s : Engine) : Prop :=
  ∀ d d' l l', s.lease? d = some l → s.lease? d' = some l' → l.workerId = l'.workerId →
    d = d' ∨ l.Lapsed clock s.reads ∨ l'.Lapsed clock s.reads

/-- The lease was given out and is live no more: it is not in the table, or it will have expired at the
next reading. -/
def Engine.Spent (s : Engine) (lease : LeaseId) : Prop :=
  lease < s.nextLease ∧ ∀ d l, s.lease? d = some l → l.leaseId = lease → l.expiresAt ≤ clock s.reads

/-- A lease that is still there was left as it is, or renewed at a reading before it expired. -/
structure Ages (s s' : Engine) : Prop where
  reads : s.reads ≤ s'.reads
  nextLease : s.nextLease ≤ s'.nextLease
  leases : ∀ d l', s'.lease? d = some l' → ∃ l, s.lease? d = some l ∧
    l'.leaseId = l.leaseId ∧ l'.workerId = l.workerId ∧
    (l' = l ∨ ∃ k, s.reads ≤ k ∧ k < s'.reads ∧ clock k < l.expiresAt)

end

variable {clock : ℕ → ℚ}

variable {l : Lease}

lemma Lease.Lapsed.mono {m n : ℕ} (le : m ≤ n) : l.Lapsed clock m → l.Lapsed clock n
  | ⟨k, below, expired⟩ => ⟨k, below.trans_le le, expired⟩

variable {s s' : Engine}

lemma ages_of (reads : s.reads ≤ s'.reads) (nextLease : s.nextLease ≤ s'.nextLease)
    (leases : ∀ d l, s'.lease? d = some l → s.lease? d = some l) : Ages clock s s' where
  reads := reads
  nextLease := nextLease
  leases := fun d l found => ⟨l, leases d l found, rfl, rfl, .inl rfl⟩

lemma Ages.refl (s : Engine) : Ages clock s s := ages_of (le_refl _) (le_refl _) fun _ _ => id

lemma Ages.trans {s'' : Engine} (h : Ages clock s s') (h' : Ages clock s' s'') : Ages clock s s'' where
  reads := h.reads.trans h'.reads
  nextLease := h.nextLease.trans h'.nextLease
  leases := fun d l'' found => by
    obtain ⟨l', found', id', worker', how'⟩ := h'.leases d l'' found
    obtain ⟨l, found, id, worker, how⟩ := h.leases d l' found'
    refine ⟨l, found, id'.trans id, worker'.trans worker, ?_⟩
    rcases how with rfl | ⟨k, from', below, alive⟩
    · rcases how' with rfl | ⟨k, from', below, alive⟩
      · exact .inl rfl
      · exact .inr ⟨k, h.reads.trans from', below, alive⟩
    · exact .inr ⟨k, from', below.trans_le h'.reads, alive⟩

instance : Std.Refl (Ages clock) := ⟨Ages.refl⟩

instance : IsTrans Engine (Ages clock) := ⟨fun _ _ _ => Ages.trans⟩

variable {d task : DispatchId}

lemma Ages.lapsed (monotone : Monotone clock) (h : Ages clock s s')
    {l' : Lease} (found : s'.lease? d = some l') :
    ∃ l, s.lease? d = some l ∧ l.workerId = l'.workerId ∧
      (l.Lapsed clock s.reads → l'.Lapsed clock s'.reads) := by
  obtain ⟨l, before, _, worker, how⟩ := h.leases d l' found
  refine ⟨l, before, worker.symm, fun ⟨k, below, expired⟩ => ?_⟩
  rcases how with rfl | ⟨k', from', _, alive⟩
  · exact ⟨k, below.trans_le h.reads, expired⟩
  · have later : clock k ≤ clock k' := monotone (below.le.trans from')
    exact absurd (expired.trans later) (not_le.2 alive)

lemma Ages.exclusive (monotone : Monotone clock) (h : Ages clock s s')
    (exclusive : s.Exclusive clock) : s'.Exclusive clock := by
  intro d d' l' m' found found' same
  obtain ⟨l, before, worker, lapsed⟩ := h.lapsed monotone found
  obtain ⟨m, before', worker', lapsed'⟩ := h.lapsed monotone found'
  have same : l.workerId = m.workerId := worker.trans (same.trans worker'.symm)
  exact (exclusive d d' l m before before' same).imp_right (Or.imp lapsed lapsed')

variable {node : NodeId}

variable {lease : LeaseId}

lemma Ages.spent (monotone : Monotone clock) (h : Ages clock s s')
    (spent : s.Spent clock lease) : s'.Spent clock lease := by
  refine ⟨spent.1.trans_le h.nextLease, fun d l' found same => ?_⟩
  obtain ⟨l, before, id, _, how⟩ := h.leases d l' found
  have expired : l.expiresAt ≤ clock s.reads := spent.2 d l before (id.symm.trans same)
  rcases how with rfl | ⟨k, from', _, alive⟩
  · exact expired.trans (monotone h.reads)
  · exact absurd (expired.trans (monotone from')) (not_le.2 alive)

/-! ## The calls that give out no lease -/

lemma ages_modifyDispatcher {f : Dispatcher → Dispatcher} (h : ∀ d, (f d).taskLeases = d.taskLeases) :
    Within (Ages clock) (modifyDispatcher f) := by
  refine ⟨fun s => ages_of (le_refl _) (le_refl _) fun d l found => ?_⟩
  rw [Engine.lease?, ← h]
  exact found

lemma ages_write {f : Engine → Engine} (dispatcher : ∀ s, (f s).dispatcher = s.dispatcher)
    (reads : ∀ s, s.reads ≤ (f s).reads) (next : ∀ s, (f s).nextLease = s.nextLease) :
    Within (Ages clock) (write f : EngineM Unit) := by
  refine ⟨fun s => ages_of (reads s) (next s).ge fun d l found => ?_⟩
  rw [Engine.lease?, ← dispatcher]
  exact found

instance : Within (Ages clock) (time clock) :=
  ⟨fun _ => ages_of (Nat.le_succ _) (le_refl _) fun _ _ => id⟩

instance (e : Event) : Within (Ages clock) (note e) :=
  ages_write (fun _ => rfl) (fun _ => le_refl _) fun _ => rfl

instance (lease : LeaseId) (future : Future) : Within (Ages clock)
    (write fun s => { s with futures := s.futures.set lease future } : EngineM Unit) :=
  ages_write (fun _ => rfl) (fun _ => le_refl _) fun _ => rfl

instance (node : NodeId) (active : Option Active) :
    Within (Ages clock) (modifyDispatcher fun d => d.setActive node active) :=
  ages_modifyDispatcher fun _ => rfl

instance ages_transportPoll (node : NodeId) : Within (Ages clock) (transportPoll node) := by
  refine .next fun s => ?_
  rcases s.dispatcher.transports.get? node with _ | _ | active <;> infer_instance

instance ages_transportResult (node : NodeId) (lease : LeaseId) (outcome : Except String WorkerResult) :
    Within (Ages clock) (transportResult node lease outcome) := by
  refine .next fun s => ?_
  rcases s.dispatcher.transports.get? node with _ | _ | active
  · infer_instance
  · infer_instance
  · cases outcome <;> infer_instance

instance ages_renewLease (task : DispatchId) (worker : NodeId) (lease : LeaseId) :
    Within (Ages clock) (renewLease clock task worker lease) := by
  constructor
  intro s
  have read : Ages clock s { s with reads := s.reads + 1 } :=
    ages_of (Nat.le_succ _) (le_refl _) fun _ _ => id
  simp only [renewLease, read_bind, time_bind]
  cases found : s.dispatcher.taskLeases.get? task with
  | none => exact read
  | some l =>
    show Ages clock s (Prod.snd ((if _ then _ else _ : EngineM _) _))
    split
    · exact read
    · rename_i fits
      obtain ⟨_, _, alive⟩ : l.workerId = worker ∧ l.leaseId = lease ∧ clock s.reads < l.expiresAt := by
        simpa [not_or] using fits
      refine ⟨Nat.le_succ _, le_refl _, fun d l' after => ?_⟩
      simp only [Engine.lease?, modifyDispatcher_bind, pure_apply, Dict.get?_set] at after
      split at after
      · rename_i same
        cases after
        exact ⟨l, same ▸ found, rfl, rfl, .inr ⟨s.reads, le_refl _, Nat.lt_succ_self _, alive⟩⟩
      · exact ⟨l', after, rfl, rfl, .inl rfl⟩

lemma ages_pop (task : DispatchId) (reads : s.reads ≤ s'.reads)
    (next : s'.nextLease = s.nextLease)
    (leases : s'.dispatcher.taskLeases = s.dispatcher.taskLeases.pop task) : Ages clock s s' := by
  refine ages_of reads next.ge fun d l found => ?_
  simp only [Engine.lease?, leases, Dict.get?_pop] at found
  split at found
  · cases found
  · exact found

instance ages_revokeTask (task : DispatchId) : Within (Ages clock) (revokeTask task) := by
  constructor
  intro s
  simp only [revokeTask, read_bind]
  cases found : s.dispatcher.taskLeases.get? task with
  | none => exact Ages.refl s
  | some l => exact ages_pop task (le_refl _) rfl (cancel_leases _ _ _)

instance ages_acceptResult (task : DispatchId) (worker : NodeId) (lease : LeaseId) :
    Within (Ages clock) (acceptResult clock task worker lease) := by
  constructor
  intro s
  have read : Ages clock s { s with reads := s.reads + 1 } :=
    ages_of (Nat.le_succ _) (le_refl _) fun _ _ => id
  simp only [acceptResult, read_bind, time_bind]
  cases s.dispatcher.owns task worker lease (clock s.reads) with
  | false => exact read
  | true =>
    cases s.dispatcher.taskLeases.get? task with
    | none => exact read
    | some l => exact ages_pop task (Nat.le_succ _) rfl rfl

instance ages_unregisterNode (node : NodeId) : Within (Ages clock) (unregisterNode node) := by
  unfold unregisterNode
  have removed : Within (Ages clock)
      (modifyDispatcher fun d => { d with nodeRegistry := d.nodeRegistry.pop node }) :=
    ages_modifyDispatcher fun _ => rfl
  infer_instance

instance ages_seen (node : NodeId) (now : ℚ) : Within (Ages clock) (modifyDispatcher fun d =>
    match d.nodeRegistry.get? node with
    | none => d
    | some info => { d with nodeRegistry := d.nodeRegistry.set node { info with lastHeartbeat := now } }) :=
  ages_modifyDispatcher fun d => seen_leases d node now

instance ages_heartbeat (node : NodeId) : Within (Ages clock) (heartbeat clock node) := by
  unfold heartbeat
  infer_instance

instance ages_registerWorker (node : NodeId) (capabilities : List String) (resources : Resources)
    (modules : Dict String Manifest) :
    Within (Ages clock) (registerWorker clock node capabilities resources modules) := by
  unfold registerWorker
  have modules : Within (Ages clock) (write fun s => { s with moduleRegistry := modules } : EngineM Unit) :=
    ages_write (fun _ => rfl) (fun _ => le_refl _) fun _ => rfl
  have registered (now : ℚ) : Within (Ages clock) (modifyDispatcher fun d =>
      { d with
        nodeRegistry := d.nodeRegistry.set node ⟨capabilities, resources, now⟩
        transports := if d.transports.contains node then d.transports else d.transports.set node none }) :=
    ages_modifyDispatcher fun _ => rfl
  refine .next fun s => ?_
  cases s.dispatcher.transports.get? node with
  | none => infer_instance
  | some active? => cases active? <;> infer_instance

instance ages_observeWorkers (workers : Dict NodeId WorkerRecord) :
    Within (Ages clock) (observeWorkers workers) := by
  unfold observeWorkers
  refine .next fun s => Within.forEach _ fun entry _ => ?_
  cases workers.get? entry.1 with
  | none => infer_instance
  | some worker =>
    apply ages_modifyDispatcher
    intro d
    cases d.nodeRegistry.get? entry.1 <;> rfl

/-! ## The search for a node -/

/-- Nothing but the clock was read. -/
structure Looks (s s' : Engine) : Prop where
  dispatcher : s'.dispatcher = s.dispatcher
  nextLease : s'.nextLease = s.nextLease
  reads : s.reads ≤ s'.reads

instance : Std.Refl Looks := ⟨fun _ => ⟨rfl, rfl, le_refl _⟩⟩

instance : IsTrans Engine Looks := ⟨fun _ _ _ h h' =>
  ⟨h'.dispatcher.trans h.dispatcher, h'.nextLease.trans h.nextLease, h.reads.trans h'.reads⟩⟩

lemma Looks.ages (h : Looks s s') : Ages clock s s' := by
  refine ages_of h.reads h.nextLease.ge fun d l found => ?_
  rw [Engine.lease?, ← h.dispatcher]
  exact found

instance : Within Looks (time clock) := ⟨fun _ => ⟨rfl, rfl, Nat.le_succ _⟩⟩

instance looks_holdsLease (node : NodeId) (leases : List Lease) :
    Within Looks (holdsLease clock node leases) := by
  induction leases with
  | nil => exact within_pure false
  | cons lease leases ih =>
    rw [holdsLease]
    infer_instance

instance (required : List String) (request : TaskRequest) (node : NodeId)
    (info : NodeInfo) : Within Looks (isCandidate clock required request node info) := by
  unfold isCandidate
  refine .next fun s => ?_
  cases s.dispatcher.transports.get? node with
  | none => infer_instance
  | some active? => cases active? <;> infer_instance

instance looks_findCandidates (required : List String) (request : TaskRequest)
    (nodes : List (NodeId × NodeInfo)) : Within Looks (findCandidates clock required request nodes) := by
  induction nodes with
  | nil => exact within_pure []
  | cons node nodes ih =>
    rw [findCandidates]
    infer_instance

instance looks_alreadyOwned (task : DispatchId) : Within Looks (alreadyOwned clock task) := by
  unfold alreadyOwned
  refine .next fun s => ?_
  cases s.dispatcher.taskLeases.get? task <;> infer_instance

lemma holdsLease_lapsed {leases : List Lease}
    (looked : holdsLease clock node leases s = (.ok false, s')) :
    ∀ l ∈ leases, l.workerId = node → l.Lapsed clock s'.reads := by
  induction leases generalizing s with
  | nil => nofun
  | cons lease leases ih =>
    rw [holdsLease] at looked
    split at looked
    · rw [time_bind] at looked
      split at looked
      · cases looked
      · rename_i expired
        have later := ((@looks_holdsLease clock node leases).leads
          { s with reads := s.reads + 1 }).reads
        rw [looked] at later
        have spent := (Nat.lt_succ_self _).trans_le later
        exact List.forall_mem_cons.2 ⟨fun _ => ⟨s.reads, spent, not_lt.1 expired⟩, ih looked⟩
    · rename_i other
      exact List.forall_mem_cons.2 ⟨fun worker => absurd worker other, ih looked⟩

lemma Looks.free (h : Looks s s') (free : s.Free clock node) :
    s'.Free clock node := by
  intro d l found worker
  rw [Engine.lease?, h.dispatcher] at found
  exact (free d l found worker).mono h.reads

lemma isCandidate_free {required : List String} {request : TaskRequest} {info : NodeInfo}
    (looked : isCandidate clock required request node info s = (.ok true, s')) :
    s'.Free clock node := by
  have free (h : (do
      let now ← time clock
      if now - info.lastHeartbeat > 45 then pure false
      else do
        let held ← holdsLease clock node s.dispatcher.taskLeases.values
        pure (!held && info.suits required request) : EngineM Bool) s = (.ok true, s')) :
      s'.Free clock node := by
    rw [time_bind] at h
    split at h
    · cases h
    obtain ⟨held, s₁, asked, answer⟩ := bind_eq_ok.1 h
    rw [pure_apply, Prod.mk.injEq, Except.ok.injEq, Bool.and_eq_true, Bool.not_eq_true'] at answer
    obtain ⟨⟨rfl, _⟩, rfl⟩ := answer
    have same := ((@looks_holdsLease clock node s.dispatcher.taskLeases.values).leads
      { s with reads := s.reads + 1 }).dispatcher
    rw [asked] at same
    intro d l found worker
    rw [Engine.lease?, same] at found
    exact holdsLease_lapsed asked l (Dict.mem_values_iff.2 ⟨d, found⟩) worker
  revert looked
  simp only [isCandidate, read_bind]
  rcases s.dispatcher.transports.get? node with _ | _ | active
  · exact free
  · exact free
  · rintro ⟨⟩

lemma findCandidates_free {required : List String} {request : TaskRequest}
    {nodes : List (NodeId × NodeInfo)} {candidates : List NodeId}
    (looked : findCandidates clock required request nodes s = (.ok candidates, s')) :
    ∀ node ∈ candidates, s'.Free clock node := by
  induction nodes generalizing s candidates with
  | nil =>
    cases looked
    nofun
  | cons entry nodes ih =>
    rw [findCandidates] at looked
    obtain ⟨suitable, s₁, asked, looked⟩ := bind_eq_ok.1 looked
    obtain ⟨others, s₂, searched, answer⟩ := bind_eq_ok.1 looked
    cases answer
    have later := (@looks_findCandidates clock required request nodes).leads s₁
    rw [searched] at later
    cases suitable with
    | false => exact ih searched
    | true =>
      exact List.forall_mem_cons.2 ⟨later.free (isCandidate_free asked), ih searched⟩

/-! ## A new lease -/

/-- A new lease for the task went to a node whose leases had all expired. -/
structure Grants (clock : ℕ → ℚ) (task : DispatchId) (lease : Lease) (s s' : Engine) : Prop where
  id : lease.leaseId = s.nextLease
  next : s'.nextLease = s.nextLease + 1
  reads : s.reads ≤ s'.reads
  free : s.Free clock lease.workerId
  leases : ∀ d, s'.lease? d = if task = d then some lease else s.lease? d

lemma Grants.exclusive {lease : Lease} (g : Grants clock task lease s s')
    (exclusive : s.Exclusive clock) : s'.Exclusive clock := by
  intro d d' l l' found found' same
  rw [g.leases] at found found'
  split at found <;> split at found'
  · exact .inl (Eq.trans (Eq.symm ‹task = d›) ‹_›)
  · cases found
    exact .inr (.inr ((g.free d' l' found' same.symm).mono g.reads))
  · cases found'
    exact .inr (.inl ((g.free d l found same).mono g.reads))
  · exact (exclusive d d' l l' found found' same).imp_right (Or.imp (.mono g.reads) (.mono g.reads))

lemma Grants.spent (monotone : Monotone clock) {lease : Lease}
    (g : Grants clock task lease s s') {old : LeaseId} (spent : s.Spent clock old) :
    s'.Spent clock old := by
  refine ⟨spent.1.trans_le (g.next ▸ Nat.le_succ _), fun d l found same => ?_⟩
  rw [g.leases] at found
  split at found
  · cases found
    exact absurd (same.symm.trans g.id) spent.1.ne
  · exact (spent.2 d l found same).trans (monotone g.reads)

lemma assignTask_grants (request : TaskRequest) (s : Engine) :
    (∃ reason s', assignTask clock request s = (.ok (.error reason), s') ∧ Looks s s') ∨
    ∃ lease s₀ s', assignTask clock request s = (.ok (.ok lease), s') ∧ Looks s s₀ ∧
      Grants clock request.taskId lease s₀ s' := by
  obtain ⟨owned, s₁, asked, looks⟩ := returns_within (alreadyOwned_returns request.taskId s)
    (looks_alreadyOwned request.taskId)
  simp only [assignTask]
  rw [bind_of_ok asked]
  cases owned with
  | true => exact .inl ⟨_, s₁, rfl, looks⟩
  | false =>
    simp only [Bool.false_eq_true, if_false, read_bind]
    obtain ⟨candidates, s₂, searched, looks'⟩ := returns_within
      (findCandidates_returns request.required request s₁.dispatcher.nodeRegistry.entries s₁)
      (looks_findCandidates request.required request s₁.dispatcher.nodeRegistry.entries)
    rw [bind_of_ok searched]
    have looks : Looks s s₂ := trans_of Looks looks looks'
    cases candidates with
    | nil => exact .inl ⟨_, s₂, rfl, looks⟩
    | cons node others =>
      have free : s₂.Free clock node := findCandidates_free searched node List.mem_cons_self
      refine .inr ⟨_, s₂, _, rfl, looks, rfl, rfl, ?_, free, fun d => ?_⟩
      · exact Nat.le_add_right s₂.reads 2
      · exact (congrArg (Dict.get? · d) (seen_leases _ node _)).trans (Dict.get?_set _ _ _ _)

def Serves (clock : ℕ → ℚ) (s s' : Engine) : Prop :=
  Ages clock s s' ∨ ∃ task lease s₀ s₁, Looks s s₀ ∧ Grants clock task lease s₀ s₁ ∧ Ages clock s₁ s'

lemma assignTask_serves (request : TaskRequest) (s : Engine) :
    Serves clock s (assignTask clock request s).2 := by
  rcases @assignTask_grants clock request s with ⟨reason, s', run, looks⟩ | ⟨lease, s₀, s', run, looks, g⟩
  · rw [run]
    exact .inl looks.ages
  · rw [run]
    exact .inr ⟨_, lease, s₀, s', looks, g, .refl s'⟩

instance (node : NodeId) (request : TaskRequest) (lease : Lease) :
    Within (Ages clock) (transportSubmit node request lease) := by
  refine .next fun s => ?_
  rcases s.dispatcher.transports.get? node with _ | _ | active <;> infer_instance

lemma submitTask_serves (request : TaskRequest) (s : Engine) :
    Serves clock s (submitTask clock request s).2 := by
  simp only [submitTask]
  rcases @assignTask_grants clock request s with ⟨reason, s', run, looks⟩ | ⟨lease, s₀, s', run, looks, g⟩
  · rw [bind_of_ok run]
    exact .inl looks.ages
  · rw [bind_of_ok run]
    refine .inr ⟨_, lease, s₀, s', looks, g, ?_⟩
    simp only [read_bind]
    split
    · exact Within.leads (R := Ages clock) s'
    · exact Within.leads (R := Ages clock) s'

lemma Call.serves (call : Call) (s : Engine) : Serves clock s (call.after clock s) := by
  cases call with
  | assign request => exact assignTask_serves request s
  | submit request => exact submitTask_serves request s
  | register node capabilities resources modules =>
    exact .inl ((ages_registerWorker node capabilities resources modules).leads s)
  | heartbeat node => exact .inl ((ages_heartbeat node).leads s)
  | observe workers => exact .inl ((ages_observeWorkers workers).leads s)
  | poll node => exact .inl ((ages_transportPoll node).leads s)
  | report node lease outcome => exact .inl ((ages_transportResult node lease outcome).leads s)
  | renew task worker lease => exact .inl ((ages_renewLease task worker lease).leads s)
  | accept task worker lease => exact .inl ((ages_acceptResult task worker lease).leads s)
  | revoke task => exact .inl ((ages_revokeTask task).leads s)
  | unregister node => exact .inl ((ages_unregisterNode node).leads s)

lemma Serves.exclusive (monotone : Monotone clock) (h : Serves clock s s')
    (exclusive : s.Exclusive clock) : s'.Exclusive clock := by
  rcases h with ages | ⟨task, lease, s₀, s₁, looks, grants, ages⟩
  · exact ages.exclusive monotone exclusive
  · exact ages.exclusive monotone (grants.exclusive (looks.ages.exclusive monotone exclusive))

lemma Serves.spent (monotone : Monotone clock) (h : Serves clock s s')
    (spent : s.Spent clock lease) : s'.Spent clock lease := by
  rcases h with ages | ⟨task, granted, s₀, s₁, looks, grants, ages⟩
  · exact ages.spent monotone spent
  · exact ages.spent monotone (grants.spent monotone (looks.ages.spent monotone spent))

/-! ## Runs of calls -/

lemma acceptResult_book (task : DispatchId) (worker : NodeId) (lease : LeaseId)
    (book : LeaseBook s) : LeaseBook (acceptResult clock task worker lease s).2 := by
  rcases @acceptResult_cases clock task worker lease s with
    ⟨s', run, aside⟩ | ⟨l, now, held, _, alive, run⟩
  · rw [run]
    exact aside.book book
  · rw [run]
    exact book.accept held alive (fun d => Dict.get?_pop _ _ _) rfl rfl rfl

lemma Call.book (call : Call) (book : LeaseBook s) : LeaseBook (call.after clock s) := by
  cases call with
  | assign request =>
    rcases @assignTask_ends clock request s with ⟨_, s', run, aside⟩ | ⟨_, _, s', run, aside, g⟩
    · simp only [Call.after, run]
      exact aside.book book
    · simp only [Call.after, run]
      exact g.book (aside.book book)
  | submit request =>
    rcases @submitTask_ends clock request s with ⟨_, s', run, aside⟩ | ⟨_, s', run, submits⟩
    · simp only [Call.after, run]
      exact aside.book book
    · simp only [Call.after, run]
      exact submits.book book
  | accept task worker lease => exact acceptResult_book task worker lease book
  | register node capabilities resources modules =>
    exact ((aside_registerWorker node capabilities resources modules).leads s).book book
  | heartbeat node => exact ((aside_heartbeat node).leads s).book book
  | observe workers => exact ((aside_observeWorkers workers).leads s).book book
  | poll node => exact ((aside_transportPoll node).leads s).book book
  | report node lease outcome => exact ((aside_transportResult node lease outcome).leads s).book book
  | renew task worker lease => exact ((aside_renewLease task worker lease).leads s).book book
  | revoke task => exact ((aside_revokeTask task).leads s).book book
  | unregister node => exact ((aside_unregisterNode node).leads s).book book

/-- What holds of the lease table after any calls. -/
structure Leased (clock : ℕ → ℚ) (s : Engine) : Prop where
  book : LeaseBook s
  exclusive : s.Exclusive clock

lemma leased_empty : Leased clock {} where
  book := ⟨nofun, nofun, nofun, nofun, nofun⟩
  exclusive := nofun

lemma Calls.leased (monotone : Monotone clock) (calls : Calls clock s s')
    (h : Leased clock s) : Leased clock s' := by
  induction calls with
  | refl => exact h
  | tail _ step ih =>
    obtain ⟨call, rfl⟩ := step
    exact ⟨call.book ih.book, (call.serves _).exclusive monotone ih.exclusive⟩

lemma Calls.spent (monotone : Monotone clock) (calls : Calls clock s s')
    (spent : s.Spent clock lease) : s'.Spent clock lease := by
  induction calls with
  | refl => exact spent
  | tail _ step ih =>
    obtain ⟨call, rfl⟩ := step
    exact (call.serves _).spent monotone ih

/-! ## What ends a lease -/

lemma LeaseBook.spent (book : LeaseBook s) (held : s.lease? task = some l) (next : s.nextLease ≤ s'.nextLease)
    (fewer : ∀ d l', s'.lease? d = some l' → s.lease? d = some l' ∧ d ≠ task) :
    s'.Spent clock l.leaseId := by
  refine ⟨(book.keyed task l held).2.trans_le next, fun d l' found same => ?_⟩
  obtain ⟨found, other⟩ := fewer d l' found
  exact absurd (book.distinct d task l' l found held same) other

@[simp] lemma lease?_revokeTask (task d : DispatchId) (s : Engine) :
    (revokeTask task s).2.lease? d = if task = d then none else s.lease? d := by
  simp only [revokeTask, read_bind]
  cases found : s.dispatcher.taskLeases.get? task with
  | none =>
    split
    · rename_i same
      exact same ▸ found
    · rfl
  | some l => simp [Engine.lease?, cancel_leases]

lemma revokeTask_spends (book : LeaseBook s) (held : s.lease? task = some l) : (revokeTask task s).2.Spent clock l.leaseId := by
  refine book.spent held ((aside_revokeTask task).leads s).nextLease fun d l' found => ?_
  rw [lease?_revokeTask] at found
  split at found
  · cases found
  · exact ⟨found, Ne.symm ‹_›⟩

lemma revoke_all (node : NodeId) (entries : List (DispatchId × Lease)) (s : Engine)
    (found : (forEach (fun entry : DispatchId × Lease => when (entry.2.workerId = node) do
      let _ ← revokeTask entry.1) entries s).2.lease? d = some l) :
    s.lease? d = some l ∧ ∀ entry ∈ entries, entry.2.workerId = node → d ≠ entry.1 := by
  induction entries generalizing s with
  | nil => exact ⟨found, nofun⟩
  | cons entry entries ih =>
    simp only [forEach] at found
    by_cases his : entry.2.workerId = node
    · obtain ⟨_, s₁, run, _⟩ := revokeTask_ends entry.1 s
      have eq : s₁ = (revokeTask entry.1 s).2 := by rw [run]
      have round : when (entry.2.workerId = node) (do let _ ← revokeTask entry.1) s = (.ok (), s₁) := by
        rw [when, if_pos his, bind_of_ok run, pure_apply]
      rw [bind_of_ok round] at found
      obtain ⟨before, rest⟩ := ih s₁ found
      rw [eq, lease?_revokeTask] at before
      split at before
      · cases before
      · exact ⟨before, List.forall_mem_cons.2 ⟨fun _ => Ne.symm ‹_›, rest⟩⟩
    · have round : when (entry.2.workerId = node) (do let _ ← revokeTask entry.1) s = (.ok (), s) := by
        rw [when, if_neg his, pure_apply]
      rw [bind_of_ok round] at found
      obtain ⟨before, rest⟩ := ih s found
      exact ⟨before, List.forall_mem_cons.2 ⟨fun worker => absurd worker his, rest⟩⟩

lemma unregisterNode_spends (book : LeaseBook s) (held : s.lease? task = some l) (worker : l.workerId = node) :
    (unregisterNode node s).2.Spent clock l.leaseId := by
  refine book.spent held ((aside_unregisterNode node).leads s).nextLease fun d l' found => ?_
  obtain ⟨found, others⟩ := revoke_all node _ _ found
  exact ⟨found, others (task, l) (Dict.mem_entries_iff.2 held) worker⟩

lemma acceptResult_spends (book : LeaseBook s) {worker : NodeId}
    (accepted : (acceptResult clock task worker lease s).1 = .ok true) :
    (acceptResult clock task worker lease s).2.Spent clock lease := by
  rcases @acceptResult_cases clock task worker lease s with
    ⟨s', run, _⟩ | ⟨l, now, held, rfl, _, run⟩
  · rw [run] at accepted
    cases accepted
  · rw [run]
    refine book.spent held (le_refl _) fun d l' found => ?_
    simp only [Engine.lease?, Dict.get?_pop] at found
    split at found
    · cases found
    · exact ⟨found, Ne.symm ‹_›⟩

/-! ## What is asked of a spent lease -/

lemma acceptResult_iff (task : DispatchId) (worker : NodeId) (lease : LeaseId) (s : Engine) :
    (acceptResult clock task worker lease s).1 =
      .ok (s.dispatcher.owns task worker lease (clock s.reads)) := by
  simp only [acceptResult, read_bind, time_bind]
  cases owned : s.dispatcher.owns task worker lease (clock s.reads) with
  | false => rfl
  | true =>
    obtain ⟨l, _, held, _⟩ := Dispatcher.owns_iff.1 owned
    rw [held]
    rfl

lemma Engine.Spent.refused (spent : s.Spent clock lease) (task : DispatchId)
    (worker : NodeId) :
    (renewLease clock task worker lease s).1 = .ok false ∧
      (acceptResult clock task worker lease s).1 = .ok false := by
  constructor
  · simp only [renewLease, read_bind, time_bind]
    cases held : s.dispatcher.taskLeases.get? task with
    | none => rfl
    | some l =>
      show Prod.fst ((if _ then _ else _ : EngineM Bool) _) = _
      rw [if_pos]
      · rfl
      · by_contra live
        obtain ⟨_, same, alive⟩ : l.workerId = worker ∧ l.leaseId = lease ∧ clock s.reads < l.expiresAt := by
          simpa [not_or] using live
        exact absurd (spent.2 task l held same) (not_le.2 alive)
  · rw [acceptResult_iff, Except.ok.injEq, Bool.eq_false_iff]
    intro owned
    obtain ⟨l, _, held, _, _, same, alive, _⟩ := Dispatcher.owns_iff.1 owned
    exact absurd (spent.2 task l held same) (not_le.2 alive)

/-! ## The result -/

/-- Leases are exclusive, and a lease that is over stays over. -/
structure UsedOnce (clock : ℕ → ℚ) (s : Engine) : Prop where
  /-- Of the unexpired leases at an instant no two are of one node or one task. -/
  exclusive : ∀ now, (∀ k < s.reads, clock k ≤ now) → ∀ d d' l l', s.lease? d = some l →
    s.lease? d' = some l' → now < l.expiresAt → now < l'.expiresAt →
    l.workerId = l'.workerId ∨ l.taskId = l'.taskId → d = d' ∧ l = l'
  /-- Whatever comes after, a spent lease is neither renewed nor accepted. -/
  final : ∀ lease, s.Spent clock lease → ∀ s', Calls clock s s' → s'.Spent clock lease ∧
    ∀ task worker, (renewLease clock task worker lease s').1 = .ok false ∧
      (acceptResult clock task worker lease s').1 = .ok false
  /-- What is accepted was live, of a registered node, and is spent. -/
  accepted : ∀ task worker lease, (acceptResult clock task worker lease s).1 = .ok true →
    (∃ l, s.lease? task = some l ∧ l.leaseId = lease ∧ l.workerId = worker ∧ clock s.reads < l.expiresAt) ∧
      s.dispatcher.nodeRegistry.contains worker ∧
      (acceptResult clock task worker lease s).2.Spent clock lease
  expired : ∀ task l, s.lease? task = some l → l.expiresAt ≤ clock s.reads → s.Spent clock l.leaseId
  revoked : ∀ task l, s.lease? task = some l → (revokeTask task s).2.Spent clock l.leaseId
  unregistered : ∀ node task l, s.lease? task = some l → l.workerId = node →
    (unregisterNode node s).2.Spent clock l.leaseId

/-- After any calls of the dispatcher, with a clock that does not go back, leases are exclusive and used
once. -/
theorem leases_are_used_once (monotone : Monotone clock) {s : Engine} (calls : Calls clock {} s) :
    UsedOnce clock s := by
  obtain ⟨book, exclusive⟩ := Calls.leased monotone calls leased_empty
  constructor
  · intro now latest d d' l l' found found' alive alive' shared
    have live {m : Lease} (alive : now < m.expiresAt) : ¬ m.Lapsed clock s.reads :=
      fun ⟨k, below, expired⟩ => absurd (expired.trans (latest k below)) (not_le.2 alive)
    have same : d = d' := by
      rcases shared with worker | task
      · exact (exclusive d d' l l' found found' worker).resolve_right
          fun lapsed => lapsed.elim (live alive) (live alive')
      · exact (book.keyed d l found).1.symm.trans (task.trans (book.keyed d' l' found').1)
    subst same
    exact ⟨rfl, Option.some.inj (found.symm.trans found')⟩
  · intro lease spent s' later
    have spent := later.spent monotone spent
    exact ⟨spent, spent.refused⟩
  · intro task worker lease accepted
    refine ⟨?_, ?_, acceptResult_spends book accepted⟩
    all_goals
      rw [acceptResult_iff, Except.ok.injEq] at accepted
      obtain ⟨l, info, held, registered, at', same, alive, _⟩ := Dispatcher.owns_iff.1 accepted
    · exact ⟨l, held, same, at', alive⟩
    · exact Dict.contains_iff.2 (Dict.mem_keys_iff.2 ⟨info, registered⟩)
  · intro task l held expired
    refine ⟨(book.keyed task l held).2, fun d l' found same => ?_⟩
    cases book.distinct d task l' l found held same
    cases found.symm.trans held
    exact expired
  · intro task l held
    exact revokeTask_spends book held
  · intro node task l held worker
    exact unregisterNode_spends book held worker

/-- A task for a node that makes videos. -/
def oneTask : TaskRequest where
  taskId := ⟨0, "scene", 1, 1⟩
  taskType := "video"
  capabilitiesRequired := []
  vramMb := 0
  payload := { input := ∅, module? := none, workflowJobId := 0, params := ∅, dependencies := ∅ }

def oneLease : Engine :=
  (Call.submit oneTask).after (fun n => n) ((Call.register "node" ["video"] {} ∅).after (fun n => n) {})

theorem leases_are_used_once_of_one_task :
    (acceptResult (fun n => n) oneTask.taskId "node" 0 oneLease).1 = .ok true ∧
      UsedOnce (fun n => n) (Call.after (fun n => n) oneLease (.accept oneTask.taskId "node" 0)) := by
  refine ⟨by decide +kernel, leases_are_used_once Nat.mono_cast ?_⟩
  exact ((Relation.ReflTransGen.single ⟨_, rfl⟩).tail ⟨_, rfl⟩).tail ⟨_, rfl⟩

end Vertep.Workflow
