import Mathlib.Data.List.TakeDrop
import Mathlib.Data.List.TakeWhile
import Vertep.Rolling.Rollback

/-!
# Runs of rollouts (`core/rolling_update.py`)

The calls of an operator, the reconciliation, and what other parties write: heartbeats and other requests change
worker records in any way, and the coordinators of CORE nodes write their own records. A run is any sequence of
these.
-/

namespace Vertep.Rolling
open Lib Command

variable (clock : ℕ → Instant)

/-- A call of an operator, `reconcile`, or what another party writes. -/
inductive Op where
  | start (target : Version) (nodes : List NodeId) (order : Order) (timeout : ℤ) (canary : Bool)
  | promote
  | cancel
  | rollback
  | reconcile
  | coordinator (node : NodeId) (ack : Option FenceAck) (updates : Record → Record)
  | workers (records : Dict NodeId Record)

def Op.run : Op → RolloutM Unit
  | .start target nodes order timeout canary => startRollout clock target nodes order timeout canary
  | .promote => promoteRollout
  | .cancel => cancelRollout
  | .rollback => rollbackReadyNodes clock
  | .reconcile => reconcileRollout clock
  | .coordinator node ack updates => updateCoreCoordinator node ack updates
  | .workers records => write fun s => { s with workers := records }

def Op.after (op : Op) (s : System) : System := (op.run clock s).2

def Fresh (s : System) : Prop := s = {}

def ReachableWhen (C : System → Op → Prop) : System → Prop :=
  Reach Fresh fun s s' => ∃ op, C s op ∧ s' = op.after clock s

def Reachable : System → Prop := ReachableWhen clock fun _ _ => True

variable {clock}

/-! ## The parts of a call -/

/-- A rollback has begun. -/
structure Begins (r : Rollout) (s s' : System) (r' : Rollout) : Prop where
  rollout : s'.rollout = some r'
  operationId : r'.operationId = r.operationId
  targetVersion : r'.targetVersion = r.targetVersion
  canary : r'.canary = r.canary
  canaryPromoted : r'.canaryPromoted = r.canaryPromoted
  state : r'.state = if r'.nodes.any (·.phase = .rollingBack) then .rollingBack else .failed
  nodes : List.Forall₂ (fun n n' => TurnsBack s'.log r (s.workers.get? n.nodeId) n n' ∧ TurnsRecords r r' s s' n)
    r.nodes r'.nodes
  others : ∀ n, n ∉ r.nodes.map (·.nodeId) → s'.workers.get? n = s.workers.get? n
  finished : ∀ f ∈ s.finished, f ∈ s'.finished
  drawn : s.drawn ≤ s'.drawn
  log : ∀ e ∈ s.log, e ∈ s'.log

variable (clock) in
lemma beginRollback_ends (r : Rollout) (error : String) (nodup : (r.nodes.map (·.nodeId)).Nodup) (s : System) :
    ∃ s' r', beginRollback clock r error s = (.ok (), s') ∧ Begins r s s' r' := by
  obtain ⟨nodes', r', s', run, beside, each⟩ :=
    rollNodesBack_ends clock { r with state := .rollingBack, error := some error } r.nodes nodup s
  refine ⟨_, _, bind_of_ok run _, rfl, beside.same.operationId, beside.same.targetVersion, beside.same.canary,
    beside.same.canaryPromoted, rfl, ?_, beside.workers, beside.finished, beside.drawn, beside.log⟩
  have alike : r.Alike { r with state := .rollingBack, error := some error } := ⟨rfl, rfl⟩
  refine each.imp fun n n' ⟨turns, records⟩ => ⟨turns.congr alike, ?_⟩
  exact (records.congr alike rfl).later rfl rfl

variable (clock) in
/-- Why an active node fails: its worker is offline, it is late, or what its record says. -/
inductive Fails (s : System) (r : Rollout) (node : Node) : Prop where
  | offline : r.recordOf s node.nodeId = none → Fails s r node
  | late : node.Late r.updateTimeoutSeconds (clock s.reads) → Fails s r node
  | errored (w : Record) : r.recordOf s node.nodeId = some w → node.phase = .updating →
    w.status = some "ERROR" → Fails s r node
  | failedTest (w : Record) : r.recordOf s node.nodeId = some w → node.phase = .selfTesting →
    w.selfTest.status = some "FAILED" → Fails s r node

/-- What the step of the active node leaves of the other records. -/
structure Stepped (r : Rollout) (node : Node) (s : System) (r₁ : Rollout) (s₁ : System) : Prop where
  alike : r.Alike r₁
  canary : r₁.canary = r.canary
  canaryPromoted : r₁.canaryPromoted = r.canaryPromoted
  others : ∀ n, n ≠ node.nodeId → s₁.workers.get? n = s.workers.get? n
  core : isCoreNode node.nodeId = true → s₁.workers.get? node.nodeId = s.workers.get? node.nodeId
  version : (s₁.workers.get? node.nodeId).map (·.version) = (s.workers.get? node.nodeId).map (·.version)
  written : ∀ w', s₁.workers.get? node.nodeId = some w' → ∃ w, s.workers.get? node.nodeId = some w ∧ w.Written r w'
  finished : s₁.finished = s.finished
  drawn : s.drawn ≤ s₁.drawn
  log : ∀ e ∈ s.log, e ∈ s₁.log

variable (clock) in
/-- A step of a running rollout has gone well: its active node has moved on, or waits. -/
structure Advanced (r : Rollout) (before : List Node) (node : Node) (after : List Node) (s s' : System)
    (r' : Rollout) (node' : Node) : Prop extends Stepped r node s r' s' where
  rollout : s'.rollout = some r'
  nodes : r'.nodes = before ++ node' :: after
  state : r'.state = r.after node'
  judged : ∃ record, r.recordOf s node.nodeId = some record ∧
    Advances (clock s.reads) s'.log r node record node' none
  worker : isCoreNode node.nodeId = false → ∃ worker worker', s.workers.get? node.nodeId = some worker ∧
    s'.workers.get? node.nodeId = some worker' ∧ Directs node' worker worker'

/-- The active node has been marked, and a rollback begins. -/
structure Marked (r : Rollout) (before : List Node) (node : Node) (after : List Node) (s : System)
    (r₁ : Rollout) (s₁ : System) : Prop extends Stepped r node s r₁ s₁ where
  nodes : ∃ error, r₁.nodes = before ++ { node with phase := .failed, error := error } :: after
  kept : (∀ w, s.workers.get? node.nodeId = some w → node.phase = .updating → w.status ≠ some "ERROR") →
    s₁.workers.get? node.nodeId = s.workers.get? node.nodeId

variable {s s₁ s' s₀ : System} {log : List Issued} {r r₁ r' : Rollout} {node node' n n' n₀ : Node}

lemma Advances.fails {record : Record}
    {error : String} (judged : r.recordOf s node.nodeId = some record)
    (h : Advances (clock s.reads) log r node record node' (some error)) : Fails clock s r node ∧
      ∃ text, node' = { node with phase := .failed, error := text } := by
  cases h with
  | late _ late => exact ⟨.late late, _, rfl⟩
  | errored _ text updating errored => exact ⟨.errored record judged updating errored, _, rfl⟩
  | failedTest _ text testing failed => exact ⟨.failedTest record judged testing failed, _, rfl⟩

variable (clock) in
/-- What the step of the active node comes to. -/
def Outcome.conclude (outcome : Outcome) (before after : List Node) : RolloutM Unit :=
  let r := { outcome.rollout with nodes := before ++ outcome.node :: after }
  match outcome.failure with
  | some error => beginRollback clock r error
  | none => save { r with state := r.after outcome.node }

variable (clock) in
lemma conclude_ends {before after : List Node} {failure : Option String}
    (nodup : ((before ++ node :: after).map (·.nodeId)).Nodup) (stepped : Stepped r node s r₁ s₁)
    (state : r₁.state = r.state)
    (well : failure = none → (∃ record, r.recordOf s node.nodeId = some record ∧
        Advances (clock s.reads) s₁.log r node record node' none) ∧
      (isCoreNode node.nodeId = false → ∃ worker worker', s.workers.get? node.nodeId = some worker ∧
        s₁.workers.get? node.nodeId = some worker' ∧ Directs node' worker worker'))
    (badly : ∀ error, failure = some error →
      (Fails clock s r node ∧ ∃ text, node' = { node with phase := .failed, error := text }) ∧
      ((∀ w, s.workers.get? node.nodeId = some w → node.phase = .updating → w.status ≠ some "ERROR") →
        s₁.workers.get? node.nodeId = s.workers.get? node.nodeId)) :
    ∃ s' r', Outcome.conclude clock ⟨node', r₁, failure⟩ before after s₁ = (.ok (), s') ∧
      ((∃ node', Advanced clock r before node after s s' r' node') ∨
        (Fails clock s r node ∧ ∃ r₁ s₁, Marked r before node after s r₁ s₁ ∧ Begins r₁ s₁ s' r')) := by
  obtain ⟨alike, canary, promoted, others, core, version, written, finished, drawn, log⟩ := stepped
  cases failure with
  | none =>
    obtain ⟨judged, worker⟩ := well rfl
    set r' : Rollout := { r₁ with nodes := before ++ node' :: after }
    refine ⟨{ s₁ with rollout := some { r' with state := r'.after node' } }, { r' with state := r'.after node' }, rfl,
      .inl ⟨node', ⟨⟨alike.operationId, alike.targetVersion⟩, canary, promoted, others, core, version, written,
        finished, drawn, log⟩, rfl, rfl, ?_, judged, worker⟩⟩
    simp only [Rollout.after, r', promoted, state]
  | some error =>
    obtain ⟨⟨fails, text, is⟩, kept⟩ := badly error rfl
    subst is
    set r' : Rollout := { r₁ with nodes := before ++ { node with phase := .failed, error := text } :: after }
    have ids : (r'.nodes.map (·.nodeId)).Nodup := by simpa [r'] using nodup
    obtain ⟨s', r'', begun, begins⟩ := beginRollback_ends clock r' error ids s₁
    exact ⟨s', r'', begun, .inr ⟨fails, r', s₁, ⟨⟨⟨alike.operationId, alike.targetVersion⟩, canary, promoted, others,
      core, version, written, finished, drawn, log⟩, ⟨text, rfl⟩, kept⟩, begins⟩⟩

lemma Beside.stepped (h : Beside node.nodeId s s₁)
    (same : r.Same r₁) (core : isCoreNode node.nodeId = true → s₁.workers.get? node.nodeId = s.workers.get? node.nodeId)
    (version : (s₁.workers.get? node.nodeId).map (·.version) = (s.workers.get? node.nodeId).map (·.version))
    (written : ∀ w', s₁.workers.get? node.nodeId = some w' →
      ∃ w, s.workers.get? node.nodeId = some w ∧ w.Written r w') : Stepped r node s r₁ s₁ where
  alike := same.toAlike
  canary := same.canary
  canaryPromoted := same.canaryPromoted
  others := h.others
  core := core
  version := version
  written := written
  finished := h.finished
  drawn := h.drawn
  log e member := by
    obtain ⟨new, eq⟩ := h.log
    rw [eq]
    exact List.mem_append_right _ member

variable (clock) in
lemma reconcileActive_ends (r : Rollout) (before : List Node) (node : Node) (after : List Node)
    (active : node.phase.Active) (nodup : ((before ++ node :: after).map (·.nodeId)).Nodup) (s : System) :
    ∃ s' r', reconcileActive clock r before node after s = (.ok (), s') ∧
      ((∃ node', Advanced clock r before node after s s' r' node') ∨
        (Fails clock s r node ∧ ∃ r₁ s₁, Marked r before node after s r₁ s₁ ∧ Begins r₁ s₁ s' r')) := by
  have runs : reconcileActive clock r before node after s =
      ((if isCoreNode node.nodeId then reconcileCoreActive clock r node else reconcileWorkerActive clock r node) >>=
        fun outcome => outcome.conclude clock before after) s := by
    rw [ite_bind]
    rfl
  rw [runs]
  cases core : isCoreNode node.nodeId with
  | true =>
    obtain ⟨⟨node', r₁, failure⟩, s₁, run, aside, coordinated, advances⟩ := reconcileCoreActive_ends clock r node s
    have judged : r.recordOf s node.nodeId = some (r.coordinator node.nodeId) := if_pos core
    have workers : ∀ n, s₁.workers.get? n = s.workers.get? n := fun n => by rw [aside.workers]
    have stepped := (aside.beside node.nodeId).stepped coordinated.toSame (fun _ => workers _)
      (congrArg _ (workers _)) fun w found => ⟨w, (workers _).symm.trans found, .refl r w⟩
    rw [if_pos rfl, bind_of_ok run]
    refine conclude_ends clock nodup stepped coordinated.state ?_ ?_
    · rintro rfl
      exact ⟨⟨_, judged, advances⟩, fun not_core => absurd (core.symm.trans not_core) (by decide)⟩
    · rintro error rfl
      exact ⟨advances.fails judged, fun _ => workers _⟩
  | false =>
    obtain ⟨⟨node', r₁, failure⟩, s₁, run, beside, same, advances⟩ := reconcileWorkerActive_ends clock r node active s
    have judged : r.recordOf s node.nodeId = s.workers.get? node.nodeId := if_neg (Bool.eq_false_iff.1 core)
    have same : r₁ = r := same
    subst same
    rw [if_neg Bool.false_ne_true, bind_of_ok run]
    rcases advances with ⟨none, none', fails, is⟩ | ⟨worker, worker', found, found', version, written, advances, directs, kept⟩
    · have stepped := beside.stepped (.refl r₁) (fun is => absurd (is.symm.trans core) (by decide)) (by rw [none, none'])
        fun _ is => absurd (none'.symm.trans is) (by rintro ⟨⟩)
      refine conclude_ends clock nodup stepped rfl (fun well => ?_) fun error _ => ?_
      · rw [well] at fails
        cases fails
      · exact ⟨⟨.offline (judged.trans none), _, is⟩, fun _ => none'.trans none.symm⟩
    · have stepped := beside.stepped (.refl r₁) (fun is => absurd (is.symm.trans core) (by decide))
        (by rw [found, found', Option.map_some, Option.map_some, version])
        fun w is => ⟨worker, found, by cases found'.symm.trans is; exact written⟩
      refine conclude_ends clock nodup stepped rfl ?_ ?_
      · rintro rfl
        exact ⟨⟨worker, judged.trans found, advances⟩, fun _ => ⟨worker, worker', found, found', directs rfl⟩⟩
      · rintro error rfl
        refine ⟨advances.fails (judged.trans found), fun sound => ?_⟩
        rw [found', found, kept rfl (sound worker found)]

variable (clock) in
/-- The node a running rollout works on: the active one, or the first that is pending, which begins to drain. -/
inductive Takes (r : Rollout) (s : System) (before : List Node) (node : Node) (after : List Node) :
    Node → System → Prop where
  | active : (∀ n ∈ before, ¬ n.phase.Active) → node.phase.Active → Takes r s before node after node s
  | pending : (∀ n ∈ r.nodes, ¬ n.phase.Active) → (∀ n ∈ before, n.phase ≠ .pending) → node.phase = .pending →
    Takes r s before node after { node with phase := .draining, phaseStartedAt := clock s.reads }
      { s with reads := s.reads + 1 }

lemma span_cons {α : Type} {p : α → Bool} {l before after : List α} {a : α}
    (h : l.span p = (before, a :: after)) : l = before ++ a :: after ∧ (∀ b ∈ before, p b = true) ∧ p a = false := by
  rw [List.span_eq_takeWhile_dropWhile, Prod.mk.injEq] at h
  obtain ⟨rfl, rest⟩ := h
  refine ⟨?_, fun b => List.mem_takeWhile_imp, ?_⟩
  · rw [← rest, List.takeWhile_append_dropWhile]
  · have := List.head_dropWhile_not p (l := l) (by rw [rest]; exact List.cons_ne_nil _ _)
    simpa only [rest, List.head_cons] using this

lemma span_nil {α : Type} {p : α → Bool} {l before : List α} (h : l.span p = (before, [])) :
    ∀ b ∈ l, p b = true := by
  rw [List.span_eq_takeWhile_dropWhile, Prod.mk.injEq] at h
  exact List.dropWhile_eq_nil_iff.1 h.2

variable (clock) in
lemma reconcileRunning_ends (r : Rollout) (nodup : (r.nodes.map (·.nodeId)).Nodup) (s : System) :
    (∃ before node after node₀ s₀ s' r', r.nodes = before ++ node :: after ∧
      Takes clock r s before node after node₀ s₀ ∧ reconcileRunning clock r s = (.ok (), s') ∧
      ((∃ node', Advanced clock r before node₀ after s₀ s' r' node') ∨
        (Fails clock s₀ r node₀ ∧ ∃ r₁ s₁, Marked r before node₀ after s₀ r₁ s₁ ∧ Begins r₁ s₁ s' r'))) ∨
    ((∀ n ∈ r.nodes, ¬ n.phase.Active ∧ n.phase ≠ .pending) ∧
      reconcileRunning clock r s = (.ok (), { s with rollout := some { r with state := .succeeded } })) := by
  rw [reconcileRunning]
  rcases first : r.nodes.span (¬ ·.phase.Active) with ⟨before, _ | ⟨node, after⟩⟩
  · rw [first]
    have inactive := span_nil first
    dsimp only
    rcases second : r.nodes.span (·.phase ≠ .pending) with ⟨before', _ | ⟨node, after⟩⟩
    · rw [second]
      have past := span_nil second
      refine .inr ⟨fun n member => ⟨?_, ?_⟩, rfl⟩
      · simpa using inactive n member
      · simpa using past n member
    · rw [second]
      obtain ⟨is, past, pending⟩ := span_cons second
      set node₀ : Node := { node with phase := .draining, phaseStartedAt := clock s.reads }
      have ids : ((before' ++ node₀ :: after).map (·.nodeId)).Nodup := by
        rw [is] at nodup
        simpa [node₀] using nodup
      obtain ⟨s', r', run, how⟩ :=
        reconcileActive_ends clock r before' node₀ after (.inl rfl) ids { s with reads := s.reads + 1 }
      refine .inl ⟨before', node, after, node₀, _, s', r', is, .pending (fun n member => ?_) (fun n member => ?_) ?_,
        run, how⟩
      · simpa using inactive n member
      · simpa using past n member
      · simpa using pending
  · rw [first]
    obtain ⟨is, inactive, active⟩ := span_cons first
    have active : node.phase.Active := by simpa using active
    obtain ⟨s', r', run, how⟩ := reconcileActive_ends clock r before node after active (is ▸ nodup) s
    refine .inl ⟨before, node, after, node, s, s', r', is, .active (fun n member => ?_) active, run, how⟩
    simpa using inactive n member

variable (clock) in
/-- A round of a rollback; `failed` when the rollback of a node did. -/
structure Rounds (r : Rollout) (s s' : System) (r' : Rollout) (failed : Bool) : Prop where
  rollout : s'.rollout = some r'
  alike : r.Alike r'
  canary : r'.canary = r.canary
  canaryPromoted : r'.canaryPromoted = r.canaryPromoted
  state : r'.state = if failed then .rollbackFailed
    else if r'.nodes.all (·.phase ≠ .rollingBack) then .rolledBack else .rollingBack
  nodes : List.Forall₂ (Rolled clock failed r.nodes r s s') r.nodes r'.nodes
  failing : failed = true → ∃ node ∈ r'.nodes, node.phase = .rollbackFailed
  others : ∀ n, n ∉ r.nodes.map (·.nodeId) → s'.workers.get? n = s.workers.get? n
  finished : ∀ f ∈ s.finished, f ∈ s'.finished
  drawn : s.drawn ≤ s'.drawn
  log : ∀ e ∈ s.log, e ∈ s'.log

variable (clock) in
lemma reconcileRollback_ends (r : Rollout) (nodup : (r.nodes.map (·.nodeId)).Nodup) (s : System) :
    ∃ s' r' failed, reconcileRollback clock r s = (.ok (), s') ∧ Rounds clock r s s' r' failed := by
  obtain ⟨nodes', r', failed, s', run, beside, each, failing⟩ := rollNodesOn_ends clock r r.nodes nodup s
  set r'' : Rollout := { r' with
    nodes := nodes'
    state := if failed then .rollbackFailed
      else if nodes'.all (·.phase ≠ .rollingBack) then .rolledBack
      else .rollingBack }
  refine ⟨{ s' with rollout := some r'' }, r'', failed, bind_of_ok run _, rfl, ?_, beside.same.canary,
    beside.same.canaryPromoted, rfl, ?_, failing, beside.workers, beside.finished, beside.drawn, beside.log⟩
  · exact ⟨beside.same.operationId, beside.same.targetVersion⟩
  · refine each.imp fun n n' => Or.imp_right fun ⟨back, rolls, records, why⟩ => ⟨back, ?_, ?_, why⟩
    · exact rolls.later (fun _ h => h) le_rfl
    · exact records.later rfl fun _ h => h

/-- The records of cancelled nodes have been cleaned up. -/
structure Cleaned (r : Rollout) (nodes : List Node) (s s' : System) : Prop where
  rest : s' = { s with workers := s'.workers }
  cancelled : ∀ n ∈ nodes, n.phase = .cancelled →
    s'.workers.get? n.nodeId = (s.workers.get? n.nodeId).map r.cleanUp
  others : ∀ id, (∀ n ∈ nodes, n.phase = .cancelled → n.nodeId ≠ id) → s'.workers.get? id = s.workers.get? id

lemma System.rest_withWorker (s : System) (node : NodeId) (f : Record → Record) :
    s.withWorker node f = { s with workers := (s.withWorker node f).workers } := by
  unfold System.withWorker
  split <;> rfl

lemma cleanUpNodes_ends (r : Rollout) (nodes : List Node) (nodup : (nodes.map (·.nodeId)).Nodup) (s : System) :
    ∃ s', forEach (fun node => when (node.phase = .cancelled) (modifyWorker node.nodeId r.cleanUp)) nodes s =
      (.ok (), s') ∧ Cleaned r nodes s s' := by
  induction nodes generalizing s with
  | nil => exact ⟨s, rfl, rfl, List.forall_mem_nil _, fun _ _ => rfl⟩
  | cons node nodes ih =>
    rw [List.map_cons, List.nodup_cons] at nodup
    have apart : ∀ n ∈ nodes, n.nodeId ≠ node.nodeId := fun n member is =>
      nodup.1 (is ▸ List.mem_map_of_mem member)
    by_cases cancelled : node.phase = .cancelled
    · obtain ⟨s', run, rest, each, others⟩ := ih nodup.2 (s.withWorker node.nodeId r.cleanUp)
      refine ⟨s', ?_, ?_, fun n member is => ?_, fun id free => ?_⟩
      · simp only [forEach, Command.when, if_pos cancelled]
        exact run
      · rw [rest, System.rest_withWorker]
      · rcases List.mem_cons.1 member with rfl | member
        · rw [others _ fun n member _ => apart n member, System.get?_withWorker, if_pos rfl]
        · rw [each n member is, System.get?_withWorker, if_neg (apart n member).symm]
      · rw [others id fun n member => free n (List.mem_cons_of_mem _ member), System.get?_withWorker,
          if_neg (free node List.mem_cons_self cancelled)]
    · obtain ⟨s', run, rest, each, others⟩ := ih nodup.2 s
      refine ⟨s', ?_, rest, List.forall_mem_cons.2 ⟨fun is => absurd is cancelled, each⟩, fun id free => ?_⟩
      · simp only [forEach, Command.when, if_neg cancelled]
        exact run
      · exact others id fun n member => free n (List.mem_cons_of_mem _ member)

/-! ## Steps -/

lemma Rollout.after_cases (r : Rollout) (node : Node) :
    (r.after node = .awaitingPromotion ∧ r.canaryPromoted = false) ∨ (r.after node = r.state ∧
      (node.phase = .ready → node.canary = true → r.canaryPromoted = true)) := by
  unfold Rollout.after
  split_ifs with waits
  · exact .inl ⟨rfl, by simpa using waits.2.2⟩
  · refine .inr ⟨rfl, fun ready canary => ?_⟩
    by_contra promoted
    exact waits ⟨ready, canary, by simpa using promoted⟩

/-- Where a call of these three kinds has nothing to do. -/
structure Idle (s : System) (op : Op) : Prop where
  rollback : op = .rollback → ∀ r, s.rollout = some r → ¬ r.state.Live
  cancel : op = .cancel → ∀ r, s.rollout = some r → ¬ r.state.Live
  reconcile : op = .reconcile → ∀ r, s.rollout = some r →
    r.state ≠ .running ∧ r.state ≠ .rollingBack ∧ r.state ≠ .cancelled

variable (clock) in
/-- What a step of a run may do. -/
inductive Change (s : System) : Op → System → Prop where
  | nothing (op : Op) : Idle s op → Change s op s
  | workers (records : Dict NodeId Record) : Change s (.workers records) { s with workers := records }
  | coordinated (id : NodeId) (ack : Option FenceAck) (updates : Record → Record) (r : Rollout)
    (record : Record) : s.rollout = some r →
    Change s (.coordinator id ack updates) { s with rollout := some (r.withCoordinator id fun _ => record) }
  | started (target : Version) (nodes : List NodeId) (order : Order) (timeout : ℤ) (canary : Bool) :
    (∀ r, s.rollout = some r → ¬ r.state.Live) → orderedNodes nodes order ≠ [] →
    Change s (.start target nodes order timeout canary)
      { s with
        rollout := some
          { operationId := s.drawn, targetVersion := target, updateTimeoutSeconds := timeout, canary := canary
            canaryPromoted := !canary
            nodes := newNodes (orderedNodes nodes order) canary (clock s.reads) }
        reads := s.reads + 1
        drawn := s.drawn + 1 }
  | promoted (r : Rollout) : s.rollout = some r → r.state = .awaitingPromotion →
    Change s .promote { s with rollout := some { r with state := .running, canaryPromoted := true } }
  | cancelled (r : Rollout) : s.rollout = some r → r.state.Live →
    Change s .cancel { s with rollout := some (r.cancel s.drawn), drawn := s.drawn + 1 }
  | turned (r r' : Rollout) (s' : System) : s.rollout = some r → r.state.Live → Begins r s s' r' →
    Change s .rollback s'
  | cleaned (r : Rollout) (s' : System) : s.rollout = some r → r.state = .cancelled → Cleaned r r.nodes s s' →
    Change s .reconcile s'
  | advanced (r r' : Rollout) (before after : List Node) (node node₀ node' : Node) (s₀ s' : System) :
    s.rollout = some r → r.state = .running → r.nodes = before ++ node :: after →
    Takes clock r s before node after node₀ s₀ → Advanced clock r before node₀ after s₀ s' r' node' →
    Change s .reconcile s'
  | failed (r r₁ r' : Rollout) (before after : List Node) (node node₀ : Node) (s₀ s₁ s' : System) :
    s.rollout = some r → r.state = .running → r.nodes = before ++ node :: after →
    Takes clock r s before node after node₀ s₀ → Fails clock s₀ r node₀ →
    Marked r before node₀ after s₀ r₁ s₁ → Begins r₁ s₁ s' r' → Change s .reconcile s'
  | succeeded (r : Rollout) : s.rollout = some r → r.state = .running →
    (∀ n ∈ r.nodes, ¬ n.phase.Active ∧ n.phase ≠ .pending) →
    Change s .reconcile { s with rollout := some { r with state := .succeeded } }
  | round (r r' : Rollout) (failed : Bool) (s' : System) : s.rollout = some r → r.state = .rollingBack →
    Rounds clock r s s' r' failed → Change s .reconcile s'

def System.Distinct (s : System) : Prop := ∀ r, s.rollout = some r → (r.nodes.map (·.nodeId)).Nodup

lemma reconcileRollout_change (distinct : s.Distinct) :
    Change clock s .reconcile (reconcileRollout clock s).2 := by
  rw [reconcileRollout, read_bind]
  cases found : s.rollout with
  | none => exact .nothing _ ⟨nofun, nofun, fun _ r is => nomatch found.symm.trans is⟩
  | some r =>
    have nodup := distinct r found
    by_cases cancelled : r.state = .cancelled
    · obtain ⟨s', run, cleaned⟩ := cleanUpNodes_ends r r.nodes nodup s
      have cleans : cleanupCancelledWorkers r s = (.ok (), s') := by
        rw [cleanupCancelledWorkers, Command.when, if_pos cancelled, run]
      dsimp only
      rw [bind_of_ok cleans, cancelled]
      exact .cleaned r s' found cancelled cleaned
    · have cleans : cleanupCancelledWorkers r s = (.ok (), s) := by
        rw [cleanupCancelledWorkers, Command.when, if_neg cancelled]
        rfl
      dsimp only
      rw [bind_of_ok cleans]
      cases state : r.state with
      | rollingBack =>
        obtain ⟨s', r', failed, run, rounds⟩ := reconcileRollback_ends clock r nodup s
        show Change clock s _ (reconcileRollback clock r s).2
        rw [run]
        exact .round r r' failed s' found state rounds
      | running =>
        show Change clock s _ (reconcileRunning clock r s).2
        rcases reconcileRunning_ends clock r nodup s with
          ⟨before, node, after, node₀, s₀, s', r', nodes, takes, run, how⟩ | ⟨done, run⟩
        · rw [run]
          rcases how with ⟨node', advanced⟩ | ⟨fails, r₁, s₁, marked, begins⟩
          · exact .advanced r r' before after node node₀ node' s₀ s' found state nodes takes advanced
          · exact .failed r r₁ r' before after node node₀ s₀ s₁ s' found state nodes takes fails marked begins
        · rw [run]
          exact .succeeded r found state done
      | cancelled => exact absurd state cancelled
      | _ =>
        refine .nothing _ ⟨nofun, nofun, fun _ r' is => ?_⟩
        cases found.symm.trans is
        rw [state]
        exact ⟨nofun, nofun, nofun⟩

lemma startRollout_change (target : Version) (nodes : List NodeId) (order : Order) (timeout : ℤ) (canary : Bool)
    (s : System) : Change clock s (.start target nodes order timeout canary)
      (startRollout clock target nodes order timeout canary s).2 := by
  unfold startRollout
  have idle : Idle s (.start target nodes order timeout canary) := ⟨nofun, nofun, nofun⟩
  split_ifs with bad late empty
  · exact .nothing _ idle
  · exact .nothing _ idle
  · exact .nothing _ idle
  · rw [read_bind]
    split_ifs with live
    · exact .nothing _ idle
    · refine .started target nodes order timeout canary (fun r found is => live ?_) empty
      rw [found, Option.map_some, decide_eq_true is]

lemma Op.change (op : Op) (distinct : s.Distinct) : Change clock s op (op.after clock s) := by
  cases op with
  | start target nodes order timeout canary => exact startRollout_change target nodes order timeout canary s
  | promote =>
    show Change clock s .promote (promoteRollout s).2
    have idle : Idle s .promote := ⟨nofun, nofun, nofun⟩
    rw [promoteRollout, read_bind]
    cases found : s.rollout with
    | none => exact .nothing _ idle
    | some r =>
      dsimp only
      split_ifs with state
      · exact .nothing _ idle
      · exact .promoted r found (not_not.1 state)
  | cancel =>
    show Change clock s .cancel (cancelRollout s).2
    rw [cancelRollout, read_bind]
    cases found : s.rollout with
    | none => exact .nothing _ ⟨nofun, fun _ r is => (nomatch found.symm.trans is), nofun⟩
    | some r =>
      dsimp only
      unfold Command.when
      split_ifs with live
      · exact .cancelled r found live
      · exact .nothing _ ⟨nofun, fun _ r' is => by cases found.symm.trans is; exact live, nofun⟩
  | rollback =>
    show Change clock s .rollback (rollbackReadyNodes clock s).2
    rw [rollbackReadyNodes, read_bind]
    cases found : s.rollout with
    | none => exact .nothing _ ⟨fun _ r is => (nomatch found.symm.trans is), nofun, nofun⟩
    | some r =>
      dsimp only
      unfold Command.when
      split_ifs with live
      · obtain ⟨s', r', run, begins⟩ :=
          beginRollback_ends clock r "Rollback requested by operator" (distinct r found) s
        rw [run]
        exact .turned r r' s' found live begins
      · exact .nothing _ ⟨fun _ r' is => by cases found.symm.trans is; exact live, nofun, nofun⟩
  | reconcile => exact reconcileRollout_change distinct
  | coordinator id ack updates =>
    show Change clock s _ (updateCoreCoordinator id ack updates s).2
    have idle : Idle s (.coordinator id ack updates) := ⟨nofun, nofun, nofun⟩
    unfold updateCoreCoordinator
    split_ifs
    · exact .nothing _ idle
    · rw [read_bind]
      cases found : s.rollout with
      | none => exact .nothing _ idle
      | some r =>
        dsimp only
        split
        · exact .nothing _ idle
        · split
          · exact .nothing _ idle
          · exact .coordinated id ack updates r _ found
  | workers records => exact .workers records

/-! ## Nodes keep their places -/

lemma nodup_orderedNodes (nodes : List NodeId) (order : Order) : (orderedNodes nodes order).Nodup := by
  have sorted : (nodes.dedup.mergeSort (· ≤ ·)).Nodup :=
    (List.mergeSort_perm _ _).nodup_iff.2 (List.nodup_dedup nodes)
  have split : ∀ {l : List NodeId}, l.Nodup → (l.filter (isCoreNode ·) ++ l.filter (!isCoreNode ·)).Nodup := by
    intro l nodup
    refine (nodup.filter _).append (nodup.filter _) fun n core worker => ?_
    have is := (List.mem_filter.1 core).2
    have is_not := (List.mem_filter.1 worker).2
    simp [is] at is_not
  cases order with
  | custom => exact List.nodup_reverse.2 (List.nodup_dedup _)
  | coreFirst => exact split sorted
  | workersFirst => exact (List.perm_append_comm.nodup_iff).1 (split sorted)

@[simp] lemma newNodes_ids (ids : List NodeId) (canary : Bool) (t : Instant) :
    (newNodes ids canary t).map (·.nodeId) = ids := by
  rw [newNodes, List.mapIdx_eq_zipIdx_map, List.map_map]
  exact List.zipIdx_map_fst 0 ids

lemma mem_newNodes {ids : List NodeId} {canary : Bool} {t : Instant} (h : n ∈ newNodes ids canary t) :
    n.phase = .pending ∧ n.selfTestRequest = none ∧ n.previousVersion = none := by
  rw [newNodes, List.mem_mapIdx] at h
  obtain ⟨i, here, rfl⟩ := h
  exact ⟨rfl, rfl, rfl⟩

lemma forall₂_comp {α β γ : Type} {R : α → β → Prop} {S : β → γ → Prop} {T : α → γ → Prop}
    (compose : ∀ a b c, R a b → S b c → T a c) {as : List α} {bs : List β} {cs : List γ}
    (h : List.Forall₂ R as bs) (h' : List.Forall₂ S bs cs) : List.Forall₂ T as cs := by
  induction h generalizing cs with
  | nil =>
    cases h'
    exact .nil
  | cons first _ ih =>
    cases h' with
    | cons second rest => exact .cons (compose _ _ _ first second) (ih rest)

lemma forall_of_forall₂ {P Q : Node → Prop} {R : Node → Node → Prop} {nodes nodes' : List Node}
    (h : List.Forall₂ R nodes nodes') (before : ∀ n ∈ nodes, P n) (step : ∀ n n', R n n' → P n → Q n') :
    ∀ n ∈ nodes', Q n := by
  induction h with
  | nil => exact List.forall_mem_nil _
  | cons first _ ih =>
    obtain ⟨before, rest⟩ := List.forall_mem_cons.1 before
    exact List.forall_mem_cons.2 ⟨step _ _ first before, ih rest⟩

lemma forall_middle {P : Node → Prop} {before after : List Node}
    (h : ∀ m ∈ before ++ n :: after, P m) (step : P n → P n') : ∀ m ∈ before ++ n' :: after, P m := by
  intro m member
  rw [List.mem_append, List.mem_cons] at member
  rcases member with earlier | rfl | later
  · exact h m (List.mem_append_left _ earlier)
  · exact step (h n (List.mem_append_right _ List.mem_cons_self))
  · exact h m (List.mem_append_right _ (List.mem_cons_of_mem _ later))

lemma others_apart {before after : List Node}
    (nodup : ((before ++ node :: after).map (·.nodeId)).Nodup) (n : Node) (member : n ∈ before ∨ n ∈ after) :
    n.nodeId ≠ node.nodeId := by
  rw [List.map_append, List.map_cons] at nodup
  obtain ⟨_, later, across⟩ := List.nodup_append.1 nodup
  intro same
  rcases member with earlier | after'
  · exact across _ (List.mem_map_of_mem earlier) _ List.mem_cons_self same
  · exact (List.nodup_cons.1 later).1 (same ▸ List.mem_map_of_mem after')

lemma Rollout.cancel_nodes (r : Rollout) (token : ℕ) :
    List.Forall₂ (fun n n' => n' = n ∨ (¬ n.phase.Settled ∧ n' = { n with phase := .cancelled })) r.nodes
      (r.cancel token).nodes := by
  refine List.forall₂_map_right_iff.2 (List.forall₂_same.2 fun n _ => ?_)
  split
  · exact .inl rfl
  · rename_i open_
    exact .inr ⟨open_, rfl⟩

/-- What no step changes of a node. -/
structure Node.Persists (n n' : Node) : Prop where
  nodeId : n'.nodeId = n.nodeId
  canary : n'.canary = n.canary

lemma TurnsBack.persists {worker : Option Record}
    (h : TurnsBack log r worker n n') : n.Persists n' := by
  cases h <;> exact ⟨rfl, rfl⟩

lemma RollsOn.persists {record : Option Record}
    (h : RollsOn clock s s' r record n n') : n.Persists n' := by
  cases h <;> exact ⟨rfl, rfl⟩

lemma Rolled.persists {failed : Bool} {nodes : List Node} (h : Rolled clock failed nodes r s s' n n') : n.Persists n' := by
  rcases h with ⟨rfl, _⟩ | ⟨_, rolls, _⟩
  · exact ⟨rfl, rfl⟩
  · exact rolls.persists

lemma Advances.persists {t : Instant} {record : Record}
    {failure : Option String} (h : Advances t log r n record n' failure) : n.Persists n' := by
  cases h <;> exact ⟨rfl, rfl⟩

lemma Takes.persists {before after : List Node}
    (h : Takes clock r s before n after n₀ s₀) : n.Persists n₀ := by
  cases h <;> exact ⟨rfl, rfl⟩

lemma ids_of_persists {nodes nodes' : List Node} (h : List.Forall₂ Node.Persists nodes nodes') :
    nodes'.map (·.nodeId) = nodes.map (·.nodeId) := by
  induction h with
  | nil => rfl
  | cons persists _ ih => rw [List.map_cons, List.map_cons, persists.nodeId, ih]

lemma Begins.persists (h : Begins r s s' r') :
    List.Forall₂ Node.Persists r.nodes r'.nodes := h.nodes.imp fun _ _ turns => turns.1.persists

lemma persists_middle {before after : List Node} (h : n.Persists n') :
    List.Forall₂ Node.Persists (before ++ n :: after) (before ++ n' :: after) := by
  have same : ∀ l : List Node, List.Forall₂ Node.Persists l l := fun l => List.forall₂_same.2 fun _ _ => ⟨rfl, rfl⟩
  exact List.rel_append (same before) (.cons h (same after))

lemma Change.persists {op : Op} (h : Change clock s op s') (found' : s'.rollout = some r') :
    (∃ r, s.rollout = some r ∧ r.Alike r' ∧ r'.canary = r.canary ∧ List.Forall₂ Node.Persists r.nodes r'.nodes) ∨
    ∃ target nodes order timeout canary, op = .start target nodes order timeout canary ∧ r'.operationId = s.drawn ∧
      (∀ r, s.rollout = some r → ¬ r.state.Live) ∧ r'.state = .running ∧ r'.canary = canary ∧
      r'.canaryPromoted = !canary ∧ orderedNodes nodes order ≠ [] ∧
      r'.nodes = newNodes (orderedNodes nodes order) canary (clock s.reads) ∧ s'.drawn = s.drawn + 1 ∧
      s'.workers = s.workers ∧ s'.log = s.log ∧ s'.finished = s.finished := by
  have same : ∀ l : List Node, List.Forall₂ Node.Persists l l := fun l => List.forall₂_same.2 fun _ _ => ⟨rfl, rfl⟩
  have kept : ∀ {r}, s.rollout = some r → r.Same r' → ∃ r, s.rollout = some r ∧ r.Alike r' ∧ r'.canary = r.canary ∧
      List.Forall₂ Node.Persists r.nodes r'.nodes := fun {r} found is =>
    ⟨r, found, is.toAlike, is.canary, is.nodes ▸ same r.nodes⟩
  cases h with
  | nothing | workers => exact .inl (kept found' (.refl r'))
  | coordinated id ack updates r record found =>
    cases found'
    exact .inl (kept found ((Rollout.Coordinated.refl id r).write _).toSame)
  | started target nodes order timeout canary idle some_node =>
    cases found'
    exact .inr ⟨target, nodes, order, timeout, canary, rfl, rfl, idle, rfl, rfl, rfl, some_node, rfl, rfl, rfl, rfl, rfl⟩
  | promoted r found =>
    cases found'
    exact .inl ⟨r, found, ⟨rfl, rfl⟩, rfl, same r.nodes⟩
  | cancelled r found =>
    cases found'
    refine .inl ⟨r, found, ⟨rfl, rfl⟩, rfl, (r.cancel_nodes s.drawn).imp fun n n' how => ?_⟩
    rcases how with rfl | ⟨_, rfl⟩ <;> exact ⟨rfl, rfl⟩
  | turned r r₁ _ found _ begins =>
    cases found'.symm.trans begins.rollout
    exact .inl ⟨r, found, ⟨begins.operationId, begins.targetVersion⟩, begins.canary, begins.persists⟩
  | cleaned r _ found _ cleaned =>
    rw [cleaned.rest] at found'
    exact .inl (kept found' (.refl r'))
  | advanced r r₁ before after node node₀ node' s₀ _ found _ nodes takes advanced =>
    cases found'.symm.trans advanced.rollout
    refine .inl ⟨r, found, advanced.alike, advanced.canary, ?_⟩
    obtain ⟨record, _, advances⟩ := advanced.judged
    rw [nodes, advanced.nodes]
    exact persists_middle ⟨advances.persists.nodeId.trans takes.persists.nodeId,
      advances.persists.canary.trans takes.persists.canary⟩
  | failed r r₁ r₂ before after node node₀ s₀ s₁ _ found _ nodes takes _ marked begins =>
    cases found'.symm.trans begins.rollout
    refine .inl ⟨r, found, ⟨?_, ?_⟩, begins.canary.trans marked.canary, ?_⟩
    · exact begins.operationId.trans marked.alike.operationId
    · exact begins.targetVersion.trans marked.alike.targetVersion
    · obtain ⟨error, is⟩ := marked.nodes
      have first : List.Forall₂ Node.Persists r.nodes r₁.nodes := by
        rw [nodes, is]
        exact persists_middle ⟨takes.persists.nodeId, takes.persists.canary⟩
      exact forall₂_comp (fun _ _ _ h h' => ⟨h'.nodeId.trans h.nodeId, h'.canary.trans h.canary⟩) first begins.persists
  | succeeded r found =>
    cases found'
    exact .inl ⟨r, found, ⟨rfl, rfl⟩, rfl, same r.nodes⟩
  | round r r₁ failed _ found _ rounds =>
    cases found'.symm.trans rounds.rollout
    exact .inl ⟨r, found, rounds.alike, rounds.canary, rounds.nodes.imp fun _ _ rolled => rolled.persists⟩

lemma Takes.begun {before after : List Node}
    (h : Takes clock r s before n after n₀ s₀) : s₀.workers = s.workers ∧ s₀.log = s.log ∧
      s₀.finished = s.finished ∧ s₀.drawn = s.drawn := by
  cases h <;> exact ⟨rfl, rfl, rfl, rfl⟩

lemma Change.grows {op : Op} (h : Change clock s op s') :
    (∀ e ∈ s.log, e ∈ s'.log) ∧ s.drawn ≤ s'.drawn := by
  cases h with
  | started | cancelled => exact ⟨fun _ h => h, Nat.le_succ _⟩
  | turned _ _ _ _ _ begins => exact ⟨begins.log, begins.drawn⟩
  | cleaned r _ _ _ cleaned =>
    rw [cleaned.rest]
    exact ⟨fun _ h => h, le_rfl⟩
  | advanced _ _ _ _ _ _ _ _ _ _ _ _ takes advanced =>
    exact ⟨fun e member => advanced.log e (takes.begun.2.1 ▸ member), takes.begun.2.2.2 ▸ advanced.drawn⟩
  | failed _ _ _ _ _ _ _ _ _ _ _ _ _ takes _ marked begins =>
    refine ⟨fun e member => begins.log e (marked.log e (takes.begun.2.1 ▸ member)), ?_⟩
    exact (takes.begun.2.2.2 ▸ marked.drawn).trans begins.drawn
  | round _ _ _ _ _ _ rounds => exact ⟨rounds.log, rounds.drawn⟩
  | _ => exact ⟨fun _ h => h, le_rfl⟩

lemma Change.distinct {op : Op} (h : Change clock s op s') (before : s.Distinct) : s'.Distinct := by
  intro r' found'
  rcases h.persists found' with ⟨r, found, _, _, persists⟩ | ⟨_, nodes, order, _, _, _, _, _, _, _, _, _, is, _⟩
  · rw [ids_of_persists persists]
    exact before r found
  · rw [is, newNodes_ids]
    exact nodup_orderedNodes nodes order

variable {C : System → Op → Prop}

lemma System.distinct_of_idle : ({} : System).Distinct := fun _ found => nomatch found

lemma ReachableWhen.distinct (h : ReachableWhen clock C s) : s.Distinct := by
  refine Reach.invariant (fun s fresh => ?_) (fun s s' distinct => ?_) h
  · cases fresh
    exact System.distinct_of_idle
  · rintro ⟨op, _, rfl⟩
    exact (op.change distinct).distinct distinct

lemma ReachableWhen.invariant {I : System → Prop} (start : I {})
    (keep : ∀ s op s', s.Distinct → I s → C s op → Change clock s op s' → I s')
    (h : ReachableWhen clock C s) : I s := by
  have both : s.Distinct ∧ I s := by
    refine Reach.invariant (I := fun s => s.Distinct ∧ I s) (fun s fresh => ?_) (fun s s' ⟨distinct, held⟩ => ?_) h
    · cases fresh
      exact ⟨System.distinct_of_idle, start⟩
    · rintro ⟨op, met, rfl⟩
      have change : Change clock s op (op.after clock s) := op.change distinct
      exact ⟨change.distinct distinct, keep s op _ distinct held met change⟩
  exact both.2

lemma ReachableWhen.any (h : ReachableWhen clock C s) : Reachable clock s := by
  induction h with
  | init fresh => exact .init fresh
  | step _ st ih =>
    obtain ⟨op, _, after⟩ := st
    exact .step ih ⟨op, trivial, after⟩

lemma ReachableWhen.drawn (h : ReachableWhen clock C s) (found : s.rollout = some r) :
    r.operationId < s.drawn := by
  have all : ∀ r, s.rollout = some r → r.operationId < s.drawn := by
    refine ReachableWhen.invariant (I := fun s => ∀ r, s.rollout = some r → r.operationId < s.drawn)
      (fun _ found => nomatch found) ?_ h
    intro s op s' _ before _ change r' found'
    rcases change.persists found' with ⟨r, found, alike, _⟩ | ⟨_, _, _, _, _, _, is, _, _, _, _, _, _, drawn, _⟩
    · rw [alike.operationId]
      exact (before r found).trans_le change.grows.2
    · rw [is, drawn]
      exact Nat.lt_succ_self _
  exact all r found

end Vertep.Rolling
