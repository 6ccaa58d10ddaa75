import Vertep.Lib.Reach
import Vertep.Rolling.Service

/-!
# What a step does to the active node (`core/rolling_update.py`)

One lemma for each part of `reconcile_rollout` that says all it can do to the active node, with what the code
looked at. Nothing raises once it has begun to change something, so the lemmas give the state it leaves; later
modules need not look into the code.
-/

namespace Vertep.Rolling
open Lib Command

variable {clock : ℕ → Instant}

/-- The rollout on disk and the worker records stay; requests may be issued. -/
structure Aside (s s' : System) : Prop where
  rollout : s'.rollout = s.rollout
  workers : s'.workers = s.workers
  finished : s'.finished = s.finished
  reads : s.reads ≤ s'.reads
  drawn : s.drawn ≤ s'.drawn
  log : ∃ new, s'.log = new ++ s.log

lemma Aside.refl (s : System) : Aside s s := ⟨rfl, rfl, rfl, le_rfl, le_rfl, [], rfl⟩

variable {s s' s'' : System}

lemma Aside.trans (h : Aside s s') (h' : Aside s' s'') : Aside s s'' where
  rollout := h'.rollout.trans h.rollout
  workers := h'.workers.trans h.workers
  finished := h'.finished.trans h.finished
  reads := h.reads.trans h'.reads
  drawn := h.drawn.trans h'.drawn
  log := by
    obtain ⟨new, eq⟩ := h.log
    obtain ⟨new', eq'⟩ := h'.log
    exact ⟨new' ++ new, by rw [eq', eq, List.append_assoc]⟩

variable {α : Type}

@[simp] lemma now_bind (f : Instant → RolloutM α) (s : System) :
    (now clock >>= f) s = f (clock s.reads) { s with reads := s.reads + 1 } := rfl

@[simp] lemma modifyWorker_bind (node : NodeId) (f : Record → Record) (g : Unit → RolloutM α)
    (s : System) : (modifyWorker node f >>= g) s = g () (s.withWorker node f) := rfl

@[simp] lemma timedOut_bind (node : Node) (timeout : ℤ) (f : Bool → RolloutM α) (s : System) :
    (timedOut clock node timeout >>= f) s =
      f (timeout < (clock s.reads).seconds - node.phaseStartedAt.seconds)
        { s with reads := s.reads + 1 } := rfl

lemma aside_reads (s : System) (n : ℕ) (later : s.reads ≤ n) : Aside s { s with reads := n } :=
  ⟨rfl, rfl, rfl, later, le_rfl, [], rfl⟩

/-! ## Worker records -/

@[simp] lemma System.rollout_withWorker (s : System) (node : NodeId) (f : Record → Record) :
    (s.withWorker node f).rollout = s.rollout := by
  unfold System.withWorker
  split <;> rfl

@[simp] lemma System.log_withWorker (s : System) (node : NodeId) (f : Record → Record) :
    (s.withWorker node f).log = s.log := by
  unfold System.withWorker
  split <;> rfl

lemma System.get?_withWorker (s : System) (node node' : NodeId) (f : Record → Record) :
    (s.withWorker node f).workers.get? node' =
      if node = node' then (s.workers.get? node').map f else s.workers.get? node' := by
  unfold System.withWorker
  by_cases same : node = node'
  · subst same
    cases found : s.workers.get? node with
    | none => simp [found]
    | some worker => simp
  · cases s.workers.get? node with
    | none => simp [same]
    | some worker => simp [same]

/-- The rollout on disk stays, and so do the worker records of the other nodes; requests may be issued. -/
structure Beside (node : NodeId) (s s' : System) : Prop where
  rollout : s'.rollout = s.rollout
  others : ∀ n, n ≠ node → s'.workers.get? n = s.workers.get? n
  finished : s'.finished = s.finished
  reads : s.reads ≤ s'.reads
  drawn : s.drawn ≤ s'.drawn
  log : ∃ new, s'.log = new ++ s.log

lemma Aside.beside (h : Aside s s') (node : NodeId) : Beside node s s' :=
  ⟨h.rollout, fun _ _ => by rw [h.workers], h.finished, h.reads, h.drawn, h.log⟩

lemma Beside.trans {node : NodeId} (h : Beside node s s') (h' : Beside node s' s'') :
    Beside node s s'' where
  rollout := h'.rollout.trans h.rollout
  others n other := (h'.others n other).trans (h.others n other)
  finished := h'.finished.trans h.finished
  reads := h.reads.trans h'.reads
  drawn := h.drawn.trans h'.drawn
  log := by
    obtain ⟨new, eq⟩ := h.log
    obtain ⟨new', eq'⟩ := h'.log
    exact ⟨new' ++ new, by rw [eq', eq, List.append_assoc]⟩

@[simp] lemma System.finished_withWorker (s : System) (node : NodeId) (f : Record → Record) :
    (s.withWorker node f).finished = s.finished := by
  unfold System.withWorker
  split <;> rfl

@[simp] lemma System.reads_withWorker (s : System) (node : NodeId) (f : Record → Record) :
    (s.withWorker node f).reads = s.reads := by
  unfold System.withWorker
  split <;> rfl

@[simp] lemma System.drawn_withWorker (s : System) (node : NodeId) (f : Record → Record) :
    (s.withWorker node f).drawn = s.drawn := by
  unfold System.withWorker
  split <;> rfl

lemma beside_withWorker (s : System) (node : NodeId) (f : Record → Record) : Beside node s (s.withWorker node f) where
  rollout := by simp
  others n other := by rw [System.get?_withWorker, if_neg (Ne.symm other)]
  finished := by simp
  reads := by simp
  drawn := by simp
  log := ⟨[], by simp⟩

lemma System.withWorker_some {node : NodeId} {worker : Record} (f : Record → Record)
    (found : s.workers.get? node = some worker) : (s.withWorker node f).workers.get? node = some (f worker) := by
  rw [System.get?_withWorker, if_pos rfl, found, Option.map_some]

/-! ## Coordinator records -/

/-- The same operation, with the same target. -/
structure Rollout.Alike (r r' : Rollout) : Prop where
  operationId : r'.operationId = r.operationId
  targetVersion : r'.targetVersion = r.targetVersion

/-- Only coordinator records of a rollout have changed. -/
structure Rollout.Same (r r' : Rollout) : Prop extends r.Alike r' where
  state : r'.state = r.state
  timeout : r'.updateTimeoutSeconds = r.updateTimeoutSeconds
  canary : r'.canary = r.canary
  canaryPromoted : r'.canaryPromoted = r.canaryPromoted
  nodes : r'.nodes = r.nodes
  token : r'.cancelFenceToken = r.cancelFenceToken

/-- Only the coordinator record of this node has changed. -/
structure Rollout.Coordinated (node : NodeId) (r r' : Rollout) : Prop extends r.Same r' where
  others : ∀ n, n ≠ node → r'.coordinator n = r.coordinator n

lemma Rollout.Same.refl (r : Rollout) : r.Same r := ⟨⟨rfl, rfl⟩, rfl, rfl, rfl, rfl, rfl, rfl⟩

variable {r r' : Rollout}

lemma Rollout.Same.trans {r'' : Rollout} (h : r.Same r') (h' : r'.Same r'') : r.Same r'' where
  operationId := h'.operationId.trans h.operationId
  state := h'.state.trans h.state
  targetVersion := h'.targetVersion.trans h.targetVersion
  timeout := h'.timeout.trans h.timeout
  canary := h'.canary.trans h.canary
  canaryPromoted := h'.canaryPromoted.trans h.canaryPromoted
  nodes := h'.nodes.trans h.nodes
  token := h'.token.trans h.token

lemma Rollout.Alike.directive (h : r.Alike r') : r'.directive = r.directive := by
  funext value
  simp only [Rollout.directive, h.operationId]

lemma Rollout.Coordinated.refl (node : NodeId) (r : Rollout) : r.Coordinated node r :=
  ⟨.refl r, fun _ _ => rfl⟩

@[simp] lemma Rollout.coordinator_withCoordinator (r : Rollout) (node node' : NodeId) (f : Record → Record) :
    (r.withCoordinator node f).coordinator node' =
      if node = node' then f (r.coordinator node') else r.coordinator node' := by
  by_cases same : node = node'
  · subst same
    simp [withCoordinator, coordinator]
  · simp [withCoordinator, coordinator, same]

lemma Rollout.Coordinated.write {node : NodeId} (h : r.Coordinated node r')
    (f : Record → Record) : r.Coordinated node (r'.withCoordinator node f) where
  operationId := h.operationId
  state := h.state
  targetVersion := h.targetVersion
  timeout := h.timeout
  canary := h.canary
  canaryPromoted := h.canaryPromoted
  nodes := h.nodes
  token := h.token
  others := by
    intro n other
    rw [coordinator_withCoordinator, if_neg (Ne.symm other)]
    exact h.others n other

@[simp] lemma Record.version_drainCoordinator (record : Record) (r : Rollout) :
    (record.drainCoordinator r).version = record.version := rfl

@[simp] lemma Record.version_updateCoordinator (record : Record) (r : Rollout) :
    (record.updateCoordinator r).version = record.version := rfl

@[simp] lemma Record.version_requested (record : Record) (q : SelfTestRequest) :
    (record.requested q).version = record.version := rfl

def Rollout.recordOf (r : Rollout) (s : System) (node : NodeId) : Option Record :=
  if isCoreNode node then some (r.coordinator node) else s.workers.get? node

/-! ## Requests -/

/-- The request that stands for a node: its own, or one issued in its phase. -/
def Ensured (log : List Issued) (r : Rollout) (node : Node) (target : Option Version) (q : SelfTestRequest) :
    Prop :=
  q.Stands r target ∧ (node.selfTestRequest = some q ∨ ⟨node.nodeId, node.phase, q⟩ ∈ log)

variable (clock) in
lemma ensureSelfTestRequest_ends (node : Node) (r : Rollout) (target : Option Version) (s : System) :
    ∃ q s', ensureSelfTestRequest clock node r target s = (.ok q, s') ∧ Aside s s' ∧
      Ensured s'.log r node target q := by
  have issued : ∃ q s', issueRequest clock node r target s = (.ok q, s') ∧ Aside s s' ∧
      Ensured s'.log r node target q :=
    ⟨_, _, rfl, ⟨rfl, rfl, rfl, Nat.le_succ _, Nat.le_succ _, [_], rfl⟩, ⟨rfl, rfl⟩, .inr List.mem_cons_self⟩
  unfold ensureSelfTestRequest
  cases own : node.selfTestRequest with
  | none => exact issued
  | some q =>
    by_cases stands : q.Stands r target
    · simp only [if_pos stands]
      exact ⟨q, s, rfl, .refl s, stands, .inl own⟩
    · simp only [if_neg stands]
      exact issued

variable {node node' : Node} {q : SelfTestRequest}

lemma Ensured.mono {log log' : List Issued} {target : Option Version}
    (h : Ensured log r node target q) (grows : ∀ e ∈ log, e ∈ log') :
    Ensured log' r node target q := ⟨h.1, h.2.imp_right (grows _)⟩

lemma Ensured.congr {log : List Issued} {target : Option Version}
    (h : Ensured log r' node target q) (same : r.Alike r') : Ensured log r node target q :=
  ⟨⟨h.1.1.trans same.operationId, h.1.2⟩, h.2⟩

/-! ## The active node -/

/-- A self-test that lets a node into its next phase: passed, in answer to the request `q`, with the version
the phase asks for, and no earlier than the phase began. -/
structure Passes (r : Rollout) (node : Node) (target : Option Version) (record : Record) (q : SelfTestRequest) :
    Prop where
  status : record.selfTest.status = some "PASSED"
  nonce : record.selfTest.nonce = some q.nonce
  operation : record.selfTest.operationId = some r.operationId
  answered : record.selfTest.targetVersion = target
  version : record.version = target
  fresh : node.phaseStartedAt.text ≤ record.selfTest.checkedAt

def Node.Late (node : Node) (timeout : ℤ) (t : Instant) : Prop := timeout < t.seconds - node.phaseStartedAt.seconds

instance (node : Node) (timeout : ℤ) (t : Instant) : Decidable (node.Late timeout t) := by
  unfold Node.Late; infer_instance

/-- What a step makes of an active node with this record, where the clock has been read as `t`, and the error if
the node fails. -/
inductive Advances (t : Instant) (log : List Issued) (r : Rollout) (node : Node) (record : Record) :
    Node → Option String → Prop where
  | late (error : String) : node.Late r.updateTimeoutSeconds t →
    Advances t log r node record { node with phase := .failed, error := node.late } (some error)
  | errored (error : String) (text : Option String) : node.phase = .updating →
    record.status = some "ERROR" →
    Advances t log r node record { node with phase := .failed, error := text } (some error)
  | failedTest (error : String) (text : Option String) : node.phase = .selfTesting →
    record.selfTest.status = some "FAILED" →
    Advances t log r node record { node with phase := .failed, error := text } (some error)
  | waits : Advances t log r node record node none
  | drained (t' : Instant) : node.phase = .draining →
    Advances t log r node record
      { node with phase := .updating, phaseStartedAt := t', previousVersion := record.version } none
  | applied (t' : Instant) (q : SelfTestRequest) : node.phase = .updating →
    record.version = some r.targetVersion →
    Ensured log r { node with phase := .selfTesting, phaseStartedAt := t' } (some r.targetVersion) q →
    Advances t log r node record
      { node with phase := .selfTesting, phaseStartedAt := t', selfTestRequest := some q } none
  | tests (q : SelfTestRequest) : node.phase = .selfTesting → record.selfTest.status ≠ some "FAILED" →
    Ensured log r node (some r.targetVersion) q →
    Advances t log r node record { node with selfTestRequest := some q } none
  | passed (q : SelfTestRequest) : node.phase = .selfTesting → Ensured log r node (some r.targetVersion) q →
    Passes r node (some r.targetVersion) record q →
    Advances t log r node record { node with selfTestRequest := some q, phase := .ready } none

lemma selfTestBound_iff {test : SelfTest} (own : node.selfTestRequest = some q) : selfTestBound test node r = true ↔ test.nonce = some q.nonce ∧
      test.operationId = some q.operationId ∧ test.targetVersion = q.targetVersion ∧
      q.operationId = r.operationId := by
  simp [selfTestBound, own, and_assoc]

/-- What `_reconcile_core_active` may do. -/
structure CoreActive (t : Instant) (r : Rollout) (node : Node) (s : System) (o : Outcome) (s' : System) : Prop where
  aside : Aside s s'
  coordinated : r.Coordinated node.nodeId o.rollout
  advances : Advances t s'.log r node (r.coordinator node.nodeId) o.node o.failure

lemma CoreActive.of {t : Instant} {failure : Option String}
    (aside : Aside s s') (coordinated : r.Coordinated node.nodeId r')
    (advances : Advances t s'.log r node (r.coordinator node.nodeId) node' failure) :
    CoreActive t r node s ⟨node', r', failure⟩ s' := ⟨aside, coordinated, advances⟩

variable (clock) in
lemma reconcileCoreActive_ends (r : Rollout) (node : Node) (s : System) :
    ∃ o s', reconcileCoreActive clock r node s = (.ok o, s') ∧ CoreActive (clock s.reads) r node s o s' := by
  obtain ⟨nodeId, phase, canary, previous, started, own, error⟩ := node
  have begun : r.Coordinated nodeId (r.withCoordinator nodeId id) := (Rollout.Coordinated.refl _ r).write _
  have record : (r.withCoordinator nodeId id).coordinator nodeId = r.coordinator nodeId := by simp
  have read := aside_reads s (s.reads + 1) (by omega)
  simp only [reconcileCoreActive, timedOut_bind, record]
  split
  · rename_i late
    exact ⟨_, _, rfl, .of read begun (.late _ (of_decide_eq_true late))⟩
  cases phase with
  | draining =>
    dsimp only
    split
    · simp only [now_bind]
      refine ⟨_, _, rfl, .of (aside_reads s _ (by omega)) ((begun.write _).write _) ?_⟩
      have advances : Advances (clock s.reads) s.log r ⟨nodeId, .draining, canary, previous, started, own, error⟩
          (r.coordinator nodeId) ⟨nodeId, .updating, canary, (r.coordinator nodeId).version, clock (s.reads + 1),
            own, error⟩ none := .drained _ rfl
      simpa using advances
    · exact ⟨_, _, rfl, .of read (begun.write _) .waits⟩
  | updating =>
    dsimp only
    split
    · rename_i version
      simp only [Rollout.coordinator_withCoordinator, if_pos, id_eq] at version
      simp only [now_bind]
      obtain ⟨q, s₂, run, aside, ensured⟩ := ensureSelfTestRequest_ends clock
        ⟨nodeId, .selfTesting, canary, previous, clock (s.reads + 1), own, error⟩
        ((r.withCoordinator nodeId id).withCoordinator nodeId
          (·.updateCoordinator (r.withCoordinator nodeId id))) (some r.targetVersion)
        { s with reads := s.reads + 1 + 1 }
      refine ⟨_, _, bind_of_ok run _, .of ?_ ((begun.write _).write _) (.applied _ q rfl version ensured)⟩
      exact ((aside_reads s _ (by omega)).trans aside).trans (aside_reads s₂ _ (by omega))
    · exact ⟨_, _, rfl, .of read (begun.write _) .waits⟩
  | selfTesting =>
    dsimp only
    split
    · rename_i failed
      exact ⟨_, _, rfl, .of read begun (.failedTest _ _ rfl failed)⟩
    · rename_i sound
      obtain ⟨q, s₂, run, aside, ensured⟩ := ensureSelfTestRequest_ends clock
        ⟨nodeId, .selfTesting, canary, previous, started, own, error⟩
        (r.withCoordinator nodeId id) (some (r.withCoordinator nodeId id).targetVersion)
        { s with reads := s.reads + 1 }
      have begun' := begun.write (·.requested q)
      rw [bind_of_ok run]
      split
      · rename_i checks
        simp only [Bool.and_eq_true, decide_eq_true_eq] at checks
        obtain ⟨⟨⟨bound, status⟩, version⟩, fresh⟩ := checks
        obtain ⟨nonce, operation, answered, same⟩ := (selfTestBound_iff rfl).1 bound
        simp only [Rollout.coordinator_withCoordinator, if_pos, id_eq, Record.version_requested] at version
        refine ⟨_, _, rfl, .of (read.trans aside) (begun'.write _) (.passed q rfl ensured ?_)⟩
        exact ⟨status, nonce, operation.trans (congrArg some same), answered.trans ensured.1.2, version, fresh⟩
      · split
        · exact ⟨_, _, rfl, .of (read.trans aside) begun' (.tests q rfl sound ensured)⟩
        · exact ⟨_, _, rfl, .of ((read.trans aside).trans (aside_reads s₂ _ (by omega))) (begun'.write _)
            (.tests q rfl sound ensured)⟩
  | _ => exact ⟨_, _, rfl, .of read begun .waits⟩

/-- What a step may do to a directive in a record. -/
inductive Rollout.Writes (r : Rollout) (d : Option Directive) : Option Directive → Prop where
  | kept : r.Writes d d
  | removed : r.Writes d none
  | wrote (value : String) : r.Writes d (some (r.directive value))

/-- What it may do to the directives of a record. -/
structure Record.Written (r : Rollout) (w w' : Record) : Prop where
  desired : r.Writes w.desiredState w'.desiredState
  update : r.Writes w.updateTargetVersion w'.updateTargetVersion
  rollback : r.Writes w.rollbackTargetVersion w'.rollbackTargetVersion

lemma Record.Written.refl (r : Rollout) (w : Record) : w.Written r w := ⟨.kept, .kept, .kept⟩

lemma Rollout.Writes.congr (same : r.Alike r') {d d' : Option Directive} (h : r'.Writes d d') :
    r.Writes d d' := by
  cases h with
  | kept => exact .kept
  | removed => exact .removed
  | wrote value =>
    rw [same.directive]
    exact .wrote value

lemma Record.Written.congr (same : r.Alike r') {w w' : Record} (h : w.Written r' w') :
    w.Written r w' := ⟨h.desired.congr same, h.update.congr same, h.rollback.congr same⟩

lemma Rollout.writes_map (r : Rollout) (d : Option Directive) (version : Option Version) :
    r.Writes d (version.map r.directive) := by
  cases version with
  | none => exact .removed
  | some value => exact .wrote value

/-- What a step that does not begin a rollback makes of the directives in a worker record. -/
structure Directs (node : Node) (worker worker' : Record) : Prop where
  rollback : worker'.rollbackTargetVersion = worker.rollbackTargetVersion
  update : worker'.updateTargetVersion = worker.updateTargetVersion ∨ node.phase = .updating ∨
    node.phase = .selfTesting ∨ worker'.updateTargetVersion = none
  ready : node.phase = .ready → worker'.desiredState = none ∧ worker'.updateTargetVersion = none

/-- What the step of an active worker node may do. -/
structure WorkerActive (t : Instant) (r : Rollout) (node : Node) (s : System) (o : Outcome) (s' : System) : Prop where
  beside : Beside node.nodeId s s'
  rollout : o.rollout = r
  advances : (s.workers.get? node.nodeId = none ∧ s'.workers.get? node.nodeId = none ∧ o.failure.isSome ∧
      o.node = { node with phase := .failed, error := some "Worker is offline" }) ∨
    ∃ worker worker', s.workers.get? node.nodeId = some worker ∧ s'.workers.get? node.nodeId = some worker' ∧
      worker'.version = worker.version ∧ worker.Written r worker' ∧
      Advances t s'.log r node worker o.node o.failure ∧
      (o.failure = none → Directs o.node worker worker') ∧
      (o.failure.isSome → (node.phase = .updating → worker.status ≠ some "ERROR") → worker' = worker)

lemma WorkerActive.of {t : Instant} {failure : Option String}
    {worker worker' : Record} (beside : Beside node.nodeId s s') (found : s.workers.get? node.nodeId = some worker)
    (found' : s'.workers.get? node.nodeId = some worker') (version : worker'.version = worker.version)
    (written : worker.Written r worker') (advances : Advances t s'.log r node worker node' failure)
    (directs : failure = none → Directs node' worker worker')
    (kept : failure.isSome → (node.phase = .updating → worker.status ≠ some "ERROR") → worker' = worker) :
    WorkerActive t r node s ⟨node', r, failure⟩ s' :=
  ⟨beside, rfl, .inr ⟨worker, worker', found, found', version, written, advances, directs, kept⟩⟩

variable (clock) in
lemma reconcileWorkerActive_ends (r : Rollout) (node : Node) (active : node.phase.Active) (s : System) :
    ∃ o s', reconcileWorkerActive clock r node s = (.ok o, s') ∧ WorkerActive (clock s.reads) r node s o s' := by
  obtain ⟨nodeId, phase, canary, previous, started, own, error⟩ := node
  simp only [reconcileWorkerActive, read_bind]
  cases found : s.workers.get? nodeId with
  | none => exact ⟨_, _, rfl, (Aside.refl s).beside _, rfl, .inl ⟨found, found, rfl, rfl⟩⟩
  | some worker =>
    simp only [timedOut_bind]
    set s₁ : System := { s with reads := s.reads + 1 }
    have found₁ : s₁.workers.get? nodeId = some worker := found
    have read : Beside nodeId s s₁ := (aside_reads s _ (by omega)).beside _
    split
    · rename_i late
      exact ⟨_, _, rfl, .of read found found₁ rfl (.refl r worker) (.late _ (of_decide_eq_true late)) nofun
        fun _ _ => rfl⟩
    rcases active with is | is | is <;> dsimp only at is <;> subst is
    · -- draining
      simp only [modifyWorker_bind]
      have found₂ := System.withWorker_some (·.drain r) found₁
      have drained := read.trans (beside_withWorker s₁ nodeId (·.drain r))
      set s₂ := s₁.withWorker nodeId (·.drain r)
      split
      · simp only [now_bind, modifyWorker_bind]
        have targeted := (drained.trans ((aside_reads s₂ (s₂.reads + 1) (by omega)).beside _)).trans
          (beside_withWorker { s₂ with reads := s₂.reads + 1 } nodeId (·.target r))
        have found₃ := System.withWorker_some (s := { s₂ with reads := s₂.reads + 1 }) (·.target r) found₂
        exact ⟨_, _, rfl, .of targeted found found₃ rfl ⟨.wrote _, .wrote _, .kept⟩ (.drained _ rfl)
          (fun _ => ⟨rfl, .inr (.inl rfl), nofun⟩) nofun⟩
      · exact ⟨_, _, rfl, .of drained found found₂ rfl ⟨.wrote _, .kept, .kept⟩ .waits
          (fun _ => ⟨rfl, .inl rfl, nofun⟩) nofun⟩
    · -- updating
      simp only [modifyWorker_bind]
      have found₂ := System.withWorker_some (·.update r) found₁
      have updated := read.trans (beside_withWorker s₁ nodeId (·.update r))
      set s₂ := s₁.withWorker nodeId (·.update r)
      split
      · rename_i errored
        exact ⟨_, _, rfl, .of updated found found₂ rfl ⟨.wrote _, .wrote _, .kept⟩ (.errored _ _ rfl errored) nofun
          fun _ sound => absurd errored (sound rfl)⟩
      split
      · rename_i version
        simp only [now_bind]
        obtain ⟨q, s₃, run, aside, ensured⟩ := ensureSelfTestRequest_ends clock
          ⟨nodeId, .selfTesting, canary, previous, clock s₂.reads, own, error⟩ r (some r.targetVersion)
          { s₂ with reads := s₂.reads + 1 }
        rw [bind_of_ok run]
        simp only [now_bind, modifyWorker_bind]
        have found₃ : s₃.workers.get? nodeId = some (worker.update r) := by rw [aside.workers]; exact found₂
        have read₂ := (aside_reads s₂ (s₂.reads + 1) (by omega)).beside nodeId
        have read₃ := (aside_reads s₃ (s₃.reads + 1) (by omega)).beside nodeId
        have beside := ((updated.trans read₂).trans (aside.beside _)).trans read₃
        refine ⟨_, _, rfl, .of (beside.trans (beside_withWorker _ nodeId _)) found
          (System.withWorker_some _ found₃) rfl ⟨.wrote _, .wrote _, .kept⟩ (.applied _ q rfl version ?_)
          (fun _ => ⟨rfl, .inr (.inr (.inl rfl)), nofun⟩) nofun⟩
        rw [System.log_withWorker]
        exact ensured
      · exact ⟨_, _, rfl, .of updated found found₂ rfl ⟨.wrote _, .wrote _, .kept⟩ .waits
          (fun _ => ⟨rfl, .inr (.inl rfl), nofun⟩) nofun⟩
    · -- self-testing
      dsimp only
      split
      · rename_i failed
        exact ⟨_, _, rfl, .of read found found₁ rfl (.refl r worker) (.failedTest _ _ rfl failed) nofun
          fun _ _ => rfl⟩
      rename_i sound
      obtain ⟨q, s₂, run, aside, ensured⟩ := ensureSelfTestRequest_ends clock
        ⟨nodeId, .selfTesting, canary, previous, started, own, error⟩ r (some r.targetVersion) s₁
      rw [bind_of_ok run]
      simp only [modifyWorker_bind]
      have found₂ : s₂.workers.get? nodeId = some worker := by rw [aside.workers]; exact found₁
      have found₃ := System.withWorker_some (·.requested q) found₂
      have beside := (read.trans (aside.beside _)).trans (beside_withWorker s₂ nodeId (·.requested q))
      have log : (s₂.withWorker nodeId (·.requested q)).log = s₂.log := System.log_withWorker ..
      set s₃ := s₂.withWorker nodeId (·.requested q)
      rw [← log] at ensured
      split
      · rename_i checks
        simp only [Bool.and_eq_true, decide_eq_true_eq] at checks
        obtain ⟨⟨⟨bound, status⟩, version⟩, fresh⟩ := checks
        obtain ⟨nonce, operation, answered, same⟩ := (selfTestBound_iff rfl).1 bound
        simp only [modifyWorker_bind]
        refine ⟨_, _, rfl, .of (beside.trans (beside_withWorker _ nodeId _)) found
          (System.withWorker_some _ found₃) rfl ⟨.removed, .removed, .kept⟩ (.passed q rfl ?_ ?_)
          (fun _ => ⟨rfl, .inr (.inr (.inr rfl)), fun _ => ⟨rfl, rfl⟩⟩) nofun⟩
        · rw [System.log_withWorker]
          exact ensured
        · exact ⟨status, nonce, operation.trans (congrArg some same), answered.trans ensured.1.2, version, fresh⟩
      split
      · exact ⟨_, _, rfl, .of beside found found₃ rfl ⟨.kept, .kept, .kept⟩ (.tests q rfl sound ensured)
          (fun _ => ⟨rfl, .inl rfl, nofun⟩) nofun⟩
      · simp only [now_bind, modifyWorker_bind]
        refine ⟨_, _, rfl, .of ((beside.trans ((aside_reads s₃ (s₃.reads + 1) (by omega)).beside _)).trans
          (beside_withWorker _ nodeId _)) found (System.withWorker_some _ found₃) rfl ⟨.kept, .kept, .kept⟩ (.tests q rfl sound ?_)
          (fun _ => ⟨rfl, .inl rfl, nofun⟩) nofun⟩
        rw [System.log_withWorker]
        exact ensured

end Vertep.Rolling
