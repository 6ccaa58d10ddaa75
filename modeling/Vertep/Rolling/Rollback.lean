import Vertep.Rolling.Steps

/-!
# What a rollback does to its nodes (`core/rolling_update.py`)

`_begin_rollback` goes through all nodes once, and so does each round of a rollback until one fails. Of the loops
it is enough to know that every node ends as its own round made it: the nodes of a rollout are different, and
a round writes the records of its node only.
-/

namespace Vertep.Rolling
open Lib Command

variable {clock : ℕ → Instant}

/-! ## The beginning of a rollback -/

/-- What `_begin_rollback` makes of a node with this worker record. -/
inductive TurnsBack (log : List Issued) (r : Rollout) (worker : Option Record) (node : Node) : Node → Prop where
  | back (t : Instant) (own : Option SelfTestRequest) : node.updated worker r.targetVersion = true →
    (own = node.selfTestRequest ∨ ∃ q, own = some q ∧
      Ensured log r { node with phase := .rollingBack, phaseStartedAt := t } node.previousVersion q) →
    TurnsBack log r worker node { node with phase := .rollingBack, phaseStartedAt := t, selfTestRequest := own }
  | stays : node.updated worker r.targetVersion = false → node.phase = .failed ∨ node.phase = .cancelled →
    TurnsBack log r worker node node
  | ends : node.updated worker r.targetVersion = false →
    TurnsBack log r worker node { node with phase := .cancelled }

/-- What it writes into the records of the node. -/
structure TurnsRecords (r r' : Rollout) (s s' : System) (node : Node) : Prop where
  core : isCoreNode node.nodeId = true → node.updated (s.workers.get? node.nodeId) r.targetVersion = true →
    (r'.coordinator node.nodeId).rollbackTargetVersion = node.previousVersion.map r.directive
  written : isCoreNode node.nodeId = false → node.updated (s.workers.get? node.nodeId) r.targetVersion = true →
    ∃ q t, s'.workers.get? node.nodeId =
      (s.workers.get? node.nodeId).map fun w => ((w.rollBack r node).requested q).requestedAt t
  kept : isCoreNode node.nodeId = true ∨ node.updated (s.workers.get? node.nodeId) r.targetVersion = false →
    s'.workers.get? node.nodeId = s.workers.get? node.nodeId

variable {r r' r₁ : Rollout} {worker record : Option Record} {node node' : Node}

lemma TurnsBack.mono {log log' : List Issued} (h : TurnsBack log r worker node node') (grows : ∀ e ∈ log, e ∈ log') :
    TurnsBack log' r worker node node' := by
  cases h with
  | back t own updated request =>
    exact .back t own updated (request.imp_right fun ⟨q, is, ensured⟩ => ⟨q, is, ensured.mono grows⟩)
  | stays not_updated ended => exact .stays not_updated ended
  | ends not_updated => exact .ends not_updated

lemma TurnsBack.congr {log : List Issued} (h : TurnsBack log r' worker node node') (same : r.Alike r') : TurnsBack log r worker node node' := by
  cases h with
  | back t own updated request =>
    rw [same.targetVersion] at updated
    exact .back t own updated (request.imp_right fun ⟨q, is, ensured⟩ => ⟨q, is, ensured.congr same⟩)
  | stays not_updated ended =>
    rw [same.targetVersion] at not_updated
    exact .stays not_updated ended
  | ends not_updated =>
    rw [same.targetVersion] at not_updated
    exact .ends not_updated

variable (clock) in
lemma rollNodeBack_ends (r : Rollout) (node : Node) (s : System) :
    ∃ node' r' s', rollNodeBack clock r node s = (.ok (node', r'), s') ∧ Beside node.nodeId s s' ∧
      r.Coordinated node.nodeId r' ∧ TurnsBack s'.log r (s.workers.get? node.nodeId) node node' ∧
      TurnsRecords r r' s s' node := by
  have same := Rollout.Coordinated.refl node.nodeId r
  simp only [rollNodeBack, read_bind]
  split
  · rename_i updated
    simp only [now_bind]
    set s₁ : System := { s with reads := s.reads + 1 }
    have read : Beside node.nodeId s s₁ := (aside_reads s _ (by omega)).beside _
    obtain ⟨q, s₂, run, aside, ensured⟩ := ensureSelfTestRequest_ends clock
      { node with phase := .rollingBack, phaseStartedAt := clock s.reads } r node.previousVersion s₁
    have read' := (read.trans (aside.beside _)).trans ((aside_reads s₂ (s₂.reads + 1) (by omega)).beside _)
    split
    · rename_i core
      rw [bind_of_ok run]
      refine ⟨_, _, _, rfl, read', same.write _, .back _ _ updated (.inr ⟨q, rfl, ensured⟩), ?_, ?_, ?_⟩
      · intro _ _
        rw [Rollout.coordinator_withCoordinator, if_pos rfl]
        rfl
      · intro not_core
        cases not_core.symm.trans core
      · intro _
        show s₂.workers.get? _ = _
        rw [aside.workers]
    · rename_i not_core
      split
      · rw [bind_of_ok run]
        simp only [now_bind, modifyWorker_bind]
        refine ⟨_, _, _, rfl, read'.trans (beside_withWorker _ _ _), same,
          .back _ _ updated (.inr ⟨q, rfl, ?_⟩), fun core => absurd core not_core, fun _ _ => ⟨q, clock s₂.reads, ?_⟩,
          ?_⟩
        · rw [System.log_withWorker]
          exact ensured
        · rw [System.get?_withWorker, if_pos rfl]
          show (s₂.workers.get? _).map _ = _
          rw [aside.workers]
          rfl
        · rintro (core | not_updated)
          · exact absurd core not_core
          · cases not_updated.symm.trans updated
      · rename_i offline
        have none := Option.not_isSome_iff_eq_none.1 offline
        refine ⟨_, _, _, rfl, read, same, .back _ _ updated (.inl rfl), fun core => absurd core not_core,
          fun _ _ => ⟨q, clock s.reads, ?_⟩, fun _ => rfl⟩
        show s.workers.get? _ = _
        rw [none, Option.map_none]
  · rename_i not_updated
    have is := Bool.eq_false_iff.2 not_updated
    have kept : TurnsRecords r r s s node :=
      ⟨fun _ h => absurd h not_updated, fun _ h => absurd h not_updated, fun _ => rfl⟩
    split
    · rename_i ended
      exact ⟨_, _, _, rfl, (Aside.refl s).beside _, same, .stays is ended, kept⟩
    · exact ⟨_, _, _, rfl, (Aside.refl s).beside _, same, .ends is, kept⟩

lemma Record.rollBack_congr (same : r.Alike r') (record : Record) (node : Node) :
    record.rollBack r' node = record.rollBack r node := by
  simp only [rollBack, same.directive, same.operationId]

variable {s s₁ s' : System}

lemma TurnsRecords.congr (h : TurnsRecords r₁ r' s₁ s' node)
    (same : r.Alike r₁) (before : s₁.workers.get? node.nodeId = s.workers.get? node.nodeId) :
    TurnsRecords r r' s s' node := by
  obtain ⟨core, written, kept⟩ := h
  rw [before, same.targetVersion] at core written kept
  refine ⟨fun is updated => same.directive ▸ core is updated, fun not_core updated => ?_, kept⟩
  obtain ⟨q, t, records⟩ := written not_core updated
  simp only [Record.rollBack_congr same] at records
  exact ⟨q, t, records⟩

lemma TurnsRecords.later (h : TurnsRecords r r₁ s s₁ node)
    (coordinator : r'.coordinator node.nodeId = r₁.coordinator node.nodeId)
    (after : s'.workers.get? node.nodeId = s₁.workers.get? node.nodeId) : TurnsRecords r r' s s' node := by
  obtain ⟨core, written, kept⟩ := h
  rw [← after] at written kept
  rw [← coordinator] at core
  exact ⟨core, written, kept⟩

/-- What a loop over these nodes leaves alone. -/
structure BesideAll (nodes : List Node) (r : Rollout) (s : System) (r' : Rollout) (s' : System) : Prop where
  same : r.Same r'
  coordinators : ∀ n, n ∉ nodes.map (·.nodeId) → r'.coordinator n = r.coordinator n
  rollout : s'.rollout = s.rollout
  workers : ∀ n, n ∉ nodes.map (·.nodeId) → s'.workers.get? n = s.workers.get? n
  finished : ∀ f ∈ s.finished, f ∈ s'.finished
  reads : s.reads ≤ s'.reads
  drawn : s.drawn ≤ s'.drawn
  log : ∀ e ∈ s.log, e ∈ s'.log

lemma BesideAll.refl (nodes : List Node) (r : Rollout) (s : System) : BesideAll nodes r s r s :=
  ⟨.refl r, fun _ _ => rfl, rfl, fun _ _ => rfl, fun _ h => h, le_rfl, le_rfl, fun _ h => h⟩

variable {nodes : List Node}

lemma BesideAll.finish (h : BesideAll nodes r s r' s')
    (f : Finished) : BesideAll nodes r s r' { s' with finished := f :: s'.finished } :=
  { h with finished := fun f' member => List.mem_cons_of_mem f (h.finished f' member) }

lemma BesideAll.cons (first : BesideAll [node] r s r₁ s₁) (rest : BesideAll nodes r₁ s₁ r' s') :
    BesideAll (node :: nodes) r s r' s' where
  same := first.same.trans rest.same
  coordinators n other := by
    rw [List.map_cons, List.mem_cons, not_or] at other
    rw [rest.coordinators n other.2, first.coordinators n (by simpa using other.1)]
  rollout := rest.rollout.trans first.rollout
  workers n other := by
    rw [List.map_cons, List.mem_cons, not_or] at other
    rw [rest.workers n other.2, first.workers n (by simpa using other.1)]
  finished f member := rest.finished f (first.finished f member)
  reads := first.reads.trans rest.reads
  drawn := first.drawn.trans rest.drawn
  log e member := rest.log e (first.log e member)

lemma Beside.all (h : Beside node.nodeId s s')
    (same : r.Coordinated node.nodeId r') : BesideAll [node] r s r' s' where
  same := same.toSame
  coordinators n other := same.others n (by simpa using other)
  rollout := h.rollout
  workers n other := h.others n (by simpa using other)
  finished f member := by rwa [h.finished]
  reads := h.reads
  drawn := h.drawn
  log e member := by
    obtain ⟨new, eq⟩ := h.log
    rw [eq]
    exact List.mem_append_right _ member

variable (clock) in
/-- The loop of `_begin_rollback`: every node as its own round made it. -/
lemma rollNodesBack_ends (r : Rollout) (nodes : List Node) (nodup : (nodes.map (·.nodeId)).Nodup) (s : System) :
    ∃ nodes' r' s', rollNodesBack clock r nodes s = (.ok (nodes', r'), s') ∧ BesideAll nodes r s r' s' ∧
      List.Forall₂ (fun n n' => TurnsBack s'.log r (s.workers.get? n.nodeId) n n' ∧ TurnsRecords r r' s s' n)
        nodes nodes' := by
  induction nodes generalizing r s with
  | nil => exact ⟨[], r, s, rfl, .refl [] r s, .nil⟩
  | cons node nodes ih =>
    rw [List.map_cons, List.nodup_cons] at nodup
    obtain ⟨node', r₁, s₁, run, beside, coordinated, turns, records⟩ := rollNodeBack_ends clock r node s
    obtain ⟨nodes', r', s', run', rest, each⟩ := ih r₁ nodup.2 s₁
    have first := beside.all coordinated
    refine ⟨node' :: nodes', r', s', ?_, first.cons rest, .cons ⟨turns.mono rest.log, ?_⟩ ?_⟩
    · rw [rollNodesBack, bind_of_ok run]
      show (rollNodesBack clock r₁ nodes >>= _) s₁ = _
      rw [bind_of_ok run']
      rfl
    · exact records.later (rest.coordinators _ nodup.1) (rest.workers _ nodup.1)
    · have apart : ∀ n ∈ nodes, s₁.workers.get? n.nodeId = s.workers.get? n.nodeId := by
        intro n member
        refine beside.others n.nodeId fun is => nodup.1 ?_
        exact is ▸ List.mem_map_of_mem member
      refine ((List.forall₂_and_left _ _).2 ⟨apart, each⟩).imp fun n n' ⟨before, turns, records⟩ => ⟨?_, ?_⟩
      · exact before ▸ turns.congr first.same.toAlike
      · exact records.congr first.same.toAlike before

/-! ## A round of a rollback -/

variable (clock) in
/-- A rollback fails: the worker is offline, or the node is late at a reading between these two states. -/
def RollbackFails (s s' : System) (r : Rollout) (record : Option Record) (node : Node) : Prop :=
  record = none ∨ ∃ k, s.reads ≤ k ∧ k < s'.reads ∧ node.Late r.updateTimeoutSeconds (clock k)

variable (clock) in
/-- What a round makes of a node that rolls back; `record` is `none` for a worker that is offline. -/
inductive RollsOn (s s' : System) (r : Rollout) (record : Option Record) (node : Node) : Node → Prop where
  | failed (error : Option String) : RollbackFails clock s s' r record node →
    RollsOn s s' r record node { node with phase := .rollbackFailed, error := error }
  | waits (q : SelfTestRequest) : record.isSome → Ensured s'.log r node node.previousVersion q →
    RollsOn s s' r record node { node with selfTestRequest := some q }
  | confirmed (w : Record) (q : SelfTestRequest) : record = some w → Ensured s'.log r node node.previousVersion q →
    Passes r node node.previousVersion w q →
    RollsOn s s' r record node { node with selfTestRequest := some q, phase := .rolledBack }

/-- What a round writes into the worker record of a node, and notes about it. -/
structure RollsRecords (r : Rollout) (s s' : System) (node node' : Node) : Prop where
  core : isCoreNode node.nodeId = true → s'.workers.get? node.nodeId = s.workers.get? node.nodeId
  written : ∃ f, s'.workers.get? node.nodeId = (s.workers.get? node.nodeId).map f ∧ ∀ w,
    w.Written r (f w) ∧ (f w).updateTargetVersion = w.updateTargetVersion ∧
      (node'.phase = .rolledBack → isCoreNode node.nodeId = false →
        (f w).desiredState = none ∧ (f w).rollbackTargetVersion = none)
  failed : node'.phase = .rollbackFailed → s'.workers.get? node.nodeId = s.workers.get? node.nodeId
  finished : node'.phase = .rolledBack → ⟨node.nodeId, r.operationId, node.previousVersion⟩ ∈ s'.finished

lemma rollbackConfirmed_iff {record : Record} {q : SelfTestRequest}
    (own : node.selfTestRequest = some q) (stands : q.Stands r node.previousVersion) :
    rollbackConfirmed r node record = true ↔ Passes r node node.previousVersion record q := by
  obtain ⟨operation, target⟩ := stands
  simp only [rollbackConfirmed, own, Bool.and_eq_true, decide_eq_true_eq, selfTestBound_iff own]
  constructor
  · rintro ⟨⟨⟨⟨version, status⟩, fresh⟩, _⟩, nonce, echoed, answered, _⟩
    exact ⟨status, nonce, echoed.trans (congrArg some operation), answered.trans target, version, fresh⟩
  · intro h
    exact ⟨⟨⟨⟨h.version, h.status⟩, h.fresh⟩, operation, target⟩, h.nonce,
      h.operation.trans (congrArg some operation.symm), h.answered.trans target.symm, operation⟩

@[simp] lemma finish_bind {α : Type} (r : Rollout) (node : Node) (record : Record) (f : Unit → RolloutM α)
    (s : System) : (finish r node record >>= f) s =
      f () { s with finished := ⟨node.nodeId, r.operationId, record.version⟩ :: s.finished } := rfl

variable (clock) in
lemma rollCoreOn_ends (r : Rollout) (node : Node) (core : isCoreNode node.nodeId = true)
    (back : node.phase = .rollingBack) (s : System) :
    ∃ node' r' failed s', rollCoreOn clock r node s = (.ok (node', r', failed), s') ∧
      BesideAll [node] r s r' s' ∧ RollsOn clock s s' r (r.recordOf s node.nodeId) node node' ∧
      RollsRecords r s s' node node' ∧ (node'.phase = .rollbackFailed ↔ failed = true) := by
  obtain ⟨nodeId, phase, canary, previous, started, own, error⟩ := node
  subst back
  have begun : r.Coordinated nodeId (r.withCoordinator nodeId id) := (Rollout.Coordinated.refl _ r).write _
  have record : r.recordOf s nodeId = some (r.coordinator nodeId) := if_pos core
  have read := aside_reads s (s.reads + 1) (by omega)
  have kept : ∀ {s' : System} {node' : Node}, s'.workers = s.workers →
      (node'.phase = .rolledBack → ⟨nodeId, r.operationId, previous⟩ ∈ s'.finished) →
      RollsRecords r s s' ⟨nodeId, .rollingBack, canary, previous, started, own, error⟩ node' := by
    intro s' node' workers finished
    refine ⟨fun _ => by rw [workers], ⟨id, ?_, fun w => ⟨.refl r w, rfl, fun _ not_core => ?_⟩⟩, fun _ => by rw [workers],
      finished⟩
    · rw [workers, Option.map_id, id]
    · cases not_core.symm.trans core
  simp only [rollCoreOn, timedOut_bind]
  rw [record]
  split
  · rename_i late
    exact ⟨_, _, _, _, rfl, (read.beside _).all begun,
      .failed _ (.inr ⟨s.reads, le_rfl, Nat.lt_succ_self _, of_decide_eq_true late⟩), kept rfl (by rintro ⟨⟩),
      iff_of_true rfl rfl⟩
  obtain ⟨q, s₂, run, aside, ensured⟩ := ensureSelfTestRequest_ends clock
    ⟨nodeId, .rollingBack, canary, previous, started, own, error⟩ (r.withCoordinator nodeId id) previous
    { s with reads := s.reads + 1 }
  have begun' := begun.write fun c => (c.rollCoordinatorBack (r.withCoordinator nodeId id)
    ⟨nodeId, .rollingBack, canary, previous, started, own, error⟩).requested q
  have read' := read.trans aside
  rw [bind_of_ok run]
  simp only [Rollout.coordinator_withCoordinator, if_pos, id_eq]
  split
  · rename_i confirmed
    simp only [finish_bind]
    obtain ⟨status, nonce, operation, answered, version, fresh⟩ := (rollbackConfirmed_iff rfl ensured.1).1 confirmed
    refine ⟨_, _, _, _, rfl, ((read'.beside _).all (begun'.write _)).finish _, .confirmed _ q rfl ensured
      ⟨status, nonce, operation, answered, version, fresh⟩, kept read'.workers fun _ => ?_,
      iff_of_false (by rintro ⟨⟩) Bool.false_ne_true⟩
    have reported : (r.coordinator nodeId).version = previous := version
    simp only [← reported]
    exact List.mem_cons_self
  · split
    · exact ⟨_, _, _, _, rfl, (read'.beside _).all begun', .waits q rfl ensured, kept read'.workers (by rintro ⟨⟩),
        iff_of_false (by rintro ⟨⟩) Bool.false_ne_true⟩
    · have again := read'.trans (aside_reads s₂ (s₂.reads + 1) (by omega))
      exact ⟨_, _, _, _, rfl, (again.beside _).all (begun'.write _), .waits q rfl ensured, kept again.workers (by rintro ⟨⟩),
        iff_of_false (by rintro ⟨⟩) Bool.false_ne_true⟩

variable (clock) in
lemma rollWorkerOn_ends (r : Rollout) (node : Node) (not_core : isCoreNode node.nodeId = false)
    (back : node.phase = .rollingBack) (s : System) :
    ∃ node' r' failed s', rollWorkerOn clock r node s = (.ok (node', r', failed), s') ∧
      BesideAll [node] r s r' s' ∧ RollsOn clock s s' r (r.recordOf s node.nodeId) node node' ∧
      RollsRecords r s s' node node' ∧ (node'.phase = .rollbackFailed ↔ failed = true) := by
  obtain ⟨nodeId, phase, canary, previous, started, own, error⟩ := node
  subst back
  have same := Rollout.Coordinated.refl nodeId r
  have record : r.recordOf s nodeId = s.workers.get? nodeId := if_neg (Bool.eq_false_iff.1 not_core)
  have core_not : ∀ {p : Prop}, isCoreNode nodeId = true → p := fun core => absurd core (Bool.eq_false_iff.1 not_core)
  have kept : ∀ {s' : System} {node' : Node}, s'.workers = s.workers → node'.phase ≠ .rolledBack →
      RollsRecords r s s' ⟨nodeId, .rollingBack, canary, previous, started, own, error⟩ node' := by
    intro s' node' workers open_
    refine ⟨fun _ => by rw [workers], ⟨id, ?_, fun w => ⟨.refl r w, rfl, fun is => absurd is open_⟩⟩, fun _ => by rw [workers],
      fun is => absurd is open_⟩
    rw [workers, Option.map_id, id]
  simp only [rollWorkerOn, read_bind]
  rw [record]
  cases found : s.workers.get? nodeId with
  | none =>
    exact ⟨_, _, _, _, rfl, .refl _ r s, .failed _ (.inl rfl), kept rfl (by rintro ⟨⟩), iff_of_true rfl rfl⟩
  | some worker =>
    have read := aside_reads s (s.reads + 1) (by omega)
    simp only [timedOut_bind]
    split
    · rename_i late
      exact ⟨_, _, _, _, rfl, (read.beside _).all same,
        .failed _ (.inr ⟨s.reads, le_rfl, Nat.lt_succ_self _, of_decide_eq_true late⟩), kept rfl (by rintro ⟨⟩),
        iff_of_true rfl rfl⟩
    obtain ⟨q, s₂, run, aside, ensured⟩ := ensureSelfTestRequest_ends clock
      ⟨nodeId, .rollingBack, canary, previous, started, own, error⟩ r previous { s with reads := s.reads + 1 }
    rw [bind_of_ok run]
    simp only [modifyWorker_bind]
    set f : Record → Record := fun w =>
      (w.rollBack r ⟨nodeId, .rollingBack, canary, previous, started, own, error⟩).requested q
    have found₂ : s₂.workers.get? nodeId = some worker := by rw [(read.trans aside).workers]; exact found
    have found₃ := System.withWorker_some f found₂
    have beside := ((read.trans aside).beside nodeId).trans (beside_withWorker s₂ nodeId f)
    have log : (s₂.withWorker nodeId f).log = s₂.log := System.log_withWorker ..
    set s₃ := s₂.withWorker nodeId f
    rw [← log] at ensured
    split
    · rename_i confirmed
      obtain ⟨status, nonce, operation, answered, version, fresh⟩ := (rollbackConfirmed_iff rfl ensured.1).1 confirmed
      simp only [modifyWorker_bind, finish_bind]
      set g : Record → Record := fun w =>
        { w with desiredState := none, rollbackTargetVersion := none, selfTestRequestedAt := none }
      have found₄ := System.withWorker_some g found₃
      refine ⟨_, _, _, _, rfl, ((beside.trans (beside_withWorker s₃ nodeId g)).all same).finish _,
        .confirmed worker q rfl ?_ ⟨status, nonce, operation, answered, version, fresh⟩,
        ⟨core_not, ⟨g ∘ f, ?_, fun w => ⟨⟨.removed, .kept, .removed⟩, rfl, fun _ _ => ⟨rfl, rfl⟩⟩⟩, by rintro ⟨⟩,
          fun _ => ?_⟩, iff_of_false (by rintro ⟨⟩) Bool.false_ne_true⟩
      · show Ensured (s₃.withWorker nodeId g).log _ _ _ _
        rw [System.log_withWorker]
        exact ensured
      · show (s₃.withWorker nodeId g).workers.get? nodeId = _
        rw [found₄, found]
        rfl
      · have reported : worker.version = previous := version
        simp only [← reported]
        exact List.mem_cons_self
    · split
      · refine ⟨_, _, _, _, rfl, beside.all same, .waits q rfl ensured,
          ⟨core_not, ⟨f, ?_, fun w => ⟨⟨.wrote _, .kept, r.writes_map _ _⟩, rfl, by rintro ⟨⟩⟩⟩, by rintro ⟨⟩,
            by rintro ⟨⟩⟩, iff_of_false (by rintro ⟨⟩) Bool.false_ne_true⟩
        rw [found₃, found]
        rfl
      · simp only [now_bind, modifyWorker_bind]
        set s₄ : System := { s₃ with reads := s₃.reads + 1 }
        have found₄ := System.withWorker_some (s := s₄) (·.requestedAt (clock s₃.reads)) found₃
        have asked := beside.trans ((aside_reads s₃ (s₃.reads + 1) (by omega)).beside _)
        refine ⟨_, _, _, _, rfl, (asked.trans (beside_withWorker s₄ nodeId _)).all same, .waits q rfl ?_,
          ⟨core_not, ⟨(·.requestedAt (clock s₃.reads)) ∘ f, ?_, fun w => ⟨⟨.wrote _, .kept, r.writes_map _ _⟩, rfl,
            by rintro ⟨⟩⟩⟩, by rintro ⟨⟩, by rintro ⟨⟩⟩, iff_of_false (by rintro ⟨⟩) Bool.false_ne_true⟩
        · rw [System.log_withWorker]
          exact ensured
        · rw [found₄, found]
          rfl

/-! ## The loop of a round -/

variable (clock) in
/-- Another of these nodes has failed to roll back. -/
def Stopped (nodes : List Node) (r : Rollout) (s s' : System) (node : Node) : Prop :=
  ∃ m ∈ nodes, m.nodeId ≠ node.nodeId ∧ m.phase = .rollingBack ∧
    RollbackFails clock s s' r (r.recordOf s m.nodeId) m

variable (clock) in
/-- A node of a round: one that does not roll back stays, one that does has had its turn, or waits because another
has failed. -/
def Rolled (failed : Bool) (nodes : List Node) (r : Rollout) (s s' : System) (node node' : Node) : Prop :=
  (node' = node ∧ s'.workers.get? node.nodeId = s.workers.get? node.nodeId ∧
    (node.phase = .rollingBack → failed = true ∧ Stopped clock nodes r s s' node)) ∨
  (node.phase = .rollingBack ∧ RollsOn clock s s' r (r.recordOf s node.nodeId) node node' ∧
    RollsRecords r s s' node node' ∧ (node'.phase = .rollbackFailed → failed = true))

lemma Stopped.more {first : Node}
    (h : Stopped clock nodes r s s' node) : Stopped clock (first :: nodes) r s s' node := by
  obtain ⟨m, here, rest⟩ := h
  exact ⟨m, List.mem_cons_of_mem _ here, rest⟩

lemma RollbackFails.mono {s₀ : System} {r₀ : Rollout} (h : RollbackFails clock s₀ s₁ r₀ record node) (same : r.Same r₀) (first : s.reads ≤ s₀.reads)
    (last : s₁.reads ≤ s'.reads) : RollbackFails clock s s' r record node :=
  h.imp_right fun ⟨k, from_, upto, late⟩ => ⟨k, first.trans from_, upto.trans_le last, same.timeout ▸ late⟩

lemma RollsOn.fails (h : RollsOn clock s s' r record node node') (back : node.phase = .rollingBack)
    (failed : node'.phase = .rollbackFailed) : RollbackFails clock s s' r record node := by
  cases h with
  | failed _ why => exact why
  | waits => cases back.symm.trans failed
  | confirmed => cases failed

lemma RollsOn.later (h : RollsOn clock s s₁ r record node node') (grows : ∀ e ∈ s₁.log, e ∈ s'.log) (reads : s₁.reads ≤ s'.reads) :
    RollsOn clock s s' r record node node' := by
  cases h with
  | failed error why => exact .failed error (why.mono (.refl r) le_rfl reads)
  | waits q here ensured => exact .waits q here (ensured.mono grows)
  | confirmed w q is ensured passes => exact .confirmed w q is (ensured.mono grows) passes

lemma RollsOn.congr (h : RollsOn clock s₁ s' r₁ record node node') (same : r.Same r₁) (reads : s.reads ≤ s₁.reads) :
    RollsOn clock s s' r record node node' := by
  cases h with
  | failed error why => exact .failed error (why.mono same reads le_rfl)
  | waits q here ensured => exact .waits q here (ensured.congr same.toAlike)
  | confirmed w q is ensured passes =>
    refine .confirmed w q is (ensured.congr same.toAlike) { passes with operation := ?_ }
    rw [passes.operation, same.operationId]

lemma recordOf_congr {node : NodeId}
    (coordinator : r'.coordinator node = r.coordinator node)
    (workers : s'.workers.get? node = s.workers.get? node) : r'.recordOf s' node = r.recordOf s node := by
  rw [Rollout.recordOf, Rollout.recordOf, coordinator, workers]

lemma RollsRecords.congr (h : RollsRecords r₁ s₁ s' node node') (same : r.Alike r₁)
    (before : s₁.workers.get? node.nodeId = s.workers.get? node.nodeId) : RollsRecords r s s' node node' := by
  obtain ⟨core, ⟨f, after, records⟩, failed, finished⟩ := h
  rw [before] at core after failed
  rw [same.operationId] at finished
  exact ⟨core, ⟨f, after, fun w => (records w).imp_left (.congr same)⟩, failed, finished⟩

lemma RollsRecords.later (h : RollsRecords r s s₁ node node') (after : s'.workers.get? node.nodeId = s₁.workers.get? node.nodeId)
    (noted : ∀ f ∈ s₁.finished, f ∈ s'.finished) : RollsRecords r s s' node node' := by
  obtain ⟨core, written, failed, finished⟩ := h
  rw [← after] at core written failed
  exact ⟨core, written, failed, fun is => noted _ (finished is)⟩

variable (clock) in
/-- The loop of `reconcile_rollout` over the nodes that roll back. -/
lemma rollNodesOn_ends (r : Rollout) (nodes : List Node) (nodup : (nodes.map (·.nodeId)).Nodup) (s : System) :
    ∃ nodes' r' failed s', rollNodesOn clock r nodes s = (.ok (nodes', r', failed), s') ∧
      BesideAll nodes r s r' s' ∧ List.Forall₂ (Rolled clock failed nodes r s s') nodes nodes' ∧
      (failed = true → ∃ node ∈ nodes', node.phase = .rollbackFailed) := by
  induction nodes generalizing r s with
  | nil => exact ⟨[], r, false, s, rfl, .refl [] r s, .nil, by rintro ⟨⟩⟩
  | cons node nodes ih =>
    rw [List.map_cons, List.nodup_cons] at nodup
    have apart : ∀ n ∈ nodes, n.nodeId ∉ [node].map (·.nodeId) := by
      intro n member is
      rw [List.map_singleton, List.mem_singleton] at is
      exact nodup.1 (is ▸ List.mem_map_of_mem member)
    by_cases back : node.phase = .rollingBack
    · obtain ⟨node₁, r₁, failed₁, s₁, run, first, rolls, records, failing⟩ : ∃ node' r' failed s',
          (if isCoreNode node.nodeId then rollCoreOn clock r node else rollWorkerOn clock r node) s =
            (.ok (node', r', failed), s') ∧ BesideAll [node] r s r' s' ∧
          RollsOn clock s s' r (r.recordOf s node.nodeId) node node' ∧
          RollsRecords r s s' node node' ∧ (node'.phase = .rollbackFailed ↔ failed = true) := by
        cases core : isCoreNode node.nodeId with
        | true => exact rollCoreOn_ends clock r node core back s
        | false => exact rollWorkerOn_ends clock r node core back s
      have begins : rollNodesOn clock r (node :: nodes) s = (if failed₁ then pure (node₁ :: nodes, r₁, true) else
          rollNodesOn clock r₁ nodes >>= fun rest => pure (node₁ :: rest.1, rest.2)) s₁ := by
        rw [rollNodesOn, if_neg (not_not_intro back), ← ite_bind, bind_of_ok run]
      cases failed₁ with
      | true =>
        refine ⟨node₁ :: nodes, r₁, true, s₁, begins, first.cons (.refl nodes r₁ s₁), .cons ?_ ?_, fun _ => ?_⟩
        · exact .inr ⟨back, rolls, records, fun _ => rfl⟩
        · refine List.forall₂_same.2 fun n member => .inl ⟨rfl, ?_, fun _ => ⟨rfl, node, List.mem_cons_self, ?_, back, ?_⟩⟩
          · exact first.workers _ (apart n member)
          · exact fun is => nodup.1 (is ▸ List.mem_map_of_mem member)
          · exact rolls.fails back (failing.2 rfl)
        · exact ⟨node₁, List.mem_cons_self, failing.2 rfl⟩
      | false =>
        obtain ⟨nodes', r', failed, s', run', rest, each, why⟩ := ih r₁ nodup.2 s₁
        refine ⟨node₁ :: nodes', r', failed, s', ?_, first.cons rest, .cons ?_ ?_, fun is => ?_⟩
        · rw [begins]
          show (rollNodesOn clock r₁ nodes >>= _) s₁ = _
          rw [bind_of_ok run']
          rfl
        · refine .inr ⟨back, rolls.later rest.log rest.reads, ?_, fun is => absurd (failing.1 is) (by decide)⟩
          exact records.later (rest.workers _ nodup.1) rest.finished
        · refine ((List.forall₂_and_left _ _).2 ⟨apart, each⟩).imp ?_
          rintro n n' ⟨other, rolled⟩
          have before := first.workers _ other
          rcases rolled with ⟨stays, workers, stopped⟩ | ⟨back, rolls, records, why⟩
          · refine .inl ⟨stays, workers.trans before, fun back => ?_⟩
            obtain ⟨is, m, here, apart', back', fails⟩ := stopped back
            refine ⟨is, m, List.mem_cons_of_mem _ here, apart', back', ?_⟩
            rw [← recordOf_congr (first.coordinators _ (apart m here)) (first.workers _ (apart m here))]
            exact fails.mono first.same first.reads le_rfl
          · have record := recordOf_congr (first.coordinators _ other) before
            exact .inr ⟨back, record ▸ rolls.congr first.same first.reads, records.congr first.same.toAlike before, why⟩
        · obtain ⟨n, member, is⟩ := why is
          exact ⟨n, List.mem_cons_of_mem _ member, is⟩
    · obtain ⟨nodes', r', failed, s', run', rest, each, why⟩ := ih r nodup.2 s
      refine ⟨node :: nodes', r', failed, s', ?_, (BesideAll.refl [node] r s).cons rest, .cons ?_ (each.imp ?_),
        fun is => ?_⟩
      · rw [rollNodesOn, if_pos back, bind_of_ok run']
        rfl
      · exact .inl ⟨rfl, rest.workers _ nodup.1, fun is => absurd is back⟩
      · exact fun n n' => Or.imp_left fun still => ⟨still.1, still.2.1, fun back =>
          ⟨(still.2.2 back).1, (still.2.2 back).2.more⟩⟩
      · obtain ⟨n, member, is⟩ := why is
        exact ⟨n, List.mem_cons_of_mem _ member, is⟩

end Vertep.Rolling
