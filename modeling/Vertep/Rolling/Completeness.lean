import Vertep.Rolling.Discipline
import Vertep.Rolling.SelfTests

/-!
# Whether a rollback reaches every node (`core/rolling_update.py`)

Whether `_begin_rollback` takes a node for updated is seen from its phase and from the worker records. It has not
the coordinator records of CORE nodes, an active node that fails is marked before, and a second call sees the
phases the first one left. The results say when this does not matter: the nodes that had been updated are then
rolled back, all of them, before the rollout ends.
-/

namespace Vertep.Rolling
open Lib Command

variable {clock : ℕ → Instant}

def ReportsTarget (s : System) (r : Rollout) (n : Node) : Prop :=
  ∃ w, s.workers.get? n.nodeId = some w ∧ w.version = some r.targetVersion

/-- The node has been updated, or its rollback has begun. -/
def HadUpdated (s : System) (r : Rollout) (n : Node) : Prop :=
  n.phase = .ready ∨ n.phase = .selfTesting ∨ n.phase = .rollingBack ∨ n.phase = .rolledBack ∨ ReportsTarget s r n ∨
    (isCoreNode n.nodeId = true ∧ (r.coordinator n.nodeId).version = some r.targetVersion)

def FinishedBack (s : System) (r : Rollout) (n : Node) : Prop :=
  ⟨n.nodeId, r.operationId, n.previousVersion⟩ ∈ s.finished

/-- The record of a node that rolls back names its previous version. -/
def TargetsPrevious (s : System) (r : Rollout) (n : Node) : Prop :=
  if isCoreNode n.nodeId then (r.coordinator n.nodeId).rollbackTargetVersion = n.previousVersion.map r.directive
  else ∀ w, s.workers.get? n.nodeId = some w → w.rollbackTargetVersion = n.previousVersion.map r.directive

/-- The step is one in which `_begin_rollback` runs. -/
def BeginsRollback (op : Op) (r r' : Rollout) : Prop :=
  (op = .rollback ∧ r.state.Live) ∨
    (op = .reconcile ∧ r.state = .running ∧ (r'.state = .rollingBack ∨ r'.state = .failed))

variable {s s' s₀ s₁ : System} {r r' r₁ : Rollout} {n n' node node₀ : Node}

lemma updated_iff :
    n.updated (s.workers.get? n.nodeId) r.targetVersion = true ↔
      n.phase = .ready ∨ n.phase = .selfTesting ∨ ReportsTarget s r n := by
  unfold Node.updated ReportsTarget
  cases s.workers.get? n.nodeId with
  | none => simp
  | some w => simp [or_assoc]

variable (clock) in
/-- Where a rollback begins, the nodes that had been updated can be told from their phases and the worker records,
also after the active node has been marked; and none was updated from the target version. -/
structure Recoverable (s : System) (op : Op) : Prop where
  operator : op = .rollback → ∀ r, s.rollout = some r → r.state.Live → ∀ n ∈ r.nodes, HadUpdated s r n →
    (n.phase = .ready ∨ n.phase = .selfTesting ∨ n.phase = .rolledBack ∨ ReportsTarget s r n) ∧
      n.previousVersion ≠ some r.targetVersion
  failure : op = .reconcile → ∀ r, s.rollout = some r → r.state = .running → ∀ before node after node₀ s₀,
    r.nodes = before ++ node :: after → Takes clock r s before node after node₀ s₀ → Fails clock s₀ r node₀ →
    (∀ n ∈ r.nodes, HadUpdated s r n → (n.phase = .ready ∨ ReportsTarget s r n) ∧
      n.previousVersion ≠ some r.targetVersion)

def System.Noted (s : System) : Prop :=
  ∀ r, s.rollout = some r → ∀ n ∈ r.nodes, n.phase = .rolledBack → FinishedBack s r n

/-! ## The step in which a rollback begins -/

/-- What `_begin_rollback` owes to a node that had been updated. -/
structure TurnedBack (s' : System) (r' : Rollout) (n n' : Node) : Prop where
  phase : n'.phase = .rollingBack
  nodeId : n'.nodeId = n.nodeId
  previousVersion : n'.previousVersion = n.previousVersion
  targets : TargetsPrevious s' r' n'

lemma turnedBack_of_updated (alike : r.Alike r')
    (turns : TurnsBack s'.log r (s.workers.get? n.nodeId) n n') (records : TurnsRecords r r' s s' n)
    (updated : n.updated (s.workers.get? n.nodeId) r.targetVersion = true) : TurnedBack s' r' n n' := by
  cases turns with
  | back t own _ _ =>
    refine ⟨rfl, rfl, rfl, ?_⟩
    unfold TargetsPrevious
    rw [alike.directive]
    cases core : isCoreNode n.nodeId with
    | true =>
      rw [if_pos rfl]
      exact records.core core updated
    | false =>
      rw [if_neg Bool.false_ne_true]
      intro w found
      obtain ⟨q, t', written⟩ := records.written core updated
      rw [written, Option.map_eq_some_iff] at found
      obtain ⟨w₀, _, rfl⟩ := found
      rfl
  | stays not_updated | ends not_updated => cases not_updated.symm.trans updated

lemma Begins.alike (h : Begins r s s' r') : r.Alike r' :=
  ⟨h.operationId, h.targetVersion⟩

/-- A node that was marked, or left alone, before the rollback began. -/
structure MarkedAs (s s₁ : System) (n n₁ : Node) : Prop where
  nodeId : n₁.nodeId = n.nodeId
  previousVersion : n₁.previousVersion = n.previousVersion
  ready : n.phase = .ready → n₁.phase = .ready
  version : (s₁.workers.get? n.nodeId).map (·.version) = (s.workers.get? n.nodeId).map (·.version)

lemma Takes.kept {before after : List Node}
    (h : Takes clock r s before node after node₀ s₀) : node₀.nodeId = node.nodeId ∧
      node₀.previousVersion = node.previousVersion ∧ node.phase ≠ .ready := by
  cases h with
  | active _ active =>
    refine ⟨rfl, rfl, fun ready => ?_⟩
    rw [ready] at active
    exact absurd active (by decide)
  | pending _ _ pending => exact ⟨rfl, rfl, fun ready => nomatch ready.symm.trans pending⟩

lemma Marked.each {before after : List Node}
    (nodup : (r.nodes.map (·.nodeId)).Nodup) (nodes : r.nodes = before ++ node :: after)
    (takes : Takes clock r s before node after node₀ s₀) (marked : Marked r before node₀ after s₀ r₁ s₁) :
    List.Forall₂ (fun n n₁ => n ∈ r.nodes ∧ MarkedAs s s₁ n n₁) r.nodes r₁.nodes := by
  obtain ⟨error, is⟩ := marked.nodes
  obtain ⟨nodeId, previous, begun⟩ := takes.kept
  rw [nodes] at nodup
  have apart : ∀ n, n ∈ before ∨ n ∈ after → n.nodeId ≠ node₀.nodeId := fun n member =>
    nodeId ▸ others_apart nodup n member
  have alone : ∀ n, n ∈ before ∨ n ∈ after → MarkedAs s s₁ n n := by
    intro n member
    refine ⟨rfl, rfl, id, ?_⟩
    rw [marked.others n.nodeId (apart n member), takes.begun.1]
  have every : ∀ n, n ∈ before ++ node :: after → n ∈ r.nodes := fun n member => nodes ▸ member
  refine (List.forall₂_and_left (p := (· ∈ r.nodes)) _ _).2 ⟨fun _ here => here, ?_⟩
  rw [nodes, is]
  refine List.rel_append (List.forall₂_same.2 fun n member => alone n (.inl member))
    (.cons ⟨nodeId, previous, fun ready => absurd ready begun, ?_⟩
      (List.forall₂_same.2 fun n member => alone n (.inr member)))
  rw [← nodeId, marked.version, takes.begun.1]

lemma reportsTarget_iff :
    ReportsTarget s r n ↔ (s.workers.get? n.nodeId).map (·.version) = some (some r.targetVersion) := by
  rw [Option.map_eq_some_iff]
  rfl

lemma turnedBack_of_marked {n₁ : Node} (marked : MarkedAs s s₁ n n₁)
    (alike : r.Alike r₁) (begins : r₁.Alike r') (turns : TurnsBack s'.log r₁ (s₁.workers.get? n₁.nodeId) n₁ n')
    (records : TurnsRecords r₁ r' s₁ s' n₁) (told : n.phase = .ready ∨ ReportsTarget s r n) :
    TurnedBack s' r' n n' := by
  have updated : n₁.updated (s₁.workers.get? n₁.nodeId) r₁.targetVersion = true := by
    rw [updated_iff]
    rcases told with ready | reports
    · exact .inl (marked.ready ready)
    · refine .inr (.inr ?_)
      rw [reportsTarget_iff] at reports ⊢
      rw [marked.nodeId, marked.version, reports, alike.targetVersion]
  obtain ⟨phase, nodeId, previous, targets⟩ := turnedBack_of_updated begins turns records updated
  exact ⟨phase, nodeId.trans marked.nodeId, previous.trans marked.previousVersion, targets⟩

/-- What a step in which a rollback begins makes of a node. -/
structure Turned (s s' : System) (r r' : Rollout) (n n' : Node) : Prop where
  nodeId : n'.nodeId = n.nodeId
  previousVersion : n'.previousVersion = n.previousVersion
  targets : n'.phase = .rollingBack → TargetsPrevious s' r' n'
  updated : HadUpdated s r n → (n'.phase = .rollingBack ∨ FinishedBack s r n) ∧
    n.previousVersion ≠ some r.targetVersion

lemma TurnsBack.previousVersion {log : List Issued} {worker : Option Record}
    (h : TurnsBack log r worker n n') : n'.previousVersion = n.previousVersion := by
  cases h <;> rfl

lemma turned_of (alike : r.Alike r')
    (turns : TurnsBack s'.log r (s.workers.get? n.nodeId) n n') (records : TurnsRecords r r' s s' n) :
    n'.nodeId = n.nodeId ∧ n'.previousVersion = n.previousVersion ∧
      (n'.phase = .rollingBack → TargetsPrevious s' r' n') := by
  refine ⟨turns.persists.nodeId, turns.previousVersion, fun back => ?_⟩
  refine (turnedBack_of_updated alike turns records ?_).targets
  cases turns with
  | back _ _ updated => exact updated
  | stays _ ended => rcases ended with is | is <;> cases is.symm.trans back
  | ends => cases back

lemma begins_turned {op : Op} (distinct : s.Distinct) (noted : s.Noted)
    (met : Recoverable clock s op) (change : Change clock s op s') (found : s.rollout = some r)
    (found' : s'.rollout = some r') (begins : BeginsRollback op r r') :
    r.Alike r' ∧ r'.state = (if r'.nodes.any (·.phase = .rollingBack) then .rollingBack else .failed) ∧
      List.Forall₂ (Turned s s' r r') r.nodes r'.nodes := by
  cases change with
  | turned r₀ r₁ _ found₀ live turned =>
    cases found.symm.trans found₀
    cases found'.symm.trans turned.rollout
    refine ⟨turned.alike, turned.state, ?_⟩
    refine ((List.forall₂_and_left (p := (· ∈ r.nodes)) _ _).2 ⟨fun _ here => here, turned.nodes⟩).imp ?_
    rintro n n' ⟨here, turns, records⟩
    obtain ⟨nodeId, previous, targets⟩ := turned_of turned.alike turns records
    refine ⟨nodeId, previous, targets, fun updated => ?_⟩
    obtain ⟨told, reverts⟩ := met.operator rfl r found live n here updated
    refine ⟨?_, reverts⟩
    have back : n.updated (s.workers.get? n.nodeId) r.targetVersion = true → n'.phase = .rollingBack :=
      fun is => (turnedBack_of_updated turned.alike turns records is).phase
    rcases told with ready | testing | done | reports
    · exact .inl (back (updated_iff.2 (.inl ready)))
    · exact .inl (back (updated_iff.2 (.inr (.inl testing))))
    · exact .inr (noted r found n here done)
    · exact .inl (back (updated_iff.2 (.inr (.inr reports))))
  | failed r₀ r₁ r₂ before after node node₀ s₀ s₁ _ found₀ running nodes takes fails marked turned =>
    cases found.symm.trans found₀
    cases found'.symm.trans turned.rollout
    have alike : r.Alike r' :=
      ⟨turned.operationId.trans marked.alike.operationId, turned.targetVersion.trans marked.alike.targetVersion⟩
    refine ⟨alike, turned.state, forall₂_comp ?_ (marked.each (distinct r found) nodes takes) turned.nodes⟩
    rintro n n₁ n' ⟨here, as⟩ ⟨turns, records⟩
    obtain ⟨nodeId, previous, targets⟩ := turned_of turned.alike turns records
    refine ⟨nodeId.trans as.nodeId, previous.trans as.previousVersion, targets, fun updated => ?_⟩
    obtain ⟨told, reverts⟩ := met.failure rfl r found running before node after node₀ s₀ nodes takes fails n here updated
    exact ⟨.inl (turnedBack_of_marked as marked.alike turned.alike turns records told).phase, reverts⟩
  | advanced r₀ r₁ _ _ _ _ node' _ _ found₀ running _ _ advanced =>
    cases found.symm.trans found₀
    cases found'.symm.trans advanced.rollout
    rcases begins with ⟨is, _⟩ | ⟨_, _, ended⟩
    · cases is
    · rw [advanced.state] at ended
      rcases r.after_cases node' with ⟨is, _⟩ | ⟨is, _⟩
      · rw [is] at ended
        rcases ended with is | is <;> cases is
      · rw [is, running] at ended
        rcases ended with is | is <;> cases is
  | succeeded r₀ found₀ running =>
    cases found.symm.trans found₀
    cases found'
    rcases begins with ⟨is, _⟩ | ⟨_, _, ended⟩
    · cases is
    · rcases ended with is | is <;> cases is
  | round r₀ _ _ _ found₀ back =>
    cases found.symm.trans found₀
    rcases begins with ⟨is, _⟩ | ⟨_, running, _⟩
    · cases is
    · cases running.symm.trans back
  | cleaned r₀ _ found₀ cancelled =>
    cases found.symm.trans found₀
    rcases begins with ⟨is, _⟩ | ⟨_, running, _⟩
    · cases is
    · cases running.symm.trans cancelled
  | nothing _ idle =>
    rcases begins with ⟨is, live⟩ | ⟨is, running, _⟩
    · exact absurd live (idle.rollback is r found)
    · exact absurd running (idle.reconcile is r found).1
  | workers => rcases begins with ⟨is, _⟩ | ⟨is, _⟩ <;> cases is
  | coordinated => rcases begins with ⟨is, _⟩ | ⟨is, _⟩ <;> cases is
  | started => rcases begins with ⟨is, _⟩ | ⟨is, _⟩ <;> cases is
  | promoted => rcases begins with ⟨is, _⟩ | ⟨is, _⟩ <;> cases is
  | cancelled => rcases begins with ⟨is, _⟩ | ⟨is, _⟩ <;> cases is

/-! ## Until the rollout ends -/

lemma exists_of_forall₂ {R : Node → Node → Prop} {nodes nodes' : List Node} (h : List.Forall₂ R nodes nodes')
    (here : n ∈ nodes) : ∃ n' ∈ nodes', R n n' := by
  induction h with
  | nil => cases here
  | cons first _ ih =>
    rcases List.mem_cons.1 here with rfl | here
    · exact ⟨_, List.mem_cons_self, first⟩
    · obtain ⟨n', here', is⟩ := ih here
      exact ⟨n', List.mem_cons_of_mem _ here', is⟩

lemma Change.notes {op : Op} (h : Change clock s op s') : ∀ f ∈ s.finished, f ∈ s'.finished := by
  cases h with
  | turned _ _ _ _ _ begins => exact begins.finished
  | cleaned r _ _ _ cleaned =>
    rw [cleaned.rest]
    exact fun _ h => h
  | advanced _ _ _ _ _ _ _ _ _ _ _ _ takes advanced =>
    rw [advanced.finished, takes.begun.2.2.1]
    exact fun _ h => h
  | failed _ _ _ _ _ _ _ _ _ _ _ _ _ takes _ marked begins =>
    intro f member
    refine begins.finished f ?_
    rw [marked.finished, takes.begun.2.2.1]
    exact member
  | round _ _ _ _ _ _ rounds => exact rounds.finished
  | _ => exact fun _ h => h

/-- A rollback of this node to this version has begun in an operation, and the operation is past updating: the node has
finished, it is rolling back, or the operation was cancelled or its rollback has failed. -/
structure Owes (operation : ℕ) (id : NodeId) (version : Option Version) (s : System) : Prop where
  drawn : operation < s.drawn
  owed : ∀ r, s.rollout = some r → r.operationId = operation →
    r.state = .cancelled ∨ r.state = .rollbackFailed ∨
    (¬ r.state.Forward ∧ ⟨id, operation, version⟩ ∈ s.finished) ∨
    (r.state = .rollingBack ∧ ∃ n ∈ r.nodes, n.nodeId = id ∧ n.previousVersion = version ∧ n.phase = .rollingBack)

lemma owes_change {op : Op} {operation : ℕ} {id : NodeId} {version : Option Version}
    (change : Change clock s op s') (met : Recoverable clock s op) (h : Owes operation id version s) :
    Owes operation id version s' := by
  have notes := change.notes
  refine ⟨h.drawn.trans_le change.grows.2, fun r' found' same => ?_⟩
  cases change with
  | nothing | workers => exact h.owed r' found' same
  | coordinated id _ _ r record found =>
    cases found'
    exact h.owed r found same
  | started =>
    cases found'
    exact absurd same h.drawn.ne'
  | promoted r found awaiting =>
    cases found'
    rcases h.owed r found same with is | is | ⟨forward, _⟩ | ⟨is, _⟩
    · cases awaiting.symm.trans is
    · cases awaiting.symm.trans is
    · exact absurd (.inr awaiting) forward
    · cases awaiting.symm.trans is
  | cancelled r found =>
    cases found'
    exact .inl rfl
  | turned r r₁ _ found live begins =>
    cases found'.symm.trans begins.rollout
    rcases h.owed r found (begins.operationId.symm.trans same) with is | is | ⟨_, done⟩ | ⟨_, n, here, id, previous, back⟩
    · rw [is] at live
      exact absurd live (by decide)
    · rw [is] at live
      exact absurd live (by decide)
    · exact .inr (.inr (.inl ⟨begins.halts.1, notes _ done⟩))
    · obtain ⟨n', here', turns, records⟩ := exists_of_forall₂ begins.nodes here
      have told := (met.operator rfl r found live n here (.inr (.inr (.inl back)))).1
      have reports : ReportsTarget s r n := by
        rcases told with is | is | is | reports
        · cases is.symm.trans back
        · cases is.symm.trans back
        · cases is.symm.trans back
        · exact reports
      have turned := turnedBack_of_updated begins.alike turns records (updated_iff.2 (.inr (.inr reports)))
      refine .inr (.inr (.inr ⟨?_, n', here', turned.nodeId.trans id, turned.previousVersion.trans previous,
        turned.phase⟩))
      rw [begins.state, if_pos]
      exact List.any_eq_true.2 ⟨n', here', decide_eq_true turned.phase⟩
  | cleaned r _ found _ cleaned =>
    rw [cleaned.rest] at found' ⊢
    exact h.owed r' found' same
  | advanced r r₁ _ _ _ _ _ _ _ found running _ _ advanced =>
    cases found'.symm.trans advanced.rollout
    rcases h.owed r found (advanced.alike.operationId.symm.trans same) with is | is | ⟨forward, _⟩ | ⟨is, _⟩
    · cases running.symm.trans is
    · cases running.symm.trans is
    · exact absurd (.inl running) forward
    · cases running.symm.trans is
  | failed r r₁ r₂ _ _ _ _ _ _ _ found running _ _ _ marked begins =>
    cases found'.symm.trans begins.rollout
    have same := (begins.operationId.trans marked.alike.operationId).symm.trans same
    rcases h.owed r found same with is | is | ⟨forward, _⟩ | ⟨is, _⟩
    · cases running.symm.trans is
    · cases running.symm.trans is
    · exact absurd (.inl running) forward
    · cases running.symm.trans is
  | succeeded r found running =>
    cases found'
    rcases h.owed r found same with is | is | ⟨forward, _⟩ | ⟨is, _⟩
    · cases running.symm.trans is
    · cases running.symm.trans is
    · exact absurd (.inl running) forward
    · cases running.symm.trans is
  | round r r₁ failed _ found back rounds =>
    cases found'.symm.trans rounds.rollout
    rcases h.owed r found (rounds.alike.operationId.symm.trans same) with is | is | ⟨_, done⟩ | ⟨_, n, here, is, previous, rolling⟩
    · cases back.symm.trans is
    · cases back.symm.trans is
    · exact .inr (.inr (.inl ⟨rounds.halts.1, notes _ done⟩))
    · cases failed with
      | true =>
        refine .inr (.inl ?_)
        rw [rounds.state, if_pos rfl]
      | false =>
        obtain ⟨n', here', rolled⟩ := exists_of_forall₂ rounds.nodes here
        rcases rolled with ⟨_, _, stopped⟩ | ⟨_, rolls, records, why⟩
        · cases (stopped rolling).1
        · have finishes := records.finished
          cases rolls with
          | failed => cases why rfl
          | waits q =>
            refine .inr (.inr (.inr ⟨?_, _, here', is, previous, rolling⟩))
            rw [rounds.state, if_neg Bool.false_ne_true, if_neg]
            intro all
            exact of_decide_eq_true (List.all_eq_true.1 all _ here') rolling
          | confirmed =>
            refine .inr (.inr (.inl ⟨rounds.halts.1, ?_⟩))
            have noted := finishes rfl
            rwa [is, previous, rounds.alike.operationId.symm.trans same] at noted

lemma TurnsBack.not_back {log : List Issued} {worker : Option Record}
    (h : TurnsBack log r worker n n') : n'.phase ≠ .rolledBack := by
  cases h with
  | back => exact nofun
  | stays _ ended => rcases ended with is | is <;> rw [is] <;> exact nofun
  | ends => exact nofun

lemma FinishedBack.mono (h : FinishedBack s r n)
    (notes : ∀ f ∈ s.finished, f ∈ s'.finished) (same : r'.operationId = r.operationId) : FinishedBack s' r' n := by
  unfold FinishedBack
  rw [same]
  exact notes _ h

lemma noted_change {op : Op} (change : Change clock s op s') (noted : s.Noted) : s'.Noted := by
  have notes := change.notes
  intro r' found' n' here' back
  cases change with
  | nothing | workers => exact noted r' found' n' here' back
  | coordinated _ _ _ r record found =>
    cases found'
    exact noted r found n' here' back
  | started =>
    cases found'
    cases (mem_newNodes here').1.symm.trans back
  | promoted r found =>
    cases found'
    exact noted r found n' here' back
  | cancelled r found =>
    cases found'
    refine forall_of_forall₂ (r.cancel_nodes s.drawn)
      (Q := fun n => n.phase = .rolledBack → FinishedBack s r n) (noted r found) (fun n n' how held back => ?_)
      n' here' back
    rcases how with rfl | ⟨_, rfl⟩
    · exact held back
    · cases back
  | turned r r₁ _ found _ begins =>
    cases found'.symm.trans begins.rollout
    exact absurd back (forall_of_forall₂ begins.nodes (P := fun _ => True) (Q := fun n => n.phase ≠ .rolledBack)
      (fun _ _ => trivial) (fun _ _ turns _ => turns.1.not_back) n' here')
  | cleaned r _ found _ cleaned =>
    rw [cleaned.rest] at found'
    exact (noted r' found' n' here' back).mono notes rfl
  | advanced r r₁ before after node node₀ node' s₀ _ found running nodes takes advanced =>
    cases found'.symm.trans advanced.rollout
    obtain ⟨record, _, advances⟩ := advanced.judged
    have active : node₀.phase.Active := by
      cases takes with
      | active _ active => exact active
      | pending => exact .inl rfl
    have held := noted r found
    rw [nodes] at held
    rw [advanced.nodes] at here'
    refine FinishedBack.mono (forall_middle held (fun _ back => ?_) n' here' back) notes advanced.alike.operationId
    rcases advances.moves active with is | is
    · cases is.symm.trans back
    · rw [back] at is
      exact absurd is (by decide)
  | failed r r₁ r₂ _ _ _ _ _ _ _ _ _ _ _ _ _ begins =>
    cases found'.symm.trans begins.rollout
    exact absurd back (forall_of_forall₂ begins.nodes (P := fun _ => True) (Q := fun n => n.phase ≠ .rolledBack)
      (fun _ _ => trivial) (fun _ _ turns _ => turns.1.not_back) n' here')
  | succeeded r found =>
    cases found'
    exact noted r found n' here' back
  | round r r₁ failed _ found _ rounds =>
    cases found'.symm.trans rounds.rollout
    refine forall_of_forall₂ rounds.nodes (Q := fun n => n.phase = .rolledBack → FinishedBack s' r' n)
      (noted r found) (fun n n' rolled held back => ?_) n' here' back
    rcases rolled with ⟨rfl, _⟩ | ⟨_, rolls, records, _⟩
    · exact (held back).mono notes rounds.alike.operationId
    · have finished := records.finished back
      have same : n'.nodeId = n.nodeId ∧ n'.previousVersion = n.previousVersion := by cases rolls <;> exact ⟨rfl, rfl⟩
      unfold FinishedBack
      rwa [same.1, same.2, rounds.alike.operationId]

lemma ReachableWhen.noted {C : System → Op → Prop} (h : ReachableWhen clock C s) : s.Noted :=
  h.invariant (fun _ found => nomatch found) fun _ _ _ _ before _ change => noted_change change before

variable (clock) in
/-- In every run in which, wherever a rollback begins, the nodes that had been updated can be told from their phases and
the worker records and were not updated from the target version: each of them is rolling back afterwards, or had
finished, its record names its previous version, and when the rollout ends in `FAILED` or `ROLLED_BACK` it has
finished rolling back to that version, which is not the target. -/
theorem rollback_is_complete {s : System} (h : ReachableWhen clock (Recoverable clock) s) {op : Op}
    (met : Recoverable clock s op) {r r' : Rollout} (found : s.rollout = some r)
    (found' : (op.after clock s).rollout = some r') (begins : BeginsRollback op r r') :
    List.Forall₂ (fun n n' => HadUpdated s r n →
      (n'.phase = .rollingBack ∨ FinishedBack s r n) ∧ n'.previousVersion = n.previousVersion ∧
      (n'.phase = .rollingBack → TargetsPrevious (op.after clock s) r' n') ∧
      ∀ s₂ r₂, Reach (· = op.after clock s) (fun s s' => ∃ op, Recoverable clock s op ∧ s' = op.after clock s) s₂ →
        s₂.rollout = some r₂ → r₂.operationId = r.operationId → r₂.state = .failed ∨ r₂.state = .rolledBack →
        FinishedBack s₂ r n ∧ n.previousVersion ≠ some r.targetVersion) r.nodes r'.nodes := by
  have change : Change clock s op (op.after clock s) := op.change h.distinct
  obtain ⟨alike, state, nodes⟩ := begins_turned h.distinct h.noted met change found found' begins
  have placed : List.Forall₂ (fun n n' => n' ∈ r'.nodes ∧ Turned s (op.after clock s) r r' n n') r.nodes r'.nodes :=
    List.Forall₂.flip ((List.forall₂_and_left (p := (· ∈ r'.nodes)) _ _).2 ⟨fun _ here => here, nodes.flip⟩)
  refine placed.imp ?_
  rintro n n' ⟨here', turned⟩ updated
  obtain ⟨told, reverts⟩ := turned.updated updated
  refine ⟨told, turned.previousVersion, turned.targets, fun s₂ r₂ later found₂ same ended => ⟨?_, reverts⟩⟩
  have owes : Owes r.operationId n.nodeId n.previousVersion (op.after clock s) := by
    refine ⟨(h.drawn found).trans_le change.grows.2, fun r₁ found₁ _ => ?_⟩
    cases found'.symm.trans found₁
    rcases told with back | done
    · refine .inr (.inr (.inr ⟨?_, n', here', turned.nodeId, turned.previousVersion, back⟩))
      rw [state, if_pos]
      exact List.any_eq_true.2 ⟨n', here', decide_eq_true back⟩
    · refine .inr (.inr (.inl ⟨?_, change.notes _ done⟩))
      rw [state]
      split <;> decide
  have both : s₂.Distinct ∧ Owes r.operationId n.nodeId n.previousVersion s₂ := by
    refine Reach.invariant (I := fun s => s.Distinct ∧ Owes r.operationId n.nodeId n.previousVersion s)
      (fun s is => ?_) (fun s s' ⟨distinct, owes⟩ => ?_) later
    · subst is
      exact ⟨change.distinct h.distinct, owes⟩
    · rintro ⟨op, met, rfl⟩
      have change : Change clock s op (op.after clock s) := op.change distinct
      exact ⟨change.distinct distinct, owes_change change met owes⟩
  rcases both.2.owed r₂ found₂ same with is | is | ⟨_, done⟩ | ⟨is, _⟩
  · rw [is] at ended
    rcases ended with is | is <;> cases is
  · rw [is] at ended
    rcases ended with is | is <;> cases is
  · exact done
  · rw [is] at ended
    rcases ended with is | is <;> cases is

/-! ## Two runs -/

instance (s : System) (r : Rollout) (n : Node) : Decidable (ReportsTarget s r n) := decidable_of_iff' _ reportsTarget_iff

instance (s : System) (r : Rollout) (n : Node) : Decidable (HadUpdated s r n) := by unfold HadUpdated; infer_instance

lemma recoverable_of_none (op : Op)
    (h : (s.rollout.all fun r => r.nodes.all fun n => !decide (HadUpdated s r n)) = true) :
    Recoverable clock s op := by
  have none : ∀ r, s.rollout = some r → ∀ n ∈ r.nodes, ¬ HadUpdated s r n := by
    intro r found n here
    rw [found, Option.all_some, List.all_eq_true] at h
    simpa using h n here
  exact ⟨fun _ r found _ n here updated => absurd updated (none r found n here),
    fun _ r found _ _ _ _ _ _ _ _ _ n here updated => absurd updated (none r found n here)⟩

def appliedNode : System := (reports "a" { version := some "2" }).after still updatingNode

lemma appliedNode_reachable : ReachableWhen still (Recoverable still) appliedNode :=
  .step (.step (.step (.step (.init rfl) ⟨oneNode, recoverable_of_none _ rfl, rfl⟩)
    ⟨reports "a" { version := some "1" }, recoverable_of_none _ (by decide +kernel), rfl⟩)
    ⟨.reconcile, recoverable_of_none _ (by decide +kernel), rfl⟩)
    ⟨reports "a" { version := some "2" }, recoverable_of_none _ (by decide +kernel), rfl⟩

theorem rollback_is_complete_applied : ∃ r r', appliedNode.rollout = some r ∧
    (Op.rollback.after still appliedNode).rollout = some r' ∧
    List.Forall₂ (fun n n' => HadUpdated appliedNode r n → n'.phase = .rollingBack ∨ FinishedBack appliedNode r n)
      r.nodes r'.nodes := by
  have told : (appliedNode.rollout.all fun r => r.state = .running && r.nodes.all fun n =>
      decide (ReportsTarget appliedNode r n ∧ n.previousVersion ≠ some r.targetVersion)) = true := by decide +kernel
  obtain ⟨r, found⟩ : ∃ r, appliedNode.rollout = some r := Option.isSome_iff_exists.1 (by decide +kernel)
  obtain ⟨r', found'⟩ : ∃ r', (Op.rollback.after still appliedNode).rollout = some r' :=
    Option.isSome_iff_exists.1 (by decide +kernel)
  rw [found, Option.all_some, Bool.and_eq_true, List.all_eq_true, decide_eq_true_eq] at told
  have met : Recoverable still appliedNode .rollback := by
    refine ⟨fun _ r₀ found₀ _ n here _ => ?_, nofun⟩
    cases found.symm.trans found₀
    obtain ⟨reports, reverts⟩ := of_decide_eq_true (told.2 n here)
    exact ⟨.inr (.inr (.inr reports)), reverts⟩
  exact ⟨r, r', found, found', (rollback_is_complete still appliedNode_reachable met found found'
    (.inl ⟨rfl, .inl told.1⟩)).imp fun _ _ complete updated => (complete updated).1⟩

/-- A CORE node whose self-test of the new version has failed. -/
def brokenCore : System :=
  let report (f : Record → Record) : Op := .coordinator "core" none f
  (report fun c => { c with selfTest := ⟨some "FAILED", some 1, some 0, some "2", "", none⟩ }).after still <|
    Op.reconcile.after still <| (report fun c => { c with version := some "2" }).after still <|
      Op.reconcile.after still <| (report fun c => { c with version := some "1", drained := true }).after still <|
        (Op.start "2" ["core"] .custom 600 false).after still {}

lemma brokenCore_reachable : Reachable still brokenCore :=
  .step (.step (.step (.step (.step (.step (.init rfl) ⟨_, trivial, rfl⟩) ⟨_, trivial, rfl⟩) ⟨_, trivial, rfl⟩)
    ⟨_, trivial, rfl⟩) ⟨_, trivial, rfl⟩) ⟨_, trivial, rfl⟩

/-- A CORE node in `SELF_TESTING` is marked before the rollback begins, and stays at the target version. -/
theorem core_node_left_behind : ¬ ∀ (clock : ℕ → Instant) (s : System) (op : Op) (r r' : Rollout),
    Reachable clock s → s.rollout = some r → (op.after clock s).rollout = some r' → BeginsRollback op r r' →
    List.Forall₂ (fun n n' => HadUpdated s r n → n'.phase = .rollingBack ∨ FinishedBack s r n) r.nodes r'.nodes := by
  intro claim
  have before : brokenCore.rollout.map (fun r => (r.state, r.nodes.map (·.phase))) =
      some (.running, [.selfTesting]) := by decide +kernel
  have after : (Op.reconcile.after still brokenCore).rollout.map (fun r => (r.state, r.nodes.map (·.phase))) =
      some (.failed, [.failed]) := by decide +kernel
  have unfinished : brokenCore.finished = [] := by decide +kernel
  obtain ⟨r, found, is⟩ := Option.map_eq_some_iff.1 before
  obtain ⟨r', found', is'⟩ := Option.map_eq_some_iff.1 after
  simp only [Prod.mk.injEq] at is is'
  have complete := claim still brokenCore .reconcile r r' brokenCore_reachable found found'
    (.inr ⟨rfl, is.1, .inr is'.1⟩)
  obtain ⟨n, nodes, testing⟩ : ∃ n, r.nodes = [n] ∧ n.phase = .selfTesting := by
    simpa [List.map_eq_singleton_iff] using is.2
  rw [nodes] at complete
  obtain ⟨n', rest, first, _, nodes'⟩ := List.forall₂_cons_left_iff.1 complete
  have phases := is'.2
  rw [nodes', List.map_cons, List.cons.injEq] at phases
  rcases first (.inr (.inl testing)) with back | finished
  · cases back.symm.trans phases.1
  · rw [FinishedBack, unfinished] at finished
    cases finished

end Vertep.Rolling
