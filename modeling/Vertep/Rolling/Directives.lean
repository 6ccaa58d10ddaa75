import Vertep.Rolling.Completeness

/-!
# The directives a rollout leaves (`core/rolling_update.py`)

A rollout writes directives into the records of its worker nodes while it works on them. What it takes back is
less than what it writes: a node that fails keeps the directives of its update, the round in which a rollback
fails leaves everything as it is, and a rollback that is confirmed takes back its own directives only. The
result says that this is all: a rollout that ends without any of these leaves no directive, and a cancelled one
has none after the next reconciliation.
-/

namespace Vertep.Rolling
open Lib Command

variable {clock : ℕ → Instant}

def Issues (operation : ℕ) (d : Option Directive) : Prop := d.bind (·.issuedBy) = some operation

instance (operation : ℕ) (d : Option Directive) : Decidable (Issues operation d) := by
  unfold Issues; infer_instance

/-- The record carries a directive of this operation. -/
def Record.Carries (operation : ℕ) (w : Record) : Prop :=
  Issues operation w.desiredState ∨ Issues operation w.updateTargetVersion ∨
    Issues operation w.rollbackTargetVersion

instance (operation : ℕ) (w : Record) : Decidable (w.Carries operation) := by
  unfold Record.Carries; infer_instance

def Phase.Over (phase : Phase) : Prop := phase ≠ .pending ∧ ¬ phase.Active ∧ phase ≠ .rollingBack

instance (phase : Phase) : Decidable phase.Over := by unfold Phase.Over; infer_instance

/-- No node is in one of the phases that a rollout works on, and no worker record carries a directive of it. -/
def System.Clear (s : System) : Prop := ∀ r, s.rollout = some r →
  (∀ n ∈ r.nodes, n.phase.Over) ∧ ∀ id w, s.workers.get? id = some w → ¬ w.Carries r.operationId

variable (clock) in
/-- A step takes back what it leaves behind: other parties bring back no directive that is gone, an operator turns back
only nodes that were updated or carry nothing, a node that fails is turned back or carries nothing, the rollback of a
node is confirmed when its update target is gone, and it fails for a node that carries nothing when no other rolls
back. -/
structure Tidy (s : System) (op : Op) : Prop where
  others : ∀ records, op = .workers records → ∀ id w', records.get? id = some w' → ∀ operation,
    (w'.Carries operation → ∃ w, s.workers.get? id = some w ∧ w.Carries operation) ∧
    (Issues operation w'.rollbackTargetVersion →
      ∃ w, s.workers.get? id = some w ∧ Issues operation w.rollbackTargetVersion)
  operator : op = .rollback → ∀ r, s.rollout = some r → r.state.Live → ∀ n ∈ r.nodes,
    isCoreNode n.nodeId = false → ∀ w, s.workers.get? n.nodeId = some w →
    n.updated (some w) r.targetVersion = true ∨ ¬ w.Carries r.operationId
  failure : op = .reconcile → ∀ r, s.rollout = some r → r.state = .running → ∀ before node after node₀ s₀,
    r.nodes = before ++ node :: after → Takes clock r s before node after node₀ s₀ → Fails clock s₀ r node₀ →
    isCoreNode node.nodeId = false → ∀ w, s.workers.get? node.nodeId = some w → w.version = some r.targetVersion ∨
      (¬ w.Carries r.operationId ∧ (node.phase = .updating → w.status ≠ some "ERROR"))
  confirmed : op = .reconcile → ∀ r, s.rollout = some r → r.state = .rollingBack → ∀ n ∈ r.nodes,
    n.phase = .rollingBack → isCoreNode n.nodeId = false → ∀ w, s.workers.get? n.nodeId = some w → ∀ q,
    Passes r n n.previousVersion w q → ¬ Issues r.operationId w.updateTargetVersion
  rollbackFailure : op = .reconcile → ∀ r, s.rollout = some r → r.state = .rollingBack → ∀ n ∈ r.nodes,
    n.phase = .rollingBack → RollbackFails clock s (op.after clock s) r (r.recordOf s n.nodeId) n →
    (isCoreNode n.nodeId = false → ∀ w, s.workers.get? n.nodeId = some w → ¬ w.Carries r.operationId) ∧
      ∀ m ∈ r.nodes, m.phase = .rollingBack → m = n

/-! ## The invariant -/

/-- The phases in which a node may carry the directives of a rollback. -/
def Node.Returning (n : Node) (state : State) : Prop :=
  n.phase = .rollingBack ∨ (state = .cancelled ∧ n.phase = .cancelled)

/-- What the record of a node may carry in its phase. -/
structure Node.Accounts (n : Node) (operation : ℕ) (state : State) (record : Option Record) : Prop where
  carries : ∀ w, record = some w → w.Carries operation →
    isCoreNode n.nodeId = false ∧ (n.phase.Active ∨ n.Returning state)
  back : ∀ w, record = some w → Issues operation w.rollbackTargetVersion → n.Returning state

/-- The directives of the rollout on disk, and the phases of its nodes. -/
structure Accounted (s : System) (r : Rollout) : Prop where
  nodes : ∀ n ∈ r.nodes, n.Accounts r.operationId r.state (s.workers.get? n.nodeId)
  strangers : ∀ id, id ∉ r.nodes.map (·.nodeId) → ∀ w, s.workers.get? id = some w → ¬ w.Carries r.operationId
  back : r.state = .rollingBack → ∀ n ∈ r.nodes,
    n.phase = .rollingBack ∨ (n.phase.Over ∧ n.phase ≠ .rollbackFailed)
  ended : ¬ r.state.Live → ∀ n ∈ r.nodes, n.phase.Over

structure Directed (s : System) : Prop where
  drawn : ∀ id w operation, s.workers.get? id = some w → w.Carries operation → operation < s.drawn
  rollout : ∀ r, s.rollout = some r → Accounted s r

variable {n n' node node₀ : Node} {operation : ℕ}

lemma Node.accounts_of_clear {state : State} {record : Option Record}
    (clear : ∀ w, record = some w → ¬ w.Carries operation) : n.Accounts operation state record where
  carries w found carries := absurd carries (clear w found)
  back w found issues := absurd (.inr (.inr issues)) (clear w found)

lemma Node.accounts_of_back {state : State} {record : Option Record}
    (worker : isCoreNode n.nodeId = false) (back : n.phase = .rollingBack) : n.Accounts operation state record where
  carries _ _ _ := ⟨worker, .inr (.inl back)⟩
  back _ _ _ := .inl back

variable {w w' : Record}

lemma Node.Accounts.clear {state : State} {record : Option Record}
    (h : n.Accounts operation state record) (still : isCoreNode n.nodeId = true ∨ ¬ n.phase.Active ∧ ¬ n.Returning state)
    (found : record = some w) : ¬ w.Carries operation := by
  intro carries
  obtain ⟨worker, bears⟩ := h.carries w found carries
  rcases still with core | ⟨idle, stays⟩
  · cases core.symm.trans worker
  · exact bears.elim idle stays

lemma Phase.Over.still {state : State} (past : n.phase.Over) (live : state ≠ .cancelled) :
    ¬ n.phase.Active ∧ ¬ n.Returning state :=
  ⟨past.2.1, fun returning => returning.elim past.2.2 fun cancelled => live cancelled.1⟩

lemma Node.Accounts.state {state state' : State} {record : Option Record}
    (h : n.Accounts operation state record) (open_ : state ≠ .cancelled) : n.Accounts operation state' record := by
  have turns : n.Returning state → n.Returning state' := Or.imp_right fun cancelled => absurd cancelled.1 open_
  exact ⟨fun w found carries => (h.carries w found carries).imp_right (Or.imp_right turns),
    fun w found issues => turns (h.back w found issues)⟩

/-! ## Who writes directives -/

variable {r r' r₁ : Rollout}

lemma Rollout.Writes.issues {d d' : Option Directive} (h : r.Writes d d')
    (issues : Issues operation d') : operation = r.operationId ∨ Issues operation d := by
  cases h with
  | kept => exact .inr issues
  | removed => cases issues
  | wrote value => exact .inl (Option.some.inj issues).symm

lemma Record.Written.carries (h : w.Written r w')
    (carries : w'.Carries operation) : operation = r.operationId ∨ w.Carries operation := by
  rcases carries with desired | update | rollback
  · exact (h.desired.issues desired).imp_right .inl
  · exact (h.update.issues update).imp_right (.inr ∘ .inl)
  · exact (h.rollback.issues rollback).imp_right (.inr ∘ .inr)

lemma Record.written_requested (w : Record) (r : Rollout) (node : Node) (q : SelfTestRequest) (t : Instant) :
    w.Written r (((w.rollBack r node).requested q).requestedAt t) := ⟨.wrote _, .kept, r.writes_map _ _⟩

lemma Record.cleanUp_clear (r : Rollout) (w : Record) (operation : ℕ) : ¬ (r.cleanUp w).Carries operation := by
  obtain ⟨desired, update, rollback⟩ : (r.cleanUp w).desiredState = none ∧
      (r.cleanUp w).updateTargetVersion = none ∧ (r.cleanUp w).rollbackTargetVersion = none := by
    unfold Rollout.cleanUp
    dsimp only
    split <;> exact ⟨rfl, rfl, rfl⟩
  unfold Record.Carries
  rw [desired, update, rollback]
  rintro (issues | issues | issues) <;> cases issues

variable {s s' s₁ s₀ : System} {id : NodeId}

lemma Begins.written (h : Begins r s s' r') (found' : s'.workers.get? id = some w') : ∃ w, s.workers.get? id = some w ∧ w.Written r w' := by
  by_cases here : id ∈ r.nodes.map (·.nodeId)
  · obtain ⟨n, member, rfl⟩ := List.mem_map.1 here
    obtain ⟨n', _, _, records⟩ := exists_of_forall₂ h.nodes member
    cases core : isCoreNode n.nodeId with
    | true => exact ⟨w', (records.kept (.inl core)).symm.trans found', .refl r w'⟩
    | false =>
      cases updated : n.updated (s.workers.get? n.nodeId) r.targetVersion with
      | true =>
        obtain ⟨q, t, written⟩ := records.written core updated
        rw [written, Option.map_eq_some_iff] at found'
        obtain ⟨w, found, rfl⟩ := found'
        exact ⟨w, found, w.written_requested r n q t⟩
      | false => exact ⟨w', (records.kept (.inr updated)).symm.trans found', .refl r w'⟩
  · exact ⟨w', (h.others id here).symm.trans found', .refl r w'⟩

variable {failed : Bool} {nodes before after : List Node}

lemma Rolled.written (h : Rolled clock failed nodes r s s' n n') (found' : s'.workers.get? n.nodeId = some w') :
    ∃ w, s.workers.get? n.nodeId = some w ∧ w.Written r w' := by
  rcases h with ⟨_, same, _⟩ | ⟨_, _, records, _⟩
  · exact ⟨w', same.symm.trans found', .refl r w'⟩
  · obtain ⟨f, after, each⟩ := records.written
    rw [after, Option.map_eq_some_iff] at found'
    obtain ⟨w, found, rfl⟩ := found'
    exact ⟨w, found, (each w).1⟩

lemma Rounds.written (h : Rounds clock r s s' r' failed)
    (found' : s'.workers.get? id = some w') :
    ∃ w, s.workers.get? id = some w ∧ w.Written r w' := by
  by_cases here : id ∈ r.nodes.map (·.nodeId)
  · obtain ⟨n, member, rfl⟩ := List.mem_map.1 here
    obtain ⟨n', _, rolled⟩ := exists_of_forall₂ h.nodes member
    exact rolled.written found'
  · exact ⟨w', (h.others id here).symm.trans found', .refl r w'⟩

lemma Stepped.record (h : Stepped r node s r₁ s₁)
    (found' : s₁.workers.get? id = some w') : ∃ w, s.workers.get? id = some w ∧ w.Written r w' := by
  by_cases here : id = node.nodeId
  · subst here
    exact h.written w' found'
  · exact ⟨w', (h.others id here).symm.trans found', .refl r w'⟩

lemma Cleaned.record (h : Cleaned r r.nodes s s') (found' : s'.workers.get? id = some w') (carries : w'.Carries operation) :
    (∀ n ∈ r.nodes, n.phase = .cancelled → n.nodeId ≠ id) ∧ s.workers.get? id = some w' := by
  have others : ∀ n ∈ r.nodes, n.phase = .cancelled → n.nodeId ≠ id := by
    rintro n member cancelled rfl
    rw [h.cancelled n member cancelled, Option.map_eq_some_iff] at found'
    obtain ⟨w, _, rfl⟩ := found'
    exact w.cleanUp_clear r operation carries
  exact ⟨others, (h.others id others).symm.trans found'⟩

lemma Change.foreign {op : Op} (change : Change clock s op s') (tidy : Tidy clock s op)
    (found' : s'.workers.get? id = some w')
    (carries : w'.Carries operation) :
    (∃ r, s.rollout = some r ∧ operation = r.operationId) ∨
      ∃ w, s.workers.get? id = some w ∧ w.Carries operation := by
  have of_written {r : Rollout} (found : s.rollout = some r)
      (written : ∃ w, s.workers.get? id = some w ∧ w.Written r w') :
      (∃ r, s.rollout = some r ∧ operation = r.operationId) ∨
        ∃ w, s.workers.get? id = some w ∧ w.Carries operation := by
    obtain ⟨w, before, written⟩ := written
    rcases written.carries carries with is | carries
    · exact .inl ⟨r, found, is⟩
    · exact .inr ⟨w, before, carries⟩
  cases change with
  | workers records => exact .inr ((tidy.others records rfl id w' found' operation).1 carries)
  | turned r r' _ found _ begins => exact of_written found (begins.written found')
  | cleaned r _ found _ cleaned => exact .inr ⟨w', (cleaned.record found' carries).2, carries⟩
  | advanced r r' before after node node₀ node' s₀ _ found _ _ takes advanced =>
    have written := advanced.record found'
    rw [takes.begun.1] at written
    exact of_written found written
  | failed r r₁ r' before after node node₀ s₀ s₁ _ found _ _ takes _ marked begins =>
    obtain ⟨w₁, found₁, written₁⟩ := begins.written found'
    obtain ⟨w, before, written⟩ := marked.record found₁
    rw [takes.begun.1] at before
    rcases written₁.carries carries with is | carries
    · exact .inl ⟨r, found, is.trans marked.alike.operationId⟩
    · rcases written.carries carries with is | carries
      · exact .inl ⟨r, found, is⟩
      · exact .inr ⟨w, before, carries⟩
  | round r r' failed _ found _ rounds => exact of_written found (rounds.written found')
  | _ => exact .inr ⟨w', found', carries⟩

/-! ## The steps keep the account -/

lemma TurnsBack.phases {log : List Issued} {worker : Option Record}
    (h : TurnsBack log r worker n n') :
    n'.phase = .rollingBack ∨ (n'.phase.Over ∧ n'.phase ≠ .rollbackFailed) := by
  have ended : ∀ phase : Phase, phase = .failed ∨ phase = .cancelled → phase.Over ∧ phase ≠ .rollbackFailed := by
    rintro _ (rfl | rfl) <;> decide
  cases h with
  | back => exact .inl rfl
  | stays _ is => exact .inr (ended _ is)
  | ends => exact .inr (ended _ (.inr rfl))

lemma Begins.accounted (h : Begins r s s' r')
    (nodes : ∀ n ∈ r.nodes, ∀ w, s.workers.get? n.nodeId = some w → w.Carries r.operationId →
      isCoreNode n.nodeId = false ∧ n.updated (some w) r.targetVersion = true)
    (strangers : ∀ id, id ∉ r.nodes.map (·.nodeId) → ∀ w, s.workers.get? id = some w → ¬ w.Carries r.operationId) :
    Accounted s' r' := by
  have phases : ∀ n' ∈ r'.nodes, n'.phase = .rollingBack ∨ (n'.phase.Over ∧ n'.phase ≠ .rollbackFailed) :=
    forall_of_forall₂ h.nodes (P := fun _ => True) (fun _ _ => trivial) fun _ _ turns _ => turns.1.phases
  constructor
  · rw [h.operationId]
    refine forall_of_forall₂ h.nodes nodes fun n n' ⟨turns, records⟩ tidy => ?_
    rw [turns.persists.nodeId]
    cases core : isCoreNode n.nodeId with
    | true =>
      refine Node.accounts_of_clear fun w found carries => ?_
      rw [records.kept (.inl core)] at found
      cases core.symm.trans (tidy w found carries).1
    | false =>
      cases updated : n.updated (s.workers.get? n.nodeId) r.targetVersion with
      | true =>
        refine Node.accounts_of_back (turns.persists.nodeId ▸ core) ?_
        cases turns with
        | back => rfl
        | stays not_updated | ends not_updated => cases not_updated.symm.trans updated
      | false =>
        refine Node.accounts_of_clear fun w found carries => ?_
        rw [records.kept (.inr updated)] at found
        rw [found] at updated
        cases updated.symm.trans (tidy w found carries).2
  · intro id other w found
    rw [ids_of_persists h.persists] at other
    rw [h.operationId]
    exact strangers id other w ((h.others id other).symm.trans found)
  · exact fun _ => phases
  · intro ended n' member
    refine ((phases n' member).resolve_left fun back => ended ?_).1
    rw [h.state, if_pos (List.any_eq_true.2 ⟨n', member, decide_eq_true back⟩)]
    exact .inr (.inr rfl)

lemma Accounted.congr (h : Accounted s r) (workers : s'.workers = s.workers)
    (nodes : r'.nodes = r.nodes) (operation : r'.operationId = r.operationId)
    (state : r'.state = r.state ∨ r.state ≠ .cancelled ∧ r'.state ≠ .rollingBack ∧
      (¬ r'.state.Live → ∀ n ∈ r.nodes, n.phase.Over)) : Accounted s' r' := by
  constructor
  · rw [nodes, operation, workers]
    intro n member
    rcases state with same | ⟨open_, _⟩
    · exact same ▸ h.nodes n member
    · exact (h.nodes n member).state open_
  · rw [nodes, operation, workers]
    exact h.strangers
  · rw [nodes]
    rcases state with same | ⟨_, other, _⟩
    · exact same ▸ h.back
    · exact fun is => absurd is other
  · rw [nodes]
    rcases state with same | ⟨_, _, past⟩
    · exact same ▸ h.ended
    · exact past

lemma Accounted.cancel (h : Accounted s r) (live : r.state.Live) (token reads drawn : ℕ) :
    Accounted { s with rollout := some (r.cancel token), reads := reads, drawn := drawn } (r.cancel token) := by
  have open_ : r.state ≠ .cancelled := fun is => by
    rw [is] at live
    exact absurd live (by decide)
  constructor
  · refine forall_of_forall₂ (r.cancel_nodes token) h.nodes fun n n' how before => ?_
    rcases how with rfl | ⟨_, rfl⟩
    · exact before.state open_
    · exact ⟨fun w found carries => ⟨(before.carries w found carries).1, .inr (.inr ⟨rfl, rfl⟩)⟩,
        fun _ _ _ => .inr ⟨rfl, rfl⟩⟩
  · intro id other
    refine h.strangers id fun member => other ?_
    rw [ids_of_persists ((r.cancel_nodes token).imp fun n n' how => ?_)]
    · exact member
    · rcases how with rfl | ⟨_, rfl⟩ <;> exact ⟨rfl, rfl⟩
  · nofun
  · intro _ n' member
    obtain ⟨n, _, rfl⟩ := List.mem_map.1 member
    split
    · rename_i settled
      rcases settled with is | is | is <;> rw [is] <;> decide
    · show Phase.Over .cancelled
      decide

lemma Takes.forward (h : Takes clock r s before node after node₀ s₀) : node.phase ≠ .rollingBack := by
  cases h with
  | active _ active =>
    intro is
    rw [is] at active
    exact absurd active (by decide)
  | pending _ _ pending => exact fun is => nomatch is.symm.trans pending

lemma Advanced.accounted {node' : Node}
    (h : Accounted s r) (distinct : (r.nodes.map (·.nodeId)).Nodup) (running : r.state = .running)
    (nodes : r.nodes = before ++ node :: after) (takes : Takes clock r s before node after node₀ s₀)
    (active : node₀.phase.Active) (advanced : Advanced clock r before node₀ after s₀ s' r' node') :
    Accounted s' r' := by
  have open_ : r.state ≠ .cancelled := fun is => nomatch is.symm.trans running
  have state : r'.state = .awaitingPromotion ∨ r'.state = .running := by
    rw [advanced.state, ← running]
    exact (r.after_cases node').imp And.left And.left
  obtain ⟨record, _, advances⟩ := advanced.judged
  have id₀ : node₀.nodeId = node.nodeId := takes.persists.nodeId
  have id' : node'.nodeId = node₀.nodeId := advances.persists.nodeId
  have others (id : NodeId) (other : id ≠ node.nodeId) : s'.workers.get? id = s.workers.get? id := by
    rw [advanced.others id (id₀ ▸ other), takes.begun.1]
  have own := h.nodes node (nodes ▸ List.mem_append_right _ List.mem_cons_self)
  have unreturned : ¬ node.Returning r.state :=
    fun returning => returning.elim takes.forward fun cancelled => open_ cancelled.1
  have moved : node'.Accounts r.operationId r'.state (s'.workers.get? node'.nodeId) := by
    rw [id', id₀]
    cases core : isCoreNode node.nodeId with
    | true =>
      refine Node.accounts_of_clear fun w found => ?_
      rw [← id₀, advanced.core (id₀ ▸ core), id₀, takes.begun.1] at found
      exact own.clear (.inl core) found
    | false =>
      obtain ⟨w, w', found, found', directs⟩ := advanced.worker (id₀ ▸ core)
      rw [id₀, takes.begun.1] at found
      rw [id₀] at found'
      have unissued : ¬ Issues r.operationId w'.rollbackTargetVersion := by
        rw [directs.rollback]
        exact fun issues => unreturned (own.back w found issues)
      constructor
      · intro w₁ found₁ carries
        cases found'.symm.trans found₁
        refine ⟨(congrArg isCoreNode (id'.trans id₀)).trans core, .inl ?_⟩
        refine (advances.moves active).resolve_left fun ready => ?_
        obtain ⟨desired, update⟩ := directs.ready ready
        unfold Record.Carries at carries
        rw [desired, update] at carries
        rcases carries with issues | issues | issues
        · cases issues
        · cases issues
        · exact unissued issues
      · intro w₁ found₁ issues
        cases found'.symm.trans found₁
        exact absurd issues unissued
  constructor
  · rw [advanced.nodes, advanced.alike.operationId]
    intro n member
    have apart : ∀ n, n ∈ before ∨ n ∈ after → n.Accounts r.operationId r'.state (s'.workers.get? n.nodeId) := by
      intro n member
      have here : n ∈ r.nodes := by
        rw [nodes]
        exact List.mem_append.2 (member.imp_right (List.mem_cons_of_mem _))
      rw [nodes] at distinct
      rw [others n.nodeId (others_apart distinct n member)]
      exact (h.nodes n here).state open_
    rcases List.mem_append.1 member with earlier | later
    · exact apart n (.inl earlier)
    · rcases List.mem_cons.1 later with rfl | later
      · exact moved
      · exact apart n (.inr later)
  · intro id other w found
    have away : id ∉ r.nodes.map (·.nodeId) := by
      rw [advanced.nodes, List.map_append, List.map_cons, id', id₀] at other
      rw [nodes, List.map_append, List.map_cons]
      exact other
    rw [advanced.alike.operationId]
    refine h.strangers id away w ((others id fun is => away ?_).symm.trans found)
    rw [is, nodes]
    exact List.mem_map_of_mem (List.mem_append_right _ List.mem_cons_self)
  · intro is
    rcases state with is' | is' <;> cases is'.symm.trans is
  · intro ended
    refine absurd ?_ ended
    rcases state with is | is <;> rw [is] <;> decide

lemma Accounted.beside (h : Accounted s r) (disciplined : r.Disciplined) (running : r.state = .running)
    (nodes : r.nodes = before ++ node :: after) (takes : Takes clock r s before node after node₀ s₀) (n : Node)
    (member : n ∈ before ∨ n ∈ after) (w : Record) (found : s.workers.get? n.nodeId = some w) :
    ¬ w.Carries r.operationId := by
  obtain ⟨done, waiting, _⟩ := disciplined.around running nodes takes
  have here : n ∈ r.nodes := by
    rw [nodes]
    exact List.mem_append.2 (member.imp_right (List.mem_cons_of_mem _))
  refine (h.nodes n here).clear (.inr ?_) found
  have phase : n.phase = .ready ∨ n.phase = .pending := member.imp (done n) (waiting n)
  unfold Node.Returning
  rw [running]
  rcases phase with is | is <;> rw [is] <;> decide

lemma Marked.accounted (tidy : Tidy clock s .reconcile) (found : s.rollout = some r) (h : Accounted s r) (disciplined : r.Disciplined)
    (distinct : (r.nodes.map (·.nodeId)).Nodup) (running : r.state = .running)
    (nodes : r.nodes = before ++ node :: after) (takes : Takes clock r s before node after node₀ s₀)
    (fails : Fails clock s₀ r node₀) (marked : Marked r before node₀ after s₀ r₁ s₁)
    (begins : Begins r₁ s₁ s' r') : Accounted s' r' := by
  have id₀ : node₀.nodeId = node.nodeId := takes.persists.nodeId
  obtain ⟨error, is⟩ := marked.nodes
  have ids : r₁.nodes.map (·.nodeId) = r.nodes.map (·.nodeId) := by
    simp only [is, nodes, List.map_append, List.map_cons, id₀]
  have others (id : NodeId) (other : id ≠ node.nodeId) : s₁.workers.get? id = s.workers.get? id := by
    rw [marked.others id (id₀ ▸ other), takes.begun.1]
  have own := h.nodes node (nodes ▸ List.mem_append_right _ List.mem_cons_self)
  refine begins.accounted ?_ fun id other w found => ?_
  · rw [is, marked.alike.operationId, marked.alike.targetVersion]
    intro n member w found₁ carries
    have apart (beside : n ∈ before ∨ n ∈ after) : isCoreNode n.nodeId = false ∧
        n.updated (some w) r.targetVersion = true := by
      rw [others n.nodeId (others_apart (nodes ▸ distinct) n beside)] at found₁
      exact absurd carries (h.beside disciplined running nodes takes n beside w found₁)
    rcases List.mem_append.1 member with earlier | later
    · exact apart (.inl earlier)
    · rcases List.mem_cons.1 later with rfl | later
      · dsimp only at found₁ ⊢
        rw [id₀]
        cases core : isCoreNode node.nodeId with
        | true =>
          rw [marked.core (id₀ ▸ core), id₀, takes.begun.1] at found₁
          exact absurd carries (own.clear (.inl core) found₁)
        | false =>
          obtain ⟨w₀, found₀, _⟩ := marked.written w found₁
          have version := marked.version
          rw [found₁, found₀, Option.map_some, Option.map_some, Option.some.injEq] at version
          rw [id₀, takes.begun.1] at found₀
          rcases tidy.failure rfl r found running before node after node₀ s₀ nodes takes fails core w₀ found₀ with
            target | ⟨clear, sound⟩
          · refine ⟨rfl, ?_⟩
            simp [Node.updated, version, target]
          · have kept := marked.kept fun w' found' updating => ?_
            · rw [found₁, id₀, takes.begun.1, found₀] at kept
              cases kept
              exact absurd carries clear
            · rw [id₀, takes.begun.1, found₀] at found'
              cases found'
              refine sound ?_
              cases takes with
              | active => exact updating
              | pending => cases updating
      · exact apart (.inr later)
  · rw [ids] at other
    rw [marked.alike.operationId]
    refine h.strangers id other w ((others id fun is => other ?_).symm.trans found)
    rw [is, nodes]
    exact List.mem_map_of_mem (List.mem_append_right _ List.mem_cons_self)

lemma Rolled.phases (h : Rolled clock failed nodes r s s' n n') :
    n' = n ∨ n.phase = .rollingBack ∧ (n'.phase = .rollingBack ∨ n'.phase = .rolledBack ∨
      (n'.phase = .rollbackFailed ∧ failed = true ∧ RollbackFails clock s s' r (r.recordOf s n.nodeId) n)) := by
  rcases h with ⟨stays, _⟩ | ⟨back, rolls, _, why⟩
  · exact .inl stays
  · refine .inr ⟨back, ?_⟩
    cases rolls with
    | failed _ fails => exact .inr (.inr ⟨rfl, why rfl, fails⟩)
    | waits => exact .inl back
    | confirmed => exact .inr (.inl rfl)

lemma Rolled.accounts {state : State}
    (h : Rolled clock failed nodes r s s' n n') (open_ : r.state ≠ .cancelled)
    (before : n.Accounts r.operationId r.state (s.workers.get? n.nodeId))
    (confirmed : n.phase = .rollingBack → isCoreNode n.nodeId = false → ∀ w, s.workers.get? n.nodeId = some w → ∀ q,
      Passes r n n.previousVersion w q → ¬ Issues r.operationId w.updateTargetVersion)
    (fails : n.phase = .rollingBack → RollbackFails clock s s' r (r.recordOf s n.nodeId) n →
      isCoreNode n.nodeId = false → ∀ w, s.workers.get? n.nodeId = some w → ¬ w.Carries r.operationId) :
    n'.Accounts r.operationId state (s'.workers.get? n'.nodeId) := by
  rw [h.persists.nodeId]
  rcases h with ⟨rfl, same, _⟩ | ⟨back, rolls, records, _⟩
  · rw [same]
    exact before.state open_
  cases core : isCoreNode n.nodeId with
  | true =>
    rw [records.core core]
    exact Node.accounts_of_clear fun w found => before.clear (.inl core) found
  | false =>
    have written := records.written
    have kept := records.failed
    cases rolls with
    | failed _ why =>
      rw [kept rfl]
      exact Node.accounts_of_clear (fails back why core)
    | waits => exact Node.accounts_of_back core back
    | confirmed w q is _ passes =>
      obtain ⟨f, after, each⟩ := written
      rw [Rollout.recordOf, if_neg (Bool.eq_false_iff.1 core)] at is
      rw [after, is, Option.map_some]
      refine Node.accounts_of_clear fun w' found carries => ?_
      cases found
      obtain ⟨_, update, cleared⟩ := each w
      obtain ⟨desired, rollback⟩ := cleared rfl core
      unfold Record.Carries at carries
      rw [desired, rollback, update] at carries
      rcases carries with issues | issues | issues
      · cases issues
      · exact confirmed back core w is q passes issues
      · cases issues

lemma eq_of_nodeId (distinct : (nodes.map (·.nodeId)).Nodup) {m : Node} (here : n ∈ nodes)
    (here' : m ∈ nodes) (same : n.nodeId = m.nodeId) : n = m :=
  List.inj_on_of_nodup_map distinct here here' same

lemma Rounds.accounted (h : Accounted s r)
    (distinct : (r.nodes.map (·.nodeId)).Nodup) (rolling : r.state = .rollingBack)
    (confirmed : ∀ n ∈ r.nodes, n.phase = .rollingBack → isCoreNode n.nodeId = false →
      ∀ w, s.workers.get? n.nodeId = some w → ∀ q, Passes r n n.previousVersion w q →
      ¬ Issues r.operationId w.updateTargetVersion)
    (fails : ∀ n ∈ r.nodes, n.phase = .rollingBack → RollbackFails clock s s' r (r.recordOf s n.nodeId) n →
      (isCoreNode n.nodeId = false → ∀ w, s.workers.get? n.nodeId = some w → ¬ w.Carries r.operationId) ∧
        ∀ m ∈ r.nodes, m.phase = .rollingBack → m = n)
    (rounds : Rounds clock r s s' r' failed) : Accounted s' r' := by
  have open_ : r.state ≠ .cancelled := by rw [rolling]; decide
  have persists : List.Forall₂ Node.Persists r.nodes r'.nodes := rounds.nodes.imp fun _ _ rolled => rolled.persists
  have each : List.Forall₂ (fun n n' => n ∈ r.nodes ∧ Rolled clock failed r.nodes r s s' n n') r.nodes r'.nodes :=
    (List.forall₂_and_left (p := (· ∈ r.nodes)) _ _).2 ⟨fun _ here => here, rounds.nodes⟩
  have phases : ∀ n' ∈ r'.nodes, n'.phase = .rollingBack ∨ n'.phase.Over ∧
      (n'.phase = .rollbackFailed → failed = true) := by
    refine forall_of_forall₂ rounds.nodes (h.back rolling) fun n n' rolled before => ?_
    rcases rolled.phases with rfl | ⟨_, back | done | ⟨is, why, _⟩⟩
    · exact before.imp_right fun why => ⟨why.1, fun is => absurd is why.2⟩
    · exact .inl back
    · exact .inr ⟨by rw [done]; decide, by rw [done]; rintro ⟨⟩⟩
    · exact .inr ⟨by rw [is]; decide, fun _ => why⟩
  constructor
  · rw [rounds.alike.operationId]
    refine forall_of_forall₂ each h.nodes ?_
    rintro n n' ⟨here, rolled⟩ before
    exact rolled.accounts open_ before (confirmed n here) fun back why => (fails n here back why).1
  · intro id other w found
    rw [ids_of_persists persists] at other
    rw [rounds.alike.operationId]
    exact h.strangers id other w ((rounds.others id other).symm.trans found)
  · intro back n' here'
    refine (phases n' here').imp_right fun settled => ⟨settled.1, fun is => ?_⟩
    rw [rounds.state, if_pos (settled.2 is)] at back
    cases back
  · intro ended n' here'
    refine ((phases n' here').resolve_left fun back => ?_).1
    have state := rounds.state
    cases failed with
    | false =>
      refine ended ?_
      rw [state, if_neg Bool.false_ne_true, if_neg]
      · exact .inr (.inr rfl)
      · exact fun all => of_decide_eq_true (List.all_eq_true.1 all n' here') back
    | true =>
      -- the node that failed is the only one that rolled back
      obtain ⟨m', there', failed'⟩ := rounds.failing rfl
      obtain ⟨m, there, rolled⟩ := exists_of_forall₂ rounds.nodes.flip there'
      obtain ⟨n, here, rolled'⟩ := exists_of_forall₂ rounds.nodes.flip here'
      have rolling' : n.phase = .rollingBack := by
        rcases Rolled.phases rolled' with rfl | ⟨is, _⟩
        · exact back
        · exact is
      have why : m.phase = .rollingBack ∧ RollbackFails clock s s' r (r.recordOf s m.nodeId) m := by
        rcases Rolled.phases rolled with rfl | ⟨is, again | done | ⟨_, _, why⟩⟩
        · rcases h.back rolling m' there with is | ⟨_, other⟩
          · cases is.symm.trans failed'
          · exact absurd failed' other
        · cases again.symm.trans failed'
        · cases done.symm.trans failed'
        · exact ⟨is, why⟩
      have same : n = m := (fails m there why.1 why.2).2 n here rolling'
      have ids : n'.nodeId = m'.nodeId := by
        rw [(Rolled.persists rolled').nodeId, (Rolled.persists rolled).nodeId, same]
      have alike := eq_of_nodeId (ids_of_persists persists ▸ distinct) here' there' ids
      rw [alike, failed'] at back
      cases back

/-! ## Runs -/

lemma accounted_change {op : Op} (distinct : s.Distinct)
    (disciplined : ∀ r, s.rollout = some r → r.Disciplined) (tidy : Tidy clock s op) (h : Directed s)
    (after : s' = op.after clock s) (change : Change clock s op s') :
    ∀ r', s'.rollout = some r' → Accounted s' r' := by
  intro r' found'
  cases change with
  | nothing => exact h.rollout r' found'
  | workers records =>
    have before := h.rollout r' found'
    have came := tidy.others records rfl
    refine ⟨fun n here => ⟨fun w found carries => ?_, fun w found issues => ?_⟩, fun id other w found carries => ?_,
      before.back, before.ended⟩
    · obtain ⟨w₀, found₀, carries₀⟩ := (came n.nodeId w found _).1 carries
      exact (before.nodes n here).carries w₀ found₀ carries₀
    · obtain ⟨w₀, found₀, issues₀⟩ := (came n.nodeId w found _).2 issues
      exact (before.nodes n here).back w₀ found₀ issues₀
    · obtain ⟨w₀, found₀, carries₀⟩ := (came id w found _).1 carries
      exact before.strangers id other w₀ found₀ carries₀
  | coordinated id _ _ r record found =>
    cases found'
    exact (h.rollout r found).congr rfl rfl rfl (.inl rfl)
  | started target nodes order timeout canary =>
    cases found'
    have clear (id : NodeId) (w : Record) (found : s.workers.get? id = some w) : ¬ w.Carries s.drawn :=
      fun carries => absurd (h.drawn id w _ found carries) (lt_irrefl _)
    refine ⟨fun n _ => Node.accounts_of_clear (clear n.nodeId), fun id _ => clear id, nofun, fun ended => ?_⟩
    exact absurd (.inl rfl) ended
  | promoted r found awaiting =>
    cases found'
    refine (h.rollout r found).congr rfl rfl rfl (.inr ⟨fun is => (nomatch is.symm.trans awaiting), nofun, fun ended => ?_⟩)
    exact absurd (.inl rfl) ended
  | cancelled r found live =>
    cases found'
    exact (h.rollout r found).cancel live s.drawn _ _
  | turned r r₁ _ found live begins =>
    cases found'.symm.trans begins.rollout
    have before := h.rollout r found
    refine begins.accounted (fun n here w found₀ carries => ?_) before.strangers
    have worker := ((before.nodes n here).carries w found₀ carries).1
    refine ⟨worker, ?_⟩
    exact (tidy.operator rfl r found live n here worker w found₀).resolve_right (not_not_intro carries)
  | cleaned r _ found _ cleaned =>
    rw [cleaned.rest] at found'
    have before := h.rollout r' found'
    cases found.symm.trans found'
    refine ⟨fun n here => ⟨fun w found carries => ?_, fun w found issues => ?_⟩, fun id other w found carries => ?_,
      before.back, before.ended⟩
    · exact (before.nodes n here).carries w (cleaned.record found carries).2 carries
    · exact (before.nodes n here).back w (cleaned.record found (.inr (.inr issues))).2 issues
    · exact before.strangers id other w (cleaned.record found carries).2 carries
  | advanced r r₁ before after node node₀ node' s₀ _ found running nodes takes advanced =>
    cases found'.symm.trans advanced.rollout
    have active := ((disciplined r found).around running nodes takes).2.2
    exact advanced.accounted (h.rollout r found) (distinct r found) running nodes takes active
  | failed r r₁ r₂ before after node node₀ s₀ s₁ _ found running nodes takes fails marked begins =>
    cases found'.symm.trans begins.rollout
    exact marked.accounted tidy found (h.rollout r found) (disciplined r found) (distinct r found) running nodes takes
      fails begins
  | succeeded r found running done =>
    cases found'
    refine (h.rollout r found).congr rfl rfl rfl
      (.inr ⟨fun is => (nomatch is.symm.trans running), nofun, fun _ n here => ?_⟩)
    refine ⟨(done n here).2, (done n here).1, fun back => ?_⟩
    rcases ((disciplined r found).order (.inl running)).1 n here with is | is | is
    · cases is.symm.trans back
    · exact (done n here).1 is
    · cases is.symm.trans back
  | round r r₁ failed _ found rolling rounds =>
    cases found'.symm.trans rounds.rollout
    refine rounds.accounted (h.rollout r found) (distinct r found) rolling (tidy.confirmed rfl r found rolling) ?_
    subst after
    exact tidy.rollbackFailure rfl r found rolling

lemma ReachableWhen.directed (h : ReachableWhen clock (Tidy clock) s) : Directed s := by
  induction h with
  | init fresh =>
    cases fresh
    exact ⟨fun _ _ _ found => (nomatch found), fun _ found => (nomatch found)⟩
  | @step s s' reached st ih =>
    obtain ⟨op, tidy, after⟩ := st
    have reached : ReachableWhen clock (Tidy clock) s := reached
    have change : Change clock s op s' := after ▸ op.change reached.distinct
    constructor
    · intro id w' operation found' carries
      refine lt_of_lt_of_le ?_ change.grows.2
      rcases change.foreign tidy found' carries with ⟨r, found, rfl⟩ | ⟨w, found, carries⟩
      · exact reached.drawn found
      · exact ih.drawn id w operation found carries
    · exact accounted_change reached.distinct (fun _ found => reached.any.disciplined found) tidy ih after change

variable (clock) in
/-- In every run whose steps take back what they leave behind: a rollout that has ended has, after the next
reconciliation, no node that it works on, and no worker record carries a directive of it. -/
theorem finished_rollout_leaves_nothing {s : System} (h : ReachableWhen clock (Tidy clock) s) {r : Rollout}
    (found : s.rollout = some r) (ended : ¬ r.state.Live) : (Op.reconcile.after clock s).Clear := by
  have accounted := h.directed.rollout r found
  have past := accounted.ended ended
  have change : Change clock s .reconcile (Op.reconcile.after clock s) := Op.reconcile.change h.distinct
  have clear (other : r.state ≠ .cancelled) : s.Clear := by
    intro r' found'
    cases found.symm.trans found'
    refine ⟨past, fun id w there => ?_⟩
    by_cases here : id ∈ r.nodes.map (·.nodeId)
    · obtain ⟨n, member, rfl⟩ := List.mem_map.1 here
      exact (accounted.nodes n member).clear (.inr ((past n member).still other)) there
    · exact accounted.strangers id here w there
  generalize Op.reconcile.after clock s = s' at change
  cases change with
  | nothing _ idle => exact clear (idle.reconcile rfl r found).2.2
  | cleaned r₀ _ found₀ cancelled cleaned =>
    cases found.symm.trans found₀
    intro r' found'
    rw [cleaned.rest] at found'
    cases found.symm.trans found'
    refine ⟨past, fun id w there carries => ?_⟩
    obtain ⟨others, before⟩ := cleaned.record there carries
    by_cases here : id ∈ r.nodes.map (·.nodeId)
    · obtain ⟨n, member, rfl⟩ := List.mem_map.1 here
      obtain ⟨_, active | back | ⟨_, is⟩⟩ := (accounted.nodes n member).carries w before carries
      · exact (past n member).2.1 active
      · exact (past n member).2.2 back
      · exact others n member is rfl
    · exact accounted.strangers id here w before carries
  | advanced _ _ _ _ _ _ _ _ _ found₀ running =>
    cases found.symm.trans found₀
    exact absurd (.inl running) ended
  | failed _ _ _ _ _ _ _ _ _ _ found₀ running =>
    cases found.symm.trans found₀
    exact absurd (.inl running) ended
  | succeeded _ found₀ running =>
    cases found.symm.trans found₀
    exact absurd (.inl running) ended
  | round _ _ _ _ found₀ rolling =>
    cases found.symm.trans found₀
    exact absurd (.inr (.inr rolling)) ended

/-! ## Two runs -/

lemma tidy_of_other {op : Op} (workers : ∀ records, op ≠ .workers records) (rollback : op ≠ .rollback)
    (reconcile : op ≠ .reconcile) : Tidy clock s op :=
  ⟨fun records is => absurd is (workers records), fun is => absurd is rollback, fun is => absurd is reconcile,
    fun is => absurd is reconcile, fun is => absurd is reconcile⟩

lemma tidy_reports (s : System) (node : NodeId)
    (clear : w.desiredState = none ∧ w.updateTargetVersion = none ∧ w.rollbackTargetVersion = none) :
    Tidy clock s (reports node w) := by
  refine ⟨?_, nofun, nofun, nofun, nofun⟩
  rintro _ ⟨⟩ id w' found operation
  rw [Dict.get?_set] at found
  split at found
  · cases found
    constructor
    · rintro (issues | issues | issues)
      · cases clear.1 ▸ issues
      · cases clear.2.1 ▸ issues
      · cases clear.2.2 ▸ issues
    · intro issues
      cases clear.2.2 ▸ issues
  · cases found

lemma tidy_reconcile (h : (s.rollout.all fun r => r.state ≠ .rollingBack && r.nodes.all fun n =>
    n.phase ≠ .updating && (s.workers.get? n.nodeId).all fun w => !decide (w.Carries r.operationId)) = true) :
    Tidy clock s .reconcile := by
  have plain : ∀ r, s.rollout = some r → r.state ≠ .rollingBack ∧ ∀ n ∈ r.nodes, n.phase ≠ .updating ∧
      ∀ w, s.workers.get? n.nodeId = some w → ¬ w.Carries r.operationId := by
    intro r found
    rw [found, Option.all_some, Bool.and_eq_true, List.all_eq_true] at h
    refine ⟨by simpa using h.1, fun n here => ?_⟩
    have both := h.2 n here
    rw [Bool.and_eq_true] at both
    refine ⟨by simpa using both.1, fun w there => ?_⟩
    rw [there, Option.all_some] at both
    simpa using both.2
  refine ⟨nofun, nofun, fun _ r found _ before node after _ _ nodes _ _ _ w there => ?_,
    fun _ r found back => absurd back (plain r found).1, fun _ r found back => absurd back (plain r found).1⟩
  obtain ⟨phase, clear⟩ := (plain r found).2 node (nodes ▸ List.mem_append_right _ List.mem_cons_self)
  exact .inr ⟨clear w there, fun updating => absurd updating phase⟩

def cancelledNode : System := Op.cancel.after still updatingNode

lemma cancelledNode_reachable : ReachableWhen still (Tidy still) cancelledNode :=
  .step (.step (.step (.step (.init rfl) ⟨oneNode, tidy_of_other nofun nofun nofun, rfl⟩)
    ⟨reports "a" { version := some "1" }, tidy_reports _ _ ⟨rfl, rfl, rfl⟩, rfl⟩)
    ⟨.reconcile, tidy_reconcile (by decide +kernel), rfl⟩)
    ⟨.cancel, tidy_of_other nofun nofun nofun, rfl⟩

theorem finished_rollout_leaves_nothing_cancelled :
    (cancelledNode.workers.get? "a").map (fun w => decide (w.Carries 0)) = some true ∧
      (Op.reconcile.after still cancelledNode).Clear := by
  have state : cancelledNode.rollout.map (·.state) = some .cancelled := by decide +kernel
  obtain ⟨r, found, is⟩ := Option.map_eq_some_iff.1 state
  refine ⟨by decide +kernel, finished_rollout_leaves_nothing still cancelledNode_reachable found ?_⟩
  rw [is]
  decide

def failedNode : System :=
  Op.reconcile.after still <| (reports "a" { version := some "1", status := some "ERROR" }).after still updatingNode

/-- A node that failed to update keeps the directives of its update. -/
theorem failed_node_keeps_directives : ¬ ∀ (clock : ℕ → Instant) (s : System) (r : Rollout), Reachable clock s →
    s.rollout = some r → ¬ r.state.Live → (Op.reconcile.after clock s).Clear := by
  intro claim
  have reached : Reachable still failedNode :=
    .step (.step updatingNode_reachable.any ⟨reports "a" _, trivial, rfl⟩) ⟨.reconcile, trivial, rfl⟩
  have state : failedNode.rollout.map (·.state) = some .failed := by decide +kernel
  have after : (Op.reconcile.after still failedNode).rollout.map (·.operationId) = some 0 := by decide +kernel
  have worker : ((Op.reconcile.after still failedNode).workers.get? "a").map (fun w => decide (w.Carries 0)) =
      some true := by decide +kernel
  obtain ⟨r, found, is⟩ := Option.map_eq_some_iff.1 state
  obtain ⟨r', found', operation⟩ := Option.map_eq_some_iff.1 after
  obtain ⟨w, there, carries⟩ := Option.map_eq_some_iff.1 worker
  have ended : ¬ r.state.Live := by
    rw [is]
    decide
  refine (claim still failedNode r reached found ended r' found').2 "a" w there ?_
  rw [operation]
  exact of_decide_eq_true carries

end Vertep.Rolling
