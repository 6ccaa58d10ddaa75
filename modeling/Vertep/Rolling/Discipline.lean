import Vertep.Rolling.Runs

/-!
# The order of a rollout (`core/rolling_update.py`)

While a rollout runs or waits for its promotion its nodes are done, one of them may be worked on, and the others
are pending, in this order. A canary holds the others back until it is promoted: what may take a pending node
out of its phase before that is a cancel or a rollback.
-/

namespace Vertep.Rolling
open Lib Command

variable {clock : ℕ → Instant}

/-- Of two nodes the earlier is done, or the later has not begun. -/
def InOrder (nodes : List Node) : Prop :=
  (∀ n ∈ nodes, n.phase = .ready ∨ n.phase.Active ∨ n.phase = .pending) ∧
    nodes.Pairwise fun n m => n.phase = .ready ∨ m.phase = .pending

def State.Forward (state : State) : Prop := state = .running ∨ state = .awaitingPromotion

instance (state : State) : Decidable state.Forward := by unfold State.Forward; infer_instance

def Phase.HeldBack (phase : Phase) : Prop :=
  phase = .pending ∨ phase = .cancelled ∨ phase = .rollingBack ∨ phase = .rolledBack ∨ phase = .rollbackFailed

structure Rollout.Disciplined (r : Rollout) : Prop where
  order : r.state.Forward → InOrder r.nodes
  canaries : ∀ n ∈ r.nodes.head?, n.canary = r.canary
  gate : r.canaryPromoted = false → r.canary = true
  canary : r.canaryPromoted = false → r.state = .running → ∀ n ∈ r.nodes.head?, n.phase ≠ .ready
  pending : r.canaryPromoted = false → r.state.Forward → ∀ n ∈ r.nodes.tail, n.phase = .pending
  heldBack : r.canaryPromoted = false → ∀ n ∈ r.nodes.tail, n.phase.HeldBack
  success : r.state = .succeeded → ∀ n ∈ r.nodes, n.phase = .ready

lemma Phase.not_active_ready : ¬ Phase.ready.Active := by decide

lemma Phase.not_active_pending : ¬ Phase.pending.Active := by decide

variable {before after nodes nodes' : List Node} {node n n' : Node}

lemma InOrder.around (h : InOrder (before ++ node :: after))
    (begun : node.phase ≠ .ready) (only : node.phase = .pending → ∀ n ∈ before, n.phase ≠ .pending ∧ ¬ n.phase.Active) :
    (∀ n ∈ before, n.phase = .ready) ∧ ∀ n ∈ after, n.phase = .pending := by
  obtain ⟨known, pairs⟩ := h
  rw [List.pairwise_append, List.pairwise_cons] at pairs
  obtain ⟨_, ⟨later, _⟩, across⟩ := pairs
  refine ⟨fun n member => ?_, fun n member => (later n member).resolve_left begun⟩
  rcases across n member node List.mem_cons_self with ready | pending
  · exact ready
  · obtain ⟨not_pending, not_active⟩ := only pending n member
    rcases known n (List.mem_append_left _ member) with ready | active | pending
    · exact ready
    · exact absurd active not_active
    · exact absurd pending not_pending

lemma inOrder_of (done : ∀ n ∈ before, n.phase = .ready)
    (waiting : ∀ n ∈ after, n.phase = .pending) (known : node.phase = .ready ∨ node.phase.Active) :
    InOrder (before ++ node :: after) := by
  constructor
  · intro n member
    rcases List.mem_append.1 member with earlier | later
    · exact .inl (done n earlier)
    · rcases List.mem_cons.1 later with rfl | later
      · exact known.imp_right .inl
      · exact .inr (.inr (waiting n later))
  · rw [List.pairwise_append, List.pairwise_cons]
    refine ⟨List.pairwise_of_forall_mem_list fun n member m _ => .inl (done n member), ⟨?_, ?_⟩, ?_⟩
    · exact fun m member => .inr (waiting m member)
    · exact List.pairwise_of_forall_mem_list fun n _ m member => .inr (waiting m member)
    · exact fun n member m _ => .inl (done n member)

lemma InOrder.shape (h : InOrder nodes) : ∃ done active rest, nodes = done ++ active ++ rest ∧
    (∀ n ∈ done, n.phase = .ready) ∧ active.length ≤ 1 ∧ (∀ n ∈ active, n.phase.Active) ∧
    ∀ n ∈ rest, n.phase = .pending := by
  induction nodes with
  | nil => exact ⟨[], [], [], rfl, List.forall_mem_nil _, Nat.zero_le _, List.forall_mem_nil _, List.forall_mem_nil _⟩
  | cons node nodes ih =>
    obtain ⟨known, pairs⟩ := h
    rw [List.pairwise_cons] at pairs
    rcases known node List.mem_cons_self with ready | active | pending
    · obtain ⟨done, active, rest, is, ready', one, active', pending⟩ :=
        ih ⟨fun n member => known n (List.mem_cons_of_mem _ member), pairs.2⟩
      exact ⟨node :: done, active, rest, by rw [is]; rfl, List.forall_mem_cons.2 ⟨ready, ready'⟩, one, active', pending⟩
    · refine ⟨[], [node], nodes, rfl, List.forall_mem_nil _, le_rfl, fun n member => ?_, fun n member => ?_⟩
      · rw [List.mem_singleton.1 member]
        exact active
      · exact (pairs.1 n member).resolve_left fun ready => Phase.not_active_ready (ready ▸ active)
    · refine ⟨[], [], node :: nodes, rfl, List.forall_mem_nil _, Nat.zero_le _, List.forall_mem_nil _, ?_⟩
      refine List.forall_mem_cons.2 ⟨pending, fun n member => ?_⟩
      exact (pairs.1 n member).resolve_left fun ready => nomatch ready.symm.trans pending

/-! ## Every step keeps the order -/

variable {r r' : Rollout}

lemma Rollout.Disciplined.same (h : r.Disciplined) (same : r.Same r') : r'.Disciplined := by
  obtain ⟨order, canaries, gate, canary, pending, heldBack, success⟩ := h
  rw [← same.nodes] at order canaries canary pending heldBack success
  rw [← same.state] at order canary pending success
  rw [← same.canaryPromoted] at gate canary pending heldBack
  rw [← same.canary] at canaries gate
  exact ⟨order, canaries, gate, canary, pending, heldBack, success⟩

lemma forall_head {P Q : Node → Prop} {R : Node → Node → Prop}
    (h : List.Forall₂ R nodes nodes') (before : ∀ n ∈ nodes.head?, P n) (step : ∀ n n', R n n' → P n → Q n') :
    ∀ n ∈ nodes'.head?, Q n := by
  cases h with
  | nil =>
    intro _ first
    cases first
  | cons first _ =>
    rintro _ ⟨⟩
    exact step _ _ first (before _ rfl)

lemma forall_tail {P Q : Node → Prop} {R : Node → Node → Prop}
    (h : List.Forall₂ R nodes nodes') (before : ∀ n ∈ nodes.tail, P n) (step : ∀ n n', R n n' → P n → Q n') :
    ∀ n ∈ nodes'.tail, Q n := by
  cases h with
  | nil => exact List.forall_mem_nil _
  | cons _ rest => exact forall_of_forall₂ rest before step

lemma Rollout.Disciplined.halt (h : r.Disciplined)
    (state : ¬ r'.state.Forward ∧ r'.state ≠ .succeeded) (canary : r'.canary = r.canary)
    (promoted : r'.canaryPromoted = r.canaryPromoted) (nodes : List.Forall₂ Node.Persists r.nodes r'.nodes)
    (heldBack : r.canaryPromoted = false → ∀ n ∈ r'.nodes.tail, n.phase.HeldBack) : r'.Disciplined where
  order forward := absurd forward state.1
  canaries := forall_head nodes h.canaries fun n n' persists is => by rw [persists.canary, is, canary]
  gate is := canary.trans (h.gate (promoted.symm.trans is))
  canary _ running := absurd (.inl running) state.1
  pending _ forward := absurd forward state.1
  heldBack is := heldBack (promoted.symm.trans is)
  success is := absurd is state.2

lemma TurnsBack.heldBack {log : List Issued} {worker : Option Record}
    (h : TurnsBack log r worker n n') (before : n.phase.HeldBack) : n'.phase.HeldBack := by
  cases h with
  | back => exact .inr (.inr (.inl rfl))
  | stays => exact before
  | ends => exact .inr (.inl rfl)

variable {s s' : System}

lemma Rolled.heldBack {failed : Bool} (h : Rolled clock failed nodes r s s' n n') (before : n.phase.HeldBack) : n'.phase.HeldBack := by
  rcases h with ⟨rfl, _⟩ | ⟨_, rolls, _⟩
  · exact before
  · cases rolls with
    | failed => exact .inr (.inr (.inr (.inr rfl)))
    | waits => exact before
    | confirmed => exact .inr (.inr (.inr (.inl rfl)))

lemma Begins.halts (h : Begins r s s' r') :
    ¬ r'.state.Forward ∧ r'.state ≠ .succeeded := by
  have ends : r'.state = .rollingBack ∨ r'.state = .failed := by
    rw [h.state]
    split
    · exact .inl rfl
    · exact .inr rfl
  rcases ends with is | is <;> rw [is] <;> exact ⟨by decide, nofun⟩

lemma Rounds.halts {failed : Bool} (h : Rounds clock r s s' r' failed) :
    ¬ r'.state.Forward ∧ r'.state ≠ .succeeded := by
  have ends : r'.state = .rollbackFailed ∨ r'.state = .rolledBack ∨ r'.state = .rollingBack := by
    rw [h.state]
    split
    · exact .inl rfl
    · split
      · exact .inr (.inl rfl)
      · exact .inr (.inr rfl)
  rcases ends with is | is | is <;> rw [is] <;> exact ⟨by decide, nofun⟩

lemma Rollout.Disciplined.around (h : r.Disciplined) (running : r.state = .running) {s₀ : System}
    {node₀ : Node} (nodes : r.nodes = before ++ node :: after)
    (takes : Takes clock r s before node after node₀ s₀) :
    (∀ n ∈ before, n.phase = .ready) ∧ (∀ n ∈ after, n.phase = .pending) ∧ node₀.phase.Active := by
  have order := h.order (.inl running)
  rw [nodes] at order
  cases takes with
  | active _ active =>
    obtain ⟨done, waiting⟩ := order.around (fun ready => Phase.not_active_ready (ready ▸ active))
      fun pending => absurd (pending ▸ active) Phase.not_active_pending
    exact ⟨done, waiting, active⟩
  | pending inactive past pending =>
    obtain ⟨done, waiting⟩ := order.around (fun ready => nomatch ready.symm.trans pending) fun _ n member =>
      ⟨past n member, inactive n (nodes ▸ List.mem_append_left _ member)⟩
    exact ⟨done, waiting, .inl rfl⟩

lemma Advances.moves {t : Instant} {log : List Issued} {node' : Node} {record : Record}
    (h : Advances t log r node record node' none) (active : node.phase.Active) :
    node'.phase = .ready ∨ node'.phase.Active := by
  cases h with
  | waits => exact .inr active
  | drained => exact .inr (.inr (.inl rfl))
  | applied => exact .inr (.inr (.inr rfl))
  | tests => exact .inr active
  | passed => exact .inl rfl

lemma Rollout.Disciplined.first (h : r.Disciplined) (running : r.state = .running)
    (unpromoted : r.canaryPromoted = false) (nodes : r.nodes = before ++ node :: after) (done : ∀ n ∈ before, n.phase = .ready) : before = [] := by
  cases before with
  | nil => rfl
  | cons first before =>
    refine absurd (done first List.mem_cons_self) (h.canary unpromoted running first ?_)
    rw [nodes]
    rfl

lemma head_newNodes {ids : List NodeId} {canary : Bool} {t : Instant} :
    ∀ n ∈ (newNodes ids canary t).head?, n.canary = canary := by
  cases ids with
  | nil =>
    intro _ first
    cases first
  | cons id ids =>
    intro n first
    rw [newNodes, List.mapIdx_cons] at first
    cases first
    simp

lemma disciplined_change {op : Op} (change : Change clock s op s')
    (before : ∀ r, s.rollout = some r → r.Disciplined) : ∀ r, s'.rollout = some r → r.Disciplined := by
  intro r' found'
  have placed := change.persists found'
  cases change with
  | nothing | workers => exact before r' found'
  | coordinated id _ _ r record found =>
    cases found'
    exact (before r found).same ((Rollout.Coordinated.refl id r).write _).toSame
  | started target nodes order timeout canary =>
    cases found'
    have pending : ∀ n ∈ newNodes (orderedNodes nodes order) canary (clock s.reads), n.phase = .pending :=
      fun n member => (mem_newNodes member).1
    exact
      { order _ := ⟨fun n member => .inr (.inr (pending n member)),
          List.pairwise_of_forall_mem_list fun _ _ m member => .inr (pending m member)⟩
        canaries := head_newNodes
        gate is := by simpa using is
        canary _ _ n first ready := nomatch ready.symm.trans (pending n (List.mem_of_mem_head? first))
        pending _ _ n member := pending n (List.mem_of_mem_tail member)
        heldBack _ n member := .inl (pending n (List.mem_of_mem_tail member))
        success := nofun }
  | promoted r found awaiting =>
    cases found'
    have h := before r found
    exact ⟨fun _ => h.order (.inr awaiting), h.canaries, nofun, nofun, nofun, nofun, nofun⟩
  | cancelled r found =>
    cases found'
    have each : List.Forall₂ (fun n n' => n.Persists n' ∧ (n.phase.HeldBack → n'.phase.HeldBack)) r.nodes
        (r.cancel s.drawn).nodes := by
      refine (r.cancel_nodes s.drawn).imp fun n n' how => ?_
      rcases how with rfl | ⟨_, rfl⟩
      · exact ⟨⟨rfl, rfl⟩, id⟩
      · exact ⟨⟨rfl, rfl⟩, fun _ => .inr (.inl rfl)⟩
    have h := before r found
    have halted : ¬ State.cancelled.Forward := by decide
    refine h.halt ⟨halted, nofun⟩ rfl rfl (each.imp fun _ _ both => both.1) fun is => ?_
    exact forall_tail each (h.heldBack is) fun _ _ both => both.2
  | turned r r₁ _ found _ begins =>
    cases found'.symm.trans begins.rollout
    have h := before r found
    refine h.halt begins.halts begins.canary begins.canaryPromoted begins.persists fun is => ?_
    exact forall_tail begins.nodes (h.heldBack is) fun _ _ turns => turns.1.heldBack
  | cleaned r _ found _ cleaned =>
    rw [cleaned.rest] at found'
    exact before r' found'
  | advanced r r₁ earlier later node node₀ node' s₀ _ found running nodes takes advanced =>
    cases found'.symm.trans advanced.rollout
    have h := before r found
    obtain ⟨done, waiting, active⟩ := h.around running nodes takes
    obtain ⟨record, _, advances⟩ := advanced.judged
    have moves := advances.moves active
    have canary : node'.canary = node.canary := advances.persists.canary.trans takes.persists.canary
    have first : r'.canaryPromoted = false → earlier = [] := fun is =>
      h.first running (advanced.canaryPromoted.symm.trans is) nodes done
    have tail : r'.canaryPromoted = false → ∀ n ∈ r'.nodes.tail, n.phase = .pending := by
      intro is n member
      rw [advanced.nodes, first is] at member
      exact waiting n member
    have state : (r'.state = .awaitingPromotion) ∨ (r'.state = .running ∧
        (node'.phase = .ready → node'.canary = true → r'.canaryPromoted = true)) := by
      rw [advanced.state, advanced.canaryPromoted]
      rcases r.after_cases node' with ⟨is, _⟩ | ⟨is, ready⟩
      · exact .inl is
      · exact .inr ⟨is.trans running, ready⟩
    refine ⟨fun _ => ?_, ?_, fun is => ?_, fun is running' n head ready => ?_, fun is _ => tail is,
      fun is n member => .inl (tail is n member), fun is => ?_⟩
    · rw [advanced.nodes]
      exact inOrder_of done waiting moves
    · have persists : List.Forall₂ Node.Persists r.nodes r'.nodes := by
        rw [nodes, advanced.nodes]
        exact persists_middle ⟨advances.persists.nodeId.trans takes.persists.nodeId, canary⟩
      exact forall_head persists h.canaries fun _ _ persists is => by rw [persists.canary, is, advanced.canary]
    · exact advanced.canary.trans (h.gate (advanced.canaryPromoted.symm.trans is))
    · have nodes' := nodes
      rw [advanced.nodes, first is] at head
      rw [first is] at nodes'
      cases head
      have flagged : node.canary = true := by
        rw [h.canaries node (by rw [nodes']; rfl)]
        exact h.gate (advanced.canaryPromoted.symm.trans is)
      rcases state with awaits | ⟨_, promoted⟩
      · cases awaits.symm.trans running'
      · cases is.symm.trans (promoted ready (canary.trans flagged))
    · rcases state with awaits | ⟨runs, _⟩
      · cases awaits.symm.trans is
      · cases runs.symm.trans is
  | failed r r₁ r₂ earlier later node node₀ s₀ s₁ _ found running nodes takes _ marked begins =>
    cases found'.symm.trans begins.rollout
    have h := before r found
    obtain ⟨done, waiting, _⟩ := h.around running nodes takes
    obtain ⟨error, is⟩ := marked.nodes
    rcases placed with ⟨_, found₀, _, _, persists⟩ | ⟨_, _, _, _, _, starts, _⟩
    · cases found₀.symm.trans found
      refine h.halt begins.halts (begins.canary.trans marked.canary)
        (begins.canaryPromoted.trans marked.canaryPromoted) persists fun unpromoted => ?_
      have each := begins.nodes
      rw [is, h.first running unpromoted nodes done] at each
      exact forall_tail each waiting fun _ _ turns pending => turns.1.heldBack (.inl pending)
    · cases starts
  | succeeded r found running done =>
    cases found'
    have h := before r found
    have ready : ∀ n ∈ r.nodes, n.phase = .ready := by
      intro n member
      rcases (h.order (.inl running)).1 n member with ready | active | pending
      · exact ready
      · exact absurd active (done n member).1
      · exact absurd pending (done n member).2
    refine ⟨?_, h.canaries, h.gate, nofun, ?_, h.heldBack, fun _ => ready⟩
    · rintro (is | is) <;> cases is
    · rintro _ (is | is) <;> cases is
  | round r r₁ failed _ found _ rounds =>
    cases found'.symm.trans rounds.rollout
    have h := before r found
    refine h.halt rounds.halts rounds.canary rounds.canaryPromoted
      (rounds.nodes.imp fun _ _ rolled => rolled.persists) fun is => ?_
    exact forall_tail rounds.nodes (h.heldBack is) fun _ _ rolled => rolled.heldBack

lemma Reachable.disciplined (h : Reachable clock s) (found : s.rollout = some r) :
    r.Disciplined := by
  have all : ∀ r, s.rollout = some r → r.Disciplined :=
    ReachableWhen.invariant (I := fun s => ∀ r, s.rollout = some r → r.Disciplined) (fun _ found => nomatch found)
      (fun _ _ _ _ before _ change => disciplined_change change before) h
  exact all r found

lemma InOrder.one_active (h : InOrder nodes) :
    (nodes.filter (decide ·.phase.Active)).length ≤ 1 := by
  obtain ⟨done, active, rest, rfl, ready, one, _, pending⟩ := h.shape
  have none : ∀ l : List Node, (∀ n ∈ l, ¬ n.phase.Active) → l.filter (decide ·.phase.Active) = [] := by
    intro l inactive
    refine List.filter_eq_nil_iff.2 fun n member => ?_
    simpa using inactive n member
  rw [List.filter_append, List.filter_append, none done fun n member is => ?_, none rest fun n member is => ?_,
    List.nil_append, List.append_nil]
  · exact (List.length_filter_le _ _).trans one
  · exact Phase.not_active_pending (pending n member ▸ is)
  · exact Phase.not_active_ready (ready n member ▸ is)

/-- A canary rollout is promoted by `promote_rollout` only. -/
lemma Change.promoted_by {op : Op} (change : Change clock s op s') (other : op ≠ .promote)
    (found' : s'.rollout = some r') (canary : r'.canary = true) (promoted : r'.canaryPromoted = true) :
    ∃ r, s.rollout = some r ∧ r.canaryPromoted = true := by
  cases change with
  | nothing | workers => exact ⟨r', found', promoted⟩
  | coordinated _ _ _ r record found =>
    cases found'
    exact ⟨r, found, promoted⟩
  | started =>
    cases found'
    cases (congrArg Bool.not canary).symm.trans promoted
  | promoted => exact absurd rfl other
  | cancelled r found =>
    cases found'
    exact ⟨r, found, promoted⟩
  | turned r r₁ _ found _ begins =>
    cases found'.symm.trans begins.rollout
    exact ⟨r, found, begins.canaryPromoted.symm.trans promoted⟩
  | cleaned r _ found _ cleaned =>
    rw [cleaned.rest] at found'
    exact ⟨r', found', promoted⟩
  | advanced r _ _ _ _ _ _ _ _ found _ _ _ advanced =>
    cases found'.symm.trans advanced.rollout
    exact ⟨r, found, advanced.canaryPromoted.symm.trans promoted⟩
  | failed r _ _ _ _ _ _ _ _ _ found _ _ _ _ marked begins =>
    cases found'.symm.trans begins.rollout
    exact ⟨r, found, (begins.canaryPromoted.trans marked.canaryPromoted).symm.trans promoted⟩
  | succeeded r found =>
    cases found'
    exact ⟨r, found, promoted⟩
  | round r _ _ _ found _ rounds =>
    cases found'.symm.trans rounds.rollout
    exact ⟨r, found, rounds.canaryPromoted.symm.trans promoted⟩

/-- In every state of a run: while a rollout goes forward, at most one of its nodes is worked on, and the nodes are
done, worked on and pending in their order; until a canary is promoted, which only `promote_rollout` does, the
nodes after it are pending while the rollout goes forward, and leave that phase for a cancel or a rollback only;
and a rollout that has succeeded has updated all its nodes. -/
theorem rollout_disciplined {s : System} (h : Reachable clock s) {r : Rollout} (found : s.rollout = some r) :
    (r.state = .running ∨ r.state = .awaitingPromotion →
      (r.nodes.filter (decide ·.phase.Active)).length ≤ 1 ∧
      ∃ done active pending, r.nodes = done ++ active ++ pending ∧ (∀ n ∈ done, n.phase = .ready) ∧
        active.length ≤ 1 ∧ (∀ n ∈ active, n.phase.Active) ∧ ∀ n ∈ pending, n.phase = .pending) ∧
    (r.canary = true → r.canaryPromoted = false →
      (r.state = .running ∨ r.state = .awaitingPromotion → ∀ n ∈ r.nodes.tail, n.phase = .pending) ∧
      ∀ n ∈ r.nodes.tail, n.phase = .pending ∨ n.phase = .cancelled ∨ n.phase = .rollingBack ∨
        n.phase = .rolledBack ∨ n.phase = .rollbackFailed) ∧
    (∀ (op : Op) (r' : Rollout), op ≠ .promote → (op.after clock s).rollout = some r' → r'.canary = true →
      r'.canaryPromoted = true → r.canaryPromoted = true) ∧
    (r.state = .succeeded → ∀ n ∈ r.nodes, n.phase = .ready) := by
  have disciplined := h.disciplined found
  refine ⟨fun forward => ?_, fun _ unpromoted => ⟨fun forward => ?_, ?_⟩, fun op r' other found' canary promoted => ?_,
    disciplined.success⟩
  · exact ⟨(disciplined.order forward).one_active, (disciplined.order forward).shape⟩
  · exact disciplined.pending unpromoted forward
  · exact disciplined.heldBack unpromoted
  · have change : Change clock s op (op.after clock s) := op.change h.distinct
    obtain ⟨_, found₀, is⟩ := change.promoted_by other found' canary promoted
    cases found.symm.trans found₀
    exact is

/-- A canary rollout of two nodes, in which nothing has happened yet. -/
def canaryStart : Op := .start "2" ["a", "b"] .custom 600 true

theorem rollout_disciplined_canary : let s := Op.after (fun _ => ⟨"", 0⟩) canaryStart {}
    ∃ r, s.rollout = some r ∧ r.canaryPromoted = false ∧ ∀ n ∈ r.nodes.tail, n.phase = .pending :=
  have reached : Reachable (fun _ => ⟨"", 0⟩) (Op.after (fun _ => ⟨"", 0⟩) canaryStart {}) :=
    .step (.init rfl) ⟨canaryStart, trivial, rfl⟩
  ⟨_, rfl, rfl, ((rollout_disciplined reached rfl).2.1 rfl rfl).1 (.inl rfl)⟩

/-- A cancel takes a node after the canary out of its phase before the promotion. -/
theorem canary_does_not_hold_back : ¬ ∀ (clock : ℕ → Instant) (s : System) (r : Rollout), Reachable clock s →
    s.rollout = some r → r.canary = true → r.canaryPromoted = false → ∀ n ∈ r.nodes.tail, n.phase = .pending := by
  intro claim
  set clock : ℕ → Instant := fun _ => ⟨"", 0⟩
  have started : Reachable clock (canaryStart.after clock {}) := .step (.init rfl) ⟨canaryStart, trivial, rfl⟩
  have cancelled : Reachable clock (Op.cancel.after clock (canaryStart.after clock {})) :=
    .step started ⟨.cancel, trivial, rfl⟩
  have held := claim clock _ _ cancelled rfl rfl rfl ⟨"b", .cancelled, false, none, ⟨"", 0⟩, none, none⟩ (by decide)
  cases held

end Vertep.Rolling
