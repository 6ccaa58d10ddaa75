import Vertep.Rolling.Runs

/-!
# Which self-tests decide a phase (`core/rolling_update.py`)

A request for a self-test carries a nonce of its own, the operation and the version to be tested, and a test that
passes has to echo all three. The invariant is where the request of a node was issued: in its `SELF_TESTING`
phase, for the target version, or while it rolled back. What the code does not look at is whether a test that
failed was asked for, and whether the request it keeps for a rollback to the target version is an old one.
-/

namespace Vertep.Rolling
open Lib Command

variable {clock : ℕ → Instant}

/-- Where the request of a node comes from. -/
structure Node.Requested (log : List Issued) (r : Rollout) (n : Node) : Prop where
  issued : ∀ q, n.selfTestRequest = some q → q.operationId = r.operationId ∧
    ((⟨n.nodeId, .selfTesting, q⟩ ∈ log ∧ q.targetVersion = some r.targetVersion) ∨
      ⟨n.nodeId, .rollingBack, q⟩ ∈ log)
  early : n.phase = .pending ∨ n.phase = .draining ∨ n.phase = .updating → n.selfTestRequest = none
  testing : n.phase = .selfTesting → ∃ q, n.selfTestRequest = some q ∧ ⟨n.nodeId, .selfTesting, q⟩ ∈ log ∧
    q.targetVersion = some r.targetVersion

variable {log : List Issued} {r : Rollout} {n n' : Node}

lemma Node.Requested.mono {log' : List Issued} {r' : Rollout} (h : n.Requested log r)
    (grows : ∀ e ∈ log, e ∈ log') (alike : r.Alike r') : n.Requested log' r' where
  issued q own := by
    rw [alike.operationId, alike.targetVersion]
    exact (h.issued q own).imp_right (Or.imp (And.imp_left (grows _)) (grows _))
  early := h.early
  testing is := by
    obtain ⟨q, own, issued, target⟩ := h.testing is
    exact ⟨q, own, grows _ issued, by rw [target, alike.targetVersion]⟩

lemma Node.Requested.halt (h : n.Requested log r) (n' : Node)
    (same : n'.nodeId = n.nodeId) (own : n'.selfTestRequest = n.selfTestRequest)
    (late : n'.phase ≠ .pending ∧ n'.phase ≠ .draining ∧ n'.phase ≠ .updating ∧ n'.phase ≠ .selfTesting) :
    n'.Requested log r where
  issued q is := by
    rw [same]
    exact h.issued q (own ▸ is)
  early is := by
    rcases is with is | is | is
    · exact absurd is late.1
    · exact absurd is late.2.1
    · exact absurd is late.2.2.1
  testing is := absurd is late.2.2.2

variable {q : SelfTestRequest}

/-- A node with a request of its `SELF_TESTING` phase. -/
lemma requested_of (own : n.selfTestRequest = some q) (stands : q.Stands r (some r.targetVersion))
    (issued : ⟨n.nodeId, .selfTesting, q⟩ ∈ log) (late : n.phase = .selfTesting ∨ n.phase = .ready) :
    n.Requested log r where
  issued q' is := by
    cases own.symm.trans is
    exact ⟨stands.1, .inl ⟨issued, stands.2⟩⟩
  early is := by rcases late with h | h <;> rcases is with is | is | is <;> cases h.symm.trans is
  testing _ := ⟨q, own, issued, stands.2⟩

/-- The request that stands for a node in `SELF_TESTING` was issued in that phase. -/
lemma Node.Requested.ensured (h : n.Requested log r) (testing : n.phase = .selfTesting) {target : Option Version}
    (ensured : Ensured log r n target q) : ⟨n.nodeId, .selfTesting, q⟩ ∈ log := by
  rcases ensured.2 with own | issued
  · obtain ⟨q', own', issued, _⟩ := h.testing testing
    cases own.symm.trans own'
    exact issued
  · rwa [testing] at issued

variable {record : Record}

lemma Advances.requested {t : Instant} (h : Advances t log r n record n' none) (before : n.Requested log r) : n'.Requested log r := by
  cases h with
  | waits => exact before
  | drained _ draining =>
    have none := before.early (.inr (.inl draining))
    exact ⟨fun q own => (nomatch none.symm.trans own), fun _ => none, nofun⟩
  | applied t' q updating _ ensured =>
    refine requested_of rfl ensured.1 ?_ (.inl rfl)
    rcases ensured.2 with own | issued
    · cases (before.early (.inr (.inr updating))).symm.trans own
    · exact issued
  | tests q testing _ ensured => exact requested_of rfl ensured.1 (before.ensured testing ensured) (.inl testing)
  | passed q testing ensured => exact requested_of rfl ensured.1 (before.ensured testing ensured) (.inr rfl)

lemma Node.Requested.back {m : Node} {target : Option Version}
    (h : n.Requested log r) (same : m.nodeId = n.nodeId)
    (kept : m.selfTestRequest = n.selfTestRequest) (back : m.phase = .rollingBack) (ensured : Ensured log r m target q)
    (same' : n'.nodeId = n.nodeId) (own : n'.selfTestRequest = some q)
    (late : n'.phase = .rollingBack ∨ n'.phase = .rolledBack) : n'.Requested log r where
  issued q' is := by
    cases own.symm.trans is
    rw [same']
    rcases ensured.2 with old | issued
    · exact h.issued q (kept ▸ old)
    · rw [same, back] at issued
      exact ⟨ensured.1.1, .inr issued⟩
  early is := by rcases late with h | h <;> rcases is with is | is | is <;> cases h.symm.trans is
  testing is := by rcases late with h | h <;> cases h.symm.trans is

lemma TurnsBack.requested {worker : Option Record}
    (h : TurnsBack log r worker n n') (before : n.Requested log r) : n'.Requested log r := by
  cases h with
  | back t own updated how =>
    rcases how with rfl | ⟨q, rfl, ensured⟩
    · exact before.halt _ rfl rfl ⟨nofun, nofun, nofun, nofun⟩
    · exact before.back (m := { n with phase := .rollingBack, phaseStartedAt := t }) rfl rfl rfl ensured rfl rfl
        (.inl rfl)
  | stays => exact before
  | ends => exact before.halt _ rfl rfl ⟨nofun, nofun, nofun, nofun⟩

variable {nodes before after : List Node} {s s' : System}

lemma Rolled.requested {failed : Bool} (h : Rolled clock failed nodes r s s' n n') (before : n.Requested s'.log r) : n'.Requested s'.log r := by
  rcases h with ⟨rfl, _⟩ | ⟨back, rolls, _⟩
  · exact before
  · cases rolls with
    | failed => exact before.halt _ rfl rfl ⟨nofun, nofun, nofun, nofun⟩
    | waits q _ ensured => exact before.back rfl rfl back ensured rfl rfl (.inl back)
    | confirmed w q _ ensured => exact before.back rfl rfl back ensured rfl rfl (.inr rfl)

def System.Requested (s : System) : Prop := ∀ r, s.rollout = some r → ∀ n ∈ r.nodes, n.Requested s.log r

lemma Takes.requested {s₀ : System} {n₀ : Node}
    (h : Takes clock r s before n after n₀ s₀) (held : n.Requested log r) : n₀.Requested log r := by
  cases h with
  | active => exact held
  | pending _ _ pending =>
    have none := held.early (.inl pending)
    exact ⟨fun q own => (nomatch none.symm.trans own), fun _ => none, nofun⟩

lemma requested_change {op : Op} (change : Change clock s op s') (before : s.Requested) :
    s'.Requested := by
  intro r' found' n' member
  have grows := change.grows.1
  cases change with
  | nothing | workers => exact before r' found' n' member
  | coordinated id _ _ r record found =>
    cases found'
    exact (before r found n' member).mono (fun _ h => h) ⟨rfl, rfl⟩
  | started =>
    cases found'
    obtain ⟨pending, none, _⟩ := mem_newNodes member
    exact ⟨fun q own => (nomatch none.symm.trans own), fun _ => none, fun is => (nomatch pending.symm.trans is)⟩
  | promoted r found =>
    cases found'
    exact (before r found n' member).mono (fun _ h => h) ⟨rfl, rfl⟩
  | cancelled r found =>
    cases found'
    refine forall_of_forall₂ (r.cancel_nodes s.drawn) (before r found) (fun n n' how held => ?_) n' member
    rcases how with rfl | ⟨_, rfl⟩
    · exact held.mono (fun _ h => h) ⟨rfl, rfl⟩
    · exact (held.halt { n with phase := .cancelled } rfl rfl ⟨nofun, nofun, nofun, nofun⟩).mono (fun _ h => h)
        ⟨rfl, rfl⟩
  | turned r r₁ _ found _ begins =>
    cases found'.symm.trans begins.rollout
    have held : ∀ n ∈ r.nodes, n.Requested s'.log r := fun n member =>
      (before r found n member).mono grows ⟨rfl, rfl⟩
    refine forall_of_forall₂ begins.nodes held (fun n n' turns held => ?_) n' member
    exact (turns.1.requested held).mono (fun _ h => h) ⟨begins.operationId, begins.targetVersion⟩
  | cleaned r _ found _ cleaned =>
    rw [cleaned.rest] at found' ⊢
    exact before r' found' n' member
  | advanced r r₁ earlier later node node₀ node' s₀ _ found _ nodes takes advanced =>
    cases found'.symm.trans advanced.rollout
    have held : ∀ n ∈ r.nodes, n.Requested s'.log r := fun n member =>
      (before r found n member).mono grows ⟨rfl, rfl⟩
    obtain ⟨record, _, advances⟩ := advanced.judged
    rw [nodes] at held
    rw [advanced.nodes] at member
    refine Node.Requested.mono ?_ (fun _ h => h) advanced.alike
    exact forall_middle held (fun held => advances.requested (takes.requested held)) n' member
  | failed r r₁ r₂ earlier later node node₀ s₀ s₁ _ found _ nodes takes _ marked begins =>
    cases found'.symm.trans begins.rollout
    have held : ∀ n ∈ r.nodes, n.Requested s'.log r := fun n member =>
      (before r found n member).mono grows ⟨rfl, rfl⟩
    obtain ⟨error, is⟩ := marked.nodes
    have held₁ : ∀ n ∈ r₁.nodes, n.Requested s'.log r₁ := by
      rw [nodes] at held
      intro n member
      rw [is] at member
      refine Node.Requested.mono ?_ (fun _ h => h) marked.alike
      refine forall_middle held (fun held => ?_) n member
      exact (takes.requested held).halt _ rfl rfl ⟨nofun, nofun, nofun, nofun⟩
    refine forall_of_forall₂ begins.nodes held₁ (fun n n' turns held => ?_) n' member
    exact (turns.1.requested held).mono (fun _ h => h) ⟨begins.operationId, begins.targetVersion⟩
  | succeeded r found =>
    cases found'
    exact (before r found n' member).mono (fun _ h => h) ⟨rfl, rfl⟩
  | round r r₁ failed _ found _ rounds =>
    cases found'.symm.trans rounds.rollout
    have held : ∀ n ∈ r.nodes, n.Requested s'.log r := fun n member =>
      (before r found n member).mono grows ⟨rfl, rfl⟩
    refine forall_of_forall₂ rounds.nodes held (fun n n' rolled held => ?_) n' member
    exact (rolled.requested held).mono (fun _ h => h) rounds.alike

lemma ReachableWhen.requested {C : System → Op → Prop} (h : ReachableWhen clock C s) : s.Requested :=
  h.invariant (fun _ found => nomatch found) fun _ _ _ _ before _ change => requested_change change before

/-! ## What decides a phase -/

/-- A self-test decides a node: it passes, and answers a request that was issued in the phase the node is in. -/
def DecidedBy (s s' : System) (r : Rollout) (n n' : Node) (target : Option Version) : Prop :=
  ∃ record q, r.recordOf s n.nodeId = some record ∧ n'.selfTestRequest = some q ∧
    ⟨n.nodeId, n.phase, q⟩ ∈ s'.log ∧ Passes r n target record q

variable (clock) in
/-- What a step may decide about a node by its self-test. -/
structure Decided (s : System) (op : Op) (s' : System) (r : Rollout) (n n' : Node) : Prop where
  ready : n.phase ≠ .ready → n'.phase = .ready → DecidedBy s s' r n n' (some r.targetVersion)
  rolledBack : n.phase ≠ .rolledBack → n'.phase = .rolledBack → DecidedBy s s' r n n' n.previousVersion
  failed : op = .reconcile → n.phase = .selfTesting → n'.phase ≠ .selfTesting →
    ∀ record, r.recordOf s n.nodeId = some record → ¬ n.Late r.updateTimeoutSeconds (clock s.reads) →
    record.selfTest.status = some "FAILED" → ∃ q, n.selfTestRequest = some q ∧ ⟨n.nodeId, n.phase, q⟩ ∈ s.log ∧
      record.selfTest.nonce = some q.nonce ∧ record.selfTest.operationId = some r.operationId ∧
      record.selfTest.targetVersion = some r.targetVersion

variable (clock) in
/-- No failed self-test is read that nobody asked for, and no node rolls back to the version it was updated to while
the request of its update still stands. -/
structure Answered (s : System) (op : Op) : Prop where
  failed : op = .reconcile → ∀ r, s.rollout = some r → r.state = .running → ∀ n ∈ r.nodes, n.phase = .selfTesting →
    ∀ record, r.recordOf s n.nodeId = some record → ¬ n.Late r.updateTimeoutSeconds (clock s.reads) →
    record.selfTest.status = some "FAILED" → selfTestBound record.selfTest n r = true
  rollback : op = .reconcile → ∀ r, s.rollout = some r → r.state = .rollingBack → ∀ n ∈ r.nodes,
    n.phase = .rollingBack → n.previousVersion = some r.targetVersion → ∀ q, n.selfTestRequest = some q →
    ⟨n.nodeId, .selfTesting, q⟩ ∉ s.log

lemma Decided.of_same {op : Op} (same : n'.phase = n.phase) :
    Decided clock s op s' r n n' where
  ready not_ready is := absurd (same.symm.trans is) not_ready
  rolledBack not_back is := absurd (same.symm.trans is) not_back
  failed _ testing left := absurd (same.trans testing) left

lemma Decided.of_other {op : Op} (other : n'.phase ≠ .ready ∧ n'.phase ≠ .rolledBack)
    (failed : op = .reconcile → n.phase = .selfTesting → ∀ record, r.recordOf s n.nodeId = some record →
      ¬ n.Late r.updateTimeoutSeconds (clock s.reads) → record.selfTest.status = some "FAILED" →
      ∃ q, n.selfTestRequest = some q ∧ ⟨n.nodeId, n.phase, q⟩ ∈ s.log ∧
        record.selfTest.nonce = some q.nonce ∧ record.selfTest.operationId = some r.operationId ∧
        record.selfTest.targetVersion = some r.targetVersion) : Decided clock s op s' r n n' where
  ready _ is := absurd is other.1
  rolledBack _ is := absurd is other.2
  failed is testing _ := failed is testing

lemma Node.Requested.bound {test : SelfTest} (h : n.Requested log r)
    (testing : n.phase = .selfTesting) (bound : selfTestBound test n r = true) :
    ∃ q, n.selfTestRequest = some q ∧ ⟨n.nodeId, n.phase, q⟩ ∈ log ∧ test.nonce = some q.nonce ∧
      test.operationId = some r.operationId ∧ test.targetVersion = some r.targetVersion := by
  obtain ⟨q, own, issued, target⟩ := h.testing testing
  obtain ⟨nonce, operation, answered, same⟩ := (selfTestBound_iff own).1 bound
  exact ⟨q, own, testing ▸ issued, nonce, operation.trans (congrArg some same), answered.trans target⟩

lemma forall₂_middle {R : Node → Node → Prop} (same : ∀ n, R n n)
    (step : R n n') : List.Forall₂ R (before ++ n :: after) (before ++ n' :: after) :=
  List.rel_append (List.forall₂_same.2 fun n _ => same n) (.cons step (List.forall₂_same.2 fun n _ => same n))

lemma Advances.decided (h : Advances (clock s.reads) s'.log r n record n' none) (judged : r.recordOf s n.nodeId = some record)
    (active : n.phase.Active) (requested : n.Requested s'.log r) :
    (n'.phase = .ready → DecidedBy s s' r n n' (some r.targetVersion)) ∧ n'.phase ≠ .rolledBack := by
  have open_ : n.phase ≠ .ready ∧ n.phase ≠ .rolledBack := by
    rcases active with is | is | is <;> rw [is] <;> exact ⟨nofun, nofun⟩
  cases h with
  | waits => exact ⟨fun is => absurd is open_.1, open_.2⟩
  | drained | applied => exact ⟨nofun, nofun⟩
  | tests => exact ⟨fun is => absurd is open_.1, open_.2⟩
  | passed q testing ensured passes =>
    refine ⟨fun _ => ⟨record, q, judged, rfl, ?_, passes⟩, nofun⟩
    rw [testing]
    exact requested.ensured testing ensured

lemma Advances.draining {t : Instant} (h : Advances t log r n record n' none) (draining : n.phase = .draining) :
    n'.phase ≠ .ready ∧ n'.phase ≠ .rolledBack := by
  cases h with
  | waits => rw [draining]; exact ⟨nofun, nofun⟩
  | drained | applied => exact ⟨nofun, nofun⟩
  | tests _ testing | passed _ testing => cases draining.symm.trans testing

lemma Rolled.decided {failed : Bool} {op : Op} (h : Rolled clock failed nodes r s s' n n') (requested : n.Requested s.log r)
    (fresh : n.phase = .rollingBack → n.previousVersion = some r.targetVersion →
      ∀ q, n.selfTestRequest = some q → ⟨n.nodeId, .selfTesting, q⟩ ∉ s.log)
    (grows : ∀ e ∈ s.log, e ∈ s'.log) : Decided clock s op s' r n n' := by
  rcases h with ⟨rfl, _⟩ | ⟨back, rolls, _⟩
  · exact .of_same rfl
  have untested : n.phase ≠ .selfTesting := by rw [back]; exact nofun
  cases rolls with
  | failed => exact .of_other ⟨nofun, nofun⟩ fun _ is => absurd is untested
  | waits => exact .of_same rfl
  | confirmed w q is ensured passes =>
    refine ⟨nofun, fun _ _ => ⟨w, q, is, rfl, ?_, passes⟩, fun _ is => absurd is untested⟩
    rcases ensured.2 with own | issued
    · rcases (requested.issued q own).2 with ⟨old, target⟩ | issued
      · exact absurd old (fresh back (ensured.1.2.symm.trans target) q own)
      · rw [back]
        exact grows _ issued
    · exact issued

variable (clock) in
/-- In every run in which no failed self-test is read that was not asked for, and no node rolls back to the version
it was updated to while the request of its update stands: a node becomes `READY` or `ROLLED_BACK` only by a
self-test that passed in answer to the request issued in its phase, no earlier than the phase began and with the
version required, and leaves `SELF_TESTING` for a failed one only if that answers its request. -/
theorem only_bound_tests_decide {s : System} (h : ReachableWhen clock (Answered clock) s) {op : Op}
    (met : Answered clock s op) {r r' : Rollout} (found : s.rollout = some r)
    (found' : (op.after clock s).rollout = some r') (same : r'.operationId = r.operationId) :
    List.Forall₂ (Decided clock s op (op.after clock s) r) r.nodes r'.nodes := by
  have requested := h.requested r found
  have change : Change clock s op (op.after clock s) := op.change h.distinct
  have grows := change.grows.1
  generalize op.after clock s = s' at found' change grows
  have kept : ∀ nodes : List Node, List.Forall₂ (Decided clock s op s' r) nodes nodes := fun nodes =>
    List.forall₂_same.2 fun n _ => .of_same rfl
  cases change with
  | nothing =>
    cases found.symm.trans found'
    exact kept _
  | workers =>
    cases found.symm.trans found'
    exact kept _
  | coordinated _ _ _ r₀ record found₀ =>
    cases found.symm.trans found₀
    cases found'
    exact kept r.nodes
  | started =>
    cases found'
    exact absurd same.symm (h.drawn found).ne
  | promoted r₀ found₀ =>
    cases found.symm.trans found₀
    cases found'
    exact kept r.nodes
  | cancelled r₀ found₀ =>
    cases found.symm.trans found₀
    cases found'
    refine (r.cancel_nodes s.drawn).imp fun n n' how => ?_
    rcases how with rfl | ⟨_, rfl⟩
    · exact .of_same rfl
    · exact .of_other ⟨nofun, nofun⟩ nofun
  | turned r₀ r₁ _ found₀ _ begins =>
    cases found.symm.trans found₀
    cases found'.symm.trans begins.rollout
    refine begins.nodes.imp fun n n' turns => ?_
    cases turns.1 with
    | back => exact .of_other ⟨nofun, nofun⟩ nofun
    | stays => exact .of_same rfl
    | ends => exact .of_other ⟨nofun, nofun⟩ nofun
  | cleaned r₀ _ found₀ _ cleaned =>
    cases found.symm.trans found₀
    rw [cleaned.rest] at found'
    cases found.symm.trans found'
    exact kept _
  | advanced r₀ r₁ earlier later node node₀ node' s₀ _ found₀ running nodes takes advanced =>
    cases found.symm.trans found₀
    cases found'.symm.trans advanced.rollout
    obtain ⟨record, judged, advances⟩ := advanced.judged
    have here : node ∈ r.nodes := nodes ▸ List.mem_append_right _ List.mem_cons_self
    rw [nodes, advanced.nodes]
    refine forall₂_middle (fun n => .of_same rfl) ?_
    cases takes with
    | active _ active =>
      obtain ⟨ready, not_back⟩ :=
        advances.decided judged active ((requested node here).mono grows ⟨rfl, rfl⟩)
      refine ⟨fun _ => ready, fun _ is => absurd is not_back, fun is testing _ record judged late failed => ?_⟩
      exact (requested node here).bound testing (met.failed is r found running node here testing record judged late failed)
    | pending _ _ pending =>
      exact .of_other (advances.draining rfl) fun _ testing => (nomatch pending.symm.trans testing)
  | failed r₀ r₁ r₂ earlier later node node₀ s₀ s₁ _ found₀ running nodes takes _ marked begins =>
    cases found.symm.trans found₀
    cases found'.symm.trans begins.rollout
    obtain ⟨error, is⟩ := marked.nodes
    have marks : List.Forall₂ (fun n n₁ => n ∈ r.nodes ∧ (n₁ = n ∨ n₁.phase = .failed)) r.nodes r₁.nodes := by
      refine (List.forall₂_and_left _ _).2 ⟨fun _ here => here, ?_⟩
      rw [nodes, is]
      exact forall₂_middle (fun n => .inl rfl) (.inr rfl)
    refine forall₂_comp (fun n n₁ n' ⟨here, mark⟩ turns => ?_) marks begins.nodes
    have failed : Op.reconcile = .reconcile → n.phase = .selfTesting → ∀ record, r.recordOf s n.nodeId = some record →
        ¬ n.Late r.updateTimeoutSeconds (clock s.reads) → record.selfTest.status = some "FAILED" →
        ∃ q, n.selfTestRequest = some q ∧ ⟨n.nodeId, n.phase, q⟩ ∈ s.log ∧ record.selfTest.nonce = some q.nonce ∧
          record.selfTest.operationId = some r.operationId ∧
          record.selfTest.targetVersion = some r.targetVersion := fun is testing record judged late failed =>
      (requested n here).bound testing (met.failed is r found running n here testing record judged late failed)
    cases turns.1 with
    | back => exact .of_other ⟨nofun, nofun⟩ failed
    | stays =>
      rcases mark with rfl | phase
      · exact .of_same rfl
      · exact .of_other (by rw [phase]; exact ⟨nofun, nofun⟩) failed
    | ends => exact .of_other ⟨nofun, nofun⟩ failed
  | succeeded r₀ found₀ =>
    cases found.symm.trans found₀
    cases found'
    exact kept r.nodes
  | round r₀ r₁ failed _ found₀ back rounds =>
    cases found.symm.trans found₀
    cases found'.symm.trans rounds.rollout
    refine ((List.forall₂_and_left (p := (· ∈ r.nodes)) _ _).2 ⟨fun _ here => here, rounds.nodes⟩).imp ?_
    intro n n' ⟨here, rolled⟩
    exact rolled.decided (requested n here) (met.rollback rfl r found back n here) grows

/-! ## Two runs -/

def still : ℕ → Instant := fun _ => ⟨"", 0⟩

def reports (node : NodeId) (record : Record) : Op := .workers ((∅ : Dict NodeId Record).set node record)

def oneNode : Op := .start "2" ["a"] .custom 600 false

def updatingNode : System :=
  Op.reconcile.after still ((reports "a" { version := some "1" }).after still (oneNode.after still {}))

lemma answered_of_unfailed (op : Op) (h : (s.rollout.all fun r => r.nodes.all fun n => n.phase ≠ .rollingBack &&
    (r.recordOf s n.nodeId).all fun record => record.selfTest.status ≠ some "FAILED") = true) : Answered clock s op := by
  have none : ∀ r, s.rollout = some r → ∀ n ∈ r.nodes, n.phase ≠ .rollingBack ∧
      ∀ record, r.recordOf s n.nodeId = some record → record.selfTest.status ≠ some "FAILED" := by
    intro r found n here
    rw [found, Option.all_some, List.all_eq_true] at h
    simpa only [Bool.and_eq_true, decide_eq_true_eq, Option.all_eq_true] using h n here
  exact ⟨fun _ r found _ n here _ record judged _ failed => absurd failed ((none r found n here).2 record judged),
    fun _ r found _ n here back => absurd back (none r found n here).1⟩

lemma updatingNode_reachable : ReachableWhen still (Answered still) updatingNode :=
  .step (.step (.step (.init rfl) ⟨oneNode, answered_of_unfailed _ rfl, rfl⟩)
    ⟨reports "a" { version := some "1" }, answered_of_unfailed _ (by decide +kernel), rfl⟩)
    ⟨.reconcile, answered_of_unfailed _ (by decide +kernel), rfl⟩

/-- The node reports the target version, is asked for a self-test, and reports one that answers the request. -/
def testedNode : System :=
  (reports "a" { version := some "2", selfTest := { status := some "PASSED", nonce := some 1, operationId := some 0
                                                    targetVersion := some "2" } }).after still <|
    Op.reconcile.after still ((reports "a" { version := some "2" }).after still updatingNode)

lemma testedNode_reachable : ReachableWhen still (Answered still) testedNode :=
  .step (.step (.step updatingNode_reachable ⟨reports "a" _, answered_of_unfailed _ (by decide +kernel), rfl⟩)
    ⟨.reconcile, answered_of_unfailed _ (by decide +kernel), rfl⟩)
    ⟨reports "a" _, answered_of_unfailed _ (by decide +kernel), rfl⟩

theorem only_bound_tests_decide_passed : ∃ r r', testedNode.rollout = some r ∧
    (Op.reconcile.after still testedNode).rollout = some r' ∧ r.nodes.map (·.phase) = [.selfTesting] ∧
    r'.nodes.map (·.phase) = [.ready] ∧
    List.Forall₂ (Decided still testedNode .reconcile (Op.reconcile.after still testedNode) r) r.nodes r'.nodes := by
  have before : testedNode.rollout.map (fun r => (r.operationId, r.nodes.map (·.phase))) = some (0, [.selfTesting]) := by
    decide +kernel
  have after : (Op.reconcile.after still testedNode).rollout.map (fun r => (r.operationId, r.nodes.map (·.phase))) =
      some (0, [.ready]) := by decide +kernel
  obtain ⟨r, found, is⟩ := Option.map_eq_some_iff.1 before
  obtain ⟨r', found', is'⟩ := Option.map_eq_some_iff.1 after
  obtain ⟨operation, testing⟩ := Prod.mk.inj is
  obtain ⟨operation', ready⟩ := Prod.mk.inj is'
  exact ⟨r, r', found, found', testing, ready, only_bound_tests_decide still testedNode_reachable
    (answered_of_unfailed _ (by decide +kernel)) found found' (operation'.trans operation.symm)⟩

/-- The node reports the target version, and a self-test that failed before anyone asked for one. -/
def staleNode : System :=
  Op.reconcile.after still <| (reports "a" { version := some "2", selfTest := { status := some "FAILED" } }).after still
    updatingNode

lemma staleNode_reachable : Reachable still staleNode :=
  .step (.step updatingNode_reachable.any ⟨reports "a" _, trivial, rfl⟩) ⟨.reconcile, trivial, rfl⟩

def testingNode : Node :=
  { nodeId := "a", phase := .selfTesting, canary := false, previousVersion := some "1", phaseStartedAt := ⟨"", 0⟩
    selfTestRequest := some ⟨1, 0, some "2", ⟨"", 0⟩⟩ }

/-- A self-test that failed before anyone asked for one takes a node out of `SELF_TESTING`. -/
theorem stale_failure_decides : ¬ ∀ (clock : ℕ → Instant) (s : System) (op : Op) (r r' : Rollout), Reachable clock s →
    s.rollout = some r → (op.after clock s).rollout = some r' → r'.operationId = r.operationId →
    List.Forall₂ (Decided clock s op (op.after clock s) r) r.nodes r'.nodes := by
  intro claim
  have before : staleNode.rollout.map (fun r => (r.operationId, r.updateTimeoutSeconds, r.nodes)) =
      some (0, 600, [testingNode]) := by decide +kernel
  have after : (Op.reconcile.after still staleNode).rollout.map (fun r => (r.operationId, r.nodes.map (·.phase))) =
      some (0, [.rollingBack]) := by decide +kernel
  have worker : (staleNode.workers.get? "a").map (·.selfTest) = some { status := some "FAILED" } := by decide +kernel
  obtain ⟨r, found, is⟩ := Option.map_eq_some_iff.1 before
  obtain ⟨r', found', is'⟩ := Option.map_eq_some_iff.1 after
  obtain ⟨record, reported, test⟩ := Option.map_eq_some_iff.1 worker
  simp only [Prod.mk.injEq] at is is'
  obtain ⟨operation, timeout, nodes⟩ := is
  obtain ⟨operation', phases⟩ := is'
  have decided := claim still staleNode .reconcile r r' staleNode_reachable found found' (operation'.trans operation.symm)
  rw [nodes] at decided
  obtain ⟨n', rest, first, _, nodes'⟩ := List.forall₂_cons_left_iff.1 decided
  rw [nodes', List.map_cons, List.cons.injEq] at phases
  have judged : r.recordOf staleNode "a" = some record := by
    rw [Rollout.recordOf, if_neg (by decide), reported]
  obtain ⟨q, _, _, nonce, _⟩ := first.failed rfl rfl (by rw [phases.1]; decide) record judged
    (by rw [timeout]; decide +kernel) (by rw [test])
  rw [test] at nonce
  cases nonce

end Vertep.Rolling
