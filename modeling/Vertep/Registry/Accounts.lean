import Vertep.Registry.Steps

/-!
# Certificates and tokens are accounted for (`core/node_registry.py`)

A serial that was given to a node is the current one of the node, or it is listed as revoked; a token is used by no
more enrolments than it was created for; and a retried enrolment needs the key of the latest enrolment of its node.
-/

namespace Vertep.Registry
open Lib

/-- A serial is the current one of a node that is not revoked, or it is listed as revoked. -/
def Accounted (registry : Registry) (nodeId serial : String) : Prop :=
  (∃ node, registry.nodes.get? nodeId = some node ∧ node.status ≠ .revoked ∧ node.certificateSerial = some serial) ∨
    some serial ∈ registry.revokedSerials

lemma serialText_ne_empty (draw : Draw) : serialText draw ≠ "" := by
  intro empty
  have none := congrArg String.toList empty
  rw [serialText, String.toList_ofList, String.toList_empty, List.map_eq_nil_iff] at none
  exact Nat.toDigits_ne_nil none

lemma mem_outgoing {serials : List (Option String)} {previous : Option String} {serial : Option String}
    (mem : serial ∈ serials) : serial ∈ outgoing serials previous := by
  unfold outgoing
  split
  · exact mem
  · exact List.mem_append_left _ mem

variable {serial nodeId : String}

lemma outgoing_mem {serials : List (Option String)} (nonempty : serial ≠ "") :
    some serial ∈ outgoing serials (some serial) := by
  rw [outgoing, Option.filter_some_pos (by simpa using nonempty)]
  exact List.mem_append_right _ (List.mem_singleton.2 rfl)

lemma Accounted.replaced {registry : Registry} (nonempty : serial ≠ "")
    (accounted : Accounted registry nodeId serial) (tokens : Dict String TokenRecord) (other : String) (node : Node) :
    Accounted ⟨tokens, registry.nodes.set other node,
      outgoing registry.revokedSerials ((registry.nodes.get? other).bind (·.certificateSerial))⟩ nodeId serial := by
  obtain ⟨current, found, active, same⟩ | listed := accounted
  · by_cases replaced : other = nodeId
    · subst replaced
      refine .inr ?_
      rw [found, Option.bind_some, same]
      exact outgoing_mem nonempty
    · exact .inl ⟨current, by rw [Dict.get?_set, if_neg replaced, found], active, same⟩
  · exact .inr (mem_outgoing listed)

lemma Accounted.revoked {registry : Registry} {other : String} {node : Node}
    (accounted : Accounted registry nodeId serial) (found : registry.nodes.get? other = some node) :
    Accounted
      { registry with
        nodes := registry.nodes.set other node.revoked
        revokedSerials := registry.revokedSerials ++ [node.certificateSerial] } nodeId serial := by
  obtain ⟨current, found', active, same⟩ | listed := accounted
  · by_cases replaced : other = nodeId
    · subst replaced
      cases found.symm.trans found'
      exact .inr (List.mem_append_right _ (List.mem_singleton.2 same.symm))
    · exact .inl ⟨current, by rw [Dict.get?_set, if_neg replaced, found'], active, same⟩
  · exact .inr (List.mem_append_left _ listed)

/-- The invariant. -/
structure Accounts (w : World) : Prop where
  serials : ∀ issue ∈ w.given, issue.serial ≠ "" ∧ Accounted w.registry issue.node issue.serial
  tokens : ∀ token, w.enrolments.countP (·.token = token) + (if (w.registry.tokens.get? token).isSome then 1 else 0) ≤
    w.created.count token
  keys : ∀ nodeId node, w.registry.nodes.get? nodeId = some node →
    ∃ enrolment, w.enrolments.find? (·.node = nodeId) = some enrolment ∧
      node.enrollmentHash = enrolment.enrollmentHash

/-! ## One call -/

variable {w : World} {env : Env}

lemma serials_replaced {draw : Draw} {result : Except Failure Result}
    {node : Node} (tokens : Dict String TokenRecord)
    (serials : ∀ issue ∈ w.given, issue.serial ≠ "" ∧ Accounted w.registry issue.node issue.serial)
    (hands : Hands env draw w.now nodeId node result) (active : node.status ≠ .revoked)
    (serial : node.certificateSerial = some (serialText draw)) :
    ∀ issue ∈ handed result ++ supersede nodeId w.given, issue.serial ≠ "" ∧
      Accounted ⟨tokens, w.registry.nodes.set nodeId node,
        outgoing w.registry.revokedSerials ((w.registry.nodes.get? nodeId).bind (·.certificateSerial))⟩
        issue.node issue.serial := by
  intro issue mem
  obtain new | old := List.mem_append.1 mem
  · have issued : issue = fresh env draw w.now nodeId node := by
      obtain none | one := hands.handed
      · rw [none] at new
        exact absurd new List.not_mem_nil
      · rw [one] at new
        exact List.mem_singleton.1 new
    subst issued
    exact ⟨serialText_ne_empty draw, .inl ⟨node, by rw [Dict.get?_set, fresh, if_pos rfl], active, serial⟩⟩
  · obtain ⟨before, there, same, _⟩ := mem_supersede old
    obtain ⟨nonempty, accounted⟩ := serials before there
    rw [same]
    exact ⟨nonempty, accounted.replaced nonempty tokens nodeId node⟩

lemma keys_kept (keys : ∀ nodeId node, w.registry.nodes.get? nodeId = some node →
      ∃ enrolment, w.enrolments.find? (·.node = nodeId) = some enrolment ∧
        node.enrollmentHash = enrolment.enrollmentHash) {node changed : Node}
    (found : w.registry.nodes.get? nodeId = some node) (same : changed.enrollmentHash = node.enrollmentHash) :
    ∀ other node', (w.registry.nodes.set nodeId changed).get? other = some node' →
      ∃ enrolment, w.enrolments.find? (·.node = other) = some enrolment ∧
        node'.enrollmentHash = enrolment.enrollmentHash := by
  intro other node' found'
  rw [Dict.get?_set] at found'
  split at found'
  · next equal =>
    subst equal
    cases found'
    rw [same]
    exact keys nodeId node found
  · exact keys other node' found'

lemma Accounts.call (accounts : Accounts w) (call : Call) (draw : Draw) :
    Accounts (w.call env call draw) := by
  refine World.call_cases env w call draw accounts fun result registry effect done => ?_
  obtain ⟨serials, tokens, keys⟩ := accounts
  cases effect with
  | unchanged early => exact absurd done early
  | @created role ttlSeconds pushToken =>
    refine ⟨serials, fun token => ?_, keys⟩
    have count := tokens token
    simp only [World.after, creation, World.enrolment, List.nil_append, List.singleton_append, List.count_cons,
      Dict.get?_set, beq_iff_eq]
    by_cases same : env.tokenHash draw.raw = token
    · rw [if_pos same, if_pos same, Option.isSome_some, if_pos rfl]
      omega
    · rw [if_neg same, if_neg same]
      exact count
  | @enrolled token requestedId capabilities csr enrollmentId _ record effective node usable writes hands =>
    have active : node.status ≠ .revoked := by rw [writes]; rintro ⟨⟩
    have serial : node.certificateSerial = some (serialText draw) := by rw [writes]; rfl
    have there : (w.registry.tokens.get? (env.tokenHash token)).isSome := by
      obtain ⟨found, _⟩ := Option.filter_eq_some_iff.1 usable
      rw [found]
      rfl
    have enrolments : w.enrolment env (.enroll token requestedId capabilities csr enrollmentId) =
        [⟨env.tokenHash token, nodeIdOf requestedId, (enrollmentKey enrollmentId).map env.enrollmentHash⟩] := by
      rw [World.enrolment, usable]
      rfl
    refine ⟨serials_replaced _ serials hands active serial, fun other => ?_, fun nodeId node' found => ?_⟩
    · have count := tokens other
      simp only [World.after, creation, enrolments, List.nil_append, List.singleton_append, List.countP_cons,
        Dict.get?_pop, decide_eq_true_eq]
      by_cases same : env.tokenHash token = other
      · subst same
        rw [if_pos there] at count
        simpa using count
      · rw [if_neg same, if_neg same]
        exact count
    · simp only [World.after, enrolments, List.singleton_append, List.find?_cons]
      simp only [World.after, Dict.get?_set] at found
      by_cases same : nodeIdOf requestedId = nodeId
      · rw [if_pos same] at found
        cases found
        simp only [same, decide_true, writes, enrolled]
        exact ⟨_, rfl, rfl⟩
      · rw [if_neg same] at found
        simp only [same, decide_false]
        exact keys nodeId node' found
  | @reissued token requestedId capabilities csr enrollmentId _ node key unusable keyed found active same hands =>
    have enrolments : w.enrolment env (.enroll token requestedId capabilities csr enrollmentId) = [] := by
      rw [World.enrolment, unusable]
      rfl
    refine ⟨?_, ?_, ?_⟩
    · have replaced := serials_replaced w.registry.tokens serials hands active rfl
      rw [found] at replaced
      exact replaced
    · rw [World.after, enrolments]
      exact tokens
    · rw [World.after, enrolments]
      exact keys_kept keys found rfl
  | renewed found active hands =>
    refine ⟨?_, tokens, keys_kept keys found rfl⟩
    have replaced := serials_replaced w.registry.tokens serials hands active rfl
    rw [found] at replaced
    exact replaced
  | @rotated nodeId _ node found active shows =>
    refine ⟨fun issue mem => ?_, tokens, keys_kept keys found rfl⟩
    rw [World.after, handed_of_shows shows] at mem
    obtain ⟨before, there, same, _⟩ := mem_supersede mem
    obtain ⟨nonempty, accounted⟩ := serials before there
    have replaced := accounted.replaced nonempty w.registry.tokens nodeId node.rotated
    rw [found] at replaced
    rw [same]
    exact ⟨nonempty, replaced⟩
  | revoked found shows =>
    refine ⟨fun issue mem => ?_, tokens, keys_kept keys found rfl⟩
    rw [World.after, handed_of_shows shows] at mem
    obtain ⟨before, there, same, _⟩ := mem_supersede mem
    obtain ⟨nonempty, accounted⟩ := serials before there
    rw [same]
    exact ⟨nonempty, accounted.revoked found⟩

lemma Step.accounts {allowed : World → Call → Draw → Prop} {w' : World} (step : Step env allowed w w')
    (accounts : Accounts w) : Accounts w' := by
  cases step with
  | call call draw _ => exact accounts.call call draw
  | tick time _ => exact ⟨accounts.serials, accounts.tokens, accounts.keys⟩

lemma Init.accounts (init : Init w) : Accounts w := by
  obtain ⟨registry, now, given, created, enrolments⟩ := w
  obtain ⟨rfl, rfl, rfl, rfl⟩ := init
  refine ⟨List.forall_mem_nil _, fun _ => Nat.le_refl _, fun nodeId node found => ?_⟩
  cases found

/-! ## Runs -/

def Free (_ : World) (_ : Call) (_ : Draw) : Prop := True

lemma Accounts.retry (accounts : Accounts w) {draw : Draw} {token requestedId csr : String}
    {capabilities : List String} {enrollmentId : Option String} {answer : Answer}
    (unusable : w.registry.usable env w.now token = none)
    (answers : ((Call.enroll token requestedId capabilities csr enrollmentId).run env draw w.now w.registry).1 =
      .ok (.answer answer)) :
    ∃ key enrolment, enrollmentKey enrollmentId = some key ∧
      w.enrolments.find? (·.node = nodeIdOf requestedId) = some enrolment ∧
      enrolment.enrollmentHash = some (env.enrollmentHash key) := by
  have effect : Effect env draw w.now w.registry (.enroll token requestedId capabilities csr enrollmentId) _ _ :=
    run_effect _
  rw [answers] at effect
  generalize (Call.run env draw w.now _ w.registry).2 = registry at effect
  cases effect with
  | enrolled usable =>
    rw [unusable] at usable
    cases usable
  | reissued _ keyed found _ same =>
    obtain ⟨enrolment, latest, hash⟩ := accounts.keys _ _ found
    exact ⟨_, enrolment, keyed, latest, hash.symm.trans same⟩

/-- **Certificates and tokens are accounted for** in every run. -/
theorem certificates_and_tokens_are_accounted (env : Env) (w : World) (reach : Reach Init (Step env Free) w) :
    (∀ issue ∈ w.given, Accounted w.registry issue.node issue.serial) ∧
    (∀ time nodeId supplied supplied', verifyNodeCertificate env w.registry time nodeId supplied →
      verifyNodeCertificate env w.registry time nodeId supplied' → suppliedSerial supplied = suppliedSerial supplied') ∧
    (∀ token, w.enrolments.countP (·.token = token) ≤ w.created.count token) ∧
    ∀ draw token requestedId capabilities csr enrollmentId answer, w.registry.usable env w.now token = none →
      ((Call.enroll token requestedId capabilities csr enrollmentId).run env draw w.now w.registry).1 =
        .ok (.answer answer) →
      ∃ key enrolment, enrollmentKey enrollmentId = some key ∧
        w.enrolments.find? (·.node = nodeIdOf requestedId) = some enrolment ∧
        enrolment.enrollmentHash = some (env.enrollmentHash key) := by
  have accounts : Accounts w := reach.invariant (fun _ => Init.accounts) fun _ _ accounts step => step.accounts accounts
  refine ⟨fun issue mem => (accounts.serials issue mem).2, ?_, fun token => ?_, ?_⟩
  · rintro time nodeId supplied supplied' ⟨_, node, serial, found, _, same, _, _, plain⟩
      ⟨_, node', serial', found', _, same', _, _, plain'⟩
    cases found.symm.trans found'
    cases same.symm.trans same'
    exact plain.symm.trans plain'
  · exact (Nat.le_add_right _ _).trans (accounts.tokens token)
  · intro draw token requestedId capabilities csr enrollmentId answer unusable answers
    exact accounts.retry unusable answers

lemma enrolledWorld_reached : Reach Init (Step sampleEnv Free) enrolledWorld :=
  .step (.step (.init ⟨rfl, rfl, rfl, rfl⟩) (.call _ _ _ trivial)) (.call _ _ _ trivial)

theorem certificates_and_tokens_are_accounted_of_one :
    (∀ issue ∈ enrolledWorld.given, Accounted enrolledWorld.registry issue.node issue.serial) ∧
    (∀ time nodeId supplied supplied', verifyNodeCertificate sampleEnv enrolledWorld.registry time nodeId supplied →
      verifyNodeCertificate sampleEnv enrolledWorld.registry time nodeId supplied' →
        suppliedSerial supplied = suppliedSerial supplied') ∧
    (∀ token, enrolledWorld.enrolments.countP (·.token = token) ≤ enrolledWorld.created.count token) ∧
    ∀ draw token requestedId capabilities csr enrollmentId answer,
      enrolledWorld.registry.usable sampleEnv enrolledWorld.now token = none →
      ((Call.enroll token requestedId capabilities csr enrollmentId).run sampleEnv draw enrolledWorld.now
        enrolledWorld.registry).1 = .ok (.answer answer) →
      ∃ key enrolment, enrollmentKey enrollmentId = some key ∧
        enrolledWorld.enrolments.find? (·.node = nodeIdOf requestedId) = some enrolment ∧
        enrolment.enrollmentHash = some (sampleEnv.enrollmentHash key) :=
  certificates_and_tokens_are_accounted sampleEnv enrolledWorld enrolledWorld_reached

lemma answer_of_handed {result : Except Failure Result} (hands : handed result ≠ []) :
    ∃ answer, result = .ok (.answer answer) := by
  match result with
  | .ok (.answer answer) => exact ⟨answer, rfl⟩
  | .ok (.token _) | .ok (.node _) | .error _ => exact absurd rfl hands

/-- A retry is answered only to the node and the key of the enrolment that its token was used for. -/
def RetriesUsedToken (env : Env) : Prop :=
  ∀ w, Reach Init (Step env Free) w →
    ∀ draw token requestedId capabilities csr enrollmentId answer, w.registry.usable env w.now token = none →
      ((Call.enroll token requestedId capabilities csr enrollmentId).run env draw w.now w.registry).1 =
        .ok (.answer answer) →
      ∃ key, enrollmentKey enrollmentId = some key ∧
        ∃ enrolment ∈ w.enrolments, enrolment.token = env.tokenHash token ∧ enrolment.node = nodeIdOf requestedId ∧
          enrolment.enrollmentHash = some (env.enrollmentHash key)

/-- A token that was never created does for a retry. -/
theorem any_token_does_for_a_retry : ¬ RetriesUsedToken sampleEnv := by
  intro retries
  have unusable : enrolledWorld.registry.usable sampleEnv enrolledWorld.now "VT-none" = none := by decide +kernel
  have hands : handed ((enrolSample "none").run sampleEnv (sampleDraw "none") enrolledWorld.now
      enrolledWorld.registry).1 ≠ [] := by decide +kernel
  obtain ⟨answer, answers⟩ := answer_of_handed hands
  obtain ⟨_, _, enrolment, mem, token, _⟩ :=
    retries enrolledWorld enrolledWorld_reached _ "VT-none" _ _ _ _ answer unusable answers
  have others : ∀ enrolment ∈ enrolledWorld.enrolments, enrolment.token ≠ sampleEnv.tokenHash "VT-none" := by
    decide +kernel
  exact others enrolment mem token

end Vertep.Registry
