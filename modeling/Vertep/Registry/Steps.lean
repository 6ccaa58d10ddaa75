import Vertep.Lib.Reach
import Vertep.Registry.Records

/-!
# Runs of the registry (`core/node_registry.py`)

The calls one after the other, at times that do not decrease, with what the nodes were given. One inversion lemma says
all that a call can do to the registry; the results about runs need no more of the calls.
-/

namespace Vertep.Registry
open Lib Lib.Command

/-- A call of `node_registry`. -/
inductive Call where
  | create (role : String) (ttlSeconds : ℤ) (pushToken : Bool)
  | enroll (token requestedId : String) (capabilities : List String) (csr : String) (enrollmentId : Option String)
  | renew (nodeId csr : String)
  | rotate (nodeId : String)
  | revoke (nodeId : String)

inductive Result where
  | token (raw : String)
  | answer (answer : Answer)
  | node (node : Node)
deriving DecidableEq

def Call.run (env : Env) (draw : Draw) (time : ℚ) : Call → Command Registry Failure Result
  | .create role ttlSeconds pushToken => do
    let raw ← createRegistrationToken env draw time role ttlSeconds pushToken
    pure (.token raw)
  | .enroll token requestedId capabilities csr enrollmentId => do
    let answer ← enrollNode env draw time token requestedId capabilities csr enrollmentId
    pure (.answer answer)
  | .renew nodeId csr => do
    let answer ← renewNode env draw time nodeId csr
    pure (.answer answer)
  | .rotate nodeId => do
    let node ← rotateNodeCredentials draw nodeId
    pure (.node node)
  | .revoke nodeId => do
    let node ← revokeNode draw nodeId
    pure (.node node)

/-- The node id that `enroll_node` makes of what is requested. -/
def nodeIdOf (requestedId : String) : String := String.ofList (normalized requestedId)

/-- The node that a call is about. -/
def Call.node : Call → Option String
  | .create _ _ _ => none
  | .enroll _ requestedId _ _ _ => nodeIdOf requestedId
  | .renew nodeId _ | .rotate nodeId | .revoke nodeId => nodeId

/-! ## What a call does -/

section
variable {α : Type} {registry : Registry}

@[simp] lemma ensure_bind (condition : Prop) [Decidable condition] (failure : Failure)
    (next : Unit → Command Registry Failure α) :
    (ensure condition failure >>= next) registry =
      if condition then next () registry else (.error failure, registry) := by
  rw [ensure, when_raise_bind]
  by_cases holds : condition
  · rw [if_neg (not_not.2 holds), if_pos holds]
  · rw [if_pos holds, if_neg holds]

@[simp] lemma present_none_bind {β : Type} (failure : Failure) (next : β → Command Registry Failure α) :
    (present none failure >>= next) registry = (.error failure, registry) := rfl

@[simp] lemma present_some_bind {β : Type} (b : β) (failure : Failure) (next : β → Command Registry Failure α) :
    (present (some b) failure >>= next) registry = next b registry := rfl

@[simp] lemma save_bind (draw : Draw) (saved : Registry) (next : Unit → Command Registry Failure α) :
    (save draw saved >>= next) registry =
      if draw.saves = true then next () saved else (.error .save, registry) := by
  rw [bind_apply, save, ensure_bind]
  by_cases saves : draw.saves = true
  · rw [if_pos saves, if_pos saves, write]
  · rw [if_neg saves, if_neg saves]

@[simp] lemma writeNodeCrl_bind (draw : Draw) (next : Unit → Command Registry Failure α) :
    (writeNodeCrl draw >>= next) registry =
      if draw.publishes = true then next () registry else (.error .crl, registry) := ensure_bind _ _ _

@[simp] lemma when_writeNodeCrl_bind (condition : Prop) [Decidable condition] (draw : Draw)
    (next : Unit → Command Registry Failure α) :
    (when condition (writeNodeCrl draw) >>= next) registry =
      if condition → draw.publishes = true then next () registry else (.error .crl, registry) := by
  by_cases holds : condition
  · rw [when, if_pos holds, writeNodeCrl_bind]
    simp only [holds, true_imp_iff]
  · rw [when, if_neg holds, if_pos fun holds' => absurd holds' holds]
    rfl

@[simp] lemma issueCertificate_bind (draw : Draw) (next : Certificate → Command Registry Failure α) :
    (issueCertificate draw >>= next) registry =
      if draw.signs = true then next ⟨draw.certificate, draw.coreCertificate, serialText draw, draw.expiresAt⟩ registry
      else (.error .certificate, registry) := by
  rw [bind_apply, issueCertificate, ensure_bind]
  by_cases signs : draw.signs = true
  · rw [if_pos signs, if_pos signs, pure_apply]
  · rw [if_neg signs, if_neg signs]

end

def Draw.given (draw : Draw) : Certificate :=
  ⟨draw.certificate, draw.coreCertificate, serialText draw, draw.expiresAt⟩

/-- New credentials are handed out, unless `write_node_crl` raises. -/
def Hands (env : Env) (draw : Draw) (time : ℚ) (nodeId : String) (node : Node) (result : Except Failure Result) :
    Prop :=
  result = .error .crl ∨ result = .ok (.answer (answerOf env draw time nodeId node draw.given))

/-- All that a call can do. -/
inductive Effect (env : Env) (draw : Draw) (time : ℚ) (registry : Registry) :
    Call → Except Failure Result → Registry → Prop where
  | unchanged {call failure} (early : failure ≠ .crl) : Effect env draw time registry call (.error failure) registry
  | created {role ttlSeconds pushToken} :
    Effect env draw time registry (.create role ttlSeconds pushToken) (.ok (.token draw.raw))
      { registry with
        tokens := registry.tokens.set (env.tokenHash draw.raw) ⟨role, time + ttlSeconds, pushToken⟩ }
  | enrolled {token requestedId capabilities csr enrollmentId result record effective node}
    (usable : registry.usable env time token = some record)
    (writes : node = enrolled env draw (nodeIdOf requestedId) record.role effective
      ((enrollmentKey enrollmentId).map env.enrollmentHash) draw.given)
    (hands : Hands env draw time (nodeIdOf requestedId) node result) :
    Effect env draw time registry (.enroll token requestedId capabilities csr enrollmentId) result
      { tokens := registry.tokens.pop (env.tokenHash token)
        nodes := registry.nodes.set (nodeIdOf requestedId) node
        revokedSerials :=
          outgoing registry.revokedSerials ((registry.nodes.get? (nodeIdOf requestedId)).bind (·.certificateSerial)) }
  | reissued {token requestedId capabilities csr enrollmentId result node key}
    (unusable : registry.usable env time token = none)
    (keyed : enrollmentKey enrollmentId = some key)
    (found : registry.nodes.get? (nodeIdOf requestedId) = some node)
    (active : node.status ≠ .revoked)
    (same : node.enrollmentHash = some (env.enrollmentHash key))
    (hands : Hands env draw time (nodeIdOf requestedId) (node.renewed env draw draw.given) result) :
    Effect env draw time registry (.enroll token requestedId capabilities csr enrollmentId) result
      { registry with
        nodes := registry.nodes.set (nodeIdOf requestedId) (node.renewed env draw draw.given)
        revokedSerials := outgoing registry.revokedSerials node.certificateSerial }
  | renewed {nodeId csr result node}
    (found : registry.nodes.get? nodeId = some node)
    (active : node.status ≠ .revoked)
    (hands : Hands env draw time nodeId (node.renewed env draw draw.given) result) :
    Effect env draw time registry (.renew nodeId csr) result
      { registry with
        nodes := registry.nodes.set nodeId (node.renewed env draw draw.given)
        revokedSerials := outgoing registry.revokedSerials node.certificateSerial }
  | rotated {nodeId result node}
    (found : registry.nodes.get? nodeId = some node)
    (active : node.status ≠ .revoked)
    (shows : result = .error .crl ∨ ∃ node, result = .ok (.node node)) :
    Effect env draw time registry (.rotate nodeId) result
      { registry with
        nodes := registry.nodes.set nodeId node.rotated
        revokedSerials := outgoing registry.revokedSerials node.certificateSerial }
  | revoked {nodeId result node}
    (found : registry.nodes.get? nodeId = some node)
    (shows : result = .error .crl ∨ ∃ node, result = .ok (.node node)) :
    Effect env draw time registry (.revoke nodeId) result
      { registry with
        nodes := registry.nodes.set nodeId node.revoked
        revokedSerials := registry.revokedSerials ++ [node.certificateSerial] }

lemma map_apply {α β : Type} (m : Command Registry Failure α) (f : α → β) (registry : Registry) :
    (m >>= fun a => pure (f a)) registry = ((m registry).1.map f, (m registry).2) := by
  rw [bind_apply]
  rcases m registry with ⟨_ | _, _⟩ <;> rfl

variable {token requestedId csr nodeId : String} {capabilities : List String} {enrollmentId : Option String}

section
variable {env : Env} {draw : Draw} {time : ℚ} {registry : Registry}

lemma saved_effect {α : Type} {call : Call} {saved : Registry} {answer : α} (f : α → Result)
    (publishes : Effect env draw time registry call (.ok (f answer)) saved)
    (fails : Effect env draw time registry call (.error .crl) saved) :
    Effect env draw time registry call
      (((do save draw saved; writeNodeCrl draw; pure answer : Command Registry Failure α) registry).1.map f)
      ((do save draw saved; writeNodeCrl draw; pure answer : Command Registry Failure α) registry).2 := by
  rw [save_bind]
  split
  case isFalse => exact .unchanged (by decide)
  case isTrue =>
    rw [writeNodeCrl_bind]
    split
    · exact publishes
    · exact fails

lemma reissue_effect {key : String} (unusable : registry.usable env time token = none) (keyed : enrollmentKey enrollmentId = some key) :
    Effect env draw time registry (.enroll token requestedId capabilities csr enrollmentId)
      ((reissue env draw time (nodeIdOf requestedId) (env.enrollmentHash key) registry).1.map Result.answer)
      (reissue env draw time (nodeIdOf requestedId) (env.enrollmentHash key) registry).2 := by
  rw [reissue, read_bind]
  rcases found : registry.nodes.get? (nodeIdOf requestedId) with _ | node
  · exact .unchanged (by decide)
  · rw [present_some_bind, ensure_bind]
    split
    case isFalse => exact .unchanged (by decide)
    case isTrue active =>
      rw [issueCertificate_bind]
      split
      case isFalse => exact .unchanged (by decide)
      case isTrue =>
        refine saved_effect Result.answer ?_ ?_
        · exact .reissued unusable keyed found active.1 active.2 (.inr rfl)
        · exact .reissued unusable keyed found active.1 active.2 (.inl rfl)

lemma create_effect {role : String} {ttlSeconds : ℤ} {pushToken : Bool} :
    Effect env draw time registry (.create role ttlSeconds pushToken)
      ((createRegistrationToken env draw time role ttlSeconds pushToken registry).1.map Result.token)
      (createRegistrationToken env draw time role ttlSeconds pushToken registry).2 := by
  rw [createRegistrationToken, ensure_bind]
  split
  case isFalse => exact .unchanged (by decide)
  case isTrue =>
    rw [ensure_bind]
    split
    case isFalse => exact .unchanged (by decide)
    case isTrue =>
      rw [read_bind, save_bind]
      split
      · exact .created
      · exact .unchanged (by decide)

lemma enroll_effect {record : TokenRecord} (usable : registry.usable env time token = some record) :
    Effect env draw time registry (.enroll token requestedId capabilities csr enrollmentId)
      ((enroll env draw time (env.tokenHash token) (nodeIdOf requestedId) record capabilities
        ((enrollmentKey enrollmentId).map env.enrollmentHash) registry).1.map Result.answer)
      (enroll env draw time (env.tokenHash token) (nodeIdOf requestedId) record capabilities
        ((enrollmentKey enrollmentId).map env.enrollmentHash) registry).2 := by
  rw [enroll, read_bind]
  rcases env.nodeRoles record.role with _ | allowed
  · rw [present_none_bind]
    exact .unchanged (by decide)
  · rw [present_some_bind, ensure_bind]
    split
    case isFalse => exact .unchanged (by decide)
    case isTrue =>
      rw [issueCertificate_bind]
      split
      case isFalse => exact .unchanged (by decide)
      case isTrue =>
        rw [save_bind]
        split
        case isFalse => exact .unchanged (by decide)
        case isTrue =>
          rw [when_writeNodeCrl_bind]
          split
          · exact .enrolled usable rfl (.inr rfl)
          · exact .enrolled usable rfl (.inl rfl)

lemma enrollNode_effect :
    Effect env draw time registry (.enroll token requestedId capabilities csr enrollmentId)
      ((enrollNode env draw time token requestedId capabilities csr enrollmentId registry).1.map Result.answer)
      (enrollNode env draw time token requestedId capabilities csr enrollmentId registry).2 := by
  rw [enrollNode, ensure_bind]
  split
  case isFalse => exact .unchanged (by decide)
  case isTrue =>
    rw [ensure_bind]
    split
    case isFalse => exact .unchanged (by decide)
    case isTrue =>
      rw [read_bind]
      rcases usable : registry.usable env time token with _ | record
      · rcases keyed : enrollmentKey enrollmentId with _ | key
        · exact .unchanged (by decide)
        · exact reissue_effect usable keyed
      · exact enroll_effect usable

lemma renewNode_effect :
    Effect env draw time registry (.renew nodeId csr)
      ((renewNode env draw time nodeId csr registry).1.map Result.answer)
      (renewNode env draw time nodeId csr registry).2 := by
  rw [renewNode, ensure_bind]
  split
  case isFalse => exact .unchanged (by decide)
  case isTrue =>
    rw [issueCertificate_bind]
    split
    case isFalse => exact .unchanged (by decide)
    case isTrue =>
      rw [read_bind]
      rcases found : registry.nodes.get? nodeId with _ | node
      · exact .unchanged (by decide)
      · rw [present_some_bind, ensure_bind]
        split
        case isFalse => exact .unchanged (by decide)
        case isTrue active =>
          refine saved_effect Result.answer ?_ ?_
          · exact .renewed found active (.inr rfl)
          · exact .renewed found active (.inl rfl)

lemma rotate_effect :
    Effect env draw time registry (.rotate nodeId)
      ((rotateNodeCredentials draw nodeId registry).1.map Result.node)
      (rotateNodeCredentials draw nodeId registry).2 := by
  rw [rotateNodeCredentials, read_bind]
  rcases found : registry.nodes.get? nodeId with _ | node
  · exact .unchanged (by decide)
  · rw [present_some_bind, ensure_bind]
    split
    case isFalse => exact .unchanged (by decide)
    case isTrue active =>
      refine saved_effect Result.node ?_ ?_
      · exact .rotated found active (.inr ⟨_, rfl⟩)
      · exact .rotated found active (.inl rfl)

lemma revoke_effect :
    Effect env draw time registry (.revoke nodeId)
      ((revokeNode draw nodeId registry).1.map Result.node)
      (revokeNode draw nodeId registry).2 := by
  rw [revokeNode, read_bind]
  rcases found : registry.nodes.get? nodeId with _ | node
  · exact .unchanged (by decide)
  · rw [present_some_bind]
    refine saved_effect Result.node ?_ ?_
    · exact .revoked found (.inr ⟨_, rfl⟩)
    · exact .revoked found (.inl rfl)

/-- The inversion of a call. -/
theorem run_effect (call : Call) :
    Effect env draw time registry call (call.run env draw time registry).1 (call.run env draw time registry).2 := by
  cases call with
  | create role ttlSeconds pushToken =>
    rw [Call.run, map_apply]
    exact create_effect
  | enroll token requestedId capabilities csr enrollmentId =>
    rw [Call.run, map_apply]
    exact enrollNode_effect
  | renew nodeId csr =>
    rw [Call.run, map_apply]
    exact renewNode_effect
  | rotate nodeId =>
    rw [Call.run, map_apply]
    exact rotate_effect
  | revoke nodeId =>
    rw [Call.run, map_apply]
    exact revoke_effect

end

/-! ## Runs -/

/-- Credentials that a node was given; `superseded` since another call changed the node. -/
structure Issue where
  node : String
  jwt : Jwt
  secret : String
  serial : String
  superseded : Bool
deriving DecidableEq

/-- An enrolment, by the hashes of its token and of its key. -/
structure Enrolment where
  token : String
  node : String
  enrollmentHash : Option String
deriving DecidableEq

/-- The registry and the time, and beside them what was given out, the tokens that were created and the enrolments they
were used for, newest first. -/
structure World where
  registry : Registry
  now : ℚ
  given : List Issue
  created : List String
  enrolments : List Enrolment

/-- The call changed the registry. -/
def Committed (result : Except Failure Result) : Prop :=
  match result with
  | .ok _ => True
  | .error failure => failure = .crl

instance (result : Except Failure Result) : Decidable (Committed result) := by
  unfold Committed
  split <;> infer_instance

def supersede (nodeId : String) (given : List Issue) : List Issue :=
  given.map fun issue => if issue.node = nodeId then { issue with superseded := true } else issue

/-- What is given out by an answer. -/
def handed : Except Failure Result → List Issue
  | .ok (.answer answer) => [⟨answer.workerId, answer.jwt, answer.workerSecret, answer.certificateSerial, false⟩]
  | _ => []

/-- The enrolment that a call makes, when it goes through. -/
def World.enrolment (env : Env) (w : World) : Call → List Enrolment
  | .enroll token requestedId _ _ enrollmentId =>
    if (w.registry.usable env w.now token).isSome then
      [⟨env.tokenHash token, nodeIdOf requestedId, (enrollmentKey enrollmentId).map env.enrollmentHash⟩]
    else []
  | _ => []

/-- The tokens that a call creates, when it goes through. -/
def creation (env : Env) (draw : Draw) : Call → List String
  | .create _ _ _ => [env.tokenHash draw.raw]
  | _ => []

/-- The world after a call that went through. -/
def World.after (env : Env) (w : World) (call : Call) (draw : Draw) (result : Except Failure Result)
    (registry : Registry) : World :=
  { w with
    registry := registry
    given := handed result ++ (match call.node with
      | some nodeId => supersede nodeId w.given
      | none => w.given)
    created := creation env draw call ++ w.created
    enrolments := w.enrolment env call ++ w.enrolments }

/-- A call. -/
def World.call (env : Env) (w : World) (call : Call) (draw : Draw) : World :=
  let (result, registry) := call.run env draw w.now w.registry
  if Committed result then w.after env call draw result registry else { w with registry := registry }

/-- The steps, of which only the calls that are `allowed` are made. -/
inductive Step (env : Env) (allowed : World → Call → Draw → Prop) : World → World → Prop where
  | call (w : World) (call : Call) (draw : Draw) (allow : allowed w call draw) :
    Step env allowed w (w.call env call draw)
  | tick (w : World) (time : ℚ) (later : w.now ≤ time) : Step env allowed w { w with now := time }

def Init (w : World) : Prop :=
  w.registry = .empty ∧ w.given = [] ∧ w.created = [] ∧ w.enrolments = []

variable {result : Except Failure Result}

lemma Hands.committed {env : Env} {draw : Draw} {time : ℚ} {node : Node}
    (hands : Hands env draw time nodeId node result) : Committed result := by
  obtain rfl | rfl := hands
  · rfl
  · trivial

def fresh (env : Env) (draw : Draw) (time : ℚ) (nodeId : String) (node : Node) : Issue :=
  ⟨nodeId, issueNodeToken env draw time nodeId node.role node.credentialGeneration, draw.secret, serialText draw, false⟩

lemma Hands.handed {env : Env} {draw : Draw} {time : ℚ} {node : Node}
    (hands : Hands env draw time nodeId node result) :
    handed result = [] ∨ handed result = [fresh env draw time nodeId node] := by
  obtain rfl | rfl := hands
  · exact .inl rfl
  · exact .inr rfl

lemma handed_of_shows
    (shows : result = .error .crl ∨ ∃ node, result = .ok (.node node)) : handed result = [] := by
  obtain rfl | ⟨_, rfl⟩ := shows <;> rfl

lemma World.call_cases {P : World → Prop} (env : Env) (w : World) (call : Call) (draw : Draw) (unchanged : P w)
    (committed : ∀ result registry, Effect env draw w.now w.registry call result registry → Committed result →
      P (w.after env call draw result registry)) : P (w.call env call draw) := by
  have effect : Effect env draw w.now w.registry call _ _ := run_effect call
  rw [World.call]
  generalize call.run env draw w.now w.registry = run at effect
  obtain ⟨result, registry⟩ := run
  dsimp only at effect ⊢
  split
  · next done => exact committed result registry effect done
  · next failed =>
    cases effect with
    | unchanged => exact unchanged
    | created => exact absurd trivial failed
    | enrolled _ _ hands | reissued _ _ _ _ _ hands | renewed _ _ hands => exact absurd hands.committed failed
    | rotated _ _ shows =>
      obtain rfl | ⟨_, rfl⟩ := shows
      · exact absurd rfl failed
      · exact absurd trivial failed
    | revoked _ shows =>
      obtain rfl | ⟨_, rfl⟩ := shows
      · exact absurd rfl failed
      · exact absurd trivial failed

lemma mem_supersede {given : List Issue} {issue : Issue} (mem : issue ∈ supersede nodeId given) :
    ∃ before ∈ given, issue = { before with superseded := issue.superseded } ∧
      (issue.node = nodeId ∧ issue.superseded = true ∨ issue.node ≠ nodeId ∧ issue = before) := by
  obtain ⟨before, there, rfl⟩ := List.mem_map.1 mem
  refine ⟨before, there, ?_⟩
  by_cases same : before.node = nodeId
  · rw [if_pos same]
    exact ⟨rfl, .inl ⟨same, rfl⟩⟩
  · rw [if_neg same]
    exact ⟨rfl, .inr ⟨same, rfl⟩⟩

/-! ## A registry with one node -/

def sampleEnv : Env where
  tokenHash token := "token:" ++ token
  enrollmentHash key := "key:" ++ key
  nodeRoles role := if role = "gpu" then some ["render"] else none
  tokenTtl := 86400
  expiry _ := some 1000000

def sampleDraw (n : String) : Draw where
  raw := "VT-" ++ n
  secret := "secret-" ++ n
  serial := n.length

/-- The node is enrolled with the `n`-th token. -/
def enrolSample (n : String) : Call :=
  .enroll ("VT-" ++ n) "node-1" [] "BEGIN CERTIFICATE REQUEST" (some "key-0001")

def createdWorld : World := (World.mk .empty 0 [] [] []).call sampleEnv (.create "gpu" 900 false) (sampleDraw "1")

def enrolledWorld : World := createdWorld.call sampleEnv (enrolSample "1") (sampleDraw "1")

example : enrolledWorld.given.map (·.node) = ["node-1"] := by decide +kernel

end Vertep.Registry
