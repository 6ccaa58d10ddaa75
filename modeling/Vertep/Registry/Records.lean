import Mathlib.Data.List.Infix
import Mathlib.Data.List.Sort
import Mathlib.Data.Rat.Floor
import Vertep.Lib.Command
import Vertep.Lib.Dict
import Vertep.Lib.Text

/-!
# The registry of nodes

Embedding of `core/node_registry.py` on the file backend. Every operation runs in one section of the lock of the
module, so it is one command over what `node-registry.json` holds. The keyed hashes, the reading of the expiry of a
certificate, what `secrets` draws and what `_issue_certificate` signs are parameters. What the file keeps of a node
only to show it (its hardware, its version, its self test, the times of its changes) is left out, and so is the empty registry
that `_load` gives where the file cannot be read.
-/

namespace Vertep.Registry
open Lib Lib.Command

inductive Status where
  | ready | revoked
deriving DecidableEq

/-- A value of `registry["tokens"]`. -/
structure TokenRecord where
  role : String
  expiresAt : ℚ
  pushToken : Bool
deriving DecidableEq

/-- A value of `registry["nodes"]`. -/
structure Node where
  nodeId : String
  role : String
  capabilities : List String
  secretHash : String
  status : Status
  enrollmentHash : Option String
  credentialGeneration : ℤ
  certificateSerial : Option String
  certificateExpiresAt : Option String
deriving DecidableEq

/-- What `node-registry.json` holds. -/
structure Registry where
  tokens : Dict String TokenRecord
  nodes : Dict String Node
  revokedSerials : List (Option String)
deriving DecidableEq

def Registry.empty : Registry := ⟨∅, ∅, []⟩

/-- What a call is answered with when it raises. `crl` is raised by `write_node_crl`, after the registry was saved. -/
inductive Failure where
  | role | lifetime | nodeId | csr | token | noCapability | unknown | certificate | save | crl
deriving DecidableEq

/-- What the registry asks outside. -/
structure Env where
  /-- `_token_hash`. -/
  tokenHash : String → String
  /-- `_enrollment_hash`. -/
  enrollmentHash : String → String
  /-- `node_roles`, the capabilities of a role. -/
  nodeRoles : String → Option (List String)
  /-- `NODE_TOKEN_TTL_SECONDS`. -/
  tokenTtl : ℤ
  /-- The time that the text of an expiry stands for, if it is readable. -/
  expiry : String → Option ℚ

/-- What a call draws, and how what it depends on answers. -/
structure Draw where
  /-- The registration token. -/
  raw : String := ""
  secret : String := ""
  jti : String := ""
  /-- `secrets.randbits(159)`. -/
  serial : ℕ := 0
  /-- The request for a certificate can be signed. -/
  signs : Bool := true
  certificate : String := ""
  coreCertificate : String := ""
  expiresAt : String := ""
  saves : Bool := true
  publishes : Bool := true

/-- The claims of `issue_node_token`. A token that verifies as signed was issued, so the signature is left out. -/
structure Jwt where
  sub : String
  role : String
  iat : ℤ
  nbf : ℤ
  exp : ℤ
  iss : String
  aud : String
  jti : String
  generation : ℤ
  type : String
deriving DecidableEq

/-- What `_issue_certificate` returns. -/
structure Certificate where
  certificate : String
  coreCertificate : String
  serial : String
  expiresAt : String

/-- What a node is answered with. -/
structure Answer where
  workerId : String
  role : String
  jwt : Jwt
  workerSecret : String
  certificate : String
  coreCertificate : String
  certificateSerial : String
  certificateExpiresAt : String
  capabilities : List String
deriving DecidableEq

/-! ## The parts of a call -/

/-- `require`, or raise. -/
def ensure (condition : Prop) [Decidable condition] (failure : Failure) : Command Registry Failure Unit :=
  when (¬ condition) (raise failure)

/-- What is there, or raise. -/
def present {α : Type} (value : Option α) (failure : Failure) : Command Registry Failure α :=
  match value with
  | some a => pure a
  | none => raise failure

/-- `_save`, which replaces the file or raises. -/
def save (draw : Draw) (registry : Registry) : Command Registry Failure Unit := do
  ensure (draw.saves = true) .save
  write fun _ => registry

def writeNodeCrl (draw : Draw) : Command Registry Failure Unit := ensure (draw.publishes = true) .crl

/-- `str.strip().lower()`. -/
def normalized (text : String) : List Char :=
  ((text.toList.dropWhile Char.isWhitespace).reverse.dropWhile Char.isWhitespace).reverse.map Char.toLower

/-- `[a-z0-9][a-z0-9-]{least,63}`. -/
def Identifier (least : ℕ) : List Char → Prop
  | [] => False
  | c :: cs => c ∈ "abcdefghijklmnopqrstuvwxyz0123456789".toList ∧ least ≤ cs.length ∧ cs.length ≤ 63 ∧
      ∀ c ∈ cs, c ∈ "abcdefghijklmnopqrstuvwxyz0123456789-".toList

instance (least : ℕ) (text : List Char) : Decidable (Identifier least text) := by
  cases text <;> unfold Identifier <;> infer_instance

/-- `[a-z][a-z0-9_]{1,63}`. -/
def Capability (text : String) : Prop :=
  match text.toList with
  | [] => False
  | c :: cs => c ∈ "abcdefghijklmnopqrstuvwxyz".toList ∧ 1 ≤ cs.length ∧ cs.length ≤ 63 ∧
      ∀ c ∈ cs, c ∈ "abcdefghijklmnopqrstuvwxyz0123456789_".toList

instance : DecidablePred Capability := fun text => decidableUncons text.toList

/-- `_enrollment_id`. -/
def enrollmentKey (value : Option String) : Option String :=
  (value.map normalized).filter (fun text => Identifier 7 text) |>.map String.ofList

def IsCsr (csr : String) : Prop :=
  csr.length ≤ 16384 ∧ "BEGIN CERTIFICATE REQUEST".toList.IsInfix csr.toList

instance : DecidablePred IsCsr := fun csr => by unfold IsCsr; infer_instance

/-- `format(serial, "x").upper()` of the serial that is drawn. -/
def serialText (draw : Draw) : String :=
  String.ofList ((Nat.toDigits 16 (if draw.serial = 0 then 1 else draw.serial)).map Char.toUpper)

def issueCertificate (draw : Draw) : Command Registry Failure Certificate := do
  ensure (draw.signs = true) .certificate
  pure ⟨draw.certificate, draw.coreCertificate, serialText draw, draw.expiresAt⟩

def issueNodeToken (env : Env) (draw : Draw) (time : ℚ) (nodeId role : String) (generation : ℤ) : Jwt :=
  let now := ⌊time⌋
  ⟨nodeId, role, now, now - 5, now + env.tokenTtl, "vertep-core", "vertep-node-api", draw.jti, generation, "vertep-node"⟩

/-- The serials after one went out of use; `if previous_serial`. -/
def outgoing (serials : List (Option String)) (previous : Option String) : List (Option String) :=
  match previous.filter (· ≠ "") with
  | none => serials
  | some serial => serials ++ [some serial]

/-! ## The calls -/

def createRegistrationToken (env : Env) (draw : Draw) (time : ℚ) (role : String) (ttlSeconds : ℤ) (pushToken : Bool) :
    Command Registry Failure String := do
  ensure ((env.nodeRoles role).isSome ∧ role ≠ "core") .role
  ensure (60 ≤ ttlSeconds ∧ ttlSeconds ≤ 3600) .lifetime
  let registry ← read
  save draw { registry with tokens := registry.tokens.set (env.tokenHash draw.raw) ⟨role, time + ttlSeconds, pushToken⟩ }
  pure draw.raw

/-- A node with credentials that are new. -/
def Node.renewed (env : Env) (draw : Draw) (node : Node) (certificate : Certificate) : Node :=
  { node with
    secretHash := env.tokenHash draw.secret
    credentialGeneration := node.credentialGeneration + 1
    certificateSerial := some certificate.serial
    certificateExpiresAt := some certificate.expiresAt }

/-- What a node is answered with that has new credentials. -/
def answerOf (env : Env) (draw : Draw) (time : ℚ) (nodeId : String) (node : Node) (certificate : Certificate) :
    Answer where
  workerId := nodeId
  role := node.role
  jwt := issueNodeToken env draw time nodeId node.role node.credentialGeneration
  workerSecret := draw.secret
  certificate := certificate.certificate
  coreCertificate := certificate.coreCertificate
  certificateSerial := certificate.serial
  certificateExpiresAt := certificate.expiresAt
  capabilities := node.capabilities

/-- What a retried enrolment and a renewal have in common: a node gets new credentials. -/
def giveNew (env : Env) (draw : Draw) (time : ℚ) (registry : Registry) (nodeId : String) (node : Node)
    (certificate : Certificate) : Command Registry Failure Answer := do
  save draw
    { registry with
      nodes := registry.nodes.set nodeId (node.renewed env draw certificate)
      revokedSerials := outgoing registry.revokedSerials node.certificateSerial }
  writeNodeCrl draw
  pure (answerOf env draw time nodeId (node.renewed env draw certificate) certificate)

/-- `_reissue_for_lost_response` and `_reissue_record`. -/
def reissue (env : Env) (draw : Draw) (time : ℚ) (nodeId enrollmentHash : String) : Command Registry Failure Answer := do
  let registry ← read
  let node ← present (registry.nodes.get? nodeId) .token
  ensure (node.status ≠ .revoked ∧ node.enrollmentHash = some enrollmentHash) .token
  let certificate ← issueCertificate draw
  giveNew env draw time registry nodeId node certificate

/-- The node that an enrolment writes. -/
def enrolled (env : Env) (draw : Draw) (nodeId role : String) (capabilities : List String)
    (enrollmentHash : Option String) (certificate : Certificate) : Node where
  nodeId := nodeId
  role := role
  capabilities := capabilities
  secretHash := env.tokenHash draw.secret
  status := .ready
  enrollmentHash := enrollmentHash
  credentialGeneration := 1
  certificateSerial := some certificate.serial
  certificateExpiresAt := some certificate.expiresAt

/-- `sorted` of a set. -/
def sorted (texts : List String) : List String := texts.dedup.insertionSort (· ≤ ·)

/-- The capabilities that are reported and allowed, all that are allowed where none is reported. -/
def effectiveCapabilities (capabilities allowed : List String) : List String :=
  let clean := sorted (capabilities.filter Capability)
  if clean ≠ [] then sorted (clean.filter (· ∈ allowed)) else sorted allowed

/-- The branch of `enroll_node` for a usable token. -/
def enroll (env : Env) (draw : Draw) (time : ℚ) (tokenKey nodeId : String) (record : TokenRecord)
    (capabilities : List String) (enrollmentHash : Option String) : Command Registry Failure Answer := do
  let registry ← read
  let allowed ← present (env.nodeRoles record.role) .role
  let effective := effectiveCapabilities capabilities allowed
  ensure (effective ≠ []) .noCapability
  let certificate ← issueCertificate draw
  let previous := (registry.nodes.get? nodeId).bind (·.certificateSerial)
  let node := enrolled env draw nodeId record.role effective enrollmentHash certificate
  save draw ⟨registry.tokens.pop tokenKey, registry.nodes.set nodeId node, outgoing registry.revokedSerials previous⟩
  when ((previous.filter (· ≠ "")).isSome) (writeNodeCrl draw)
  pure (answerOf env draw time nodeId node certificate)

def Registry.usable (env : Env) (registry : Registry) (time : ℚ) (token : String) : Option TokenRecord :=
  (registry.tokens.get? (env.tokenHash token)).filter fun record => time ≤ record.expiresAt

def enrollNode (env : Env) (draw : Draw) (time : ℚ) (token requestedId : String) (capabilities : List String)
    (csr : String) (enrollmentId : Option String) : Command Registry Failure Answer := do
  let nodeId := normalized requestedId
  ensure (Identifier 2 nodeId) .nodeId
  ensure (IsCsr csr) .csr
  let enrollmentHash := (enrollmentKey enrollmentId).map env.enrollmentHash
  let registry ← read
  match registry.usable env time token with
  | none => do
    let enrollmentHash ← present enrollmentHash .token
    reissue env draw time (String.ofList nodeId) enrollmentHash
  | some record =>
    enroll env draw time (env.tokenHash token) (String.ofList nodeId) record capabilities enrollmentHash

/-- `renew_node`; the certificate is issued before the node is looked up. -/
def renewNode (env : Env) (draw : Draw) (time : ℚ) (nodeId csr : String) : Command Registry Failure Answer := do
  ensure (IsCsr csr) .csr
  let certificate ← issueCertificate draw
  let registry ← read
  let node ← present (registry.nodes.get? nodeId) .unknown
  ensure (node.status ≠ .revoked) .unknown
  giveNew env draw time registry nodeId node certificate

/-- A node without credentials. -/
def Node.rotated (node : Node) : Node :=
  { node with
    secretHash := ""
    credentialGeneration := node.credentialGeneration + 1
    status := .ready
    certificateSerial := none
    certificateExpiresAt := none }

def Node.revoked (node : Node) : Node :=
  { node with
    status := .revoked
    credentialGeneration := node.credentialGeneration + 1 }

def rotateNodeCredentials (draw : Draw) (nodeId : String) : Command Registry Failure Node := do
  let registry ← read
  let node ← present (registry.nodes.get? nodeId) .unknown
  ensure (node.status ≠ .revoked) .unknown
  save draw
    { registry with
      nodes := registry.nodes.set nodeId node.rotated
      revokedSerials := outgoing registry.revokedSerials node.certificateSerial }
  writeNodeCrl draw
  pure node.rotated

def revokeNode (draw : Draw) (nodeId : String) : Command Registry Failure Node := do
  let registry ← read
  let node ← present (registry.nodes.get? nodeId) .unknown
  save draw
    { registry with
      nodes := registry.nodes.set nodeId node.revoked
      revokedSerials := registry.revokedSerials ++ [node.certificateSerial] }
  writeNodeCrl draw
  pure node.revoked

/-! ## What verifies -/

/-- A token that is supplied: one that Core signed, or a text that is not of three parts. -/
inductive Supplied where
  | jwt (jwt : Jwt)
  | secret (text : String)

def verifyNodeToken (env : Env) (registry : Registry) (time : ℚ) (token : Supplied) (nodeId : String) : Prop :=
  match token with
  | .jwt jwt =>
    jwt.sub = nodeId ∧ jwt.type = "vertep-node" ∧ jwt.iss = "vertep-core" ∧ jwt.aud = "vertep-node-api" ∧
      jwt.nbf ≤ ⌊time⌋ ∧ ⌊time⌋ < jwt.exp ∧
      ∃ node, registry.nodes.get? nodeId = some node ∧ node.status ≠ .revoked ∧
        jwt.generation = node.credentialGeneration
  | .secret text =>
    ∃ node, registry.nodes.get? nodeId = some node ∧ node.status ≠ .revoked ∧ node.secretHash ≠ "" ∧
      node.secretHash = env.tokenHash text

instance (env : Env) (registry : Registry) (time : ℚ) (token : Supplied) (nodeId : String) :
    Decidable (verifyNodeToken env registry time token nodeId) := by
  unfold verifyNodeToken
  split
  · next jwt =>
    have : Decidable (∃ node, registry.nodes.get? nodeId = some node ∧ node.status ≠ .revoked ∧
        jwt.generation = node.credentialGeneration) :=
      inferInstanceAs (Decidable (∃ node, node ∈ registry.nodes.get? nodeId ∧ _))
    infer_instance
  · exact inferInstanceAs (Decidable (∃ node, node ∈ registry.nodes.get? nodeId ∧ _))

def CertificateExpired (env : Env) (time : ℚ) (value : Option String) : Prop :=
  ∀ expires, (value.filter (· ≠ "")).bind env.expiry = some expires → expires ≤ time

/-- `.upper().lstrip("0") or "0"`. -/
def plainSerial (text : List Char) : List Char :=
  match (text.map Char.toUpper).dropWhile (· = '0') with
  | [] => ['0']
  | digits => digits

/-- `str(supplied_serial).strip().upper().removeprefix("0X")`, then as above. -/
def suppliedSerial (text : String) : List Char :=
  let upper := ((text.toList.dropWhile Char.isWhitespace).reverse.dropWhile Char.isWhitespace).reverse.map Char.toUpper
  plainSerial (match upper with
    | '0' :: 'X' :: rest => rest
    | other => other)

def verifyNodeCertificate (env : Env) (registry : Registry) (time : ℚ) (nodeId supplied : String) : Prop :=
  supplied ≠ "" ∧ ∃ node serial, registry.nodes.get? nodeId = some node ∧ node.status ≠ .revoked ∧
    node.certificateSerial = some serial ∧ serial ≠ "" ∧ ¬ CertificateExpired env time node.certificateExpiresAt ∧
    plainSerial serial.toList = suppliedSerial supplied

end Vertep.Registry
