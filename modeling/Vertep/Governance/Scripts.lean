import Mathlib.Data.List.Dedup
import Mathlib.Data.List.Sort
import Mathlib.Data.String.Basic
import Vertep.Governance.Records
import Vertep.Lib.Program

/-!
# The entry points of the governance

Embedding of `propose_lab_issue`, `create_issue` and `consolidate_ir` of `lab/governance.py`, over the calls that they
make to their files, to the policy gate and to a live transport. An entry point runs under the lock of the state
directory, so no other one runs meanwhile.
-/

namespace Vertep.Governance
open Lib Script

/-- An entry of `transfer-intents.json`. -/
structure Plan where
  scope : String
  identifiers : List String
deriving DecidableEq

/-- An entry of `transfers.json`. -/
structure Transfer where
  successors : List String
  closed : Bool
deriving DecidableEq

/-- What a source issue is closed for: kept for the statements only. -/
structure Closing where
  source : String
  remaining : List String
  successors : List Record
deriving DecidableEq

/-- A file operation, or a request to the repository. -/
inductive Call where
  | readIntents
  | writeIntents (intents : Dict String Intent)
  | readCreated
  | writeCreated (created : List Record)
  | readPlans
  | writePlans (plans : Dict String Plan)
  | readTransfers
  | writeTransfers (transfers : Dict String Transfer)
  | identifiers
  | findDuplicates (title : String)
  /-- `transport.create_issue`; the decision key is kept for the statements only. -/
  | createRemote (key fullTitle body : String) (labels : List String)
  | getIssue (number : ℕ)
  | closeRemote (number : ℕ) (comment : String) (closing : Closing)
  /-- `gate.require`. -/
  | require (action subject : String)
  /-- `gate.decide`: it answers with the rule and the reason of a refusal. -/
  | decide (action subject : String)
  /-- The audit trail and the journal. -/
  | audit

abbrev Call.Reply : Call → Type
  | .readIntents => Dict String Intent
  | .readCreated => List Record
  | .readPlans => Dict String Plan
  | .readTransfers => Dict String Transfer
  | .identifiers => Except Failure (List String)
  | .findDuplicates _ => Except Failure (List Found)
  | .createRemote .. => Except Failure ℕ
  | .getIssue _ => Except Failure String
  | .closeRemote .. => Except Failure Bool
  | .decide .. => Except Failure (Option (String × String))
  | _ => Except Failure Unit

abbrev Process := Script Call Call.Reply Unit Failure

def stopIf (condition : Prop) [Decidable condition] (failure : Failure) : Process Unit :=
  if condition then raise failure else pure ()

variable (env : Env)

/-! ## Effects -/

/-- `re.sub(r"^(?:ri|rt)\.", "ir.", value)`. -/
def normalized (identifier : String) : String :=
  match identifier.toList with
  | 'r' :: 'i' :: '.' :: rest | 'r' :: 't' :: '.' :: rest => "ir." ++ String.ofList rest
  | _ => identifier

def knownIdentifiers : Process (List String) := do
  let remote ← Script.require (← ask .identifiers)
  let intents ← ask .readIntents
  let created ← ask .readCreated
  pure (List.map normalized remote ++ ((Dict.values intents).map Intent.identifier).filter (· ≠ "") ++
    List.flatMap Record.identifiers created)

/-- What is done when the transport has answered. -/
def settle (intents : Dict String Intent) (key : String) (intent : Intent) (expected : String) :
    Except Failure ℕ → Process (Option Effect)
  | .ok number => pure (some ⟨number, expected⟩)
  | .error failure => do
    let state := match failure with
      | .rejected _ => IntentState.reserved
      | _ => .uncertain
    Script.require (← ask (.writeIntents (intents.set key { intent with state := state })))
    raise failure

/-- The intent is recorded, and the issue created. -/
def send (intents : Dict String Intent) (key fullTitle body expected : String) (labels : List String) (intent : Intent) :
    Process (Option Effect) := do
  Script.require (← ask (.writeIntents (intents.set key intent)))
  let reply ← ask (.createRemote key fullTitle body labels)
  settle (intents.set key intent) key intent expected reply

def recovered (duplicates : List Found) (fullTitle marker : String) : Option Found :=
  duplicates.find? fun issue => issue.title = fullTitle ∧ marker.toList <:+: issue.body.toList

/-- An operation that has been begun before is taken up, or begun again. -/
def resume (intents : Dict String Intent) (duplicates : List Found) (key fullTitle body marker expected : String)
    (labels : List String) (intent prior : Intent) : Process (Option Effect) :=
  match recovered duplicates fullTitle marker with
  | some issue => do
    stopIf (env.sha256 issue.body ≠ expected) (.governance "Remote issue body changed during recovery")
    pure (some ⟨issue.number, expected⟩)
  | none => do
    stopIf (prior.state ≠ .reserved) (.governance "Remote create outcome is unconfirmed; source remains open")
    if duplicates = [] then send intents key fullTitle body expected labels intent else pure none

/-- The source that an intent is for: the one that it has been for before. -/
def linked (prior : Option Intent) (identifier link : String) : String :=
  match prior with
  | some prior => if prior.identifier = identifier then prior.link else link
  | none => link

/-- `_create_effect`; it is `none` where there are duplicates. -/
def createEffect (key title body : String) (labels : List String) (identifier link : String) : Process (Option Effect) := do
  let intents ← ask .readIntents
  let contentHash := env.contentHash (fullTitle identifier title) body labels
  let complete := env.completeBody key body contentHash
  let prior := Dict.get? intents key
  let intent : Intent := ⟨identifier, contentHash, .sending, linked prior identifier link⟩
  stopIf (Option.any (fun p => p.contentHash ≠ contentHash) prior)
    (.governance "Approval/idempotency key reused for a different scope")
  let duplicates ← Script.require (← ask (.findDuplicates title))
  match prior with
  | some prior =>
    resume env intents duplicates key (fullTitle identifier title) complete (env.marker key contentHash)
      (env.sha256 complete) labels intent prior
  | none =>
    if duplicates = [] then send intents key (fullTitle identifier title) complete (env.sha256 complete) labels intent
    else pure none

/-- The record is added, and the journals are written. -/
def record (key : String) (issue : Effect) (content : Content) : Process Record := do
  let created ← ask .readCreated
  Script.require (← ask (.writeCreated (created ++ [⟨key, issue, content⟩])))
  Script.require (← ask .audit)
  Script.require (← ask .audit)
  pure ⟨key, issue, content⟩

/-- What `propose_lab_issue` and `create_issue` return. -/
structure Outcome where
  allowed : Bool
  created : Bool := false
  rule : String := ""
  reason : String := ""
  record : Option Record := none
deriving DecidableEq

/-- `except PolicyDenied`. -/
def answered (body : Process Outcome) : Process Outcome :=
  rescue body fun failure =>
    match failure with
    | .denied rule reason => pure ⟨false, false, rule, reason, none⟩
    | failure => raise failure

/-! ## `propose_lab_issue` -/

def findingKey (finding : Finding) (key : String) : String :=
  if key ≠ "" then key
  else if finding.identifier ≠ "" then finding.identifier
  else String.ofList (finding.title.toList.take 80)

/-- The issue is created, and recorded. -/
def publish (key title body : String) (labels : List String) (identifier : String) (content : Content)
    (duplicate : String) : Process Outcome := do
  let issue ← createEffect env key title body labels identifier content.link
  match issue with
  | none => pure ⟨true, false, "", duplicate, none⟩
  | some issue => do
    let made ← record key issue content
    pure ⟨true, true, "", "", some made⟩

/-- A finding for which there is no record yet. -/
def proposeNew (finding : Finding) (key : String) : Process Outcome := do
  let problems := validateLabFinding env finding
  stopIf (problems ≠ []) (.governance ("finding is not a confirmed defect: " ++ "; ".intercalate problems))
  Script.require (← ask (.require "create_lab_issue" key))
  let known ← knownIdentifiers
  let created ← ask .readCreated
  let reserved := (reserveIdentifier env .lab (known ++ List.flatMap Record.candidates created)).toOption.getD key
  let intents ← ask .readIntents
  let labId := ((Dict.get? intents key).map Intent.identifier).getD reserved
  publish env key finding.title (renderLabBody finding ++ "\n\n" ++ labId) ["lab"] labId (.finding finding labId)
    "duplicate finding"

def proposeLabIssue (finding : Finding) (key : String) : Process Outcome :=
  answered do
    let created ← ask .readCreated
    match alreadyCreated created (findingKey finding key) with
    | some existing => do
      stopIf (existing.finding ≠ some finding) (.governance "Idempotency key reused for a different issue scope")
      Script.require (← ask .audit)
      pure ⟨true, false, "", "already created", some existing⟩
    | none => proposeNew env finding (findingKey finding key)

/-! ## `create_issue` -/

/-- What a request asks for is what the record is about. -/
def Record.isFor (record : Record) (kind : Kind) (title identifier : String) (metadata : Metadata) : Bool :=
  match record.content with
  | .finding .. => false
  | .issue identifier' kind' title' metadata' =>
    title' = title ∧ kind' = kind ∧ (identifier ≠ "" → identifier' = identifier) ∧ metadata' = metadata

def issuer (kind : Kind) : String := "create_" ++ kind.text ++ "_issue"

def givenIdentifier (identifier : String) (pending : Option Intent) : String :=
  if identifier = "" then (pending.map Intent.identifier).getD "" else identifier

/-- The identifier of an issue that there is no record of: one that is given and free, or the next of the series; it is
`none` where the one that is given is used. -/
def chooseIdentifier (kind : Kind) (identifier : String) (taken : List String) (pending : Option Intent) :
    Process (Option String) :=
  if givenIdentifier identifier pending = "" then do
    let reserved ← Script.require (reserveIdentifier env kind taken)
    pure (some reserved)
  else do
    stopIf (¬ env.Identifies kind (givenIdentifier identifier pending))
      (.governance ("identifier must look like " ++ kind.text ++ ".A.B.C.D"))
    if givenIdentifier identifier pending ∈ taken ∧
        pending.map Intent.identifier ≠ some (givenIdentifier identifier pending) then do
      Script.require (← ask .audit)
      pure none
    else pure (some (givenIdentifier identifier pending))

/-- An issue for which there is no record yet. -/
def createNew (kind : Kind) (title identifier key : String) (metadata : Metadata) : Process Outcome := do
  let subject := if identifier = "" then title else identifier
  Script.require (← ask (.require (issuer kind) subject))
  let taken ← knownIdentifiers
  let intents ← ask .readIntents
  let chosen ← chooseIdentifier env kind identifier taken (Dict.get? intents key)
  match chosen with
  | none => pure ⟨true, false, "", "identifier " ++ identifier ++ " is already used", none⟩
  | some identifier => do
    Script.require (← ask (.require (issuer kind) subject))
    publish env key title (renderIssueBody kind title identifier metadata) [kind.text] identifier
      (.issue identifier kind title metadata) "duplicate issue"

def issueKey (title identifier key : String) : String :=
  if Core.strip key ≠ "" then Core.strip key else if identifier ≠ "" then identifier else title

def createIssue (kind : Kind) (title identifier key : String) (metadata : Metadata) : Process Outcome :=
  answered do
    stopIf (kind = .lab) (.governance "laboratory may not create a 'lab' issue")
    stopIf (Core.strip title = "") (.governance "an issue title is required")
    let created ← ask .readCreated
    match alreadyCreated created (issueKey (Core.strip title) (Core.strip identifier) key) with
    | some existing => do
      stopIf (¬ existing.isFor kind (Core.strip title) (Core.strip identifier) metadata)
        (.governance "Idempotency key reused for a different issue scope")
      Script.require (← ask .audit)
      pure ⟨true, false, "", "already created", some existing⟩
    | none =>
      createNew env kind (Core.strip title) (Core.strip identifier)
        (issueKey (Core.strip title) (Core.strip identifier) key) metadata

/-! ## `consolidate_ir` -/

def stripped (items : List String) : List String := (items.map Core.strip).filter (· ≠ "")

def sortedSet (items : List String) : List String := items.dedup.insertionSort (· ≤ ·)

/-- A successor as it is planned. -/
structure Entry where
  title : String
  criteria : List String
  identifier : String
deriving DecidableEq

/-- An early `return`. -/
def refusal (rule reason : String) : Failure := .returned ⟨false, [], false, rule, reason⟩

/-- One successor is checked against what remains. -/
def plannedEntry (remaining : List String) (item : Successor) : Except Failure Entry :=
  let title := Core.strip item.title
  let criteria := stripped item.transferredCriteria
  let unknown := criteria.filter (· ∉ remaining)
  if title = "" then .error (.governance "each successor needs a title")
  else if criteria = [] then .error (.governance ("successor " ++ env.repr title ++ " transfers no criteria"))
  else if unknown ≠ [] then
    .error (refusal "scope_check" ("successor " ++ env.repr title ++ " adds criteria outside the source remainder: " ++
      env.reprs (sortedSet unknown)))
  else .ok ⟨title, criteria, Core.strip item.identifier⟩

/-- The successors, as far as they cover what remains exactly once. -/
def plannedEntries (remaining : List String) (successors : List Successor) : Except Failure (List Entry) := do
  let entries ← successors.mapM (plannedEntry env remaining)
  let transferred := entries.flatMap Entry.criteria
  let missing := remaining.filter (· ∉ transferred)
  if ¬ (entries.map Entry.title).Nodup then .error (refusal "scope_check" "successor titles must be unique")
  else if missing ≠ [] ∨ ¬ transferred.Nodup then
    .error (refusal "coverage" ("remaining criteria must be transferred exactly once" ++
      if missing = [] then "" else "; missing " ++ env.reprs (sortedSet missing)))
  else .ok entries

/-- Whether an identifier is from an attempt of this transfer. -/
def minted (sourceId identifier : String) : Process Bool := do
  let created ← ask .readCreated
  let intents ← ask .readIntents
  pure (((recordByIdentifier created identifier).map fun record => record.metadata.transferredFrom) = some sourceId ∨
    (Dict.get? intents identifier).map Intent.identifier = some identifier)

/-- The identifier of an entry. -/
def assign (sourceId identifier : String) (taken : List String) : Process String :=
  if identifier = "" then Script.require (reserveIdentifier env .ir taken)
  else do
    stopIf (¬ env.Identifies .ir identifier) (.governance "successor identifier must look like ir.A.B.C.D")
    if identifier ∈ taken then do
      let own ← minted sourceId identifier
      stopIf (own = false) (refusal "identifier_used" ("identifier " ++ identifier ++ " is already used"))
      pure identifier
    else pure identifier

def assignAll (sourceId : String) : List Entry → List String → Process (List Entry)
  | [], _ => pure []
  | entry :: entries, taken => do
    let identifier ← assign env sourceId entry.identifier taken
    let others ← assignAll sourceId entries (identifier :: taken)
    pure ({ entry with identifier := identifier } :: others)

/-- The gate is asked about the transfer, and about closing the source. -/
def authorise (sourceId : String) : List String → Process Unit
  | [] => pure ()
  | action :: actions => do
    let refused ← Script.require (← ask (.decide action sourceId))
    match refused with
    | none => authorise sourceId actions
    | some (rule, reason) => do
      Script.require (← ask .audit)
      raise (refusal rule reason)

/-- `except Exception`. -/
def attempt {α : Type} (body : Process α) : Process (Except Failure α) :=
  rescue (do
    let result ← body
    pure (.ok result)) fun failure => pure (.error failure)

/-- What a successor is created with. -/
def transferMetadata (source : Source) (entry : Entry) : Metadata where
  transferredFrom := Core.strip source.identifier
  transferredCriteria := entry.criteria
  sourceTitle := source.title

/-- The successors are created, each once. -/
def createAll (source : Source) : List Entry → List String → Process (List String)
  | [], created => pure created
  | entry :: entries, created => do
    let outcome ← attempt (createIssue env .ir entry.title entry.identifier entry.identifier (transferMetadata source entry))
    match outcome with
    | .error failure =>
      raise (.returned ⟨true, created, false, "transport_error",
        "successor creation failed: " ++ failure.text ++ "; source stays open"⟩)
    | .ok outcome => do
      stopIf (outcome.allowed = false) (.returned ⟨false, created, false, outcome.rule, outcome.reason⟩)
      createAll source entries (created ++ [entry.identifier])

def unverified (created : List String) (reason : String) : Failure :=
  .returned ⟨true, created, false, "verification", reason⟩

/-- Each successor is read back; it returns the criteria that they cover. -/
def verifyAll (sourceId : String) (created : List String) : List Record → Process (List String)
  | [] => pure []
  | successor :: successors => do
    stopIf (successor.metadata.transferredFrom ≠ sourceId)
      (unverified created ("link " ++ sourceId ++ " → " ++ successor.identifier ++ " missing; source stays open"))
    let remote : Except Failure String ← ask (Call.getIssue successor.issue.number)
    match remote with
    | .error failure => raise (unverified created ("Remote coverage unconfirmed: " ++ failure.text))
    | .ok body => do
      stopIf (env.sha256 body ≠ successor.issue.expectedBodySha256)
        (unverified created "Remote coverage unconfirmed: Remote successor body differs from approved coverage")
      let covered ← verifyAll sourceId created successors
      pure (successor.metadata.transferredCriteria ++ covered)

/-- The source is closed, and the transfer recorded. -/
def closeSource (source : Source) (created : List String) (comment : String) (closing : Closing) :
    Process TransferOutcome := do
  let records ← ask .readCreated
  let recorded := (recordByIdentifier records (Core.strip source.identifier)).map fun r => r.issue.number
  match (source.number.filter (· ≠ 0)).or recorded with
  | none =>
    raise (.returned ⟨true, created, false, "transport_error",
      "close failed: Verified numeric source issue is required before transfer close; source stays open"⟩)
  | some number => do
    let close : Except Failure Bool ← ask (Call.closeRemote number comment closing)
    match close with
    | .error failure =>
      raise (.returned ⟨true, created, false, "transport_error", "close failed: " ++ failure.text ++ "; source stays open"⟩)
    | .ok closed => do
      stopIf (closed = false) (.returned ⟨true, created, false, "transport_error",
        "close failed: Remote source close was not confirmed; source stays open"⟩)
      let transfers ← ask .readTransfers
      Script.require (← ask (.writeTransfers (transfers.set (Core.strip source.identifier) ⟨created, true⟩)))
      Script.require (← ask .audit)
      Script.require (← ask .audit)
      pure ⟨true, created, true, "", ""⟩

/-- What is done when the plan is recorded and approved. -/
def transfer (source : Source) (remaining : List String) (entries : List Entry) (reason : String) :
    Process TransferOutcome := do
  let created ← createAll env source entries []
  let records ← ask .readCreated
  match List.mapM (recordByIdentifier records) created with
  | none => raise (unverified created "successor record missing; source stays open")
  | some successors => do
    let covered ← verifyAll env (Core.strip source.identifier) created successors
    stopIf (¬ ((∀ item ∈ remaining, item ∈ covered) ∧ (∀ item ∈ covered, item ∈ remaining) ∧ covered.Nodup))
      (unverified created "transfer verification failed; source stays open")
    let comment := if reason ≠ "" then reason else
      "Перенесено залишок " ++ env.reprs (remaining.insertionSort (· ≤ ·)) ++ " до " ++ ", ".intercalate created ++
        "; перевірено зв'язки й повноту перенесення."
    closeSource source created comment ⟨Core.strip source.identifier, remaining, successors⟩

/-- The identifiers of a plan are taken over from the previous attempt. -/
def resumed (entries : List Entry) (previous : Option Plan) : List Entry :=
  match previous with
  | none => entries
  | some plan => entries.zipWith (fun entry identifier => { entry with identifier := identifier }) plan.identifiers ++
    entries.drop plan.identifiers.length

def consolidateIr (source : Source) (successors : List Successor) (reason : String) : Process TransferOutcome :=
  rescue (do
      let sourceId := Core.strip source.identifier
      let remaining := stripped source.remainingCriteria
      stopIf (sourceId = "") (.governance "source identifier is required")
      stopIf (remaining = []) (.governance "source has no remaining criteria to transfer")
      stopIf (successors = []) (.governance "at least one successor is required")
      let transfers ← ask .readTransfers
      stopIf (((Dict.get? transfers sourceId).map Transfer.closed) = some true)
        (.returned ⟨true, ((Dict.get? transfers sourceId).map Transfer.successors).getD [], true, "", "already consolidated"⟩)
      let entries ← Script.require (plannedEntries env remaining successors)
      let plans ← ask .readPlans
      let scope := env.sha256 (env.dumpsPlan source successors reason)
      let previous := Dict.get? plans sourceId
      stopIf (Option.any (fun plan => plan.scope ≠ scope) previous)
        (refusal "scope" "transfer retry changed its approved scope")
      let known ← knownIdentifiers
      let assigned ← assignAll env sourceId (resumed entries previous) (sourceId :: known)
      Script.require (← ask (.writePlans (plans.set sourceId ⟨scope, List.map Entry.identifier assigned⟩)))
      authorise sourceId ["consolidate_ir", "delegate_close_ir"]
      transfer env source remaining assigned reason)
    fun failure =>
      match failure with
      | .returned outcome => pure outcome
      | failure => raise failure

end Vertep.Governance
