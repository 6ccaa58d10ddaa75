import Mathlib.Algebra.Order.Group.Int
import Vertep.Lib.Dict
import Vertep.Lib.Program
import Vertep.Lib.Text

/-!
# Durable operations

Embedding of `core/operations.py` on the file backend, and of `ingest_model_progress` in `core/pull_executor.py`.
Every function of `core/operations.py` reads, changes and writes the whole map inside one lock, so it is one section;
`ingest_model_progress` takes that lock and the one of `_OPERATION_ERROR_STATE` several times, so it is a program
over sections. The mirror in PostgreSQL, the audit lines and the worker records are left out; a map
that is there can be read, so `_read_all` never falls back to an empty one.
-/

namespace Vertep.Operations
open Lib

inductive OperationStatus where
  | queued | running | completed | failed | cancelled | rollingBack | recovering
deriving DecidableEq

/-- The statuses that a late event must leave alone. -/
def OperationStatus.Terminal : OperationStatus → Prop
  | .completed | .failed | .cancelled => True
  | _ => False

instance : DecidablePred OperationStatus.Terminal := fun status => by cases status <;> unfold OperationStatus.Terminal <;> infer_instance

/-- `_ACTIVE_STATUSES`. -/
def OperationStatus.Active : OperationStatus → Prop
  | .queued | .running | .rollingBack | .recovering => True
  | _ => False

instance : DecidablePred OperationStatus.Active := fun status => by cases status <;> unfold OperationStatus.Active <;> infer_instance

/-- `_OPERATION_TYPES`. -/
inductive OperationType where
  | status | update | restart | backup | restore | test | modelPull | modelDelete
deriving DecidableEq

/-- `_MODEL_OPERATION_TYPES`. -/
def OperationType.Model : OperationType → Prop
  | .modelPull | .modelDelete => True
  | _ => False

instance : DecidablePred OperationType.Model := fun type => by cases type <;> unfold OperationType.Model <;> infer_instance

/-- The `result` of an operation. -/
inductive Outcome where
  | model (model nodeName : String) (pulled : Bool)
  | other (value : String)
deriving DecidableEq

structure Operation where
  operationId : String
  type : OperationType
  requestedBy : String
  target : Option String
  idempotencyKey : Option String
  createdAt : String
  startedAt : Option String := none
  finishedAt : Option String := none
  status : OperationStatus := .queued
  currentPhase : Option String := none
  progress : ℤ := 0
  result : Option Outcome := none
  error : Option String := none
  message : Option String := none
  externalRequestId : Option String := none
  externalAction : Option String := none
  updatedAt : String
deriving DecidableEq

/-- `operations.json`. -/
abbrev Operations := Dict String Operation

/-- What is the same for all calls: the secrets that `_redact` masks. -/
structure Env where
  redact : String → String

/-- `value[:2000]`. -/
def truncate (value : String) : String := String.ofList (value.toList.take 2000)

/-! ## Sections -/

/-- What raises. -/
inductive Failure where
  | unknownType
  | notFound (operationId : String)
deriving DecidableEq

/-- `create_operation`, with the id that it draws. -/
def createOperation (operationId : String) (type : Option OperationType) (requestedBy : String)
    (target idempotencyKey : Option String) (now : String) (operations : Operations) :
    Except Failure (Operation × Operations) :=
  match type with
  | none => .error .unknownType
  | some type =>
    let operation : Operation :=
      { operationId := operationId, type := type, requestedBy := requestedBy, target := target
        idempotencyKey := idempotencyKey, createdAt := now, updatedAt := now }
    .ok (operation, operations.set operationId operation)

/-- The active operation that a request is for. -/
def Operation.Answers (type : Option OperationType) (target idempotencyKey : Option String) (op : Operation) : Prop :=
  op.status.Active ∧
    ((idempotencyKey ≠ none ∧ idempotencyKey ≠ some "" ∧ op.idempotencyKey = idempotencyKey) ∨
      (some op.type = type ∧ op.target = target))

instance (type : Option OperationType) (target idempotencyKey : Option String) :
    DecidablePred (Operation.Answers type target idempotencyKey) := fun _ => by
  unfold Operation.Answers
  infer_instance

/-- `get_or_create_operation`: the operation, and whether it is a new one. -/
def getOrCreateOperation (operationId : String) (type : Option OperationType) (requestedBy : String)
    (target idempotencyKey : Option String) (now : String) (operations : Operations) :
    Except Failure ((Operation × Bool) × Operations) :=
  match operations.values.find? (·.Answers type target idempotencyKey) with
  | some op => .ok ((op, false), operations)
  | none =>
    match createOperation operationId type requestedBy target idempotencyKey now operations with
    | .ok (op, operations) => .ok ((op, true), operations)
    | .error error => .error error

/-- What the writers have in common: an operation is changed where it may be, and must be there. -/
def change (operationId : String) (may : OperationStatus → Prop) [DecidablePred may] (f : Operation → Operation)
    (operations : Operations) : Except Failure (Operation × Operations) :=
  match operations.get? operationId with
  | none => .error (.notFound operationId)
  | some op => if may op.status then .ok (f op, operations.set operationId (f op)) else .ok (op, operations)

def beginOperation (operationId phase now : String) : Operations → Except Failure (Operation × Operations) :=
  change operationId (fun status => status = .queued ∨ status = .running) fun op =>
    { op with status := .running, startedAt := some (op.startedAt.getD now), currentPhase := some phase }

def advanceOperation (operationId phase : String) (progress : ℤ) (message : Option String) :
    Operations → Except Failure (Operation × Operations) :=
  change operationId (¬ ·.Terminal) fun op =>
    { op with
      currentPhase := some phase, progress := max 0 (min 100 progress)
      message := ((message.filter (· ≠ "")).map truncate).or op.message }

def completeOperation (operationId : String) (result : Option Outcome) (now : String) :
    Operations → Except Failure (Operation × Operations) :=
  change operationId (¬ ·.Terminal) fun op =>
    { op with status := .completed, finishedAt := some now, progress := 100, result := result }

def failOperation (env : Env) (operationId error now : String) : Operations → Except Failure (Operation × Operations) :=
  change operationId (¬ ·.Terminal) fun op =>
    { op with status := .failed, finishedAt := some now, error := some (env.redact (truncate error)) }

def linkOperationRequest (operationId : String) (requestId action : Option String) (now : String) :
    Operations → Except Failure (Operation × Operations) :=
  change operationId (fun _ => True) fun op =>
    { op with externalRequestId := requestId, externalAction := action, updatedAt := now }

/-- `cancel_operation`; an operation that is not there is `None`. -/
def cancelOperation (env : Env) (operationId : String) (reason : Option String) (now : String) :
    Operations → Except Failure (Operation × Operations) :=
  change operationId (¬ ·.Terminal) fun op =>
    { op with
      status := .cancelled, finishedAt := some now
      error := some (truncate (env.redact ((reason.filter (· ≠ "")).getD "cancelled by user"))) }

/-! ## Programs over sections -/

/-- What is done inside one lock. -/
inductive Section where
  | create (operationId : String) (type : Option OperationType) (requestedBy : String)
      (target idempotencyKey : Option String) (now : String)
  | getOrCreate (operationId : String) (type : Option OperationType) (requestedBy : String)
      (target idempotencyKey : Option String) (now : String)
  | get (operationId : String)
  | begin (operationId phase now : String)
  | advance (operationId phase : String) (progress : ℤ) (message : Option String)
  | complete (operationId : String) (result : Option Outcome) (now : String)
  | fail (operationId error now : String)
  | link (operationId : String) (requestId action : Option String) (now : String)
  | cancel (operationId : String) (reason : Option String) (now : String)
  | setError (operationId : String)
  | popError (operationId : String)

/-- What a section gives back. -/
abbrev Section.Reply : Section → Type
  | .getOrCreate .. => Except Failure (Operation × Bool)
  | .get _ => Option Operation
  | .setError _ => Unit
  | .popError _ => Bool
  | _ => Except Failure Operation

/-- `operations.json` and `_OPERATION_ERROR_STATE`, with the operations that `get_or_create_operation` created. -/
structure Store where
  operations : Operations := ∅
  errors : List String := []
  created : List String := []

/-- The store after a write, if there was one. -/
def Store.wrote {α : Type} (s : Store) : Except Failure (α × Operations) → Except Failure α × Store
  | .ok (a, operations) => (.ok a, { s with operations := operations })
  | .error error => (.error error, s)

/-- `re.fullmatch(r"[0-9a-f]{32}", operation_id)`. -/
def WellFormedId (operationId : String) : Prop :=
  operationId.length = 32 ∧ ∀ c ∈ operationId.toList, c ∈ "0123456789abcdef".toList

instance (operationId : String) : Decidable (WellFormedId operationId) := by unfold WellFormedId; infer_instance

/-- A section runs. -/
def Section.run (env : Env) (s : Store) : (sec : Section) → sec.Reply × Store
  | .create operationId type requestedBy target key now =>
    s.wrote (createOperation operationId type requestedBy target key now s.operations)
  | .getOrCreate operationId type requestedBy target key now =>
    match getOrCreateOperation operationId type requestedBy target key now s.operations with
    | .ok ((op, true), operations) =>
      (.ok (op, true), { s with operations := operations, created := operationId :: s.created })
    | .ok ((op, false), operations) => (.ok (op, false), { s with operations := operations })
    | .error error => (.error error, s)
  | .get operationId => (if WellFormedId operationId then s.operations.get? operationId else none, s)
  | .begin operationId phase now => s.wrote (beginOperation operationId phase now s.operations)
  | .advance operationId phase progress message =>
    s.wrote (advanceOperation operationId phase progress message s.operations)
  | .complete operationId result now => s.wrote (completeOperation operationId result now s.operations)
  | .fail operationId error now => s.wrote (failOperation env operationId error now s.operations)
  | .link operationId requestId action now =>
    s.wrote (linkOperationRequest operationId requestId action now s.operations)
  | .cancel operationId reason now => s.wrote (cancelOperation env operationId reason now s.operations)
  | .setError operationId => ((), { s with errors := operationId :: s.errors })
  | .popError operationId =>
    (decide (operationId ∈ s.errors), { s with errors := s.errors.filter (· ≠ operationId) })

abbrev Thread (α : Type) := Script Section Section.Reply Unit Failure α

/-- What a node reports of a model; its status is in capitals, and `RUNNING` if there is none. -/
structure Report where
  operationId : String
  status : String
  phase : Option String
  progress : ℤ
  error : Option String

/-- `split_target`, the model. -/
def splitModel (target : Option String) : String :=
  let value := (target.getD "").toList
  if '|' ∈ value then String.ofList (value.dropWhile (· ≠ '|')).tail else String.ofList value

def ask (sec : Section) : Thread sec.Reply := Script.ask sec

/-- `ingest_model_progress`, past what it does to the record of the worker. -/
def ingestModelProgress (nodeName : String) (report : Report) (now : String) : Thread Unit := do
  match ← ask (.get report.operationId) with
  | none => pure ()
  | some operation =>
    if ¬ operation.type.Model then pure ()
    else if operation.status.Terminal then do
      let _ ← ask (.popError report.operationId)
    else do
      let phase := (report.phase.filter (· ≠ "")).getD (if operation.type = .modelDelete then "delete" else "pull")
      if operation.status = .queued then do
        let _ ← Script.require (← ask (.begin report.operationId phase now))
      if report.status = "COMPLETED" then do
        if ← ask (.popError report.operationId) then do
          let _ ← Script.require (← ask (.fail report.operationId "pull ended with prior error event" now))
        else do
          let result := Outcome.model (splitModel operation.target) nodeName (operation.type = .modelPull)
          let _ ← Script.require (← ask (.complete report.operationId (some result) now))
      else if report.status = "FAILED" then do
        ask (.setError report.operationId)
        let error := (report.error.filter (· ≠ "")).getD "node reported failure"
        let _ ← Script.require (← ask (.fail report.operationId error now))
      else if report.status = "CANCELLED" then do
        let _ ← ask (.popError report.operationId)
        let reason := (report.error.filter (· ≠ "")).getD "cancelled on node"
        let _ ← ask (.cancel report.operationId (some reason) now)
      else do
        let error := report.error.filter (· ≠ "")
        if error.isSome then ask (.setError report.operationId)
        let _ ← Script.require (← ask (.advance report.operationId phase report.progress error))

end Vertep.Operations
