import Vertep.MoneyPrinter.Submit
import Vertep.Operations.Runs

/-!
# Commands for the models of nodes

Embedding of the placement on nodes in `core/pull_executor.py`: `start_pull`, `start_delete`, `cancel_pull`,
`pending_model_command` and `ingest_model_progress`, as scripts that run together. The catalogs of models and the
audit lines are left out. The fields `node_name` and `model` of an operation are kept beside its record.
-/

namespace Vertep.Placement
open Lib Vertep.Operations
open Vertep.MoneyPrinter (strip)

/-- The `action` of a command. -/
inductive Action where
  | pull | delete | cancel
deriving DecidableEq

/-- `model_command`. -/
structure Command where
  operationId : String
  action : Action
  model : String
  issuedAt : String
deriving DecidableEq

/-- The record of a worker: what `_node_or_raise` looks at, and its command. Times are in microseconds. -/
structure Worker where
  /-- Its role is `text`, or it has `text_generation`. -/
  text : Bool
  desiredState : Option String
  status : Option String
  lastSeen : Option ℤ
  modelCommand : Option Command := none
  modelCommandAck : Option String := none
deriving DecidableEq

inductive PlacementError where
  | unknownNode (nodeName : String)
  | noText (nodeName : String)
  | desired (nodeName state : String)
  | notReachable (nodeName : String)
  | timedOut (nodeName : String)
  | nodeRequired
deriving DecidableEq

/-- What raises. -/
inductive Failure where
  | placement (error : PlacementError)
  | operation (failure : Operations.Failure)
  /-- `KeyError: 'model_command'`. -/
  | noCommand
deriving DecidableEq

/-- `_heartbeat_timeout()` in seconds, and what `core/operations.py` needs. -/
structure Env extends Operations.Env where
  heartbeatTimeout : ℤ

def nodeOrRaise (env : Env) (workers : Dict String Worker) (nodeName : String) (clock : ℤ) :
    Except PlacementError Unit :=
  match workers.get? nodeName with
  | none => .error (.unknownNode nodeName)
  | some worker =>
    if worker.text = false then .error (.noText nodeName)
    else if worker.desiredState = some "DISABLED" ∨ worker.desiredState = some "REVOKED" then
      .error (.desired nodeName (worker.desiredState.getD ""))
    else match worker.lastSeen with
      | none => .error (.notReachable nodeName)
      | some lastSeen =>
        if worker.status = some "OFFLINE" ∨ worker.status = some "ERROR" then .error (.notReachable nodeName)
        else if clock - lastSeen > env.heartbeatTimeout * 1000000 then .error (.timedOut nodeName)
        else .ok ()

/-- What `start_pull` and `start_delete` are asked for. -/
structure Request where
  type : OperationType
  node : Option String
  model : String
deriving DecidableEq

def targetKey (nodeName : Option String) (model : String) : String :=
  match nodeName with
  | none => model
  | some node => node ++ "|" ++ model

def Request.action (request : Request) : Action := if request.type = .modelDelete then .delete else .pull

/-- The `target` of its operation. -/
def Request.target (request : Request) : String := targetKey request.node request.model

/-- The `idempotency_key` of its operation. -/
def Request.key (request : Request) : String :=
  (if request.type = .modelDelete then "delete:" else "pull:") ++ request.node.getD "local" ++ ":" ++ request.model

/-- A store operation of the placement handlers. -/
inductive Call where
  /-- `_node_or_raise`, and the operation that waits to be placed. -/
  | node (nodeName : String) (clock : ℤ) (waiting : Option String)
  /-- `get_or_create_operation`. -/
  | create (request : Request) (operationId requestedBy now : String)
  /-- `set_operation_fields`. -/
  | setFields (operationId : String) (nodeName : Option String) (model : String)
  | «section» (sec : Section)
  /-- A section in `ingest_model_progress` for a node. -/
  | report (nodeName : String) (sec : Section)
  /-- `get_operation`, with its `node_name`. -/
  | lookup (operationId : String)
  /-- `get_operation` in `ingest_model_progress` for a node. -/
  | reported (nodeName operationId : String)
  /-- The record of a worker is read. -/
  | worker (nodeName : String)
  /-- `worker["model_command"] = …` in `_issue_command`. -/
  | issue (nodeName : String) (command : Command)
  /-- `_clear_command`. -/
  | clear (nodeName : String)
  /-- `worker["model_command_ack"] = …`. -/
  | acknowledge (nodeName operationId : String)
  /-- The action of the command becomes `cancel`. -/
  | «override» (nodeName operationId : String)

/-- What a call gives back. -/
abbrev Call.Reply : Call → Type
  | .node .. => Except PlacementError Unit
  | .create .. => Except Operations.Failure (Operation × Bool)
  | .setFields .. => Except Operations.Failure Unit
  | .section sec => sec.Reply
  | .report _ sec => sec.Reply
  | .lookup _ => Option (Operation × Option String)
  | .reported .. => Option Operation
  | .worker _ => Option Worker
  | .override .. => Except Failure Unit
  | .issue .. | .clear _ | .acknowledge .. => Unit

abbrev Thread (α : Type) := Script Call Call.Reply Unit Failure α

def ask (c : Call) : Thread c.Reply := Script.ask c

/-- What `core/operations.py` returned or raises. -/
def operated {α : Type} (reply : Except Operations.Failure α) : Thread α := Script.require (reply.mapError .operation)

/-- What `_node_or_raise` returned or raises. -/
def placed (reply : Except PlacementError Unit) : Thread Unit := Script.require (reply.mapError .placement)

def issueCommand (nodeName : String) (command : Command) (clock : ℤ) : Thread Unit := do
  placed (← ask (.node nodeName clock (some command.operationId)))
  ask (.issue nodeName command)

/-- `_node_or_raise(node)`, if there is a node. -/
def checkNode (request : Request) (clock : ℤ) : Thread Unit :=
  match request.node with
  | none => pure ()
  | some node => do placed (← ask (.node node clock none))

/-- An operation that was created for a node is placed there; `executor.submit` does it for a local one. -/
def place (request : Request) (operationId now : String) (clock : ℤ) : Thread Unit :=
  match request.node with
  | none => pure ()
  | some node => do
    let _ ← operated (← ask (.section (.begin operationId "queued" now)))
    issueCommand node
      { operationId := operationId, action := request.action, model := request.model, issuedAt := now } clock

/-- What `start_pull` and `start_delete` do once the node is known, with the id that they draw. -/
def start (request : Request) (operationId requestedBy now : String) (clock clock' : ℤ) : Thread Operation := do
  checkNode request clock
  let found ← operated (← ask (.create request operationId requestedBy now))
  let operation := found.1
  if found.2 then do
    operated (← ask (.setFields operation.operationId request.node request.model))
    place request operation.operationId now clock'
    let current ← ask (.section (.get operation.operationId))
    pure (current.getD operation)
  else pure operation

/-- `(node_name or "").strip() or None`. -/
def nodeOf (nodeName : Option String) : Option String := some (strip (nodeName.getD "")) |>.filter (· ≠ "")

def startPull (model requestedBy : String) (nodeName : Option String) : (operationId now : String) → (clock clock' : ℤ) →
    Thread Operation :=
  fun operationId => start { type := .modelPull, node := nodeOf nodeName, model := model } operationId requestedBy

def startDelete (model requestedBy nodeName : String) (operationId now : String) (clock clock' : ℤ) :
    Thread Operation :=
  match nodeOf (some nodeName) with
  | none => Script.raise (.placement .nodeRequired)
  | some node => start { type := .modelDelete, node := some node, model := model } operationId requestedBy now clock clock'

/-- What `cancel_pull` does to the record of the worker. -/
def cancelCommand (operationId : String) (operation : Operation) (nodeName : Option String) : Thread Unit :=
  match nodeName.filter fun node => operation.type.Model ∧ node ≠ "" with
  | none => pure ()
  | some node => do
    match ← ask (.worker node) with
    | none => pure ()
    | some worker =>
      if worker.modelCommand.map Command.operationId = some operationId then do
        Script.require (← ask (.override node operationId))

/-- `cancel_pull`, but for the event of a local pull. -/
def cancelPull (operationId : String) (reason : Option String) (now : String) : Thread Unit := do
  match ← ask (.lookup operationId) with
  | none => pure ()
  | some found => do
    cancelCommand operationId found.1 found.2
    let _ ← ask (.section (.cancel operationId reason now))

def pendingModelCommand (nodeName : String) : Thread (Option Command) := do
  match ← ask (.worker nodeName) with
  | none => pure none
  | some worker =>
    match worker.modelCommand with
    | none => pure none
    | some command =>
      if worker.modelCommandAck = some command.operationId then pure none
      else match ← ask (.section (.get command.operationId)) with
        | none => do
          ask (.clear nodeName)
          pure none
        | some operation =>
          if operation.status = .completed then do
            ask (.clear nodeName)
            pure none
          else if operation.status = .failed ∨ operation.status = .cancelled then
            pure (some { command with action := .cancel })
          else pure (some command)

/-- What `ingest_model_progress` does to the record of the worker. -/
def acknowledgeCommand (nodeName : String) (report : Report) : Thread Unit := do
  match ← ask (.worker nodeName) with
  | none => pure ()
  | some worker =>
    if worker.modelCommand.map Command.operationId = some report.operationId then do
      ask (.acknowledge nodeName report.operationId)
      if report.status = "COMPLETED" ∨ report.status = "FAILED" ∨ report.status = "CANCELLED" then
        ask (.clear nodeName)

def noteError (nodeName operationId : String) (error : Option String) : Thread Unit := do
  if error.isSome then ask (.report nodeName (.setError operationId))

/-- What becomes of an operation by the status that is reported. -/
def settle (nodeName : String) (report : Report) (phase now : String) (operation : Operation) : Thread Unit := do
  if report.status = "COMPLETED" then do
    if ← ask (.report nodeName (.popError report.operationId)) then do
      let _ ← operated (← ask (.report nodeName (.fail report.operationId "pull ended with prior error event" now)))
    else do
      let result := Outcome.model (splitModel operation.target) nodeName (operation.type = .modelPull)
      let _ ← operated (← ask (.report nodeName (.complete report.operationId (some result) now)))
  else if report.status = "FAILED" then do
    ask (.report nodeName (.setError report.operationId))
    let error := (report.error.filter (· ≠ "")).getD "node reported failure"
    let _ ← operated (← ask (.report nodeName (.fail report.operationId error now)))
  else if report.status = "CANCELLED" then do
    let _ ← ask (.report nodeName (.popError report.operationId))
    let reason := (report.error.filter (· ≠ "")).getD "cancelled on node"
    let _ ← ask (.report nodeName (.cancel report.operationId (some reason) now))
  else do
    let error := report.error.filter (· ≠ "")
    noteError nodeName report.operationId error
    let _ ← operated (← ask (.report nodeName (.advance report.operationId phase report.progress error)))

/-- What `ingest_model_progress` does to an operation that is not terminal. -/
def applyReport (nodeName : String) (report : Report) (now : String) (operation : Operation) : Thread Unit :=
  let phase := (report.phase.filter (· ≠ "")).getD (if operation.type = .modelDelete then "delete" else "pull")
  if operation.status = .queued then do
    let _ ← operated (← ask (.report nodeName (.begin report.operationId phase now)))
    settle nodeName report phase now operation
  else settle nodeName report phase now operation

/-- `ingest_model_progress`: what it answers, if it answers. -/
def ingestModelProgress (nodeName : String) (report : Report) (now : String) : Thread (Option (Bool × Operation)) := do
  match ← ask (.reported nodeName report.operationId) with
  | none => pure none
  | some operation =>
    if operation.type.Model then do
      acknowledgeCommand nodeName report
      if operation.status.Terminal then do
        let _ ← ask (.report nodeName (.popError report.operationId))
        pure (some (decide (report.status = "RUNNING"), operation))
      else do
        applyReport nodeName report now operation
        let operation := (← ask (.section (.get report.operationId))).getD operation
        pure (some (decide (operation.status.Terminal ∧ report.status = "RUNNING"), operation))
    else pure none

end Vertep.Placement
