import Vertep.Placement.Commands

/-!
# Starts, cancels, heartbeats and reports together (`core/pull_executor.py`)

Any number of calls of `start_pull`, `start_delete`, `cancel_pull`, `pending_model_command` and
`ingest_model_progress` run together, for any nodes and models; each call of a script is one step. The thread of a
local pull changes its operation, and the registry changes what it knows of the nodes.
-/

namespace Vertep.Placement
open Lib Vertep.Operations

structure World where
  store : Store := {}
  /-- `node_name` and `model` of the operations. -/
  fields : Dict String (Option String × String) := ∅
  workers : Dict String Worker := ∅
  /-- What each operation was created for. -/
  requests : Dict String Request := ∅
  /-- Created for a node, and not yet issued. -/
  placing : List String := []
  /-- Their node has acknowledged the command. -/
  acknowledged : List String := []
  /-- `cancel_pull` has changed the command. -/
  cancelling : List String := []
  /-- A report of another node has changed the status. -/
  misattributed : List String := []

def World.change (w : World) (nodeName : String) (f : Worker → Worker) : World :=
  { w with workers := w.workers.map fun name worker => if name = nodeName then f worker else worker }

def Worker.issue (command : Command) (worker : Worker) : Worker :=
  { worker with modelCommand := some command, modelCommandAck := none }

def Worker.clear (worker : Worker) : Worker := { worker with modelCommand := none, modelCommandAck := none }

def Worker.acknowledge (operationId : String) (worker : Worker) : Worker :=
  { worker with modelCommandAck := some operationId }

def Worker.cancel (worker : Worker) : Worker :=
  { worker with modelCommand := worker.modelCommand.map fun command => { command with action := .cancel } }

/-- `QUEUED` or `RUNNING`, and not acknowledged. -/
def World.Waits (w : World) (operationId : String) : Prop :=
  (∃ op, w.store.operations.get? operationId = some op ∧ op.status.Live) ∧ operationId ∉ w.acknowledged

/-- The operations whose status a change of the store changes, and that were not placed on the node. -/
def World.foreign (w : World) (nodeName : String) (store : Store) : List String :=
  store.operations.keys.filter fun id =>
    (store.operations.get? id).map Operation.status ≠ (w.store.operations.get? id).map Operation.status ∧
      (w.requests.get? id).bind Request.node ≠ some nodeName

def Request.creation (request : Request) (operationId requestedBy now : String) : Section :=
  .getOrCreate operationId (some request.type) requestedBy (some request.target) (some request.key) now

/-- What `get_operation` finds. -/
def World.operation? (w : World) (operationId : String) : Option Operation :=
  if WellFormedId operationId then w.store.operations.get? operationId else none

/-- An operation is created. -/
def World.create (w : World) (request : Request) (operationId : String) (store : Store) : World :=
  { w with
    store := store
    requests := w.requests.set operationId request
    placing := if request.node.isSome then operationId :: w.placing else w.placing }

/-- What a call answers, and what it leaves. -/
inductive Call.Run (env : Env) : (c : Call) → World → c.Reply → World → Prop where
  | node (w) (nodeName : String) (clock : ℤ) (waiting : Option String) :
    nodeOrRaise env w.workers nodeName clock = .ok () → Run env (.node nodeName clock waiting) w (.ok ()) w
  | noNode (w) (nodeName : String) (clock : ℤ) (waiting : Option String) (error : PlacementError) :
    nodeOrRaise env w.workers nodeName clock = .error error →
    Run env (.node nodeName clock waiting) w (.error error) { w with placing := w.placing.filter (waiting ≠ some ·) }
  | create (w) (request : Request) (operationId requestedBy now : String) (op : Operation) :
    w.store.operations.get? operationId = none → WellFormedId operationId →
    ((request.creation operationId requestedBy now).run env.toEnv w.store).1 = .ok (op, true) →
    Run env (.create request operationId requestedBy now) w (.ok (op, true))
      (w.create request operationId ((request.creation operationId requestedBy now).run env.toEnv w.store).2)
  | found (w) (request : Request) (operationId requestedBy now : String) (op : Operation) :
    ((request.creation operationId requestedBy now).run env.toEnv w.store).1 = .ok (op, false) →
    Run env (.create request operationId requestedBy now) w (.ok (op, false)) w
  | setFields (w) (operationId : String) (nodeName : Option String) (model : String) (op : Operation) :
    w.store.operations.get? operationId = some op →
    Run env (.setFields operationId nodeName model) w (.ok ())
      { w with fields := w.fields.set operationId (nodeName, model) }
  | noFields (w) (operationId : String) (nodeName : Option String) (model : String) :
    w.store.operations.get? operationId = none →
    Run env (.setFields operationId nodeName model) w (.error (.notFound operationId)) w
  | «section» (w) (sec : Section) :
    Run env (.section sec) w (sec.run env.toEnv w.store).1 { w with store := (sec.run env.toEnv w.store).2 }
  | report (w) (nodeName : String) (sec : Section) :
    Run env (.report nodeName sec) w (sec.run env.toEnv w.store).1
      { w with
        store := (sec.run env.toEnv w.store).2
        misattributed := w.foreign nodeName (sec.run env.toEnv w.store).2 ++ w.misattributed }
  | lookup (w) (operationId : String) :
    Run env (.lookup operationId) w
      ((w.operation? operationId).map fun op => (op, (w.fields.get? operationId).bind Prod.fst)) w
  | reported (w) (nodeName operationId : String) : Run env (.reported nodeName operationId) w (w.operation? operationId) w
  | worker (w) (nodeName : String) : Run env (.worker nodeName) w (w.workers.get? nodeName) w
  | issue (w) (nodeName : String) (command : Command) :
    Run env (.issue nodeName command) w ()
      { w.change nodeName (Worker.issue command) with placing := w.placing.filter (· ≠ command.operationId) }
  | clear (w) (nodeName : String) : Run env (.clear nodeName) w () (w.change nodeName Worker.clear)
  | acknowledge (w) (nodeName operationId : String) :
    Run env (.acknowledge nodeName operationId) w ()
      { w.change nodeName (Worker.acknowledge operationId) with acknowledged := operationId :: w.acknowledged }
  | «override» (w) (nodeName operationId : String) :
    (w.workers.get? nodeName).bind Worker.modelCommand ≠ none →
    Run env (.override nodeName operationId) w (.ok ())
      { w.change nodeName Worker.cancel with cancelling := operationId :: w.cancelling }
  | noCommand (w) (nodeName operationId : String) :
    (w.workers.get? nodeName).bind Worker.modelCommand = none →
    Run env (.override nodeName operationId) w (.error .noCommand) w

def machine (env : Env) : Machine Call Call.Reply World where
  run := Call.Run env

/-! ## The system -/

/-- What a script returns. -/
inductive Answer where
  /-- An operation, for what was asked. -/
  | started (request : Request) (operation : Operation)
  | cancelled
  | pending (command : Option Command)
  | ingested (answer : Option (Bool × Operation))
deriving DecidableEq

abbrev System := Program.Pooled ℕ Call Call.Reply (Except Failure Answer × Unit) World

/-- The scripts that begin. -/
inductive Entry : Thread Answer → Prop where
  | startPull (model requestedBy : String) (nodeName : Option String) (operationId now : String) (clock clock' : ℤ) :
    Entry do
      let operation ← startPull model requestedBy nodeName operationId now clock clock'
      pure (.started { type := .modelPull, node := nodeOf nodeName, model := model } operation)
  | startDelete (model requestedBy nodeName operationId now : String) (clock clock' : ℤ) :
    Entry do
      let operation ← startDelete model requestedBy nodeName operationId now clock clock'
      pure (.started { type := .modelDelete, node := nodeOf (some nodeName), model := model } operation)
  | cancel (operationId : String) (reason : Option String) (now : String) :
    Entry do
      cancelPull operationId reason now
      pure .cancelled
  | heartbeat (nodeName : String) :
    Entry do
      let command ← pendingModelCommand nodeName
      pure (.pending command)
  | report (nodeName : String) (report : Report) (now : String) :
    Entry do
      let answer ← ingestModelProgress nodeName report now
      pure (.ingested answer)

/-- The sections that read or change an operation. -/
inductive Section.Of (operationId : String) : Section → Prop where
  | get : Of operationId (.get operationId)
  | begin (phase now : String) : Of operationId (.begin operationId phase now)
  | advance (phase : String) (progress : ℤ) (message : Option String) :
    Of operationId (.advance operationId phase progress message)
  | complete (result : Option Outcome) (now : String) : Of operationId (.complete operationId result now)
  | fail (error now : String) : Of operationId (.fail operationId error now)
  | cancel (reason : Option String) (now : String) : Of operationId (.cancel operationId reason now)
  | setError : Of operationId (.setError operationId)
  | popError : Of operationId (.popError operationId)

inductive System.Step (env : Env) (M : Machine Call Call.Reply World) : System → System → Prop where
  | begin (s : System) (n : ℕ) (script : Thread Answer) :
    s.threads.get? n = none → Entry script → Step env M s { s with threads := s.threads.set n (script ()) }
  | call {s s' : System} : s.Calls M s' → Step env M s s'
  /-- The thread of a local pull. -/
  | localPull (s : System) (operationId : String) (request : Request) (sec : Section) :
    s.world.requests.get? operationId = some request → request.node = none → Section.Of operationId sec →
    Step env M s { s with world := { s.world with store := (sec.run env.toEnv s.world.store).2 } }
  /-- A node comes. -/
  | join (s : System) (nodeName : String) (worker : Worker) :
    s.world.workers.get? nodeName = none → worker.modelCommand = none → worker.modelCommandAck = none →
    Step env M s { s with world := { s.world with workers := s.world.workers.set nodeName worker } }
  /-- What is known of a node changes, and its command stays. The heartbeat handler copies the record and writes it back;
  what another thread writes into the record in between is left out. -/
  | update (s : System) (nodeName : String) (text : Bool) (desiredState status : Option String) (lastSeen : Option ℤ) :
    Step env M s { s with world := s.world.change nodeName fun worker =>
      { worker with text := text, desiredState := desiredState, status := status, lastSeen := lastSeen } }

def System.Init (s : System) : Prop := s = { world := {} }

def Runs (env : Env) : System → Prop := Reach System.Init (System.Step env (machine env))

/-! ## What is claimed, and when it holds -/

/-- What a call answers and leaves where nothing else happens. -/
def Call.plays (env : Env) : (c : Call) → World → c.Reply × World
  | .node nodeName clock waiting, w =>
    match nodeOrRaise env w.workers nodeName clock with
    | .ok () => (.ok (), w)
    | .error error => (.error error, { w with placing := w.placing.filter (waiting ≠ some ·) })
  | .create request operationId requestedBy now, w =>
    match (request.creation operationId requestedBy now).run env.toEnv w.store with
    | (.ok (op, true), store) => (.ok (op, true), w.create request operationId store)
    | (reply, _) => (reply, w)
  | .setFields operationId nodeName model, w =>
    if w.store.operations.get? operationId = none then (.error (.notFound operationId), w)
    else (.ok (), { w with fields := w.fields.set operationId (nodeName, model) })
  | .section sec, w => ((sec.run env.toEnv w.store).1, { w with store := (sec.run env.toEnv w.store).2 })
  | .report nodeName sec, w =>
    ((sec.run env.toEnv w.store).1,
      { w with
        store := (sec.run env.toEnv w.store).2
        misattributed := w.foreign nodeName (sec.run env.toEnv w.store).2 ++ w.misattributed })
  | .lookup operationId, w =>
    ((w.operation? operationId).map fun op => (op, (w.fields.get? operationId).bind Prod.fst), w)
  | .reported _ operationId, w => (w.operation? operationId, w)
  | .worker nodeName, w => (w.workers.get? nodeName, w)
  | .issue nodeName command, w =>
    ((), { w.change nodeName (Worker.issue command) with placing := w.placing.filter (· ≠ command.operationId) })
  | .clear nodeName, w => ((), w.change nodeName Worker.clear)
  | .acknowledge nodeName operationId, w =>
    ((), { w.change nodeName (Worker.acknowledge operationId) with acknowledged := operationId :: w.acknowledged })
  | .override nodeName operationId, w =>
    if (w.workers.get? nodeName).bind Worker.modelCommand = none then (.error .noCommand, w)
    else (.ok (), { w.change nodeName Worker.cancel with cancelling := operationId :: w.cancelling })

/-- What `pending_model_command` answers. -/
def World.pendingCommand (env : Env) (w : World) (nodeName : String) : Option Command :=
  ((pendingModelCommand nodeName ()).play (Call.plays env) w).1.1.toOption.join

/-- The commands are neither lost nor misattributed. -/
structure System.Attributed (env : Env) (s : System) : Prop where
  /-- What is placed on a node and waits there is its pending command. -/
  pending : ∀ operationId request nodeName, s.world.requests.get? operationId = some request →
    request.node = some nodeName → s.world.Waits operationId → operationId ∉ s.world.placing →
    ∃ command, s.world.pendingCommand env nodeName = some command ∧ command.operationId = operationId ∧
      command.model = request.model ∧
        (command.action = request.action ∨ command.action = .cancel ∧ operationId ∈ s.world.cancelling)
  /-- The operation that is returned was created for what was asked. -/
  returned : ∀ n request operation,
    s.threads.get? n = some (.done (.ok (.started request operation), ())) →
    s.world.requests.get? operation.operationId = some request
  /-- No report of another node has changed a status. -/
  reported : s.world.misattributed = []

/-- The node holds no command of an operation that waits, but for its own. -/
def World.Free (w : World) (nodeName : String) (own : Option String) : Prop :=
  ∀ worker command, w.workers.get? nodeName = some worker → worker.modelCommand = some command →
    own ≠ some command.operationId → ¬ w.Waits command.operationId

/-- When a call does no harm. -/
def Call.Orderly (env : Env) (w : World) : Call → Prop
  -- no active operation of another request has this key, or this type and target
  | .create request _ _ _ => ∀ operationId op, w.store.operations.get? operationId = some op →
    op.Answers (some request.type) (some request.target) (some request.key) →
    w.requests.get? operationId = some request
  -- the node can still be used when the command is issued, or the command is not needed any more
  | .node nodeName clock (some operationId) =>
    nodeOrRaise env w.workers nodeName clock ≠ .ok () → ¬ w.Waits operationId
  | .issue nodeName command => w.Free nodeName (some command.operationId)
  | .override nodeName operationId => w.Free nodeName (some operationId)
  | .clear nodeName => w.Free nodeName none
  -- the report is one of the node of the operation, if the operation goes on
  | .reported nodeName operationId => ∀ op request, w.store.operations.get? operationId = some op →
    ¬ op.status.Terminal → w.requests.get? operationId = some request → request.node = some nodeName
  | _ => True

def orderly (env : Env) : Machine Call Call.Reply World where
  run c w reply w' := Call.Run env c w reply w' ∧ c.Orderly env w

def OrderlyRuns (env : Env) : System → Prop := Reach System.Init (System.Step env (orderly env))

end Vertep.Placement
