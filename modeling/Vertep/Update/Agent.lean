import Vertep.Update.Records

/-!
# The update agent

Embedding of `scripts/update-agent.py`: what an agent does to the host, call by call. A loop that goes on until a
deadline is given by how many rounds fit before it. Where the source changes its `state` dictionary in place, the
change stays whether what comes next raises or not.
-/

namespace Vertep.Update
open Lib Script

/-- `state["log"]` grows. -/
def note (line : String) : AgentM Unit := modify fun s => { s with log := s.log ++ [line] }

/-- `state["log"].extend(output.splitlines()[-n:])`. -/
def noteOutput (n : ℕ) (output : List String) : AgentM Unit :=
  modify fun s => { s with log := s.log ++ output.drop (output.length - n) }

def trimLog : AgentM Unit := modify fun s => { s with log := s.log.drop (s.log.length - 500) }

/-- A durable write that raised, raises. -/
def landed : Written → AgentM Unit
  | .done => pure ()
  | .lost error | .landed error => raise error

/-- `atomic_json(state_dir / "status.json", state)`. -/
def writeStatus (place : Place) : AgentM Unit := do
  let s ← get
  landed (← ask (.status place s))

def appendAudit (event : Event) : AgentM Unit := do landed (← ask (.audit event))

def setSystemState (state : SystemState) (reason : String) : AgentM Unit := do
  landed (← ask (.system state reason))

def assertMutationAllowed (guard : Guard) : AgentM Unit := do
  require (← ask (.current guard))
  match ← ask (.fence guard) with
  | .absent => pure ()
  | .unreadable => raise "Mutation blocked: cancel fence state is unreadable"
  | .of operation => raise s!"Mutation blocked: rollout operation {operation} was cancelled and this agent must not continue the host apply"

/-! ## Commands of the host -/

/-- The watchdog of `run_fenced`, beside what the command reports. -/
def watch (command : HostCommand) : List Tick → ℕ → AgentM Unit
  | [], _ => pure ()
  | .report phase :: ticks, i => do
    ask (.report phase)
    watch command ticks (i + 1)
  | .check :: ticks, i => do
    rescue (assertMutationAllowed (.watch command i)) fun error => do
      ask (.kill command)
      raise error
    watch command ticks (i + 1)

def runFenced (command : HostCommand) : AgentM (List String) := do
  assertMutationAllowed (.start command)
  let work ← require (← ask (.spawn command))
  watch command work.ticks 0
  require work.result

/-! ## The operation -/

def transition (phase : Phase) (message : String) (progress : Option ℤ) : AgentM Unit := do
  modify fun s =>
    { s with
      phase := phase, message := message
      progress := match progress with
        | none => s.progress
        | some p => some (max 0 (min 100 p)) }
  note message
  trimLog
  writeStatus (.phase phase progress)
  let s ← get
  appendAudit (.phase s.requestId phase s.action message)
  match phase.system with
  | none => pure ()
  | some state => setSystemState state message

def mergeRuntimeProgress (command : HostCommand) : AgentM Unit := do
  match ← ask (.readStatus command) with
  | .error _ => pure ()
  | .ok runtime => modify fun s => if runtime.requestId = s.requestId then runtime else s

/-- The loop of `wait_for_drain`. -/
def drainRounds : ℕ → ℕ → AgentM Unit
  | 0, _ => raise "Timed out waiting for jobs and workers to drain"
  | n + 1, i => do
    assertMutationAllowed (.drain i)
    ask (.drain i)
    if ← require (← ask (.readiness i)) then
      transition .maintenance "Workers drained and queue paused" (some 30)
    else drainRounds n (i + 1)

def waitForDrain : AgentM Unit := do
  transition .maintenance "Maintenance mode; waiting for active jobs" (some 22)
  drainRounds (← ask .drainPolls) 0

def recordSystemState (state : SystemState) (message : String) : AgentM Unit :=
  rescue (setSystemState state message) fun error => note s!"system state not updated: {error}"

/-- The loop of `verify_restored_release`. -/
def healthRounds : ℕ → ℕ → AgentM Unit
  | n, i => do
    match ← ask (.health i) with
    | .ok () => pure ()
    | .error error => match n with
      | 0 => raise s!"Restored release is not healthy: {error}"
      | n + 1 => healthRounds n (i + 1)

def verifyRestoredRelease : AgentM Unit := do
  match ← ask .coordinated with
  | true => pure ()
  | false => healthRounds (← ask .healthPolls) 0

/-! ## The lease -/

/-- The body of a `with UpdateLease(...)`. -/
def withLease {α : Type} (operation : String) (body : Option ℕ → AgentM α) : AgentM α := do
  let epoch ← require (← ask (.acquire operation))
  andFinally (body epoch) (ask .release)

/-! ## Requests -/

def initialPhase : Action → Phase
  | .restart => .restarting
  | .rollback => .recovering
  | .check | .update => .checking

def initialMessage : Action → String
  | .restart => "Restarting Vertep services"
  | .rollback => "Restoring the previous Vertep release"
  | .check | .update => "Checking signed release manifest"

/-- What an action that went well reports: it changes the operation, and the system is back to normal. -/
def succeed (state : RunState) (message : String) (reason : String := message) : AgentM Unit := do
  modify fun s => { s with state := state, phase := .normal, progress := some 100, message := message }
  setSystemState .normal reason

/-- `action == "restart"`. -/
def restartServices : AgentM Unit := do
  transition .restarting "Restarting active Vertep services" (some 70)
  assertMutationAllowed (.before .restartRuntime)
  let output ← runFenced .restartRuntime
  mergeRuntimeProgress .restartRuntime
  noteOutput 100 output
  succeed .succeeded "Server restart completed"

/-- `action == "rollback"`. -/
def rollBack : AgentM Unit := do
  transition .recovering "Restoring the previous release" (some 40)
  assertMutationAllowed (.before .rollback)
  let output ← runFenced .rollback
  noteOutput 100 output
  verifyRestoredRelease
  succeed .rolledBack "Previous release restored"

/-- What a release changes in the files of trust. -/
def store (write : String → Call) (reply : ∀ text, (write text).Reply = Written) : Option String → AgentM Unit
  | none => pure ()
  | some text => do landed (reply text ▸ (← ask (write text)))

/-- The signed manifest: from `fetch_manifest` to the transition `CHECKING`. -/
def verifyRelease (request : Request) : AgentM (Offer × Release) := do
  let offer ← require (← ask .manifest)
  let requested := request.targetVersion.getD ""
  if requested ≠ "" ∧ offer.version ≠ requested then
    raise "Update server did not return the coordinated target version"
  else do
    store .trustRoot (fun _ => rfl) offer.rootMetadata
    let release ← require (← ask .validate)
    store .trustRelease (fun _ => rfl) release.trusted
    transition .checking "Signed release manifest verified" (some 15)
    pure (offer, release)

def applyCommand (offer : Offer) (release : Release) : HostCommand :=
  .applyUpdate offer.version release.rollbackSafe

/-- What goes before an installation: the package, and the drain. -/
def prepareInstallation (offer : Offer) (skipDrain : Bool) : AgentM Unit := do
  transition .downloading "Downloading and verifying update package" (some 18)
  require (← ask (.download offer.version))
  if skipDrain then pure () else waitForDrain

/-- The installation, and the retention of releases. -/
def install (command : HostCommand) : AgentM Unit := do
  transition .updating "Backup and package installation started" (some 50)
  assertMutationAllowed (.before command)
  let output ← runFenced command
  mergeRuntimeProgress command
  noteOutput 200 output
  let pruned ← require (← ask .prune)
  note s!"Immutable release retention: {pruned}"

/-- `action in {"check", "update"}`. -/
def checkOrUpdate (request : Request) (action : Action) (skipDrain : Bool) : AgentM Unit := do
  let (offer, release) ← verifyRelease request
  let forced : Bool ← if action = .update then ask .forced else pure false
  if action = .update ∧ (release.available ∨ forced) then do
    prepareInstallation offer skipDrain
    install (applyCommand offer release)
  else pure ()
  succeed .succeeded (if action = .update then "Update completed" else "Update check completed")

/-- The body of the `try`. -/
def perform (request : Request) (action : Action) (skipDrain : Bool) : AgentM Unit :=
  match action with
  | .restart => restartServices
  | .rollback => rollBack
  | .check | .update => checkOrUpdate request action skipDrain

/-- The rollback that follows a failed installation. -/
def rollBackInstallation : AgentM Unit := do
  transition .recovering "Health check failed; rolling back" none
  assertMutationAllowed (.before .rollback)
  let output ← runFenced .rollback
  noteOutput 100 output
  verifyRestoredRelease
  succeed .rolledBack "Попередню версію відновлено автоматично" "Automatic rollback completed"

/-- What is left to say of an operation that failed. -/
def failWith (phase : Phase) (state : SystemState) (reason : String) : AgentM Unit := do
  modify fun s => { s with state := .failed, phase := phase }
  recordSystemState state reason

/-- The `except` of `process_request`. -/
def handleFailure (error : Failure) : AgentM Bool := do
  note error
  let s ← get
  match s.phase with
  | .updating => rescue rollBackInstallation fun rollbackError => do
    modify fun s => { s with state := .failed, phase := .emergency }
    note s!"rollback failed: {rollbackError}"
    recordSystemState .emergency "Update and rollback failed"
  | .recovering => failWith .emergency .emergency "Rollback failed"
  | _ => failWith .normal .normal "Update stopped before installation"
  modify fun s => { s with message := error }
  pure false

/-- The `finally` of `process_request`. -/
def closeRequest (name : String) (request : Request) (action : Action) : AgentM Unit := do
  let s ← get
  rescue (appendAudit (.outcome request.requestId s.state action s.message)) fun error =>
    note s!"outcome not journaled: {error}"
  trimLog
  writeStatus .outcome
  require (← ask (.unlink name))
  let s ← get
  if s.state = .failed then do
    let target := match request.targetVersion with
      | some target => if target = "" then "current" else target
      | none => "current"
    let expected := match action with
      | .update => target
      | .check => s!"check:{target}"
      | .restart => s!"restart:{target}"
      | .rollback => s!"rollback:{target}"
    ask (.dropMarker [expected, s!"{expected}:{request.requestId}"])
  else pure ()

/-- The operation under its lease. -/
def operate (name : String) (request : Request) (action : Action) (skipDrain : Bool) (epoch : Option ℕ) :
    AgentM Bool := do
  modify fun s => { s with fenceEpoch := epoch }
  writeStatus .leased
  andFinally (rescue (do perform request action skipDrain; pure true) handleFailure)
    (closeRequest name request action)

/-- `process_request`, of a request that was read. -/
def processRequest (name : String) (request : Request) (skipDrain : Bool) : AgentM Bool :=
  match request.action with
  | none => raise "Invalid update request"
  | some action =>
    if ¬ request.WellNamed then raise "Invalid update request"
    else do
      modify fun _ =>
        { phase := initialPhase action, action := some action, requestId := some request.requestId
          message := initialMessage action, progress := some 5 }
      writeStatus .received
      withLease request.requestId (operate name request action skipDrain)

end Vertep.Update
