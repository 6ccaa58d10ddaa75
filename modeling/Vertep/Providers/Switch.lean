import Vertep.Providers.Records

/-!
# Switching a provider

Embedding of `switch_provider`, `reconcile_provider_activation` and `apply_provider_overrides` of
`core/provider_switch.py`. A write of a file is atomic: it lands, or it fails and raises, or the process ends before
it. Each place where the code writes a file is a `Point`.
-/

namespace Vertep.Providers
open Lib Command

/-- A place where a file is written. -/
inductive Point where
  | supersedeOverrides | supersedeRecord
  | applying | selection | outcome
  | rollbackOverrides | rollbackRecord
  | refuseOverrides | refuseRecord | acknowledge
  | recoverOverrides | recoverRecord
deriving DecidableEq

/-- What becomes of a write. -/
inductive Fate where
  | lands
  | fails (error : String)
  | crashes
deriving DecidableEq

abbrev ProviderM := Command World Failure

/-- A write of a file. -/
def persist (faults : Point → Fate) (point : Point) (change : World → World) : ProviderM Unit :=
  match faults point with
  | .lands => write change
  | .fails error => raise (.osError error)
  | .crashes => raise .crashed

def writeOverrides (faults : Point → Fate) (point : Point) (overrides : Vars) : ProviderM Unit :=
  persist faults point fun w => { w with overrides }

def activationRecord (faults : Point → Fate) (point : Point) (tx : Transaction) : ProviderM Unit :=
  persist faults point fun w =>
    { w with
      activation := some tx
      confirmed := if tx.status = .committed then tx.selected else w.confirmed }

/-- A change of `os.environ`. -/
def setEnviron (change : Vars → Vars) : ProviderM Unit := write fun w => { w with environ := change w.environ }

/-- What a transaction had replaced is put back, and then the record says so: the way it is done in
`switch_provider`, in `reconcile_provider_activation` and in `apply_provider_overrides`. -/
def putBack (faults : Point → Fate) (overrides record : Point) (tx : Transaction) (targets : List String) :
    ProviderM Unit := do
  writeOverrides faults overrides tx.previous
  setEnviron (restoreEnvironment tx.environment)
  activationRecord faults record { tx with status := .rolledBack, targets }

/-! ## The request -/

/-- What `_verify_effective_engine` reads of `effective_engine_config`. -/
structure EngineReport where
  effective : String := ""
  agree : Bool := true
  ready : Bool := true
  reason : Option String := none

/-- A call of `switch_provider`, with what it meets. -/
structure Request where
  slot : String
  backend : String
  endpoint : Option String := none
  /-- Whether `_switch_lock` is free. -/
  lockFree : Bool := true
  faults : Point → Fate := fun _ => .lands
  now : ℚ := 0
  heartbeatTimeout : Option ℤ := some 45
  workers : Workers := ∅
  /-- `effective_engine_config(probe=True)`. -/
  engine : Except Failure EngineReport := .ok {}
  /-- While the selection is verified. -/
  watch : Watch
  /-- While what was put back is verified. -/
  restoring : Watch

def validateEndpoint (host : Host) (slot requested endpoint : String) : Except Failure Unit :=
  if slot ≠ "video_engine" then .error (.rejected 422 ("Slot '" ++ slot ++ "' has no endpoint setting"))
  else
    let value := Core.strip endpoint
    if value = "" then .error (.rejected 422 "endpoint is required")
    else match host.urlsplit value with
    | .error error => .error (.rejected 422 ("endpoint is not a valid URL: " ++ error))
    | .ok parts =>
      if parts.scheme ≠ "http" ∧ parts.scheme ≠ "https" then
        .error (.rejected 422 "endpoint must be http or https")
      else if ¬ present parts.hostname then .error (.rejected 422 "endpoint must contain a host")
      else if present parts.username ∨ present parts.password then
        .error (.rejected 422 "endpoint must not contain credentials")
      else if (∃ c ∈ parts.path.toList, c ≠ '/') ∨ parts.query ≠ "" ∨ parts.fragment ≠ "" then
        .error (.rejected 422 "endpoint must be a bare origin without path, query or fragment")
      else if parts.port = some 0 ∨ ∃ port ∈ parts.port, 65535 < port then
        .error (.rejected 422 "endpoint port is out of range")
      else if requested = "native" then .error (.rejected 422 "Backend 'native' has no endpoint setting")
      else .ok ()

/-- What is selected: the variable of the slot, and the one of the endpoint. -/
structure Selection where
  requested : String
  envName : String
  endpoint : Option (String × String)
deriving DecidableEq

/-- The variable of the endpoint and its value. -/
def chooseEndpoint (slot requested : String) : Option String → Except Failure (Option (String × String))
  | none => .ok none
  | some endpoint =>
    match endpointEnvBySlot (slot, requested) with
    | none =>
      .error (.rejected 422 ("Slot '" ++ slot ++ "' backend '" ++ requested ++ "' has no endpoint setting"))
    | some name => .ok (some (name, rstripSlash (Core.strip endpoint)))

/-- The checks of `_switch_provider`: what is selected, if that is not what is there. -/
def choose (host : Host) (r : Request) (environ : Vars) : Except Failure (Option Selection) :=
  if r.slot ∉ switchableSlots then .error (.rejected 409 ("Provider slot '" ++ r.slot ++ "' is not switchable"))
  else
    let requested := lower (Core.strip r.backend)
    if requested = "" then .error (.rejected 422 "backend is required")
    else
      let before := providerMatrix host environ r.slot
      if requested ∉ before.options then
        .error (.rejected 422 ("Unknown backend '" ++ r.backend ++ "' for slot '" ++ r.slot ++ "'"))
      else do
        (match r.endpoint with
          | none => .ok ()
          | some endpoint => validateEndpoint host r.slot requested endpoint)
        if before.backend = some requested ∧ r.endpoint = none then pure none
        else if before.env = "" ∨ ' ' ∈ before.env.toList ∨ '/' ∈ before.env.toList then
          .error (.rejected 409 ("Provider slot '" ++ r.slot ++ "' is not switchable"))
        else do
          let endpoint ← chooseEndpoint r.slot requested r.endpoint
          pure (some ⟨requested, before.env, endpoint⟩)

/-! ## The activation -/

/-- The selected variables are set. -/
def Selection.set (selection : Selection) (vars : Vars) : Vars :=
  let vars := Function.update vars selection.envName (some selection.requested)
  match selection.endpoint with
  | none => vars
  | some (name, value) => Function.update vars name (some value)

/-- The variables that are set, with what they are in `vars`. -/
def Selection.captured (selection : Selection) (vars : Vars) : List (String × Option String) :=
  (selection.envName, vars selection.envName) ::
    match selection.endpoint with
    | none => []
    | some (name, _) => [(name, vars name)]

/-- The transaction, as it is begun. -/
def beginTransaction (host : Host) (r : Request) (selection : Selection) (w : World) : Transaction :=
  let before := providerMatrix host w.environ r.slot
  let environment := selection.captured w.environ
  { status := .applying
    slot := r.slot
    previous := w.overrides
    environment
    targets := switchTargets r.now r.heartbeatTimeout r.workers r.slot
    previousBackend := before.backend
    previousConfigured := before.configured
    deliveryBefore := environment.map fun (key, value) =>
      (key, value.getD (if key = selection.envName then before.backend.getD "" else ""))
    selected := selection.set w.overrides
    number := w.started + 1 }

/-- `except OSError as error`, where the selection is written. -/
def notPersisted : Failure → ProviderM Unit
  | .osError error => raise (.rejected 500 ("Could not persist the provider switch: " ++ error))
  | e => raise e

/-- The transaction and its overrides are written. -/
def persistSelection (r : Request) (tx : Transaction) : ProviderM Unit :=
  handle
    (do
      persist r.faults .applying fun w => { w with activation := some tx, started := tx.number }
      writeOverrides r.faults .selection tx.selected)
    notPersisted

def verifyEffectiveEngine (slot requested : String) (engine : Except Failure EngineReport) : Except Failure Unit :=
  if slot ≠ "video_engine" then .ok ()
  else do
    let config ← engine
    if config.effective ≠ requested ∨ config.agree = false then
      .error (.rejected 409 ("Engine '" ++ requested ++ "' is not effective; readiness: " ++
        (config.reason.filter (· ≠ "")).getD "unknown"))
    else if config.ready = false then
      .error (.rejected 409 ("Engine '" ++ requested ++ "' runtime is not ready: " ++
        (config.reason.filter (· ≠ "")).getD "runtime_not_ready"))
    else .ok ()

/-- The checks of a selection in force, and the record of it. -/
def verifySelection (host : Host) (r : Request) (selection : Selection) (tx : Transaction) : ProviderM Unit := do
  let w ← read
  let after := providerMatrix host w.environ r.slot
  when (after.configured = some false) <|
    raise (.rejected 409 ("Backend '" ++ selection.requested ++ "' is not configured for slot '" ++ r.slot ++ "'"))
  when (after.backend ≠ some selection.requested) <|
    raise (.rejected 500 ("Backend '" ++ selection.requested ++ "' did not take effect for slot '" ++ r.slot ++ "'"))
  answer (verifyEffectiveEngine r.slot selection.requested r.engine)
  answer (verifyWorkers host r.watch w.environ r.slot (executorConfig w) tx.targets)
  activationRecord r.faults .outcome { tx with status := if tx.targets = [] then .awaitingWorker else .committed }

/-- `except OSError as error`, in `_rollback`. -/
def persistenceError : Failure → ProviderM Bool
  | .osError _ => pure true
  | e => raise e

def rollback (r : Request) (tx : Transaction) (before : World) : ProviderM Unit := do
  let failed ← handle
    (do
      writeOverrides r.faults .rollbackOverrides
        (restoreEnvironment (tx.environment.map fun e => (e.1, before.overrides e.1)) tx.selected)
      pure false)
    persistenceError
  setEnviron (restoreEnvironment tx.environment)
  when (failed = true) (raise (.rejected 503 "Не вдалося зберегти попередню конфігурацію провайдера"))

/-- What follows a failed check. -/
def revert (host : Host) (r : Request) (tx : Transaction) (before : World) (error : Failure) : ProviderM Unit := do
  rollback r tx before
  activationRecord r.faults .rollbackRecord { tx with status := .rolledBack }
  let w ← read
  match verifyWorkers host r.restoring w.environ r.slot (executorConfig w) tx.targets with
  | .error (.rejected _ _) =>
    raise (.rejected 503 "Попередню конфігурацію збережено; відновлення на Worker ще не підтверджено")
  | .error e => raise e
  | .ok () => raise error

/-- What is reported of a failed check. -/
def reported : Failure → Failure
  | .rejected statusCode message => .rejected statusCode message
  | _ => .rejected 409 "Не вдалося активувати провайдера; попередню конфігурацію відновлено"

/-- The check of `effective_provider_config`, before a switch is reported. -/
def effectiveProviderConfig (host : Host) (slot : String) : ProviderM Unit := do
  let w ← read
  let entry := providerMatrix host w.environ slot
  when (∃ persisted ∈ w.overrides entry.env, entry.env ≠ "" ∧ entry.backend ≠ some persisted) <|
    raise (.rejected 409 ("Backend '" ++ entry.backend.getD "None" ++ "' has not reached the executor yet (persisted '" ++
      (w.overrides entry.env).getD "" ++ "' for slot '" ++ slot ++ "')"))

/-- The end of `_switch_provider`, from where the selection is in force. -/
def conclude (host : Host) (r : Request) (selection : Selection) (tx : Transaction) (before : World) : ProviderM Unit := do
  handle (verifySelection host r selection tx) fun failure =>
    if failure = .crashed then raise .crashed else revert host r tx before (reported failure)
  effectiveProviderConfig host r.slot

/-- `_switch_provider`, from where the request has passed its checks. -/
def activate (host : Host) (r : Request) (selection : Selection) : ProviderM Unit := do
  let before ← read
  let tx := beginTransaction host r selection before
  persistSelection r tx
  setEnviron selection.set
  conclude host r selection tx before

/-- `_switch_provider`. -/
def switchSlot (host : Host) (r : Request) : ProviderM Unit := do
  let w ← read
  match ← answer (choose host r w.environ) with
  | none => pure ()
  | some selection => activate host r selection

/-- A pending activation of the same slot is superseded. -/
def supersede (r : Request) : ProviderM Unit := do
  let w ← read
  match w.inStatus .awaitingWorker with
  | none => pure ()
  | some pending =>
    if pending.slot ≠ r.slot then raise (.rejected 409 "Провайдер очікує підтвердження Worker")
    else putBack r.faults .supersedeOverrides .supersedeRecord pending pending.targets

def switchProvider (host : Host) (r : Request) : ProviderM Unit := do
  when (r.lockFree = false) (raise (.rejected 409 "Інша активація провайдера вже виконується"))
  supersede r
  switchSlot host r

/-! ## The acknowledgement and the restart -/

/-- `reconcile_provider_activation`, while it holds the lock. -/
def reconcileHolding (host : Host) (faults : Point → Fate) (nodeName : String) (worker : Worker) (tx : Transaction) :
    ProviderM Unit := do
  let w ← read
  if ∃ capability ∈ slotCapability tx.slot, capability ∉ worker.capabilities then pure ()
  else if worker.providerConfigRevision ≠ some (host.revision (executorConfig w)) then pure ()
  else if Refuses host w.environ tx.slot (executorConfig w) worker then
    putBack faults .refuseOverrides .refuseRecord tx [nodeName]
  else activationRecord faults .acknowledge { tx with status := .committed, targets := [nodeName] }

/-- `reconcile_provider_activation`, where nothing happens between its reading of the record and the lock. -/
def reconcileProviderActivation (host : Host) (lockFree : Bool) (faults : Point → Fate) (nodeName : String)
    (worker : Worker) : ProviderM Unit := do
  let w ← read
  match w.inStatus .awaitingWorker with
  | none => pure ()
  | some tx => if lockFree = false then pure () else reconcileHolding host faults nodeName worker tx

/-- `re.fullmatch(r"[A-Z][A-Z0-9_]*", env_name)`. -/
def EnvName (name : String) : Prop :=
  match name.toList with
  | [] => False
  | c :: cs => c.isUpper = true ∧ ∀ c ∈ cs, c.isUpper = true ∨ c.isDigit = true ∨ c = '_'

instance (name : String) : Decidable (EnvName name) := decidableUncons name.toList

/-- The environment, with the overrides that are names of variables. -/
def overridden (overrides environ : Vars) : Vars := fun name =>
  if EnvName name then (overrides name).or (environ name) else environ name

def applyProviderOverrides (faults : Point → Fate) : ProviderM Unit := do
  let w ← read
  match w.inStatus .applying with
  | some tx => putBack faults .recoverOverrides .recoverRecord tx tx.targets
  | none => pure ()
  write fun w => { w with environ := overridden w.overrides w.environ }

end Vertep.Providers
