import Vertep.Core.Plan
import Vertep.Lib.Command
import Vertep.Lib.Dict
import Vertep.Lib.Text

/-!
# Provider selections

Embedding of the records of `core/provider_switch.py` and of what it reads: the overrides, the record of an
activation, `provider_matrix` for the slots that can be switched, the selection an executor is delivered and the
checks of a request. The digest of a selection, the revision of the engine, the parts of a URL and the checks of
the adapters are parameters.
-/

namespace Vertep.Providers
open Lib

/-- Environment variables, or overrides of them: `none` where a name is not bound. -/
abbrev Vars := String → Option String

def getenv (environ : Vars) (name default : String) : String := (environ name).getD default

def lower (text : String) : String := String.ofList (text.toList.map Char.toLower)

/-- `str.rstrip("/")`. -/
def rstripSlash (text : String) : String := String.ofList (text.toList.reverse.dropWhile (· = '/')).reverse

/-- What `urlsplit` returns. -/
structure Url where
  scheme : String
  hostname : Option String
  username : Option String := none
  password : Option String := none
  path : String := ""
  query : String := ""
  fragment : String := ""
  port : Option ℕ := none

/-- What the host answers. -/
structure Host where
  /-- The digest in `provider_config_revision`. -/
  revision : List (String × String) → String
  engineRevision : Vars → String
  /-- `configured` of the adapter of a backend. -/
  configured : String → Vars → Bool
  /-- `urlsplit` and the port of its result, or the text of the `ValueError`. -/
  urlsplit : String → Except String Url

inductive Failure where
  /-- `ProviderSwitchError`. -/
  | rejected (statusCode : ℕ) (message : String)
  | osError (message : String)
  /-- Any other exception. -/
  | unexpected
  /-- The process ends here. -/
  | crashed
deriving DecidableEq

/-! ## The matrix -/

/-- An entry of `provider_matrix`, empty where there is none. -/
structure Entry where
  backend : Option String := none
  options : List String := []
  env : String := ""
  configured : Option Bool := none

def present (text : Option String) : Bool := text.getD "" ≠ ""

def llmSlot (environ : Vars) : Entry :=
  let openai : Bool := Core.strip (lower (getenv environ "VERTEP_LLM_PROVIDER" "ollama")) = "openai"
  { backend := some (if openai then "openai" else "ollama")
    options := ["ollama", "openai"]
    env := "VERTEP_LLM_PROVIDER"
    configured := some (!openai || present (environ "OPENAI_API_KEY") || present (environ "LLM_API_KEY")) }

def ttsSlot (host : Host) (environ : Vars) : Entry :=
  let name := Core.strip (lower (getenv environ "TTS_PROVIDER" "none"))
  { backend := some name
    options := ["none", "mock", "piper", "kokoro"]
    env := "TTS_PROVIDER"
    configured := some (if name = "piper" ∨ name = "kokoro" then host.configured name environ else true) }

def computeSlot (environ : Vars) : Entry :=
  let distributed : Bool :=
    Core.strip (lower (getenv environ "VERTEP_COMPUTE_PROVIDER" "vertep-worker")) = "comfyui-distributed"
  let configured : Bool := rstripSlash (getenv environ "COMFYUI_DISTRIBUTED_URL" "") ≠ ""
  { backend := some (if distributed && configured then "comfyui-distributed" else "vertep-worker")
    options := ["vertep-worker", "comfyui-distributed"]
    env := "VERTEP_COMPUTE_PROVIDER"
    configured := some (!distributed || configured) }

def videoEngineSlot (host : Host) (environ : Vars) : Entry :=
  let name := Core.strip (lower (getenv environ "VERTEP_VIDEO_ENGINE" "native"))
  let external : Bool := name = "money-printer" ∨ name = "shortgpt"
  { backend := some (if external then name else "native")
    options := ["native", "money-printer", "shortgpt"]
    env := "VERTEP_VIDEO_ENGINE"
    configured := some (!external || host.configured name environ) }

/-- `provider_matrix().get(slot, {})`, for the slots that can be switched. -/
def providerMatrix (host : Host) (environ : Vars) : String → Entry
  | "llm" => llmSlot environ
  | "tts" => ttsSlot host environ
  | "compute" => computeSlot environ
  | "image" => computeSlot environ
  | "video" => computeSlot environ
  | "video_engine" => videoEngineSlot host environ
  | _ => {}

def switchableSlots : List String := ["llm", "tts", "compute", "image", "video", "video_engine"]

def endpointEnvBySlot : String × String → Option String
  | ("video_engine", "money-printer") => some "MONEY_PRINTER_URL"
  | ("video_engine", "shortgpt") => some "SHORTGPT_URL"
  | _ => none

def slotCapability : String → Option String
  | "tts" => some "speech_synthesis"
  | "llm" => some "text_generation"
  | "video_engine" => some "video_generation"
  | "compute" => some "image_generation"
  | "image" => some "image_generation"
  | "video" => some "video_generation"
  | _ => none

/-! ## The records -/

inductive Status where
  | applying | awaitingWorker | committed | rolledBack
deriving DecidableEq

/-- `provider-activation.json`. -/
structure Transaction where
  status : Status
  slot : String
  previous : Vars
  environment : List (String × Option String)
  targets : List String
  previousBackend : Option String
  previousConfigured : Option Bool
  deliveryBefore : List (String × String)
  /-- The overrides that are selected. The record does not hold them. -/
  selected : Vars
  /-- Which transaction this is. The record does not hold it. -/
  number : ℕ

/-- What a switch of the provider reads and writes. -/
structure World where
  /-- What `load_provider_overrides` reads. -/
  overrides : Vars
  /-- `provider-activation.json`; `none` where it cannot be read. -/
  activation : Option Transaction
  /-- `os.environ`. -/
  environ : Vars
  /-- How many transactions were begun. No code reads it. -/
  started : ℕ
  /-- The selection that was confirmed last. No code reads it. -/
  confirmed : Vars

/-- The transaction in the record, where its status is `status`. -/
def World.inStatus (w : World) (status : Status) : Option Transaction := w.activation.filter fun tx => tx.status = status

lemma World.inStatus_eq_some {w : World} {status : Status} {tx : Transaction} :
    w.inStatus status = some tx ↔ w.activation = some tx ∧ tx.status = status := by
  simp [inStatus, Option.filter_eq_some_iff]

def restoreEnvironment (environment : List (String × Option String)) (environ : Vars) : Vars :=
  environment.foldl (fun environ e => Function.update environ e.1 e.2) environ

/-- `_PROVIDER_EXECUTOR_ENV_ALLOWLIST`, sorted. -/
def executorEnvAllowlist : List String :=
  ["COMFYUI_DISTRIBUTED_URL", "COMFYUI_URL", "MONEY_PRINTER_URL", "OLLAMA_MODEL", "OLLAMA_URL", "SHORTGPT_URL",
    "TTS_LANGUAGE", "TTS_MODEL", "TTS_PROVIDER", "TTS_SPEED", "TTS_URL", "TTS_VOICE", "VERTEP_COMPUTE_PROVIDER",
    "VERTEP_LLM_PROVIDER", "VERTEP_VIDEO_ENGINE"]

def allowlisted (overrides : Vars) : List (String × String) :=
  executorEnvAllowlist.filterMap fun key => (overrides key).map (key, ·)

/-- `provider_executor_config`. -/
def executorConfig (w : World) : List (String × String) :=
  match w.inStatus .rolledBack with
  | some tx =>
    if tx.targets ≠ [] then
      allowlisted (tx.deliveryBefore.foldl
        (fun overrides e => Function.update overrides e.1 (some ((overrides e.1).getD e.2))) w.overrides)
    else allowlisted w.overrides
  | none => allowlisted w.overrides

lemma executorConfig_eq {w : World} (standing : w.inStatus .rolledBack = none) :
    executorConfig w = allowlisted w.overrides := by
  rw [executorConfig, standing]

/-! ## Workers -/

/-- A record of `store.workers`. -/
structure Worker where
  runtimeInstanceId : Option String := none
  desiredState : Option String := none
  /-- `none` where it cannot be read as a time. -/
  lastSeen : Option ℚ := none
  capabilities : List String := []
  providerConfigRevision : Option String := none
  providerConfig : List (String × String) := []
  providerActivationError : Option String := none
  providerEngineRevision : Option String := none

abbrev Workers := Dict String Worker

/-- `_switch_targets`; `heartbeatTimeout` is `none` where it is not a number. -/
def switchTargets (now : ℚ) (heartbeatTimeout : Option ℤ) (workers : Workers) (slot : String) : List String :=
  (workers.entries.filter fun (_, worker) =>
    present worker.runtimeInstanceId ∧ worker.desiredState ≠ some "REVOKED" ∧ worker.desiredState ≠ some "DISABLED" ∧
    (∃ seen ∈ worker.lastSeen, ∃ timeout ∈ heartbeatTimeout, now - seen ≤ (timeout : ℚ)) ∧
    (∃ capability ∈ slotCapability slot, capability ∈ worker.capabilities)).map Prod.fst

/-- The worker did not take over the selection it acknowledges. -/
def Refuses (host : Host) (environ : Vars) (slot : String) (expected : List (String × String)) (worker : Worker) : Prop :=
  present worker.providerActivationError ∨
  (slot = "video_engine" ∧ worker.providerEngineRevision ≠ some (host.engineRevision environ)) ∨
  ∃ e ∈ expected, (Dict.lookup e.1 worker.providerConfig).getD "" ≠ e.2

instance (host : Host) (environ : Vars) (slot : String) (expected : List (String × String)) (worker : Worker) :
    Decidable (Refuses host environ slot expected worker) := by
  unfold Refuses
  infer_instance

/-- One round of `_verify_workers`: the targets that are still pending. -/
def verifyRound (host : Host) (environ : Vars) (slot : String) (expected : List (String × String)) (workers : Workers) :
    List String → Except Failure (List String)
  | [] => .ok []
  | name :: names =>
    let worker := (workers.get? name).getD {}
    if worker.providerConfigRevision ≠ some (host.revision expected) then do
      let pending ← verifyRound host environ slot expected workers names
      pure (name :: pending)
    else if Refuses host environ slot expected worker then
      .error (.rejected 409 ("Worker не підтвердив активацію слота '" ++ slot ++ "'; попередню конфігурацію відновлено"))
    else verifyRound host environ slot expected workers names

/-- The rounds of `_verify_workers`; the deadline is past after the last one. -/
def verifyRounds (host : Host) (environ : Vars) (slot : String) (expected : List (String × String)) :
    List Workers → List String → Except Failure Unit
  | _, [] => .ok ()
  | [], _ :: _ =>
    .error (.rejected 409 ("Час очікування активації слота '" ++ slot ++ "' вичерпано; попередню конфігурацію відновлено"))
  | workers :: rounds, pending => do
    let pending ← verifyRound host environ slot expected workers pending
    verifyRounds host environ slot expected rounds pending

/-- What `store.workers` shows in each round, and whether the setting of the deadline is a number. -/
structure Watch where
  first : Workers
  later : List Workers := []
  deadline : Bool := true

def verifyWorkers (host : Host) (watch : Watch) (environ : Vars) (slot : String) (expected : List (String × String))
    (targets : List String) : Except Failure Unit :=
  if watch.deadline = false then .error .unexpected
  else verifyRounds host environ slot expected (watch.first :: watch.later) targets

end Vertep.Providers
