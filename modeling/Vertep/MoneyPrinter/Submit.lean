import Mathlib.Data.Int.Notation
import Vertep.Lib.Execution
import Vertep.Lib.Text

/-!
# Submits to the pinned renderer

Embedding of the submit routes of `services/moneyprinter_service.py` (`proxy_submit`, `submit_status`,
`abort_submitted_task` and what they call), and of `_submit_task`, `_reconcile_submit` and `release_state` of
`RemoteVideoEngine` in `adapters/providers/video_engines.py`. A handler of the wrapper is a program over the writes of
the durable record, the staging of the voice and the requests to the upstream; the engine is one over the routes of
the wrapper.
-/

namespace Vertep.MoneyPrinter
open Lib

/-! ## Texts -/

def strip (text : String) : String :=
  String.ofList ((text.toList.dropWhile Space).reverse.dropWhile Space).reverse

/-- `[A-Za-z0-9][A-Za-z0-9._:-]{0,127}`. -/
def SubmitKey (key : String) : Prop :=
  match key.toList with
  | [] => False
  | c :: cs => c.isAlphanum ∧ cs.length ≤ 127 ∧ ∀ c ∈ cs, c.isAlphanum ∨ c ∈ "._:-".toList

instance : DecidablePred SubmitKey := fun key => by
  unfold SubmitKey
  generalize key.toList = characters
  cases characters <;> infer_instance

lemma SubmitKey.ne_empty {key : String} (valid : SubmitKey key) : key ≠ "" := by
  rintro rfl
  exact valid

/-! ## Requests and answers -/

/-- What the routes read of the body of an answer. -/
structure Body where
  /-- `data.task_id`, where it is a text. -/
  taskId : Option String := none
  /-- `int(data.state)`. -/
  taskState : Option ℤ := none
  state : Option String := none
  recordState : Option String := none
  voiceStaged : Option Bool := none
  runtimeState : Option String := none
  message : Option String := none
  reason : Option String := none
  cause : Option String := none
deriving DecidableEq

/-- An answer; one without a body that is an object has none. -/
structure Answer where
  status : ℕ
  body : Option Body := none
deriving DecidableEq

/-- What raises: `SelfTestFailure`, `HTTPException`, or anything else. -/
inductive Failure where
  | selfTest (code message : String)
  | http (status : ℕ) (detail : String)
  | other

/-- What a failure of a handler is answered with. -/
def Failure.answer : Failure → Answer
  | .selfTest code message => { status := 503, body := some { message := some message, reason := some code } }
  | .http status _ => { status := status, body := some {} }
  | .other => { status := 500 }

def voiceMarkerPrefix : String := "vertep-voice:"

def voiceTaskFilename : String := "vertep-voice"

def allowedVoiceSuffixes : List String := [".wav", ".mp3", ".aac", ".m4a", ".ogg"]

/-- The payload of a submit, as far as it is read. -/
structure Payload where
  videoScript : String
  customAudioFile : String
  /-- The `url` of each material; none where it is not a list. -/
  videoMaterials : Option (List String)
  bgmFile : String

/-- The body of a submit. -/
inductive Request where
  | notJson
  | notObject
  | object (payload : Payload)

def pathName (path : List Char) : List Char :=
  ((path.splitOn '/').filter fun part => part ≠ [] ∧ part ≠ ['.']).getLastD []

/-- `Path.suffix`. -/
def pathSuffix (path : String) : String :=
  let name := pathName path.toList
  let after := name.reverse.takeWhile (· ≠ '.')
  if after = [] ∨ name.length ≤ after.length + 1 then "" else String.ofList ('.' :: after.reverse)

/-- `str.lower` of an ASCII text. -/
def lower (text : String) : String := String.ofList (text.toList.map Char.toLower)

def markerSuffix (marker : String) : Except Failure String :=
  if lower (pathSuffix marker) ∈ allowedVoiceSuffixes then .ok (lower (pathSuffix marker))
  else .error (.http 400 "invalid staged voice reference")

/-- The digest that a marker names. -/
def markerDigest (marker suffix : String) : String :=
  let digest := marker.toList.drop voiceMarkerPrefix.length
  String.ofList (digest.take (digest.length - suffix.length))

/-- A reference to something outside the storage of the upstream. -/
def Remote (reference : String) : Prop :=
  '/' ∈ reference.toList ∨ '\\' ∈ reference.toList

instance : DecidablePred Remote := fun reference => by unfold Remote; infer_instance

def requireSubmitInvariants (payload : Payload) : Except Failure String := do
  if strip payload.videoScript = "" then .error (.http 400 "approved script is required")
  let marker := strip payload.customAudioFile
  if ¬ voiceMarkerPrefix.toList <+: marker.toList then
    .error (.http 400 "approved voice must be staged before submit")
  let _ ← markerSuffix marker
  match payload.videoMaterials with
  | none | some [] => .error (.http 400 "scene materials are required")
  | some materials =>
    if ∃ reference ∈ materials, reference = "" ∨ Remote reference then
      .error (.http 400 "scene material must be an uploaded storage key")
    if payload.bgmFile ≠ "" ∧ Remote payload.bgmFile then .error (.http 400 "bgm must not be a remote path")
    return marker

/-! ## The staged voice -/

/-- What `_verified_staged_voice` and `_stage_task_voice` ask outside. -/
structure Env where
  /-- `hashlib.sha256(payload).hexdigest()`. -/
  sha256 : String → String
  /-- The pinned resolver takes the file of this name in the directory of a task. -/
  accepts : String → String → Bool

/-- What staging does outside. -/
inductive VoiceCall where
  | readVoice (digest suffix : String)
  | place (taskId name payload : String)
  | resolve (taskId name : String)

/-- `readVoice` answers with the bytes, if the file is there; `resolve` whether it took the file. -/
abbrev VoiceCall.Reply : VoiceCall → Type
  | .readVoice .. => Except Failure (Option String)
  | .place .. => Except Failure Unit
  | .resolve .. => Except Failure Bool

abbrev Staging (α : Type) := Script VoiceCall VoiceCall.Reply Unit Failure α

def voiceUnsupported (message : String) : Failure := .selfTest "upstream_voice_staging_unsupported" message

def verifiedStagedVoice (env : Env) (marker : String) : Staging String := do
  let suffix ← Script.require (markerSuffix marker)
  let digest := markerDigest marker suffix
  match ← Script.require (← Script.ask (.readVoice digest suffix)) with
  | none => Script.raise (voiceUnsupported "staged voice file is missing; the attempt is refused")
  | some payload =>
    if env.sha256 payload ≠ digest then
      Script.raise (voiceUnsupported "staged voice file does not match its content address")
    else pure payload

def voiceFile (suffix : String) : String := voiceTaskFilename ++ suffix

def stageTaskVoice (env : Env) (taskId marker : String) : Staging Unit := do
  let payload ← verifiedStagedVoice env marker
  let suffix ← Script.require (markerSuffix marker)
  let _ ← Script.require (← Script.ask (.place taskId (voiceFile suffix) payload))
  if ← Script.require (← Script.ask (.resolve taskId (voiceFile suffix))) then pure ()
  else Script.raise (voiceUnsupported "the pinned resolver did not accept the staged voice file")

/-! ## The wrapper -/

/-- States of a durable submit record. -/
inductive SubmitState where
  | submitting | submitted | staged | refused
deriving DecidableEq

def SubmitState.name : SubmitState → String
  | .submitting => "submitting"
  | .submitted => "submitted"
  | .staged => "staged"
  | .refused => "refused"

/-- The record of a submit key, in a file of its own. -/
structure SubmitRecord where
  taskId : Option String
  voiceMarker : Option String
  state : SubmitState
deriving DecidableEq

/-- Why a record that is there cannot be trusted. -/
inductive RecordFault where
  | unreadable (error : String)
  | corrupted
  | foreign

/-- What a handler does outside. The key of a `post` is not sent: it is the key of the handler. -/
inductive Call where
  | gate
  | readRecord (key : String)
  | writeRecord (key : String) (record : SubmitRecord)
  | unlinkRecord (key : String)
  | verify (marker : String)
  | stage (key taskId marker : String)
  | post (key : String) (payload : Payload)
  | deleteTask (taskId : String)
  | getTask (taskId : String)

/-- A request to the upstream that fails has no answer. -/
abbrev Call.Reply : Call → Type
  | .gate => Except Failure Unit
  | .readRecord _ => Except RecordFault (Option SubmitRecord)
  | .writeRecord .. => Except Failure Unit
  | .unlinkRecord _ => Unit
  | .verify _ => Except Failure String
  | .stage .. => Except Failure Unit
  | _ => Option Answer

abbrev Handler (α : Type) := Script Call Call.Reply Unit Failure α

def ask (c : Call) : Handler c.Reply := Script.ask c

def recordUnreadable (message : String) : Failure := .selfTest "submit_record_unreadable" message

/-- The message of a record that cannot be trusted. -/
def RecordFault.message (key : String) : RecordFault → String
  | .unreadable error => "submit record '" ++ key ++ "' exists but is unreadable: " ++ error
  | .corrupted => "submit record '" ++ key ++ "' is corrupted and cannot be trusted"
  | .foreign => "submit record '" ++ key ++ "' does not describe this submit key"

def submitRecord (key : String) : Handler (Option SubmitRecord) := do
  if ¬ SubmitKey key then Script.raise (.http 400 "invalid submit key")
  else match ← ask (.readRecord key) with
    | .ok record => pure record
    | .error fault => Script.raise (recordUnreadable (fault.message key))

def rememberSubmit (key : String) (taskId : Option String) (marker : String) (state : Option SubmitState := none) :
    Handler Unit := do
  if key = "" then pure ()
  else if ¬ SubmitKey key then Script.raise (.http 400 "invalid submit key")
  else
    let resolved := state.getD (if taskId.getD "" ≠ "" then .submitted else .submitting)
    Script.require (← ask (.writeRecord key { taskId := taskId, voiceMarker := some marker, state := resolved }))

def forgetSubmit (key : String) : Handler Unit := do
  if key = "" then pure ()
  else if ¬ SubmitKey key then Script.raise (.http 400 "invalid submit key")
  else ask (.unlinkRecord key)

/-- `_upstream`, of a request that was answered or was not. -/
def upstream (reply : Option Answer) : Handler Answer :=
  match reply with
  | some answer => pure answer
  | none => Script.raise (.http 502 "upstream_unreachable")

def abortTask (taskId : String) : Handler Unit :=
  Script.rescue (do let _ ← upstream (← ask (.deleteTask taskId))) fun _ => pure ()

def submittedTaskId (response : Answer) : Except Failure String :=
  match response.body with
  | none => .error (.selfTest "upstream_schema_unsupported" "upstream submit returned a non-JSON body")
  | some body =>
    match body.taskId with
    | none => .error (.selfTest "upstream_schema_unsupported" "upstream submit returned no data.task_id")
    | some taskId =>
      if strip taskId = "" then .error (.selfTest "upstream_schema_unsupported" "upstream submit returned no data.task_id")
      else .ok taskId

def completeRecordedStaging (key : String) (record : SubmitRecord) : Handler Unit := do
  let taskId := record.taskId.getD ""
  let marker := record.voiceMarker.getD ""
  if record.state = .staged then pure ()
  else if taskId = "" ∨ marker = "" then
    Script.raise (recordUnreadable "submit record has neither a task id nor a staged voice to complete")
  else match ← ask (.stage key taskId marker) with
    | .error (.selfTest _ message) => do
      abortTask taskId
      rememberSubmit key none marker (some .refused)
      Script.raise (.selfTest "voice_staging_failed" ("approved voice could not be staged for " ++ taskId ++ ": " ++ message))
    | .error failure => Script.raise failure
    | .ok () => rememberSubmit key (some taskId) marker (some .staged)

def refusal (status : ℕ) (message reason : String) (cause : Option String := none) : Answer :=
  { status := status, body := some { message := some message, reason := some reason, cause := cause } }

def reconciled (taskId : String) : Answer :=
  { status := 200, body := some { message := some "reconciled", taskId := some taskId } }

/-- `proxy_submit` from the staging on. -/
def stageSubmit (key taskId marker : String) (response : Answer) : Handler Answer := do
  match ← ask (.stage key taskId marker) with
  | .error (.selfTest code message) => do
    abortTask taskId
    rememberSubmit key none marker (some .refused)
    pure (refusal 503 message "voice_staging_failed" (some code))
  | .error failure => Script.raise failure
  | .ok () => do
    rememberSubmit key (some taskId) marker (some .staged)
    pure response

/-- `proxy_submit` from the answer of the upstream on. -/
def answeredSubmit (key marker : String) (response : Answer) : Handler Answer := do
  if 400 ≤ response.status then do
    -- only a 4xx proves that there is no task
    if response.status < 500 then forgetSubmit key
    pure response
  else do
    let taskId ← Script.require (submittedTaskId response)
    rememberSubmit key (some taskId) marker (some .submitted)
    stageSubmit key taskId marker response

/-- `proxy_submit` of a key that has no record, or of none. -/
def forwardSubmit (key marker : String) (payload : Payload) : Handler Answer := do
  match ← ask (.verify marker) with
  | .error (.selfTest code message) => pure (refusal 503 message "voice_staging_failed" (some code))
  | .error failure => Script.raise failure
  | .ok _ => do
    rememberSubmit key none marker
    let suffix ← Script.require (markerSuffix marker)
    let response ← upstream (← ask (.post key { payload with customAudioFile := voiceFile suffix }))
    answeredSubmit key marker response

/-- `proxy_submit`, with the key of its header stripped. -/
def proxySubmit (key : String) (request : Request) : Handler Answer := do
  let _ ← Script.require (← ask .gate)
  match request with
  | .notJson => Script.raise (.http 400 "submit body must be JSON")
  | .notObject => Script.raise (.http 400 "submit body must be an object")
  | .object payload => do
    let marker ← Script.require (requireSubmitInvariants payload)
    match ← (if key = "" then pure none else submitRecord key) with
    | none => forwardSubmit key marker payload
    | some recorded =>
      if recorded.state = .refused then
        pure (refusal 409 "this submit key was already refused and must not be reused" "voice_staging_failed")
      else if recorded.taskId.getD "" ≠ "" then do
        completeRecordedStaging key recorded
        pure (reconciled (recorded.taskId.getD ""))
      else if recorded.state = .submitting then
        pure (refusal 409 "submit is already in flight for this key" "upstream_submit_unknown")
      else forwardSubmit key marker payload

/-- `_RUNTIME_STATES.get(state, "unreachable")`. -/
def runtimeStates (state : ℤ) : String :=
  if state = 1 then "finished" else if state = -1 then "failed" else if state = 4 then "running" else "unreachable"

def runtimeState (taskId : Option String) : Handler String := do
  if taskId.getD "" = "" then pure "absent"
  else do
    let _ ← Script.require (← ask .gate)
    let response ← upstream (← ask (.getTask (taskId.getD "")))
    if response.status = 404 then pure "absent"
    else if 400 ≤ response.status then pure "unreachable"
    else match response.body.bind (·.taskState) with
      | none => pure "unreachable"
      | some state => pure (runtimeStates state)

def unknownKey : Answer := { status := 404, body := some { state := some "unknown" } }

def submitStatus (key : String) : Handler Answer := do
  let _ ← Script.require (← ask .gate)
  match ← submitRecord key with
  | none => pure unknownKey
  | some record => do
    let state ← runtimeState record.taskId
    let body : Body :=
      { state := some (if record.taskId.getD "" ≠ "" then "submitted" else "unknown")
        recordState := some record.state.name
        voiceStaged := some (record.state = .staged)
        runtimeState := some state
        taskId := record.taskId.filter (· ≠ "") }
    pure { status := 200, body := some body }

def abortSubmittedTask (key : String) : Handler Answer := do
  let _ ← Script.require (← ask .gate)
  match ← submitRecord key with
  | none => pure unknownKey
  | some record =>
    if record.taskId.getD "" = "" then pure unknownKey
    else upstream (← ask (.deleteTask (record.taskId.getD "")))

def route (handler : Handler Answer) : Handler Answer := Script.rescue handler fun failure => pure failure.answer

/-! ## The engine -/

/-- What the engine asks the wrapper for. -/
inductive EngineCall where
  | submit (key : String) (request : Request)
  | status (key : String)

abbrev EngineCall.Reply : EngineCall → Type
  | _ => Option Answer

/-- What the engine raises: a `BridgeContractError` with its reason, or a failed request. -/
inductive EngineFailure where
  | contract (reason : String)
  | http (status : ℕ)

abbrev Engine (α : Type) := Script EngineCall EngineCall.Reply Unit EngineFailure α

def reconcileSubmit (key : String) : Engine (Option String) := do
  if key = "" then pure none
  else match ← Script.ask (.status key) with
    | none => pure none
    | some response =>
      if response.status ≠ 200 then pure none
      else match response.body with
        | none => pure none
        | some body =>
          if body.state ≠ some "submitted" then pure none
          else pure (body.taskId.filter (· ≠ ""))

/-- `_submit_task`, with what `render` reads of the submit that it returns: the task, or none. -/
def submitTask (key : String) (request : Request) : Engine (Option String) := do
  match ← Script.ask (.submit key request) with
  | none =>
    match ← reconcileSubmit key with
    | none => Script.raise (.contract "upstream_submit_unknown")
    | some taskId => pure (some taskId)
  | some submit =>
    if submit.status = 409 ∧ key ≠ "" then
      match ← reconcileSubmit key with
      | none =>
        let reason := ((submit.body.bind (·.reason)).filter (· ≠ "")).getD "upstream_submit_unknown"
        Script.raise (.contract reason)
      | some taskId => pure (some taskId)
    else if 400 ≤ submit.status then Script.raise (.http submit.status)
    else pure ((submit.body.bind (·.taskId)).filter (· ≠ ""))

/-- `release_state`, of an engine that has an address and a contract. -/
def releaseState (key : String) (response : Option Answer) : String :=
  if key = "" then "unconfirmed"
  else match response with
    | none => "unconfirmed"
    | some response =>
      if response.status = 404 then "released"
      else if 400 ≤ response.status then "unconfirmed"
      else match response.body with
        | none => "unconfirmed"
        | some body =>
          if body.runtimeState ∈ [some "finished", some "failed", some "absent"] then "released" else "unconfirmed"

end Vertep.MoneyPrinter
