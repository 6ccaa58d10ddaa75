import Vertep.Lib.Reach
import Vertep.MoneyPrinter.Submit

/-!
# The wrapper, its upstream and its engines (`services/moneyprinter_service.py`)

The handlers of the wrapper run one after the other on its durable records; a handler may be cut off between any two
of its calls, and within a staging. The upstream creates a task for a submit or does not, whatever it answers, except
that a 4xx creates none and a task that is named is the one that was created. The log is kept for the statements only.
-/

namespace Vertep.MoneyPrinter
open Lib

/-- A task of the upstream, and the submit key that it was created under. -/
structure Task where
  id : String
  key : String
deriving DecidableEq

inductive Event where
  /-- A submit was sent; it was answered 4xx, or not. -/
  | posted (key : String) (refused : Bool)
  /-- The staging of the voice failed. -/
  | failed (key : String)
  /-- The upstream confirmed the abort of a task. -/
  | aborted (taskId : String)
  /-- The wrapper answered a submit with a task. -/
  | accepted (key taskId : String)
  /-- An engine goes on to poll a task. -/
  | polls (key taskId : String)
deriving DecidableEq

/-- The files of the voices of tasks, by the task and the name of the file. -/
abbrev Voices := Dict (String × String) String

/-- The records of the wrapper and the tasks of the upstream. -/
structure World where
  records : Dict String SubmitRecord := ∅
  tasks : List Task := []
  /-- The tasks that hold compute. -/
  running : List String := []
  voices : Voices := ∅
  log : List Event := []

def World.note (w : World) (event : Event) : World := { w with log := event :: w.log }

def World.stops (w : World) (taskId : String) : World := { w with running := w.running.filter (· ≠ taskId) }

/-! ## Staging -/

inductive VoiceCall.Run (env : Env) : (c : VoiceCall) → Voices → c.Reply → Voices → Prop where
  | read (digest suffix : String) (v : Voices) (payload : Option String) :
    Run env (.readVoice digest suffix) v (.ok payload) v
  | notRead (digest suffix : String) (v : Voices) : Run env (.readVoice digest suffix) v (.error .other) v
  | placed (taskId name payload : String) (v : Voices) :
    Run env (.place taskId name payload) v (.ok ()) (v.set (taskId, name) payload)
  | notPlaced (taskId name payload : String) (v : Voices) : Run env (.place taskId name payload) v (.error .other) v
  | resolved (taskId name : String) (v : Voices) :
    Run env (.resolve taskId name) v (.ok (env.accepts taskId name)) v
  | notResolved (taskId name : String) (v : Voices) : Run env (.resolve taskId name) v (.error .other) v

def voiceMachine (env : Env) : Machine VoiceCall VoiceCall.Reply Voices where
  run := VoiceCall.Run env

/-! ## The calls of a handler -/

/-- `200`, `202`, `204`, … -/
def Answer.Confirms (answer : Answer) : Prop := 200 ≤ answer.status ∧ answer.status < 300

def Answer.Refuses (answer : Answer) : Prop := 400 ≤ answer.status ∧ answer.status < 500

instance (answer : Answer) : Decidable answer.Refuses := by unfold Answer.Refuses; infer_instance

/-- The answer about a task that does not hold compute. -/
def Answer.Stopped (answer : Answer) : Prop :=
  answer.status = 404 ∨
    answer.status < 400 ∧ (answer.body.bind (·.taskState) = some 1 ∨ answer.body.bind (·.taskState) = some (-1))

/-- What the upstream makes of a submit. -/
inductive Creates (key : String) (w : World) : Option String → World → Prop where
  | nothing : Creates key w none w
  | task (id : String) :
    (∀ t ∈ w.tasks, t.id ≠ id) →
    Creates key w (some id) { w with tasks := ⟨id, key⟩ :: w.tasks, running := id :: w.running }

/-- The world after a staging, with its voices. -/
def World.staging (w : World) (key : String) (voices : Voices) : Except Failure Unit → World
  | .ok () => { w with voices := voices }
  | .error _ => { w with voices := voices, log := .failed key :: w.log }

inductive Call.Run (env : Env) : (c : Call) → World → c.Reply → World → Prop where
  | gate (w : World) (reply : Except Failure Unit) :
    (∀ status detail, reply ≠ .error (.http status detail)) → Run env .gate w reply w
  | read (key : String) (w : World) : Run env (.readRecord key) w (.ok (w.records.get? key)) w
  | notRead (key : String) (w : World) (fault : RecordFault) : Run env (.readRecord key) w (.error fault) w
  | wrote (key : String) (record : SubmitRecord) (w : World) :
    Run env (.writeRecord key record) w (.ok ()) { w with records := w.records.set key record }
  | notWritten (key : String) (record : SubmitRecord) (w : World) : Run env (.writeRecord key record) w (.error .other) w
  | unlinked (key : String) (w : World) : Run env (.unlinkRecord key) w () { w with records := w.records.pop key }
  | notUnlinked (key : String) (w : World) : Run env (.unlinkRecord key) w () w
  | verify (marker : String) (w : World) (reply : Except Failure String) (voices : Voices) :
    Program.Exec (voiceMachine env) (verifiedStagedVoice env marker ()) w.voices (some (reply, ())) voices →
    Run env (.verify marker) w reply { w with voices := voices }
  | stage (key taskId marker : String) (w : World) (reply : Except Failure Unit) (voices : Voices) :
    Program.Exec (voiceMachine env) (stageTaskVoice env taskId marker ()) w.voices (some (reply, ())) voices →
    Run env (.stage key taskId marker) w reply (w.staging key voices reply)
  | unanswered (key : String) (payload : Payload) (w w' : World) (made : Option String) :
    Creates key w made w' → Run env (.post key payload) w none (w'.note (.posted key false))
  | answered (key : String) (payload : Payload) (w w' : World) (made : Option String) (answer : Answer) :
    Creates key w made w' → (answer.Refuses → made = none) →
    (answer.status < 400 → ∀ id, answer.body.bind (·.taskId) = some id → made = some id) →
    Run env (.post key payload) w (some answer) (w'.note (.posted key answer.Refuses))
  | deleted (taskId : String) (w : World) (answer : Answer) :
    answer.Confirms → (∃ t ∈ w.tasks, t.id = taskId) →
    Run env (.deleteTask taskId) w (some answer) ((w.stops taskId).note (.aborted taskId))
  | notDeleted (taskId : String) (w w' : World) (reply : Option Answer) :
    (∀ answer, reply = some answer → ¬ answer.Confirms) → (w' = w ∨ w' = w.stops taskId) →
    Run env (.deleteTask taskId) w reply w'
  | looked (taskId : String) (w : World) (reply : Option Answer) :
    (∀ answer, reply = some answer → answer.Stopped → taskId ∉ w.running) → Run env (.getTask taskId) w reply w

/-- A staging that is cut off may have placed the voice. -/
inductive Call.Torn (env : Env) : Call → World → World → Prop where
  | stage (key taskId marker : String) (w : World) (voices : Voices) :
    Program.Exec (voiceMachine env) (stageTaskVoice env taskId marker ()) w.voices none voices →
    Torn env (.stage key taskId marker) w { w with voices := voices }

def machine (env : Env) : Machine Call Call.Reply World where
  run := Call.Run env
  torn := Call.Torn env

/-! ## The calls of an engine -/

/-- An execution of a handler: its answer, or none where it was cut off. -/
def Handles (env : Env) (handler : Handler Answer) (w : World) (out : Option Answer) (w' : World) : Prop :=
  ∃ end_, Program.Exec (machine env) (route handler ()) w end_ w' ∧
    out = end_.bind fun | (.ok answer, ()) => some answer | (.error _, ()) => none

/-- The wrapper's answer to a submit is noted when it has a task. -/
def World.answered (w : World) (key : String) (out : Option Answer) : World :=
  match out with
  | some answer =>
    match answer.body.bind (·.taskId) with
    | some taskId => if answer.status < 400 then w.note (.accepted key taskId) else w
    | none => w
  | none => w

/-- The answer arrives, or it is lost. -/
inductive EngineCall.Run (env : Env) : (c : EngineCall) → World → c.Reply → World → Prop where
  | submit (key : String) (request : Request) (w w' : World) (out reply : Option Answer) :
    Handles env (proxySubmit (strip key) request) w out w' → (reply = none ∨ reply = out) →
    Run env (.submit key request) w reply (w'.answered (strip key) out)
  | status (key : String) (w w' : World) (out reply : Option Answer) :
    Handles env (submitStatus key) w out w' → (reply = none ∨ reply = out) → Run env (.status key) w reply w'

/-! ## Runs -/

/-- An engine that is in `_submit_task` with a key. -/
structure EngineRun where
  key : String
  program : Program EngineCall EngineCall.Reply (Except EngineFailure (Option String) × Unit)

structure System where
  world : World
  engines : List EngineRun

inductive Act where
  | begins (key : String) (request : Request)
  | asks (call : EngineCall)
  | polls (key taskId : String)
  | ends
  | status (key : String)
  | abort (key : String)
  | delete (taskId : String)
  | stops (taskId : String)

/-- A step of the system. -/
inductive Step (env : Env) : System → Act → System → Prop where
  | begins (s : System) (key : String) (request : Request) :
    Step env s (.begins key request) { s with engines := ⟨key, submitTask key request ()⟩ :: s.engines }
  | asks (w w' : World) (before after : List EngineRun) (key : String) (call : EngineCall) (reply : call.Reply)
      (next : call.Reply → Program EngineCall EngineCall.Reply (Except EngineFailure (Option String) × Unit)) :
    EngineCall.Run env call w reply w' →
    Step env ⟨w, before ++ ⟨key, .call call next⟩ :: after⟩ (.asks call) ⟨w', before ++ ⟨key, next reply⟩ :: after⟩
  | polls (w : World) (before after : List EngineRun) (key taskId : String) :
    Step env ⟨w, before ++ ⟨key, .done (.ok (some taskId), ())⟩ :: after⟩ (.polls key taskId)
      ⟨w.note (.polls key taskId), before ++ after⟩
  | ends (w : World) (before after : List EngineRun) (engine : EngineRun) :
    Step env ⟨w, before ++ engine :: after⟩ .ends ⟨w, before ++ after⟩
  | status (s : System) (key : String) (out : Option Answer) (w' : World) :
    Handles env (submitStatus key) s.world out w' → Step env s (.status key) { s with world := w' }
  | abort (s : System) (key : String) (out : Option Answer) (w' : World) :
    Handles env (abortSubmittedTask key) s.world out w' → Step env s (.abort key) { s with world := w' }
  | delete (s : System) (taskId : String) (reply : Option Answer) (w' : World) :
    Call.Run env (.deleteTask taskId) s.world reply w' → Step env s (.delete taskId) { s with world := w' }
  | stops (s : System) (taskId : String) : Step env s (.stops taskId) { s with world := s.world.stops taskId }

def Init (s : System) : Prop :=
  s.world.records = ∅ ∧ s.world.tasks = [] ∧ s.world.running = [] ∧ s.world.log = [] ∧ s.engines = []

def StepWhere (env : Env) (P : System → Act → System → Prop) (s s' : System) : Prop := ∃ act, Step env s act s' ∧ P s act s'

end Vertep.MoneyPrinter
