import Vertep.Workflow.Dispatcher

/-!
# The polling transport

`PollingWorkerTransport` (`core/workflow/runtime.py`): one slot that `submit` fills, a worker's `poll` reads and a
`result` empties, and flags for what was delivered and what is cancelled. Every method holds the lock of the transport,
so each call is one step, and calls of any threads come in any order. `WorkflowRuntime.register` reads the slot without
that lock and reports the restart of a worker later, so its two accesses are two steps.
-/

namespace Vertep.Workflow.Polling
open Lib Queue Command

/-- What a `Future` is resolved with. -/
inductive Outcome where
  | exception (message : String)
  | result (value : Json)
deriving DecidableEq

inductive Raised where
  | runtimeError (message : String)
  | invalidStateError
  | keyError (key : String)
  | typeError
deriving DecidableEq

/-- What the transport reads of a `TaskRequest`. -/
structure Request where
  taskId : String
  taskType : String
  payload : Dict String Json
deriving DecidableEq

abbrev Message := Dict String Json

/-- `self.active`, with the `lease_id` of its lease; a `Future` is known by its number. -/
structure Slot where
  request : Request
  lease : String
  future : ℕ
  delivered : Bool := false
  cancelled : Bool := false
deriving DecidableEq

/-- The transport, and every `Future` it has made. -/
structure Transport where
  active : Option Slot := none
  futures : List (Option Outcome) := []
deriving DecidableEq

abbrev TransportM := Command Transport Raised

/-! ## Methods -/

def Transport.isAvailable (t : Transport) : Bool := t.active.isNone

/-- `Future.set_exception`, `Future.set_result`. -/
def resolve (future : ℕ) (outcome : Outcome) : TransportM Unit := do
  let t ← read
  match t.futures[future]? with
  | some none => write fun t => { t with futures := t.futures.set future (some outcome) }
  | _ => raise .invalidStateError

def submit (request : Request) (lease : String) : TransportM ℕ := do
  let t ← read
  match t.active with
  | some _ => raise (.runtimeError "Worker is busy")
  | none => do
    let future := t.futures.length
    write fun t => { active := some { request, lease, future }, futures := t.futures ++ [none] }
    pure future

def cancel (lease : String) : TransportM Unit :=
  write fun t => match t.active with
    | some active => if active.lease = lease then { t with active := some { active with cancelled := true } } else t
    | none => t

/-- The names that workers have for the types of the workflow. -/
def taskName : String → String
  | "text_generation" => "script"
  | "image_generation" => "image"
  | "video_generation" => "video"
  | "voice_synthesis" => "voice"
  | "speech_synthesis" => "voice"
  | "video_assembly" => "assembly"
  | "publishing" => "publish"
  | taskType => taskType

/-- The entries of an object, in their order. -/
def entries (d : Dict String Json) : Members → Dict String Json
  | .nil => d
  | .cons key value tail => entries (d.set key value) tail

/-- The dict that `poll` returns. -/
def Slot.message (a : Slot) : Except Raised Message := do
  let params ← match a.request.payload.get? "params" with
    | none => .ok ∅
    | some (.obj members) => .ok (entries ∅ members)
    | some _ => .error .typeError
  match a.request.payload.get? "workflow_job_id" with
  | none => .error (.keyError "workflow_job_id")
  | some job => .ok (((((((params.update a.request.payload).set "task_id" (.str a.request.taskId)).set "job_id" job).set
      "task" (.str (taskName a.request.taskType))).set "lease_id" (.str a.lease)).set
      "protocol_version" (.str "1.0.0")).set "architecture_workflow" (.bool true))

/-- `RuntimeError("Task cancelled before delivery")`. -/
def withdrawal : Outcome := .exception "Task cancelled before delivery"

def poll : TransportM (Option Message) := do
  let t ← read
  match t.active with
  | none => pure none
  | some active =>
    if active.delivered then pure none
    else if active.cancelled then do
      resolve active.future withdrawal
      write fun t => { t with active := none }
      pure none
    else do
      write fun t => { t with active := some { active with delivered := true } }
      let message ← answer active.message
      pure (some message)

/-- What a report resolves a future with; an empty `error` is none. -/
def outcomeOf (value : Json) (error : Option String) : Outcome :=
  match error with
  | none | some "" => .result value
  | some message => .exception message

def result (lease : String) (value : Json) (error : Option String) : TransportM Bool := do
  let t ← read
  match t.active with
  | none => pure false
  | some active =>
    if active.lease ≠ lease then pure false
    else do
      resolve active.future (outcomeOf value error)
      write fun t => { t with active := none }
      pure true

/-! ## Calls in any order -/

/-- A method of the transport. -/
inductive Call where
  | submit (request : Request) (lease : String)
  | cancel (lease : String)
  | poll
  | result (lease : String) (value : Json) (error : Option String)
deriving DecidableEq

/-- What a call returns. -/
inductive Answer where
  | future (future : ℕ)
  | done
  | message (message : Option Message)
  | accepted (accepted : Bool)
deriving DecidableEq

def Call.run : Call → TransportM Answer
  | .submit request lease => do
    let future ← Polling.submit request lease
    pure (.future future)
  | .cancel lease => do
    Polling.cancel lease
    pure .done
  | .poll => do
    let message ← Polling.poll
    pure (.message message)
  | .result lease value error => do
    let accepted ← Polling.result lease value error
    pure (.accepted accepted)

/-- One call of a run, with what it found, what it returned or raised, and what it left. -/
structure Turn where
  before : Transport
  call : Call
  answer : Except Raised Answer
  after : Transport
deriving DecidableEq

/-- The transport among its callers: the leases that threads in `register` have read, and all calls so far, the last
one first. -/
structure World where
  transport : Transport := {}
  seen : Dict ℕ String := ∅
  history : List Turn := []
deriving DecidableEq

def World.perform (w : World) (c : Call) : World :=
  { w with
    transport := (c.run w.transport).2
    history := ⟨w.transport, c, (c.run w.transport).1, (c.run w.transport).2⟩ :: w.history }

inductive Action where
  /-- A call of the transport, by any thread. -/
  | call (c : Call)
  /-- `lease = transport.active["lease"]` in `register`, which raises where the slot is empty by now. -/
  | look (thread : ℕ)
  /-- `transport.result(lease["lease_id"], None, "Worker process restarted")` after it. -/
  | restart (thread : ℕ)

def Action.run (w : World) : Action → World
  | .call c => w.perform c
  | .look thread =>
    match w.transport.active with
    | none => w
    | some active => { w with seen := w.seen.set thread active.lease }
  | .restart thread =>
    match w.seen.get? thread with
    | none => w
    | some lease =>
      { w.perform (.result lease .null (some "Worker process restarted")) with seen := w.seen.pop thread }

def after (actions : List Action) : World := actions.foldl Action.run {}

/-! ## What a call changes -/

/-- A call that changes nothing: it delivers no message, it cancels another lease, or it submits to a slot that is
taken. -/
structure Quiet (t : Transport) (c : Call) (answer : Except Raised Answer) : Prop where
  message : ∀ message, answer ≠ .ok (.message (some message))
  lease : ∀ a, t.active = some a → c ≠ .cancel a.lease
  taken : ∀ request lease, c = .submit request lease → t.active ≠ none ∧ ∃ e, answer = .error e

inductive Change (t : Transport) : Call → Except Raised Answer → Transport → Prop where
  | submitted (request : Request) (lease : String) : t.active = none →
    Change t (.submit request lease) (.ok (.future t.futures.length))
      { active := some { request, lease, future := t.futures.length }, futures := t.futures ++ [none] }
  | cancelled (a : Slot) : t.active = some a →
    Change t (.cancel a.lease) (.ok .done) { t with active := some { a with cancelled := true } }
  | withdrawn (a : Slot) : t.active = some a → a.delivered = false → a.cancelled = true →
    t.futures[a.future]? = some none →
    Change t .poll (.ok (.message none)) ⟨none, t.futures.set a.future (some withdrawal)⟩
  | delivered (a : Slot) : t.active = some a → a.delivered = false → a.cancelled = false →
    Change t .poll (a.message.map fun message => .message (some message))
      { t with active := some { a with delivered := true } }
  | reported (a : Slot) (value : Json) (error : Option String) : t.active = some a →
    t.futures[a.future]? = some none →
    Change t (.result a.lease value error) (.ok (.accepted true))
      ⟨none, t.futures.set a.future (some (outcomeOf value error))⟩
  | quiet (c : Call) (answer : Except Raised Answer) : Quiet t c answer → Change t c answer t

variable {future : ℕ}

lemma resolve_some {t : Transport} (outcome : Outcome) (waiting : t.futures[future]? = some none) :
    resolve future outcome t = (.ok (), { t with futures := t.futures.set future (some outcome) }) := by
  rw [resolve, read_bind]
  simp only [waiting]
  rfl

lemma resolve_none {t : Transport} (outcome : Outcome) (waiting : t.futures[future]? ≠ some none) :
    resolve future outcome t = (.error .invalidStateError, t) := by
  rw [resolve, read_bind]
  cases found : t.futures[future]? with
  | none => rfl
  | some outcome? =>
    cases outcome? with
    | none => exact absurd found waiting
    | some _ => rfl

lemma submit_change (t : Transport) (request : Request) (lease : String) :
    Change t (.submit request lease) ((Call.submit request lease).run t).1 ((Call.submit request lease).run t).2 := by
  cases active : t.active with
  | none =>
    have run : submit request lease t = (.ok t.futures.length,
        { active := some { request, lease, future := t.futures.length }, futures := t.futures ++ [none] }) := by
      rw [submit, read_bind]
      simp only [active]
      rfl
    rw [Call.run, bind_of_ok run]
    exact .submitted request lease active
  | some a =>
    have run : submit request lease t = (.error (.runtimeError "Worker is busy"), t) := by
      rw [submit, read_bind]
      simp only [active]
      rfl
    rw [Call.run, bind_of_error run]
    refine .quiet _ _ ⟨fun _ h => ?_, fun _ _ h => ?_, fun _ _ _ => ⟨?_, _, rfl⟩⟩
    · cases h
    · cases h
    · rw [active]
      exact Option.some_ne_none a

lemma cancel_change (t : Transport) (lease : String) :
    Change t (.cancel lease) ((Call.cancel lease).run t).1 ((Call.cancel lease).run t).2 := by
  have quiet (other : ∀ a, t.active = some a → a.lease ≠ lease) : Change t (.cancel lease) (.ok .done) t := by
    refine .quiet _ _ ⟨fun _ h => ?_, fun a active h => ?_, fun _ _ h => ?_⟩
    · cases h
    · cases h
      exact other a active rfl
    · cases h
  rw [Call.run, cancel, write_bind]
  cases active : t.active with
  | none => exact quiet fun a some_ => by cases active.symm.trans some_
  | some a =>
    simp only
    split
    · rename_i same
      rw [← same]
      exact .cancelled a active
    · rename_i different
      refine quiet fun a' some_ => ?_
      cases active.symm.trans some_
      exact different

lemma poll_change (t : Transport) : Change t .poll (Call.poll.run t).1 (Call.poll.run t).2 := by
  have quiet (answer : Except Raised Answer) (none_ : ∀ message, answer ≠ .ok (.message (some message))) :
      Change t .poll answer t := by
    refine .quiet _ _ ⟨none_, fun _ _ h => ?_, fun _ _ h => ?_⟩
    · cases h
    · cases h
  rw [Call.run]
  cases active : t.active with
  | none =>
    have run : poll t = (.ok none, t) := by
      rw [poll, read_bind]
      simp only [active]
      rfl
    rw [bind_of_ok run]
    exact quiet _ fun _ h => by cases h
  | some a =>
    cases delivered : a.delivered with
    | true =>
      have run : poll t = (.ok none, t) := by
        rw [poll, read_bind]
        simp only [active, delivered]
        rfl
      rw [bind_of_ok run]
      exact quiet _ fun _ h => by cases h
    | false =>
      cases cancelled : a.cancelled with
      | true =>
        have reads : poll t = ((do
            resolve a.future withdrawal
            write fun t => { t with active := none }
            pure none : TransportM (Option Message)) t) := by
          rw [poll, read_bind]
          simp only [active, delivered, cancelled]
          rfl
        by_cases waiting : t.futures[a.future]? = some none
        · rw [bind_of_ok (reads.trans (bind_of_ok (resolve_some withdrawal waiting) _))]
          exact .withdrawn a active delivered cancelled waiting
        · rw [bind_of_error (reads.trans (bind_of_error (resolve_none withdrawal waiting) _))]
          exact quiet _ fun _ h => by cases h
      | false =>
        have reads : poll t = (a.message.map some, { t with active := some { a with delivered := true } }) := by
          rw [poll, read_bind]
          simp only [active, delivered, cancelled]
          show (answer a.message >>= _) _ = _
          rw [answer_bind]
          cases a.message <;> rfl
        rw [bind_apply, reads]
        have change := Change.delivered a active delivered cancelled
        cases message : a.message <;> rw [message] at change <;> exact change

lemma result_change (t : Transport) (lease : String) (value : Json) (error : Option String) :
    Change t (.result lease value error) ((Call.result lease value error).run t).1
      ((Call.result lease value error).run t).2 := by
  have quiet (answer : Except Raised Answer) (none_ : ∀ message, answer ≠ .ok (.message (some message))) :
      Change t (.result lease value error) answer t := by
    refine .quiet _ _ ⟨none_, fun _ _ h => ?_, fun _ _ h => ?_⟩
    · cases h
    · cases h
  rw [Call.run]
  cases active : t.active with
  | none =>
    have run : result lease value error t = (.ok false, t) := by
      rw [result, read_bind]
      simp only [active]
      rfl
    rw [bind_of_ok run]
    exact quiet _ fun _ h => by cases h
  | some a =>
    by_cases same : a.lease = lease
    · subst same
      have reads : result a.lease value error t = ((do
          resolve a.future (outcomeOf value error)
          write fun t => { t with active := none }
          pure true : TransportM Bool) t) := by
        rw [result, read_bind]
        simp only [active, ne_eq, not_true_eq_false, if_false]
      by_cases waiting : t.futures[a.future]? = some none
      · rw [bind_of_ok (reads.trans (bind_of_ok (resolve_some (outcomeOf value error) waiting) _))]
        exact .reported a value error active waiting
      · rw [bind_of_error (reads.trans (bind_of_error (resolve_none (outcomeOf value error) waiting) _))]
        exact quiet _ fun _ h => by cases h
    · have run : result lease value error t = (.ok false, t) := by
        rw [result, read_bind]
        simp only [active, ne_eq, same, not_false_eq_true, if_true]
        rfl
      rw [bind_of_ok run]
      exact quiet _ fun _ h => by cases h

lemma Call.change (c : Call) (t : Transport) : Change t c (c.run t).1 (c.run t).2 := by
  cases c with
  | submit request lease => exact submit_change t request lease
  | cancel lease => exact cancel_change t lease
  | poll => exact poll_change t
  | result lease value error => exact result_change t lease value error

/-! ## What happens to a future -/

namespace Turn

/-- The call submits a request, and `future` is its future. -/
def Submits (turn : Turn) (future : ℕ) (request : Request) (lease : String) : Prop :=
  turn.call = .submit request lease ∧ turn.answer = .ok (.future future)

/-- The call returns the message of the request of `future`. -/
def Delivers (turn : Turn) (future : ℕ) : Prop :=
  turn.call = .poll ∧ ∃ a message, turn.before.active = some a ∧ a.future = future ∧ a.message = .ok message ∧
    turn.answer = .ok (.message (some message))

/-- The call cancels the request of `future`. -/
def Cancels (turn : Turn) (future : ℕ) : Prop :=
  ∃ a, turn.before.active = some a ∧ a.future = future ∧ turn.call = .cancel a.lease

/-- The call resolves `future`. -/
def Resolves (turn : Turn) (future : ℕ) (outcome : Outcome) : Prop :=
  turn.before.futures[future]? = some none ∧ turn.after.futures[future]? = some (some outcome)

end Turn

/-- What holds of the transport after the calls of `history`. -/
structure Kept (t : Transport) (history : List Turn) : Prop where
  waiting : ∀ future, t.futures[future]? = some none ↔ ∃ a, t.active = some a ∧ a.future = future
  submitted : ∀ turn ∈ history, ∀ future request lease, turn.Submits future request lease →
    future < t.futures.length ∧ ∀ a, t.active = some a → a.future = future → a.request = request ∧ a.lease = lease
  made : ∀ future < t.futures.length, ∃ turn ∈ history, ∃ request lease, turn.Submits future request lease
  delivered : ∀ turn ∈ history, ∀ future, turn.Delivers future →
    future < t.futures.length ∧ ∀ a, t.active = some a → a.future = future → a.delivered = true
  cancelled : ∀ turn ∈ history, ∀ future, turn.Cancels future →
    future < t.futures.length ∧ ∀ a, t.active = some a → a.future = future → a.cancelled = true
  canceller : ∀ a, t.active = some a → a.cancelled = true → ∃ turn ∈ history, turn.Cancels a.future
  resolved : ∀ future outcome, t.futures[future]? = some (some outcome) ↔
    ∃ turn ∈ history, turn.Resolves future outcome

section
variable {t t' : Transport} {history : List Turn} {c : Call} {answer : Except Raised Answer}

lemma Kept.lt (kept : Kept t history) {a : Slot} (active : t.active = some a) : a.future < t.futures.length :=
  (List.getElem?_eq_some_iff.1 ((kept.waiting a.future).2 ⟨a, active, rfl⟩)).1

lemma Kept.marked (kept : Kept t history) {turn : Turn} (futures : t'.futures = t.futures)
    (slots : ∀ future, (∃ a, t'.active = some a ∧ a.future = future) ↔ ∃ a, t.active = some a ∧ a.future = future)
    (same : ∀ a, t.active = some a → ∀ a', t'.active = some a' → a'.request = a.request ∧ a'.lease = a.lease ∧
      (a.delivered = true → a'.delivered = true) ∧ (a.cancelled = true → a'.cancelled = true) ∧
      (a'.cancelled = true → a.cancelled = true ∨ turn.Cancels a'.future))
    (submits : ∀ future request lease, ¬ turn.Submits future request lease)
    (delivers : ∀ future, turn.Delivers future → ∃ a, t'.active = some a ∧ a.future = future ∧ a.delivered = true)
    (cancels : ∀ future, turn.Cancels future → ∃ a, t'.active = some a ∧ a.future = future ∧ a.cancelled = true)
    (resolves : ∀ future outcome, ¬ turn.Resolves future outcome) : Kept t' (turn :: history) := by
  have waiting (future : ℕ) : t'.futures[future]? = some none ↔ ∃ a, t'.active = some a ∧ a.future = future := by
    rw [futures, slots]
    exact kept.waiting future
  have lt {a : Slot} (active : t'.active = some a) : a.future < t'.futures.length :=
    (List.getElem?_eq_some_iff.1 ((waiting a.future).2 ⟨a, active, rfl⟩)).1
  have old {a' : Slot} (active : t'.active = some a') : ∃ a, t.active = some a ∧ a.future = a'.future :=
    (slots a'.future).1 ⟨a', active, rfl⟩
  refine ⟨waiting, ?_, ?_, ?_, ?_, ?_, ?_⟩
  · intro other member future request lease submitted
    rcases List.mem_cons.1 member with rfl | member
    · exact absurd submitted (submits _ _ _)
    obtain ⟨less, as⟩ := kept.submitted other member future request lease submitted
    refine ⟨futures ▸ less, fun a' active is => ?_⟩
    obtain ⟨a, before, number⟩ := old active
    obtain ⟨requests, leases, _⟩ := same a before a' active
    rw [requests, leases]
    exact as a before (number.trans is)
  · intro future less
    obtain ⟨other, member, made⟩ := kept.made future (futures ▸ less)
    exact ⟨other, List.mem_cons_of_mem _ member, made⟩
  · intro other member future delivered
    rcases List.mem_cons.1 member with rfl | member
    · obtain ⟨a, active, rfl, flag⟩ := delivers future delivered
      refine ⟨lt active, fun a' active' _ => ?_⟩
      cases active.symm.trans active'
      exact flag
    obtain ⟨less, as⟩ := kept.delivered other member future delivered
    refine ⟨futures ▸ less, fun a' active is => ?_⟩
    obtain ⟨a, before, number⟩ := old active
    exact (same a before a' active).2.2.1 (as a before (number.trans is))
  · intro other member future cancelled
    rcases List.mem_cons.1 member with rfl | member
    · obtain ⟨a, active, rfl, flag⟩ := cancels future cancelled
      refine ⟨lt active, fun a' active' _ => ?_⟩
      cases active.symm.trans active'
      exact flag
    obtain ⟨less, as⟩ := kept.cancelled other member future cancelled
    refine ⟨futures ▸ less, fun a' active is => ?_⟩
    obtain ⟨a, before, number⟩ := old active
    exact (same a before a' active).2.2.2.1 (as a before (number.trans is))
  · intro a' active flag
    obtain ⟨a, before, number⟩ := old active
    rcases (same a before a' active).2.2.2.2 flag with flag | cancelled
    · obtain ⟨other, member, cancelled⟩ := kept.canceller a before flag
      exact ⟨other, List.mem_cons_of_mem _ member, number ▸ cancelled⟩
    · exact ⟨turn, List.mem_cons_self, cancelled⟩
  · intro future outcome
    rw [futures, kept.resolved]
    constructor
    · intro ⟨other, member, resolved⟩
      exact ⟨other, List.mem_cons_of_mem _ member, resolved⟩
    · intro ⟨other, member, resolved⟩
      rcases List.mem_cons.1 member with rfl | member
      · exact absurd resolved (resolves _ _)
      · exact ⟨other, member, resolved⟩

lemma Kept.opened (kept : Kept t history) (request : Request) (lease : String) (empty : t.active = none) :
    Kept { active := some { request, lease, future := t.futures.length }, futures := t.futures ++ [none] }
      (⟨t, .submit request lease, .ok (.future t.futures.length),
        { active := some { request, lease, future := t.futures.length }, futures := t.futures ++ [none] }⟩ ::
        history) := by
  have idle (future : ℕ) : t.futures[future]? ≠ some none := by
    intro waiting
    obtain ⟨a, active, _⟩ := (kept.waiting future).1 waiting
    cases empty.symm.trans active
  have value (future : ℕ) : (t.futures ++ [none])[future]? =
      if future = t.futures.length then some none else t.futures[future]? := by
    grind
  have length : (t.futures ++ [none]).length = t.futures.length + 1 := List.length_append
  constructor
  · intro future
    show (t.futures ++ [none])[future]? = some none ↔ _
    rw [value]
    constructor
    · split
      · rename_i is
        exact fun _ => ⟨_, rfl, is.symm⟩
      · exact fun waiting => absurd waiting (idle future)
    · intro ⟨a, active, is⟩
      cases active
      rw [if_pos is.symm]
  · intro turn member future request' lease' submitted
    rcases List.mem_cons.1 member with rfl | member
    · obtain ⟨call, answer⟩ := submitted
      cases call
      cases answer
      refine ⟨by rw [length]; omega, fun a active _ => ?_⟩
      cases active
      exact ⟨rfl, rfl⟩
    · have less := (kept.submitted turn member future request' lease' submitted).1
      refine ⟨by rw [length]; omega, fun a active is => ?_⟩
      cases active
      exact absurd is less.ne'
  · intro future less
    rw [length] at less
    rcases Nat.lt_succ_iff_lt_or_eq.1 less with less | rfl
    · obtain ⟨turn, member, made⟩ := kept.made future less
      exact ⟨turn, List.mem_cons_of_mem _ member, made⟩
    · exact ⟨_, List.mem_cons_self, request, lease, rfl, rfl⟩
  · intro turn member future delivered
    rcases List.mem_cons.1 member with rfl | member
    · cases delivered.1
    · have less := (kept.delivered turn member future delivered).1
      refine ⟨by rw [length]; omega, fun a active is => ?_⟩
      cases active
      exact absurd is less.ne'
  · intro turn member future cancelled
    rcases List.mem_cons.1 member with rfl | member
    · obtain ⟨a, active, _⟩ := cancelled
      cases empty.symm.trans active
    · have less := (kept.cancelled turn member future cancelled).1
      refine ⟨by rw [length]; omega, fun a active is => ?_⟩
      cases active
      exact absurd is less.ne'
  · intro a active flag
    cases active
    cases flag
  · intro future outcome
    have before : (t.futures ++ [none])[future]? = some (some outcome) ↔ t.futures[future]? = some (some outcome) := by
      grind
    show (t.futures ++ [none])[future]? = some (some outcome) ↔ _
    rw [before, kept.resolved]
    constructor
    · intro ⟨turn, member, resolved⟩
      exact ⟨turn, List.mem_cons_of_mem _ member, resolved⟩
    · intro ⟨turn, member, resolved⟩
      rcases List.mem_cons.1 member with rfl | member
      · exact absurd resolved.1 (idle future)
      · exact ⟨turn, member, resolved⟩

lemma Kept.closed (kept : Kept t history) {a : Slot} (active : t.active = some a) (outcome : Outcome)
    (submits : ∀ request lease, c ≠ .submit request lease)
    (delivers : ∀ message, answer ≠ .ok (.message (some message))) (cancels : ∀ lease, c ≠ .cancel lease) :
    Kept ⟨none, t.futures.set a.future (some outcome)⟩
      (⟨t, c, answer, ⟨none, t.futures.set a.future (some outcome)⟩⟩ :: history) := by
  have there := kept.lt active
  have value (future : ℕ) : (t.futures.set a.future (some outcome))[future]? =
      if future = a.future then some (some outcome) else t.futures[future]? := by
    grind
  have length : (t.futures.set a.future (some outcome)).length = t.futures.length := List.length_set
  have only {future : ℕ} (waiting : t.futures[future]? = some none) : future = a.future := by
    obtain ⟨a', active', is⟩ := (kept.waiting future).1 waiting
    cases active.symm.trans active'
    exact is.symm
  constructor
  · intro future
    show (t.futures.set a.future (some outcome))[future]? = some none ↔ _
    rw [value]
    constructor
    · split
      · intro h
        cases h
      · rename_i other
        exact fun waiting => absurd (only waiting) other
    · intro ⟨a', none_, _⟩
      cases none_
  · intro turn member future request lease submitted
    rcases List.mem_cons.1 member with rfl | member
    · exact absurd submitted.1 (submits _ _)
    · refine ⟨length ▸ (kept.submitted turn member future request lease submitted).1, fun a' none_ _ => ?_⟩
      cases none_
  · intro future less
    obtain ⟨turn, member, made⟩ := kept.made future (length ▸ less)
    exact ⟨turn, List.mem_cons_of_mem _ member, made⟩
  · intro turn member future delivered
    rcases List.mem_cons.1 member with rfl | member
    · obtain ⟨_, _, message, _, _, _, answered⟩ := delivered
      exact absurd answered (delivers message)
    · refine ⟨length ▸ (kept.delivered turn member future delivered).1, fun a' none_ _ => ?_⟩
      cases none_
  · intro turn member future cancelled
    rcases List.mem_cons.1 member with rfl | member
    · obtain ⟨_, _, _, call⟩ := cancelled
      exact absurd call (cancels _)
    · refine ⟨length ▸ (kept.cancelled turn member future cancelled).1, fun a' none_ _ => ?_⟩
      cases none_
  · intro a' none_
    cases none_
  · intro future outcome'
    show (t.futures.set a.future (some outcome))[future]? = some (some outcome') ↔ _
    constructor
    · intro found
      by_cases is : future = a.future
      · subst is
        exact ⟨_, List.mem_cons_self, (kept.waiting a.future).2 ⟨a, active, rfl⟩, found⟩
      · rw [value, if_neg is, kept.resolved] at found
        obtain ⟨turn, member, resolved⟩ := found
        exact ⟨turn, List.mem_cons_of_mem _ member, resolved⟩
    · intro ⟨turn, member, resolved⟩
      rcases List.mem_cons.1 member with rfl | member
      · exact resolved.2
      · have before := (kept.resolved future outcome').2 ⟨turn, member, resolved⟩
        rw [value, if_neg, before]
        rintro rfl
        rw [(kept.waiting a.future).2 ⟨a, active, rfl⟩] at before
        cases before

lemma Kept.change (kept : Kept t history) (change : Change t c answer t') :
    Kept t' (⟨t, c, answer, t'⟩ :: history) := by
  cases change with
  | submitted request lease empty => exact kept.opened request lease empty
  | cancelled a active =>
    apply kept.marked
    · rfl
    · intro future
      rw [active]
      simp
    · intro b before b' after
      cases active.symm.trans before
      cases after
      exact ⟨rfl, rfl, id, fun _ => rfl, fun _ => .inr ⟨a, active, rfl, rfl⟩⟩
    · intro future request lease submitted
      cases submitted.1
    · intro future delivered
      cases delivered.1
    · intro future ⟨b, before, is, _⟩
      cases active.symm.trans before
      exact ⟨_, rfl, is, rfl⟩
    · intro future outcome ⟨waiting, resolved⟩
      cases waiting.symm.trans resolved
  | withdrawn a active delivered cancelled waiting =>
    apply kept.closed active
    · intro _ _ h
      cases h
    · intro _ h
      cases h
    · intro _ h
      cases h
  | delivered a active delivered cancelled =>
    apply kept.marked
    · rfl
    · intro future
      rw [active]
      simp
    · intro b before b' after
      cases active.symm.trans before
      cases after
      exact ⟨rfl, rfl, fun _ => rfl, id, .inl⟩
    · intro future request lease submitted
      cases submitted.1
    · intro future ⟨_, b, _, before, is, _⟩
      cases active.symm.trans before
      exact ⟨_, rfl, is, rfl⟩
    · intro future ⟨_, _, _, call⟩
      cases call
    · intro future outcome ⟨waiting, resolved⟩
      cases waiting.symm.trans resolved
  | reported a value error active waiting =>
    apply kept.closed active
    · intro _ _ h
      cases h
    · intro _ h
      cases h
    · intro _ h
      cases h
  | quiet c answer quiet =>
    apply kept.marked
    · rfl
    · exact fun _ => Iff.rfl
    · intro a before a' after
      cases before.symm.trans after
      exact ⟨rfl, rfl, id, id, .inl⟩
    · intro future request lease ⟨call, answered⟩
      obtain ⟨_, e, error⟩ := quiet.taken request lease call
      cases error.symm.trans answered
    · intro future ⟨_, _, message, _, _, _, answered⟩
      exact absurd answered (quiet.message message)
    · intro future ⟨a, active, _, call⟩
      exact absurd call (quiet.lease a active)
    · intro future outcome ⟨waiting, resolved⟩
      cases waiting.symm.trans resolved

lemma Change.delivers (change : Change t c answer t')
    (delivers : Turn.Delivers ⟨t, c, answer, t'⟩ future) :
    ∃ a message, t.active = some a ∧ a.future = future ∧ a.delivered = false ∧ a.cancelled = false ∧
      a.message = .ok message ∧ answer = .ok (.message (some message)) := by
  obtain ⟨_, a, message, active, is, built, answered⟩ := delivers
  cases change with
  | submitted | cancelled | withdrawn | reported => cases answered
  | delivered b before delivered cancelled =>
    cases active.symm.trans before
    exact ⟨a, message, active, is, delivered, cancelled, built, answered⟩
  | quiet _ _ quiet => exact absurd answered (quiet.message message)

lemma Change.resolves (change : Change t c answer t') {outcome : Outcome}
    (resolves : Turn.Resolves ⟨t, c, answer, t'⟩ future outcome) :
    ∃ a, t.active = some a ∧ a.future = future ∧
      ((∃ value error, c = .result a.lease value error ∧ answer = .ok (.accepted true) ∧
          outcome = outcomeOf value error) ∨
        c = .poll ∧ a.delivered = false ∧ a.cancelled = true ∧ outcome = withdrawal) := by
  obtain ⟨waiting, resolved⟩ := resolves
  cases change with
  | submitted request lease empty =>
    have less := (List.getElem?_eq_some_iff.1 waiting).1
    rw [List.getElem?_append_left less] at resolved
    cases waiting.symm.trans resolved
  | cancelled | delivered | quiet => cases waiting.symm.trans resolved
  | withdrawn a active delivered cancelled =>
    by_cases is : a.future = future
    · refine ⟨a, active, is, .inr ⟨rfl, delivered, cancelled, ?_⟩⟩
      grind
    · rw [List.getElem?_set_ne is] at resolved
      cases waiting.symm.trans resolved
  | reported a value error active =>
    by_cases is : a.future = future
    · refine ⟨a, active, is, .inl ⟨value, error, rfl, rfl, ?_⟩⟩
      grind
    · rw [List.getElem?_set_ne is] at resolved
      cases waiting.symm.trans resolved

lemma Change.submits (change : Change t c answer t') {request : Request} {lease : String}
    (call : c = .submit request lease) :
    t.active = none ∧ answer = .ok (.future t.futures.length) ∨ t.active ≠ none ∧ ∃ e, answer = .error e := by
  cases change with
  | submitted _ _ empty => exact .inl ⟨empty, rfl⟩
  | cancelled | withdrawn | delivered | reported => cases call
  | quiet _ _ quiet => exact .inr (quiet.taken request lease call)

lemma Kept.submission (kept : Kept t history) {a : Slot} (active : t.active = some a) :
    ∃ submission ∈ history, submission.Submits a.future a.request a.lease := by
  obtain ⟨submission, member, request, lease, submits⟩ := kept.made a.future (kept.lt active)
  obtain ⟨rfl, rfl⟩ := (kept.submitted submission member _ _ _ submits).2 a active rfl
  exact ⟨submission, member, submits⟩

lemma Kept.busy (kept : Kept t history) : t.isAvailable = false ↔
    ∃ future, (∃ turn ∈ history, ∃ request lease, turn.Submits future request lease) ∧
      ∀ turn ∈ history, ∀ outcome, ¬ turn.Resolves future outcome := by
  constructor
  · intro busy
    cases active : t.active with
    | none =>
      rw [Transport.isAvailable, active] at busy
      cases busy
    | some a =>
      obtain ⟨submission, member, submits⟩ := kept.submission active
      refine ⟨a.future, ⟨submission, member, _, _, submits⟩, fun turn member outcome resolves => ?_⟩
      have resolved := (kept.resolved a.future outcome).2 ⟨turn, member, resolves⟩
      cases ((kept.waiting a.future).2 ⟨a, active, rfl⟩).symm.trans resolved
  · intro ⟨future, ⟨submission, member, request, lease, submits⟩, open_⟩
    have less := (kept.submitted submission member _ _ _ submits).1
    have waiting : t.futures[future]? = some none := by
      rw [List.getElem?_eq_getElem less]
      cases value : t.futures[future] with
      | none => rfl
      | some outcome =>
        have found : t.futures[future]? = some (some outcome) := by rw [List.getElem?_eq_getElem less, value]
        obtain ⟨turn, member, resolves⟩ := (kept.resolved future outcome).1 found
        exact absurd resolves (open_ turn member outcome)
    obtain ⟨a, active, _⟩ := (kept.waiting future).1 waiting
    rw [Transport.isAvailable, active]
    rfl

end

/-! ## Runs -/

/-- What is asked of the calls so far. -/
structure AtMostOnce (w : World) : Prop where
  /-- A submission is accepted when the transport is available, and only then. -/
  accepted : ∀ turn ∈ w.history, ∀ request lease, turn.call = .submit request lease →
    (turn.before.isAvailable = true ↔ ∃ future, turn.Submits future request lease)
  /-- Every request has a future of its own. -/
  distinct : ∀ future, w.history.Pairwise fun later earlier =>
    (∃ request lease, later.Submits future request lease) → ¬ ∃ request lease, earlier.Submits future request lease
  /-- A request is returned by at most one poll. -/
  delivered : ∀ future, w.history.Pairwise fun later earlier => later.Delivers future → ¬ earlier.Delivers future
  /-- What is returned is a request that was submitted, with its lease. -/
  request : ∀ turn ∈ w.history, ∀ future, turn.Delivers future → ∃ submission ∈ w.history, ∃ request lease message,
    submission.Submits future request lease ∧
      Slot.message { request, lease, future } = .ok message ∧ turn.answer = .ok (.message (some message))
  /-- No poll returns a request after it was cancelled. -/
  cancelled : ∀ future, w.history.Pairwise fun later earlier => earlier.Cancels future → ¬ later.Delivers future
  /-- A future is resolved at most once, and stays so. -/
  resolved : ∀ future, w.history.Pairwise fun later earlier =>
    (∃ outcome, later.Resolves future outcome) → ¬ ∃ outcome, earlier.Resolves future outcome
  outcome : ∀ future outcome, w.transport.futures[future]? = some (some outcome) ↔
    ∃ turn ∈ w.history, turn.Resolves future outcome
  /-- With what is reported for the lease of its request, or with the withdrawal of a request that was cancelled and
  that no poll returns. -/
  value : ∀ turn ∈ w.history, ∀ future outcome, turn.Resolves future outcome →
    ∃ submission ∈ w.history, ∃ request lease, submission.Submits future request lease ∧
      ((∃ value error, turn.call = .result lease value error ∧ turn.answer = .ok (.accepted true) ∧
          outcome = outcomeOf value error) ∨
        turn.call = .poll ∧ outcome = withdrawal ∧ (∃ other ∈ w.history, other.Cancels future) ∧
          ∀ other ∈ w.history, ¬ other.Delivers future)
  /-- The transport is busy while the future of a request is not resolved, and only then. -/
  busy : w.transport.isAvailable = false ↔ ∃ future, (∃ turn ∈ w.history, ∃ request lease,
    turn.Submits future request lease) ∧ ∀ turn ∈ w.history, ∀ outcome, ¬ turn.Resolves future outcome

lemma AtMostOnce.perform {w : World} (kept : Kept w.transport w.history) (once : AtMostOnce w) (c : Call) :
    AtMostOnce (w.perform c) := by
  have change := c.change w.transport
  have kept' := kept.change change
  constructor
  · intro turn member request lease call
    rcases List.mem_cons.1 member with rfl | member
    · rcases change.submits call with ⟨empty, answered⟩ | ⟨taken, e, answered⟩
      · refine iff_of_true ?_ ⟨_, call, answered⟩
        show w.transport.active.isNone = true
        rw [empty]
        rfl
      · refine iff_of_false ?_ fun ⟨future, _, submitted⟩ => ?_
        · show w.transport.active.isNone ≠ true
          rwa [Ne, Option.isNone_iff_eq_none]
        · cases answered.symm.trans submitted
    · exact once.accepted turn member request lease call
  · intro future
    refine List.pairwise_cons.2 ⟨fun earlier member ⟨request, lease, call, answered⟩ ⟨_, _, submits⟩ => ?_,
      once.distinct future⟩
    rcases change.submits call with ⟨_, answered'⟩ | ⟨_, e, answered'⟩
    · cases answered.symm.trans answered'
      exact absurd (kept.submitted earlier member _ _ _ submits).1 (lt_irrefl _)
    · cases answered.symm.trans answered'
  · intro future
    refine List.pairwise_cons.2 ⟨fun earlier member delivers delivered => ?_, once.delivered future⟩
    obtain ⟨a, _, active, is, flag, _⟩ := change.delivers delivers
    rw [(kept.delivered earlier member future delivered).2 a active is] at flag
    cases flag
  · intro turn member future delivers
    rcases List.mem_cons.1 member with rfl | member
    · obtain ⟨a, message, active, rfl, _, _, built, answered⟩ := change.delivers delivers
      obtain ⟨submission, member, submits⟩ := kept.submission active
      exact ⟨submission, List.mem_cons_of_mem _ member, a.request, a.lease, message, submits, built, answered⟩
    · obtain ⟨submission, member, rest⟩ := once.request turn member future delivers
      exact ⟨submission, List.mem_cons_of_mem _ member, rest⟩
  · intro future
    refine List.pairwise_cons.2 ⟨fun earlier member cancels delivers => ?_, once.cancelled future⟩
    obtain ⟨a, _, active, is, _, flag, _⟩ := change.delivers delivers
    rw [(kept.cancelled earlier member future cancels).2 a active is] at flag
    cases flag
  · intro future
    refine List.pairwise_cons.2 ⟨fun earlier member ⟨outcome, waiting, _⟩ ⟨outcome', resolves⟩ => ?_,
      once.resolved future⟩
    cases waiting.symm.trans ((kept.resolved future outcome').2 ⟨earlier, member, resolves⟩)
  · exact kept'.resolved
  · intro turn member future outcome resolves
    rcases List.mem_cons.1 member with rfl | member
    · obtain ⟨a, active, rfl, how⟩ := change.resolves resolves
      obtain ⟨submission, member, submits⟩ := kept.submission active
      refine ⟨submission, List.mem_cons_of_mem _ member, a.request, a.lease, submits, ?_⟩
      rcases how with reported | ⟨call, undelivered, cancelled, is⟩
      · exact .inl reported
      · obtain ⟨other, among, cancels⟩ := kept.canceller a active cancelled
        refine .inr ⟨call, is, ⟨other, List.mem_cons_of_mem _ among, cancels⟩, fun other member delivers => ?_⟩
        rcases List.mem_cons.1 member with rfl | member
        · obtain ⟨b, _, active', _, _, flag, _⟩ := change.delivers delivers
          cases active.symm.trans active'
          cases cancelled.symm.trans flag
        · rw [(kept.delivered other member _ delivers).2 a active rfl] at undelivered
          cases undelivered
    · obtain ⟨submission, among, request, lease, submits, how⟩ := once.value turn member future outcome resolves
      refine ⟨submission, List.mem_cons_of_mem _ among, request, lease, submits, how.imp_right ?_⟩
      intro ⟨call, is, ⟨other, among, cancels⟩, undelivered⟩
      refine ⟨call, is, ⟨other, List.mem_cons_of_mem _ among, cancels⟩, fun other member' delivers => ?_⟩
      rcases List.mem_cons.1 member' with rfl | member'
      · obtain ⟨a, _, active, number, _⟩ := change.delivers delivers
        have waiting := (kept.waiting future).2 ⟨a, active, number⟩
        cases waiting.symm.trans ((kept.resolved future outcome).2 ⟨turn, member, resolves⟩)
      · exact undelivered other member' delivers
  · exact kept'.busy

lemma AtMostOnce.seen {w : World} (once : AtMostOnce w) (seen : Dict ℕ String) : AtMostOnce { w with seen := seen } :=
  ⟨once.accepted, once.distinct, once.delivered, once.request, once.cancelled, once.resolved, once.outcome, once.value,
    once.busy⟩

lemma kept_start : Kept {} [] := by
  constructor <;> simp

lemma atMostOnce_start : AtMostOnce {} := by
  constructor <;> simp [Transport.isAvailable]

/-- Whatever calls there are, in any order, and whatever threads restart the worker in between. -/
theorem polling_at_most_once (actions : List Action) : AtMostOnce (after actions) := by
  suffices sound : ∀ w : World, Kept w.transport w.history → AtMostOnce w →
      AtMostOnce (actions.foldl Action.run w) from sound {} kept_start atMostOnce_start
  induction actions with
  | nil => exact fun _ _ once => once
  | cons action actions ih =>
    intro w kept once
    cases action with
    | call c => exact ih _ (kept.change (c.change w.transport)) (once.perform kept c)
    | look thread =>
      rw [List.foldl_cons, Action.run]
      cases w.transport.active with
      | none => exact ih w kept once
      | some a => exact ih _ kept (once.seen _)
    | restart thread =>
      rw [List.foldl_cons, Action.run]
      cases w.seen.get? thread with
      | none => exact ih w kept once
      | some lease => exact ih _ (kept.change (Call.change _ w.transport)) ((once.perform kept _).seen _)

def withdrawnRun : World :=
  after [.call (.submit ⟨"t", "publishing", ∅⟩ "l"), .call (.cancel "l"), .call .poll]

/-- Its future is resolved, and nothing was reported for its lease. -/
theorem resolved_without_report : (∃ turn ∈ withdrawnRun.history, turn.Resolves 0 withdrawal) ∧
    ∀ turn ∈ withdrawnRun.history, ∀ lease value error, turn.call ≠ .result lease value error := by
  constructor
  · refine ⟨_, List.mem_cons_self, ?_⟩
    constructor <;> decide +kernel
  · have calls : withdrawnRun.history.map (·.call) =
        [.poll, .cancel "l", .submit ⟨"t", "publishing", ∅⟩ "l"] := by decide +kernel
    intro turn member lease value error call
    have among : turn.call ∈ withdrawnRun.history.map (·.call) := List.mem_map_of_mem member
    rw [calls, call] at among
    simp at among

/-! ## The transport of the engine -/

def slot (d : Dispatcher) (node : NodeId) : Option Active := (d.transports.get? node).join

/-- The slot is the one that the engine has for a node, with the names of the leases, and its future waits. -/
def Shows (name : LeaseId → String) (t : Transport) : Option Active → Prop
  | none => t.active = none
  | some a => ∃ request future, t.active = some ⟨request, name a.lease.leaseId, future, a.delivered, a.cancelled⟩ ∧
      t.futures[future]? = some none

variable {name : LeaseId → String} {node : NodeId} {s : Engine} {t : Transport}

@[simp] lemma slot_setActive (d : Dispatcher) (a : Option Active) : slot (d.setActive node a) node = a := by
  simp [slot, Dispatcher.setActive]

/-- The transport that the engine is modelled with does what this one does, and answers a report alike. -/
theorem transport_shows (injective : Function.Injective name) (same : Shows name t (slot s.dispatcher node)) :
    (∀ request request' lease, Shows name (submit request' (name lease.leaseId) t).2
      (slot (transportSubmit node request lease s).2.dispatcher node)) ∧
    (∀ lease, Shows name (cancel (name lease.leaseId) t).2 (slot (s.dispatcher.cancel node lease) node)) ∧
    Shows name (poll t).2 (slot (transportPoll node s).2.dispatcher node) ∧
    ∀ lease outcome value error,
      (transportResult node lease outcome s).1.toOption = (result (name lease) value error t).1.toOption ∧
      Shows name (result (name lease) value error t).2 (slot (transportResult node lease outcome s).2.dispatcher node) := by
  cases is : slot s.dispatcher node with
  | none =>
    have empty : t.active = none := by rwa [is] at same
    have idle : s.dispatcher.transports.get? node = none ∨ s.dispatcher.transports.get? node = some none := by
      simpa [slot, Option.join_eq_none_iff] using is
    refine ⟨fun request request' lease => ?_, fun lease => ?_, ?_, fun lease outcome value error => ?_⟩
    all_goals rcases idle with found | found
    all_goals simp [submit, transportSubmit, cancel, Dispatcher.cancel, poll, transportPoll, result, transportResult,
      found, empty, is, modifyDispatcher, note, write, bind_apply, Command.read, Shows, Except.toOption]
  | some a =>
    have found : s.dispatcher.transports.get? node = some (some a) := by simpa [slot, Option.join_eq_some_iff] using is
    rw [is] at same
    obtain ⟨request, future, active, waits⟩ := same
    refine ⟨fun request request' lease => ?_, fun lease => ?_, ?_, fun lease outcome value error => ?_⟩
    · simp [submit, transportSubmit, found, active, raise, bind_apply, Command.read, Shows, is, waits]
    · by_cases own : a.lease.leaseId = lease.leaseId
      · simp [cancel, write, Dispatcher.cancel, found, active, own, Shows, waits]
      · simp [cancel, write, Dispatcher.cancel, found, active, is, own, injective.eq_iff, Shows, waits]
    · cases delivered : a.delivered <;> cases cancelled : a.cancelled
      all_goals simp [poll, transportPoll, found, active, is, bind_apply, Command.read, delivered, cancelled, Shows, waits,
        write, modifyDispatcher, resolve, answer]
      -- the message may fail to be made, when the slot is marked already
      cases Slot.message _ <;> simp [waits]
    · by_cases own : a.lease.leaseId = lease
      · cases outcome <;> simp [result, transportResult, found, active, bind_apply, Command.read, own, resolve, waits,
          write, modifyDispatcher, note, Shows, Except.toOption]
      · simp [result, transportResult, found, active, bind_apply, Command.read, is, own, injective.eq_iff, Shows, waits,
          Except.toOption]

end Vertep.Workflow.Polling
