import Vertep.Lib.Execution
import Vertep.Lib.Reach
import Vertep.Operations.Records

/-!
# Local pulls

Embedding of `_pull_model` and `cancel_pull` in `core/pull_executor.py`, as scripts that run together. From when
`start_pull` has created the operation its thread may start at any time. The placement on nodes, the audit lines and
`_close_on_cancel` are left out: what the last one does to a response is one of the ways in which a read raises.
-/

namespace Vertep.Pulls
open Lib Vertep.Operations

/-- A line of the stream. -/
inductive Line where
  | empty
  | garbled
  /-- It is JSON, but no object with fields as expected. -/
  | other
  | event (error status : Option String) (completed total : Option ℤ)

/-- What raises. -/
inductive Failure where
  | operation (failure : Operations.Failure)
  /-- The transport, or a line of the wrong shape. -/
  | transport (error : String)
deriving DecidableEq

/-- `str(error)`. -/
def Failure.text : Failure → String
  | .operation .unknownType => "Unknown operation type"
  | .operation (.notFound operationId) => "'Operation not found: " ++ operationId ++ "'"
  | .transport error => error

/-- `text[:500]`. -/
def first500 (text : String) : String := String.ofList (text.toList.take 500)

/-- What `pull_executor` does between two lines of its code. -/
inductive Call where
  | «section» (sec : Section)
  /-- `_ollama_url` is set. -/
  | configured (operationId : String)
  /-- `_CANCEL_EVENTS[operation_id] = cancel_event`. -/
  | register (operationId : String)
  /-- `cancel_event.is_set()`. -/
  | isSet (operationId : String)
  /-- `finally`: the event is taken away. -/
  | unregister (operationId : String)
  /-- `client.stream("POST", …)`: the status. -/
  | post (operationId model : String)
  /-- `response.read()[:500]`, decoded. -/
  | readBody (operationId : String)
  /-- The next line, or the end of the stream. -/
  | read (operationId : String)
  /-- `_CANCEL_EVENTS.get(operation_id)` is there. -/
  | lookup (operationId : String)
  /-- `event.set()`. -/
  | set (operationId : String)
  /-- `cancel_operation` in `cancel_pull`. -/
  | record (operationId : String) (reason : Option String) (now : String)

/-- What a call gives back. -/
abbrev Call.Reply : Call → Type
  | .section sec => sec.Reply
  | .configured _ => Bool
  | .isSet _ => Bool
  | .lookup _ => Bool
  | .post .. => Except Failure ℤ
  | .readBody _ => Except Failure String
  | .read _ => Except Failure (Option Line)
  | .record .. => Except Operations.Failure Operation
  | .register _ | .unregister _ | .set _ => Unit

abbrev Thread (α : Type) := Script Call Call.Reply Unit Failure α

def ask (c : Call) : Thread c.Reply := Script.ask c

def operated {α : Type} (reply : Except Operations.Failure α) : Thread α := Script.require (reply.mapError .operation)

/-! ## `_pull_model` -/

def lineProgress (completed total : Option ℤ) : Option ℤ :=
  completed.bind fun completed => (total.filter (· ≠ 0)).map fun total => max 0 (min 100 (completed * 100 / total))

/-- `str(event.get("status") or "").lower() == "success"`. -/
def succeeds (status : Option String) : Bool := (status.getD "").toLower = "success"

/-- The loop over the lines, of which at most `lines` come; whether `success` was seen, or none where it returned. -/
def readLines (operationId : String) (now : String) : ℕ → Bool → Thread (Option Bool)
  | 0, sawSuccess => pure (some sawSuccess)
  | lines + 1, sawSuccess => do
    match ← Script.require (← ask (.read operationId)) with
    | none => pure (some sawSuccess)
    | some line => do
      if ← ask (.isSet operationId) then do
        let _ ← operated (← ask (.section (.cancel operationId (some "cancelled by user") now)))
        pure none
      else match line with
        | .empty => readLines operationId now lines sawSuccess
        | .garbled => readLines operationId now lines sawSuccess
        | .other => Script.raise (.transport "bad line")
        | .event error status completed total =>
          if (error.getD "") ≠ "" then do
            let _ ← operated (← ask (.section (.fail operationId (first500 (error.getD "")) now)))
            pure none
          else do
            match lineProgress completed total with
            | some progress => do
              let _ ← operated (← ask (.section (.advance operationId "pull" progress none)))
            | none => pure ()
            match status.filter (· ≠ "") with
            | some status => do
              let current ← ask (.section (.get operationId))
              let progress := (current.map Operation.progress).getD 0
              let _ ← operated (← ask (.section (.advance operationId status progress (some status))))
            | none => pure ()
            readLines operationId now lines (sawSuccess || succeeds status)

/-- The body of the `try`. -/
def streamPull (lines : ℕ) (operationId model now : String) : Thread Unit := do
  let status ← Script.require (← ask (.post operationId model))
  if status ≠ 200 then do
    let body ← Script.require (← ask (.readBody operationId))
    let _ ← operated (← ask (.section (.fail operationId (s!"Ollama returned {status}: " ++ body) now)))
  else do
    match ← readLines operationId now lines false with
    | none => pure ()
    | some sawSuccess => do
      if ← ask (.isSet operationId) then do
        let _ ← operated (← ask (.section (.cancel operationId (some "cancelled by user") now)))
      else match (← ask (.section (.get operationId))).filter (·.status = .running) with
        | none => pure ()
        | some _ =>
          if sawSuccess then do
            let _ ← operated (← ask (.section (.complete operationId (some (.model model "" true)) now)))
          else do
            let _ ← operated (← ask (.section (.fail operationId "pull ended without terminal success event" now)))

/-- The `except`. -/
def pullFailed (operationId now : String) (failure : Failure) : Thread Unit := do
  let cancelled ← ask (.isSet operationId)
  let operation ← if cancelled then ask (.section (.get operationId)) else pure none
  match operation with
  | some _ => pure ()
  | none => do
    let _ ← operated (← ask (.section (.fail operationId ("pull failed: " ++ failure.text) now)))

def pullModel (lines : ℕ) (operationId model now : String) : Thread Unit := do
  let _ ← operated (← ask (.section (.begin operationId "pull" now)))
  if ← ask (.configured operationId) then do
    ask (.register operationId)
    Script.andFinally (Script.rescue (streamPull lines operationId model now) (pullFailed operationId now))
      (ask (.unregister operationId))
  else do
    let _ ← operated (← ask (.section (.fail operationId "OLLAMA_URL is not configured" now)))

/-! ## `cancel_pull` -/

def cancelPull (operationId : String) (reason : Option String) (now : String) : Thread Unit := do
  if ← ask (.lookup operationId) then ask (.set operationId)
  match ← ask (.section (.get operationId)) with
  | none => pure ()
  | some _ => do
    let _ ← ask (.record operationId reason now)

end Vertep.Pulls
