import Vertep.Lib.Reach
import Vertep.Operations.Records

/-!
# Callback records

Embedding of `core/telegram_callbacks.py`, and of how `_handle_telegram_callback` in `core/telegram/handlers.py` uses
it. Every function reads, changes and writes the whole file inside one lock. A file that cannot be read is an empty
one.
-/

namespace Vertep.Callbacks
open Lib Vertep.Operations

/-- `status` of a record. -/
inductive CallbackStatus where
  | claimed | completed | failed
deriving DecidableEq

structure CallbackRecord where
  callbackId : String
  actor : String
  action : String
  target : Option String
  status : CallbackStatus := .claimed
  claimedAt : String
  completedAt : Option String := none
  operationId : Option String
  replayedAt : Option String := none
deriving DecidableEq

/-- `telegram_callbacks.json`. -/
abbrev Records := Dict String CallbackRecord

/-- `_read`. -/
def readRecords (readable : Bool) (records : Records) : Records := if readable then records else ∅

def getOperation (operationId : String) (operations : Operations) : Option Operation :=
  if WellFormedId operationId then operations.get? operationId else none

def CallbackRecord.operation (record : CallbackRecord) (operations : Operations) : Option Operation :=
  (record.operationId.filter (· ≠ "")).bind (getOperation · operations)

def CallbackRecord.Done (record : CallbackRecord) (operations : Operations) : Prop :=
  ∃ op ∈ record.operation operations, op.status.Terminal

instance (record : CallbackRecord) (operations : Operations) : Decidable (record.Done operations) := by
  unfold CallbackRecord.Done
  infer_instance

/-- `claim_callback`: the record, whether it is claimed, and the file. -/
def claimCallback (operations : Operations) (readable : Bool) (callbackId actor action : String)
    (target operationId : Option String) (now : String) (records : Records) :
    (Option CallbackRecord × Bool) × Records :=
  if callbackId = "" then ((none, true), records)
  else match (readRecords readable records).get? callbackId with
    | some existing =>
      if existing.status ≠ .claimed then ((some existing, false), records)
      else if existing.Done operations then ((some existing, false), records)
      else
        let resumed : CallbackRecord :=
          { existing with
            replayedAt := some now, operationId := (operationId.filter (· ≠ "")).or existing.operationId }
        ((some resumed, true), (readRecords readable records).set callbackId resumed)
    | none =>
      let record : CallbackRecord :=
        { callbackId := callbackId, actor := actor, action := action, target := target, claimedAt := now
          operationId := operationId }
      ((some record, true), (readRecords readable records).set callbackId record)

/-- What the other writers have in common: a record is changed where it may be; without one nothing is written. -/
def change (readable : Bool) (callbackId : String) (may : CallbackRecord → Prop) [DecidablePred may]
    (f : CallbackRecord → CallbackRecord) (records : Records) : Records :=
  if callbackId = "" then records
  else match (readRecords readable records).get? callbackId with
    | none => records
    | some record =>
      if may record then (readRecords readable records).set callbackId (f record) else records

def completeCallback (readable : Bool) (callbackId : String) (status : CallbackStatus) (now : String) :
    Records → Records :=
  change readable callbackId (fun _ => True) fun record => { record with status := status, completedAt := some now }

def setCallbackTarget (readable : Bool) (callbackId : String) (target : Option String) (records : Records) : Records :=
  match target.filter (· ≠ "") with
  | none => records
  | some target =>
    change readable callbackId (·.status = .claimed) (fun record => { record with target := some target }) records

def linkOperation (readable : Bool) (callbackId operationId : String) : Records → Records :=
  change readable callbackId (·.status = .claimed) fun record => { record with operationId := some operationId }

/-! ## The handler -/

def actionToOpType : String → Option OperationType
  | "sys_update" | "sys_update_check" | "sys_update_confirm" => some .update
  | "sys_restart" | "sys_restart_core" | "sys_restart_worker" => some .restart
  | "sys_backup" | "sys_backup_confirm" => some .backup
  | "sys_restore" | "sys_restore_confirm" | "sys_restore_execute" => some .restore
  | "sys_test" | "sys_test_quick" | "sys_test_full" | "sys_test_node" => some .test
  | _ => none

/-- `list_operations`, newest first. -/
def listOperations (limit : ℕ) (operations : Operations) : List Operation :=
  (operations.values.mergeSort fun op op' => ¬ op.createdAt < op'.createdAt).take limit

/-- The loop of `_link_callback_to_operation`: of the terminal operations that fit, the one that finished last. -/
def bestOperation (type : OperationType) (target : Option String) (requestedBy : String)
    (operations : List Operation) : Option Operation :=
  operations.foldl (fun best op =>
    if op.type = type ∧ op.target = target ∧ op.requestedBy = requestedBy ∧ op.status.Terminal ∧
        ∀ other ∈ best, other.finishedAt.getD "" < op.finishedAt.getD "" then some op
    else best) none

/-- The query of a callback. -/
structure Callback where
  id : String
  chatId : String
  action : String
  payload : String
deriving DecidableEq

/-- `payload or None`. -/
def Callback.target (callback : Callback) : Option String := (some callback.payload).filter (· ≠ "")

/-- `telegram:{chat_id}`. -/
def Callback.actor (callback : Callback) : String := "telegram:" ++ callback.chatId

/-- `_link_callback_to_operation`; the operations may not be there to be listed. -/
def linkCallbackToOperation (readable : Bool) (callback : Callback) (listed : Bool) (operations : Operations)
    (records : Records) : Records :=
  match actionToOpType callback.action with
  | none => records
  | some type =>
    match bestOperation type callback.target callback.actor (if listed then listOperations 200 operations else []) with
    | none => records
    | some best => if best.operationId = "" then records else linkOperation readable callback.id best.operationId records

end Vertep.Callbacks
