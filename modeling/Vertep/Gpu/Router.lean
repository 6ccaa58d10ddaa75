import Mathlib.Algebra.BigOperators.Group.List.Basic
import Mathlib.Algebra.Order.Ring.Int
import Vertep.Lib.Dict

/-!
# The GPU router

Embedding of `GPURouter` in `core/gpu/router.py` over the registry in `core/gpu/provider_registry.py`. `execute` holds
the lock but for the call of `submit_inference`: it is one section in front of the submission and one behind it. What
the providers answer is an argument of the sections.
-/

namespace Vertep.Gpu
open Lib

/-- What the router reads of a `GPUProvider`. -/
structure Provider where
  isLocal : Bool := false
  capabilities : List String
  minVramMb : ℤ
  maxConcurrentTasks : ℕ
deriving DecidableEq

/-! ## The registry -/

/-- `GPUProviderRegistry`, but for the index of capabilities, which the router does not read. -/
structure Registry where
  providers : Dict String Provider := ∅
  priorities : Dict String ℤ := ∅

def Registry.registerProvider (registry : Registry) (name : String) (provider : Provider) (priority : ℤ) :
    Bool × Registry :=
  if registry.providers.contains name then (false, registry)
  else (true, { providers := registry.providers.set name provider, priorities := registry.priorities.set name priority })

/-- The key that `_get_priority_order` sorts by. -/
def Registry.priority (registry : Registry) (name : String) : ℤ := (registry.priorities.get? name).getD 0

/-- `_get_priority_order`; the sort is stable. -/
def Registry.priorityOrder (registry : Registry) : List String :=
  registry.providers.keys.mergeSort fun name other => registry.priority name ≤ registry.priority other

/-! ## The router -/

/-- What does not change: the registry, `allowed` and `local_only`. -/
structure Env where
  registry : Registry
  allowed : List String
  localOnly : Bool := false

structure Router where
  /-- The provider of each task that was submitted and not released. -/
  active : Dict String String := ∅
  reservations : Dict String ℤ := ∅
  /-- The task of each operation. -/
  operations : Dict String String := ∅
  operationIds : Dict String String := ∅
  failures : Dict String (List String) := ∅
deriving DecidableEq

/-- What the router reads of a task; the providers get all of it. -/
structure Task where
  taskId : String
  inferenceOperationId : Option String := none
  /-- `vram_mb`, if it is there; none is what is not an integer. -/
  vramMb : Option (Option ℤ) := none
deriving DecidableEq

/-- `task.get("inference_operation_id", task_id)`. -/
def Task.operationId (task : Task) : String := task.inferenceOperationId.getD task.taskId

/-- `task.get("vram_mb", provider.min_vram_mb)`, and that it is an integer that is not negative. -/
def Task.required (task : Task) (provider : Provider) : Except String ℤ :=
  match task.vramMb.getD (some provider.minVramMb) with
  | some required => if required < 0 then .error "ValueError" else .ok required
  | none => .error "ValueError"

/-- `vram_total_mb` and `vram_used_mb`. -/
structure Usage where
  vramTotalMb : Option ℤ
  vramUsedMb : Option ℤ
deriving DecidableEq

/-- What a provider answers in front of a submission; the name of an exception is what it raises. -/
structure Readiness where
  /-- `query_capability`, whether it is `available`. -/
  available : Except String Bool
  /-- `get_resource_usage`. -/
  usage : Except String Usage

/-- What `submit_inference` returns. -/
structure Result where
  status : Option String
  /-- `cleanup` is `True`. -/
  cleanup : Bool := false
deriving DecidableEq

/-- `status` is `complete` or `completed`. -/
def Result.Complete (result : Result) : Prop := result.status = some "complete" ∨ result.status = some "completed"

/-- `status` is `failed` and the provider has cleaned up. -/
def Result.Failed (result : Result) : Prop := result.status = some "failed" ∧ result.cleanup = true

instance (result : Result) : Decidable result.Complete := inferInstanceAs (Decidable (_ ∨ _))

instance (result : Result) : Decidable result.Failed := inferInstanceAs (Decidable (_ ∧ _))

/-- What `cancel_inference` returns. -/
structure Cancellation where
  cancelled : Bool
  cleanup : Bool
deriving DecidableEq

/-- A call of `submit_inference`. -/
structure Submission where
  task : Task
  name : String
  required : ℤ
deriving DecidableEq

/-- A provider that the loop of `execute` does not pass over. -/
def Env.Candidate (env : Env) (capability name : String) : Prop :=
  ∃ provider, env.registry.providers.get? name = some provider ∧ name ∈ env.allowed ∧
    (env.localOnly = true → provider.isLocal = true) ∧ capability ∈ provider.capabilities

instance (env : Env) (capability name : String) : Decidable (env.Candidate capability name) :=
  decidable_of_iff ((env.registry.providers.get? name).any fun provider =>
      name ∈ env.allowed ∧ (env.localOnly = true → provider.isLocal = true) ∧ capability ∈ provider.capabilities) <| by
    unfold Env.Candidate
    cases env.registry.providers.get? name with
    | none => simp
    | some provider => cases env.localOnly <;> simp

/-- The provider that is asked: behind the two `continue`s every branch leaves the loop. -/
def Env.candidate (env : Env) (capability : String) : Option String :=
  env.registry.priorityOrder.find? fun name => env.Candidate capability name

def Router.activeOn (router : Router) (name : String) : ℕ := router.active.values.count name

def Router.reservedOn (router : Router) (name : String) : ℤ :=
  ((router.reservations.entries.filter fun e => router.active.get? e.1 = some name).map Prod.snd).sum

/-- `usage.get("vram_total_mb", 0) - usage.get("vram_used_mb", 0)`. -/
def Usage.free (usage : Usage) : ℤ := usage.vramTotalMb.getD 0 - usage.vramUsedMb.getD 0

/-- The checks in front of a submission: why there is none, or the VRAM that it reserves. -/
def Router.check (router : Router) (task : Task) (name : String) (provider : Provider) (ready : Readiness) :
    Except String ℤ :=
  match ready.available with
  | .error exception => .error s!"{name}: readiness {exception}"
  | .ok false => .error s!"{name}: not ready"
  | .ok true =>
    if router.activeOn name ≥ provider.maxConcurrentTasks then .error s!"{name}: capacity exhausted"
    else match ready.usage, task.required provider with
      | .error exception, _ => .error s!"{name}: readiness {exception}"
      | .ok _, .error exception => .error s!"{name}: readiness {exception}"
      | .ok usage, .ok required =>
        if usage.free - router.reservedOn name < required then .error s!"{name}: insufficient VRAM" else .ok required

def Router.release (router : Router) (taskId : String) : Router :=
  { router with
    active := router.active.pop taskId
    reservations := router.reservations.pop taskId
    operations := match router.operationIds.get? taskId with
      | some operation => router.operations.pop operation
      | none => router.operations
    operationIds := router.operationIds.pop taskId }

/-- `self.failures[task_id] = reasons`. -/
def Router.fail (router : Router) (taskId : String) (reasons : List String) : Router :=
  { router with failures := router.failures.set taskId reasons }

def exhausted (reasons : List String) : String := "Allowed GPU providers exhausted: " ++ "; ".intercalate reasons

/-- The maps once a submission is admitted. -/
def Router.reserve (router : Router) (submission : Submission) : Router :=
  { router with
    active := router.active.set submission.task.taskId submission.name
    reservations := router.reservations.set submission.task.taskId submission.required
    operations := router.operations.set submission.task.operationId submission.task.taskId
    operationIds := router.operationIds.set submission.task.taskId submission.task.operationId }

/-- `execute` up to the submission: what it submits, or the message of the `RuntimeError`. -/
def Router.accept (env : Env) (router : Router) (capability : String) (task : Task) (ready : Readiness) :
    Except String Submission × Router :=
  if router.active.contains task.taskId ∨ router.operations.contains task.operationId then
    (.error "Inference already submitted", router)
  else match env.candidate capability with
    | none => (.error (exhausted []), router.fail task.taskId [])
    | some name =>
      match env.registry.providers.get? name with
      | none => (.error (exhausted []), router.fail task.taskId [])
      | some provider =>
        match router.check task name provider ready with
        | .error reason => (.error (exhausted [reason]), router.fail task.taskId [reason])
        | .ok required => (.ok ⟨task, name, required⟩, router.reserve ⟨task, name, required⟩)

/-- `execute` once `submit_inference` has returned or raised. -/
def Router.settle (router : Router) (submission : Submission) : Except String Result → Except String Result × Router
  | .error exception =>
    (.error "Inference submission uncertain; reconcile before retry",
      router.fail submission.task.taskId [s!"{submission.name}: uncertain submission {exception}"])
  | .ok result =>
    if router.active.get? submission.task.taskId ≠ some submission.name then
      (.error "Cancelled inference result rejected", router)
    else if result.Complete then (.ok result, router.release submission.task.taskId)
    else if result.Failed then
      let reasons := [s!"{submission.name}: failed with cleanup confirmed"]
      (.error (exhausted reasons), (router.release submission.task.taskId).fail submission.task.taskId reasons)
    else (.ok result, router)

/-- `cancel`, with what `cancel_inference` returns; it raises where that raises. -/
def Router.cancel (router : Router) (taskId : String) : Option Cancellation → Option Bool × Router
  | none => (if router.active.contains taskId then none else some false, router)
  | some reply =>
    if router.active.contains taskId ∧ reply.cancelled = true ∧ reply.cleanup = true then
      (some true, router.release taskId)
    else (some false, router)

end Vertep.Gpu
