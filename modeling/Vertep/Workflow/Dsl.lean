import Vertep.Queue.Json

/-!
# Workflow definitions

Embedding of `core/workflow/dsl.py`. A definition is a record with the fields the engine reads, each of
the type the contract gives it, and with the defaults of `task.get`; the `isinstance` checks of
`validate_workflow` are the types here, its other checks are kept with their texts and in their order.

`validate_workflow` walks the dependency graph depth first. The walk here counts its depth down from
the number of tasks, which the nodes on its path cannot exceed; the interpreter's limit on nested calls,
beyond which `visit` ends in a `RecursionError`, is left out.
-/

namespace Vertep.Workflow
open Lib Queue

abbrev TaskId := String

/-- The key `when` of a task. -/
structure Condition where
  param : String
  equals : Json
deriving DecidableEq

/-- The key `retry` of a task. -/
structure Retry where
  maxAttempts : ℤ := 1
  delaySeconds : ℚ := 0
deriving DecidableEq

/-- One entry of `definition["tasks"]`; a module of `""` is none. -/
structure TaskDefinition where
  id : TaskId
  type : String := ""
  dependencies : List TaskId := []
  condition : Option Condition := none
  input : Dict String Json := ∅
  capabilitiesRequired : List String := []
  vramMb : ℤ := 0
  moduleName : String := ""
  approvalRequired : Bool := false
  retry : Retry := {}
  timeoutMinutes : ℚ := 60
deriving DecidableEq

structure WorkflowDefinition where
  name : String
  tasks : List TaskDefinition
deriving DecidableEq

/-- The checks of one entry that look at nothing but the entry, after those of its id. -/
def TaskDefinition.errors (i : ℕ) (task : TaskDefinition) : List String :=
  (if task.vramMb < 0 then [s!"Task {i}: vram_mb must be a nonnegative integer"] else []) ++
  (if task.retry.maxAttempts < 1 then [s!"Task {i}: invalid retry max_attempts"] else []) ++
  (if task.retry.delaySeconds < 0 then [s!"Task {i}: invalid retry delay_seconds"] else []) ++
  (if task.timeoutMinutes ≤ 0 then [s!"Task {i}: timeout_minutes must be positive"] else [])

/-- The loop over the entries: `task_ids`, `graph` and `errors` as it leaves them. -/
structure Entries where
  taskIds : List TaskId := []
  graph : Dict TaskId (List TaskId) := ∅
  errors : List String := []

def Entries.add (e : Entries) (i : ℕ) (task : TaskDefinition) : Entries where
  taskIds := if task.id = "" ∨ task.id ∈ e.taskIds then e.taskIds else task.id :: e.taskIds
  graph := e.graph.set task.id task.dependencies
  errors := e.errors ++
    (if task.id = "" then [s!"Task {i} must have an 'id' field"]
      else if task.id ∈ e.taskIds then [s!"Duplicate task id: {task.id}"] else []) ++
    task.errors i

/-- What `visit` keeps between its calls. -/
structure Walk where
  visiting : List TaskId := []
  visited : List TaskId := []
  errors : List String := []

def visit (taskIds : List TaskId) (graph : Dict TaskId (List TaskId)) : ℕ → TaskId → Walk → Walk
  | 0, _, w => w
  | depth + 1, node, w =>
    if node ∈ w.visiting then
      { w with errors := w.errors ++ [s!"Cyclic dependency at task {node}"] }
    else if node ∈ w.visited then w
    else
      let w := ((graph.get? node).getD []).foldl (fun w dep =>
        if dep ∉ taskIds then
          { w with errors := w.errors ++ [s!"Task {node}: dependency '{dep}' not defined"] }
        else visit taskIds graph depth dep w) { w with visiting := node :: w.visiting }
      { w with visiting := w.visiting.erase node, visited := node :: w.visited }

/-- The loop over `definition["tasks"]`. -/
def WorkflowDefinition.entries (definition : WorkflowDefinition) : Entries :=
  definition.tasks.zipIdx.foldl (fun e entry => e.add entry.2 entry.1) {}

/-- The loop over `graph`. -/
def Entries.walk (e : Entries) : Walk :=
  e.graph.keys.foldl (fun w node => visit e.taskIds e.graph (e.graph.keys.length + 1) node w)
    { errors := e.errors }

def validateWorkflow (definition : WorkflowDefinition) : List String :=
  let named := if definition.name = "" then ["Workflow must have a 'name' string field"] else []
  if definition.tasks = [] then named ++ ["Workflow must have a 'tasks' list"]
  else named ++ definition.entries.walk.errors

example : validateWorkflow ⟨"x", [{ id := "a", dependencies := ["b"] }, { id := "b" }]⟩ = [] := by
  decide +kernel

end Vertep.Workflow
