import Vertep.Lib.Cycles
import Vertep.Workflow.Order

/-!
# What `validate_workflow` accepts (`core/workflow/dsl.py`)

A definition is accepted exactly when its fields are in their ranges, its ids are different, its dependencies are
defined, and none of its tasks depends on itself. The dependencies of the tasks of a job never change, so that a job
that is not finished always has a task that its dependencies do not hold up.
-/

namespace Vertep.Workflow
open Lib Queue
open Relation (TransGen)

def WorkflowDefinition.ids (definition : WorkflowDefinition) : List TaskId := definition.tasks.map (·.id)

def WorkflowDefinition.Depends (definition : WorkflowDefinition) (x y : TaskId) : Prop :=
  ∃ task ∈ definition.tasks, task.id = x ∧ y ∈ task.dependencies

/-- The ranges of the fields of a task. -/
structure TaskDefinition.Ranged (task : TaskDefinition) : Prop where
  id : task.id ≠ ""
  vramMb : 0 ≤ task.vramMb
  maxAttempts : 1 ≤ task.retry.maxAttempts
  delaySeconds : 0 ≤ task.retry.delaySeconds
  timeoutMinutes : 0 < task.timeoutMinutes

structure WorkflowDefinition.Executable (definition : WorkflowDefinition) : Prop where
  named : definition.name ≠ ""
  tasks : definition.tasks ≠ []
  ranged : ∀ task ∈ definition.tasks, task.Ranged
  distinct : definition.ids.Nodup
  defined : ∀ x y, definition.Depends x y → y ∈ definition.ids
  acyclic : ∀ x, ¬ TransGen definition.Depends x x

/-! ## The entries -/

lemma Entries.add_errors (e : Entries) (i : ℕ) (task : TaskDefinition) :
    (e.add i task).errors = [] ↔ e.errors = [] ∧ task.Ranged ∧ task.id ∉ e.taskIds := by
  have ranged : task.Ranged ↔ task.id ≠ "" ∧ task.errors i = [] := by
    simp only [TaskDefinition.errors, List.append_eq_nil_iff, ite_eq_right_iff, List.cons_ne_nil, imp_false, not_lt,
      not_le]
    exact ⟨fun r => ⟨r.id, ⟨⟨r.vramMb, r.maxAttempts⟩, r.delaySeconds⟩, r.timeoutMinutes⟩,
      fun ⟨id, ⟨⟨vram, attempts⟩, delay⟩, timeout⟩ => ⟨id, vram, attempts, delay, timeout⟩⟩
  rw [ranged, Entries.add, List.append_eq_nil_iff, List.append_eq_nil_iff]
  split
  · simp_all
  · split <;> simp_all

lemma entries_errors (tasks : List TaskDefinition) (n : ℕ) (e : Entries) :
    ((tasks.zipIdx n).foldl (fun e entry => e.add entry.2 entry.1) e).errors = [] ↔ e.errors = [] ∧
      (∀ task ∈ tasks, task.Ranged) ∧ (tasks.map (·.id)).Nodup ∧ ∀ task ∈ tasks, task.id ∉ e.taskIds := by
  induction tasks generalizing n e with
  | nil => simp
  | cons task tasks ih =>
    rw [List.zipIdx_cons, List.foldl_cons, ih, e.add_errors]
    by_cases new : task.Ranged ∧ task.id ∉ e.taskIds
    · have ids : (e.add n task).taskIds = task.id :: e.taskIds := if_neg (not_or.2 ⟨new.1.id, new.2⟩)
      simp only [ids, List.mem_cons, not_or, forall_eq_or_imp, List.map_cons, List.nodup_cons, List.mem_map, not_exists,
        not_and]
      grind
    · grind

def Entries.next (e : Entries) (id : TaskId) : List TaskId := (e.graph.get? id).getD []

/-- What the loop over the entries leaves, where it found no error. -/
structure Entries.Of (definition : WorkflowDefinition) (e : Entries) : Prop where
  taskIds : ∀ id, id ∈ e.taskIds ↔ id ∈ definition.ids
  keys : ∀ id, id ∈ e.graph.keys ↔ id ∈ definition.ids
  edges : ∀ x y, Edge e.next x y ↔ definition.Depends x y

lemma entries_filled (tasks : List TaskDefinition) (n : ℕ) (e : Entries) (ranged : ∀ task ∈ tasks, task.Ranged)
    (distinct : (tasks.map (·.id)).Nodup) :
    let e' := (tasks.zipIdx n).foldl (fun e entry => e.add entry.2 entry.1) e
    (∀ id, id ∈ e'.taskIds ↔ id ∈ tasks.map (·.id) ∨ id ∈ e.taskIds) ∧
      (∀ id ∉ tasks.map (·.id), e'.graph.get? id = e.graph.get? id) ∧
      ∀ task ∈ tasks, e'.graph.get? task.id = some task.dependencies := by
  induction tasks generalizing n e with
  | nil => simp
  | cons task tasks ih =>
    obtain ⟨new, distinct⟩ := List.nodup_cons.1 distinct
    obtain ⟨first, ranged⟩ := List.forall_mem_cons.1 ranged
    obtain ⟨listed, others, own⟩ := ih (n + 1) (e.add n task) ranged distinct
    have added (id : TaskId) : id ∈ (e.add n task).taskIds ↔ id = task.id ∨ id ∈ e.taskIds := by
      simp only [Entries.add, first.id, false_or]
      split
      · exact ⟨.inr, fun h => h.elim (fun same => same ▸ ‹_›) fun h => h⟩
      · exact List.mem_cons
    have set (id : TaskId) : (e.add n task).graph.get? id =
        if task.id = id then some task.dependencies else e.graph.get? id := Dict.get?_set _ _ _ _
    rw [List.zipIdx_cons, List.foldl_cons]
    refine ⟨fun id => ?_, fun id absent => ?_, fun task' within => ?_⟩
    · rw [listed, added, List.map_cons, List.mem_cons]
      tauto
    · rw [List.map_cons, List.mem_cons, not_or] at absent
      rw [others id absent.2, set, if_neg (Ne.symm absent.1)]
    · rcases List.mem_cons.1 within with rfl | within
      · rw [others _ new, set, if_pos rfl]
      · exact own task' within

lemma entries_of {definition : WorkflowDefinition} (ranged : ∀ task ∈ definition.tasks, task.Ranged)
    (distinct : definition.ids.Nodup) : Entries.Of definition definition.entries := by
  obtain ⟨listed, others, own⟩ : _ ∧ _ ∧ ∀ task ∈ definition.tasks,
    definition.entries.graph.get? task.id = some task.dependencies :=
    entries_filled definition.tasks 0 {} ranged distinct
  have keys (id : TaskId) : id ∈ definition.entries.graph.keys ↔ id ∈ definition.ids := by
    refine ⟨fun listed => ?_, fun listed => ?_⟩
    · by_contra absent
      exact Dict.get?_eq_none.1 (others id absent) listed
    · obtain ⟨task, within, rfl⟩ := List.mem_map.1 listed
      exact Dict.mem_keys_iff.2 ⟨_, own task within⟩
  refine ⟨fun id => (listed id).trans (or_iff_left List.not_mem_nil), keys, fun x y => ⟨fun edge => ?_, ?_⟩⟩
  · by_cases there : x ∈ definition.ids
    · obtain ⟨task, within, rfl⟩ := List.mem_map.1 there
      rw [Edge, Entries.next, own task within] at edge
      exact ⟨task, within, rfl, edge⟩
    · rw [Edge, Entries.next, Dict.get?_eq_none.2 (mt (keys x).1 there)] at edge
      cases edge
  · rintro ⟨task, within, rfl, edge⟩
    rwa [Edge, Entries.next, own task within]

/-! ## The walk -/

section
variable {taskIds : List TaskId} {graph : Dict TaskId (List TaskId)}

abbrev next (graph : Dict TaskId (List TaskId)) (id : TaskId) : List TaskId := (graph.get? id).getD []

def Walk.leave (w : Walk) (node : TaskId) : Walk :=
  { w with visiting := w.visiting.erase node, visited := node :: w.visited }

/-- A round of the loop over the dependencies of a node. -/
abbrev follow (taskIds : List TaskId) (graph : Dict TaskId (List TaskId)) (depth : ℕ) (node : TaskId) (w : Walk)
    (dep : TaskId) : Walk :=
  if dep ∉ taskIds then { w with errors := w.errors ++ [s!"Task {node}: dependency '{dep}' not defined"] }
  else visit taskIds graph depth dep w

lemma visit_succ (depth : ℕ) (node : TaskId) (w : Walk) : visit taskIds graph (depth + 1) node w =
    if node ∈ w.visiting then { w with errors := w.errors ++ [s!"Cyclic dependency at task {node}"] }
    else if node ∈ w.visited then w
    else ((next graph node).foldl (follow taskIds graph depth node)
      { w with visiting := node :: w.visiting }).leave node := rfl

lemma visit_visiting (depth : ℕ) (node : TaskId) (w : Walk) :
    (visit taskIds graph depth node w).visiting = w.visiting := by
  induction depth generalizing node w with
  | zero => rfl
  | succ depth ih =>
    rw [visit_succ]
    split
    · rfl
    split
    · rfl
    have path : ((next graph node).foldl (follow taskIds graph depth node)
        { w with visiting := node :: w.visiting }).visiting = node :: w.visiting := by
      refine List.foldlRecOn (motive := fun w' : Walk => w'.visiting = _) _ _ rfl fun w' same dep _ => ?_
      unfold follow
      split
      · exact same
      · exact (ih dep w').trans same
    exact (congrArg (List.erase · node) path).trans (List.erase_cons_head node w.visiting)

lemma foldl_clean {f : Walk → TaskId → Walk} (clean : ∀ w x, (f w x).errors = [] → w.errors = []) {nodes : List TaskId}
    {w : Walk} (none : (nodes.foldl f w).errors = []) : w.errors = [] := by
  induction nodes generalizing w with
  | nil => exact none
  | cons node nodes ih => exact clean w node (ih none)

lemma follow_clean {depth : ℕ} (clean : ∀ x w, (visit taskIds graph depth x w).errors = [] → w.errors = [])
    {node x : TaskId} {w : Walk} (none : (follow taskIds graph depth node w x).errors = []) : w.errors = [] := by
  unfold follow at none
  split at none
  · exact (List.append_eq_nil_iff.1 none).1
  · exact clean x w none

lemma visit_clean (depth : ℕ) (node : TaskId) (w : Walk) (none : (visit taskIds graph depth node w).errors = []) :
    w.errors = [] := by
  induction depth generalizing node w with
  | zero => exact none
  | succ depth ih =>
    rw [visit_succ] at none
    split at none
    · exact (List.append_eq_nil_iff.1 none).1
    split at none
    · exact none
    · exact foldl_clean (w := { w with visiting := node :: w.visiting }) (fun _ _ => follow_clean ih) none

/-- A loop without errors visits as `searchAll` does. -/
lemma foldl_searches {f : Walk → TaskId → Walk} {search : List TaskId → TaskId → Bool × List TaskId}
    {nodes : List TaskId} {w : Walk} (errors : ∀ w x, (f w x).errors = [] → w.errors = [])
    (step : ∀ x ∈ nodes, ∀ w' : Walk, w'.visiting = w.visiting → w'.visited ⊆ taskIds → (f w' x).errors = [] →
      search w'.visited x = (false, (f w' x).visited) ∧ (f w' x).visited ⊆ taskIds ∧ (f w' x).visiting = w.visiting)
    (known : w.visited ⊆ taskIds) (none : (nodes.foldl f w).errors = []) :
    searchAll search nodes w.visited = (false, (nodes.foldl f w).visited) ∧ (nodes.foldl f w).visited ⊆ taskIds := by
  induction nodes generalizing w with
  | nil => exact ⟨rfl, known⟩
  | cons node nodes ih =>
    obtain ⟨one, known', path⟩ := step node List.mem_cons_self w rfl known (foldl_clean errors none)
    rw [searchAll, one]
    exact ih (fun x within w' same => path ▸ step x (List.mem_cons_of_mem _ within) w' (same.trans path)) known' none

/-- `visit` without errors is the search, through tasks that are defined. -/
lemma visit_search (listed : taskIds ⊆ graph.keys) (depth : ℕ) (node : TaskId) (w : Walk)
    (trail : Trail (next graph) graph.keys w.visiting node) (here : node ∈ taskIds)
    (deep : graph.keys.length < depth + w.visiting.length) (known : w.visited ⊆ taskIds)
    (none : (visit taskIds graph depth node w).errors = []) :
    search (next graph) depth w.visiting w.visited node = (false, (visit taskIds graph depth node w).visited) ∧
      (visit taskIds graph depth node w).visited ⊆ taskIds := by
  induction depth generalizing node w with
  | zero =>
    -- a path has no more nodes than the graph
    have := (trail.nodup.subperm trail.within).length_le
    omega
  | succ depth ih =>
    rw [visit_succ] at none ⊢
    rw [search]
    split at none
    · cases (List.append_eq_nil_iff.1 none).2
    rename_i new
    rw [if_neg new, if_neg new]
    split at none
    · rename_i left
      rw [if_pos left, if_pos left]
      exact ⟨rfl, known⟩
    rename_i fresh
    rw [if_neg fresh, if_neg fresh]
    have below :
        searchAll (search (next graph) depth (node :: w.visiting)) (next graph node) w.visited = (false, _) ∧ _ :=
      foldl_searches (w := { w with visiting := node :: w.visiting }) (fun _ _ => follow_clean (visit_clean depth))
        ?_ known none
    · rw [below.1]
      exact ⟨rfl, List.cons_subset.2 ⟨here, below.2⟩⟩
    · intro x edge w' same known none
      unfold follow at none ⊢
      split at none
      · cases (List.append_eq_nil_iff.1 none).2
      rename_i defined
      rw [if_neg defined]
      have one := ih x w' ⟨?_, ?_, ?_⟩ (not_not.1 defined) ?_ known none
      · rw [same] at one
        exact ⟨one.1, one.2, (visit_visiting depth x w').trans same⟩
      all_goals rw [same]
      · exact List.nodup_cons.2 ⟨new, trail.nodup⟩
      · exact List.cons_subset.2 ⟨listed here, trail.within⟩
      · exact List.forall_mem_cons.2 ⟨.single edge, fun z within => (trail.leads z within).tail edge⟩
      · rw [List.length_cons]
        omega

/-- `visit` finds no error where no node leads to itself or to what is not defined. -/
lemma visit_finds (acyclic : Acyclic (next graph)) (defined : ∀ x y, Edge (next graph) x y → y ∈ taskIds) (depth : ℕ)
    (node : TaskId) (w : Walk) (leads : ∀ x ∈ w.visiting, TransGen (Edge (next graph)) x node) :
    (visit taskIds graph depth node w).errors = w.errors := by
  induction depth generalizing node w with
  | zero => rfl
  | succ depth ih =>
    rw [visit_succ]
    split
    · rename_i inside
      exact absurd (leads node inside) (acyclic node)
    split
    · rfl
    have kept : ∀ inner, inner = (next graph node).foldl (follow taskIds graph depth node)
        { w with visiting := node :: w.visiting } → inner.errors = w.errors ∧ inner.visiting = node :: w.visiting := by
      rintro _ rfl
      refine List.foldlRecOn (motive := fun w' : Walk => w'.errors = w.errors ∧ w'.visiting = node :: w.visiting) _ _
        ⟨rfl, rfl⟩ ?_
      rintro w' ⟨same, path⟩ x edge
      unfold follow
      rw [if_neg (not_not.2 (defined node x edge))]
      refine ⟨(ih x w' ?_).trans same, (visit_visiting depth x w').trans path⟩
      rw [path]
      exact List.forall_mem_cons.2 ⟨.single edge, fun z within => (leads z within).tail edge⟩
    exact (kept _ rfl).1

/-- The walk finds nothing exactly when what the tasks depend on is defined and none depends on itself. -/
lemma walk_errors {definition : WorkflowDefinition} {e : Entries} (of : e.Of definition) :
    e.walk.errors = [] ↔ e.errors = [] ∧ (∀ x y, definition.Depends x y → y ∈ definition.ids) ∧
      ∀ x, ¬ TransGen definition.Depends x x := by
  have edges : Edge (next e.graph) = definition.Depends := funext₂ fun x y => propext (of.edges x y)
  constructor
  · intro none
    have walks :
        searchAll (search (next e.graph) (e.graph.keys.length + 1) []) e.graph.keys [] = (false, e.walk.visited) ∧ _ :=
      foldl_searches (w := { errors := e.errors }) (fun w x => visit_clean _ x w) (fun x there w same known none => ?_)
        (List.nil_subset e.taskIds) none
    · obtain ⟨settled, -, -, reached⟩ := searchAll_false (fun _ _ _ settled apart => search_false settled apart) .nil
        (List.forall_mem_nil _) walks.1
      have left {task : TaskDefinition} (within : task ∈ definition.tasks) : task.id ∈ e.walk.visited :=
        reached _ ((of.keys _).2 (List.mem_map_of_mem within))
      refine ⟨foldl_clean (fun w x => visit_clean _ x w) none, fun x y depends => ?_, fun x path => ?_⟩
      · have edge : Edge (next e.graph) x y := (of.edges x y).2 depends
        obtain ⟨task, within, rfl, _⟩ := depends
        exact (of.taskIds y).1 (walks.2 (settled.closed (left within) (.single edge)))
      · obtain ⟨y, ⟨task, within, rfl, _⟩, _⟩ := TransGen.head'_iff.1 path
        exact settled.acyclic (left within) (edges ▸ path)
    · have one := visit_search (fun id listed => (of.keys id).2 ((of.taskIds id).1 listed)) _ x w ?_
        ((of.taskIds x).2 ((of.keys x).1 there)) (by omega) known none
      · rw [same] at one
        exact ⟨one.1, one.2, (visit_visiting _ x w).trans same⟩
      · rw [same]
        exact ⟨List.nodup_nil, List.nil_subset _, fun _ within => by cases within⟩
  · rintro ⟨none, defined, acyclic⟩
    have kept : e.walk.errors = e.errors ∧ e.walk.visiting = [] := by
      refine List.foldlRecOn (motive := fun w : Walk => w.errors = e.errors ∧ w.visiting = []) _ _ ⟨rfl, rfl⟩ ?_
      rintro w ⟨same, path⟩ x _
      refine ⟨(visit_finds ?_ ?_ _ x w fun y within => ?_).trans same, (visit_visiting _ x w).trans path⟩
      · rwa [Acyclic, edges]
      · exact fun x y edge => (of.taskIds y).2 (defined x y ((of.edges x y).1 edge))
      · rw [path] at within
        cases within
    exact kept.1.trans none

end

lemma validateWorkflow_eq {definition : WorkflowDefinition} : validateWorkflow definition = [] ↔
    definition.name ≠ "" ∧ definition.tasks ≠ [] ∧ definition.entries.walk.errors = [] := by
  unfold validateWorkflow
  by_cases named : definition.name = "" <;> by_cases empty : definition.tasks = [] <;> simp [named, empty]

lemma entries_clean {definition : WorkflowDefinition} : definition.entries.errors = [] ↔
    (∀ task ∈ definition.tasks, task.Ranged) ∧ definition.ids.Nodup := by
  refine (entries_errors definition.tasks 0 {}).trans ?_
  simp [WorkflowDefinition.ids]

lemma executable {definition : WorkflowDefinition} (valid : validateWorkflow definition = []) :
    definition.Executable := by
  obtain ⟨named, tasks, none⟩ := validateWorkflow_eq.1 valid
  obtain ⟨ranged, distinct⟩ := entries_clean.1 (foldl_clean (fun w x => visit_clean _ x w) none)
  obtain ⟨_, defined, acyclic⟩ := (walk_errors (entries_of ranged distinct)).1 none
  exact ⟨named, tasks, ranged, distinct, defined, acyclic⟩

/-- `validate_workflow` has nothing to say about a definition exactly when its fields are in their ranges, the ids of
its tasks differ, all dependencies are ids, and no task depends on itself, however indirectly. -/
theorem validateWorkflow_iff (definition : WorkflowDefinition) :
    validateWorkflow definition = [] ↔ definition.Executable := by
  refine ⟨executable, fun ⟨named, tasks, ranged, distinct, defined, acyclic⟩ => ?_⟩
  refine validateWorkflow_eq.2 ⟨named, tasks, ?_⟩
  exact (walk_errors (entries_of ranged distinct)).2 ⟨entries_clean.2 ⟨ranged, distinct⟩, defined, acyclic⟩

/-! ## The tasks of a job -/

def WorkflowJob.next (j : WorkflowJob) (id : TaskId) : List TaskId := ((j.tasks.get? id).map (·.dependencies)).getD []

/-- The dependencies of the tasks of a job are tasks of it, and lead back to no task. -/
structure WorkflowJob.Layered (j : WorkflowJob) : Prop where
  acyclic : Acyclic j.next
  listed : ∀ x y, Edge j.next x y → y ∈ j.tasks.keys

lemma WorkflowDefinition.newJob_keys {definition : WorkflowDefinition} {job : JobId} {params : Dict String Json}
    {id : TaskId} (within : id ∈ definition.ids) : id ∈ (definition.newJob job params).tasks.keys := by
  have filled (defs : List TaskDefinition) (tasks : Dict TaskId WorkflowTask)
      (within : id ∈ defs.map (·.id) ∨ id ∈ tasks.keys) : id ∈ (defs.foldl (fun tasks d => tasks.set d.id
        { dependencies := d.dependencies, approval := d.firstApproval }) tasks).keys := by
    induction defs generalizing tasks with
    | nil => exact within.resolve_left List.not_mem_nil
    | cons d defs ih =>
      refine ih _ ?_
      rw [Dict.mem_keys_set]
      rw [List.map_cons, List.mem_cons] at within
      tauto
  exact filled definition.tasks ∅ (.inl within)

variable {clock : ℕ → ℚ} {R : WorkflowJob → Prop} {j : WorkflowJob}

lemma WorkflowJob.edge_iff {x y : TaskId} :
    Edge j.next x y ↔ ∃ t, j.tasks.get? x = some t ∧ y ∈ t.dependencies := by
  unfold Edge next
  cases j.tasks.get? x <;> simp

lemma WorkflowJob.Layered.of_get? {j' : WorkflowJob} (h : j.Layered) (kept : ∀ id, (j'.tasks.get? id).map
    (·.dependencies) = (j.tasks.get? id).map (·.dependencies)) : j'.Layered := by
  have same : j'.next = j.next := funext fun id => congrArg (·.getD []) (kept id)
  refine ⟨same ▸ h.acyclic, fun x y edge => ?_⟩
  obtain ⟨t, found⟩ := Dict.mem_keys_iff.1 (h.listed x y (same ▸ edge))
  have there := kept y
  rw [found, Option.map_some] at there
  obtain ⟨t', found', _⟩ := Option.map_eq_some_iff.1 there
  exact Dict.mem_keys_iff.2 ⟨t', found'⟩

lemma layered_jobInvariant : JobInvariant R fun _ => WorkflowJob.Layered where
  grows := fun _ _ _ _ => id
  created := by
    intro _ definition job params valid
    have is := executable valid
    have depends {x y : TaskId} (edge : Edge (definition.newJob job params).next x y) : definition.Depends x y := by
      obtain ⟨t, found, member⟩ := WorkflowJob.edge_iff.1 edge
      obtain ⟨d, within, same, rfl⟩ := WorkflowDefinition.newJob_task found
      exact ⟨d, within, same, member⟩
    exact ⟨fun x path => is.acyclic x (TransGen.lift id (fun _ _ => depends) _ _ path),
      fun x y edge => WorkflowDefinition.newJob_keys (is.defined x y (depends edge))⟩
  loaded := by
    intro _ j h
    refine h.of_get? fun id => ?_
    obtain ⟨f, loaded, is⟩ := j.get?_load id
    rw [loaded, Option.map_map]
    refine congrArg (Option.map · _) (funext fun t => ?_)
    obtain ⟨error, is⟩ := is t
    rw [Function.comp_apply, is]
  moved := by
    intro _ _ _ j j' h m
    refine h.of_get? fun id => ?_
    cases m with
    | task id' found move =>
      rw [WorkflowJob.get?_update]
      split
      · rename_i same
        rw [← same, found, Option.map_some, Option.map_some, move.dependencies, Option.map_some]
      · rfl
    | progress => rfl
    | status => rfl
    | revise id' inputs paused closed keys values =>
      rw [show Dict.get? _ id = _ from values id, Option.map_map]
      refine congrArg (Option.map · _) (funext fun t => ?_)
      rw [Function.comp_apply]
      split <;> rfl

def WorkflowTask.settled (t : WorkflowTask) : Bool := t.status.Done && t.approval = .approved

/-- Some task of a job that is not finished waits for nothing but itself: it is ready, or runs, has failed or was
cancelled, or is done and not approved. -/
theorem unfinished_jobs_have_an_open_task {s : Engine} (r : Reachable clock s) {job : JobId} {j : WorkflowJob}
    (here : s.jobs.get? job = some j) (unfinished : j.finished = false) : ∃ id t, j.tasks.get? id = some t ∧
      (t.status = .pending ∧ j.ready t = true ∨ t.status ∈ [TaskStatus.running, .failed, .cancelled] ∨
        t.status.Done ∧ t.approval ≠ .approved) := by
  have layered : j.Layered := (r.jobs layered_jobInvariant).jobs job j here
  let waiting : List TaskId := j.tasks.keys.filter fun id => (j.tasks.get? id).any fun t => !t.settled
  have mem (id : TaskId) : id ∈ waiting ↔ ∃ t, j.tasks.get? id = some t ∧ t.settled = false := by
    rw [List.mem_filter, Dict.mem_keys_iff]
    cases j.tasks.get? id <;> simp
  have some : waiting ≠ [] := by
    obtain ⟨t, within, is⟩ := List.all_eq_false.1 unfinished
    obtain ⟨id, found⟩ := Dict.mem_values_iff.1 within
    exact List.ne_nil_of_mem ((mem id).2 ⟨t, found, Bool.not_eq_true _ ▸ is⟩)
  obtain ⟨id, open_, first⟩ := layered.acyclic.minimal some
  obtain ⟨t, found, is⟩ := (mem id).1 open_
  refine ⟨id, t, found, ?_⟩
  cases status : t.status with
  | pending =>
    refine .inl ⟨rfl, WorkflowJob.ready_iff.2 fun dep member => ?_⟩
    have edge : Edge j.next id dep := WorkflowJob.edge_iff.2 ⟨t, found, member⟩
    obtain ⟨d, there⟩ := Dict.mem_keys_iff.1 (layered.listed id dep edge)
    have settled : d.settled = true := by
      by_contra unsettled
      exact first dep edge ((mem dep).2 ⟨d, there, Bool.eq_false_of_not_eq_true unsettled⟩)
    have both := Bool.and_eq_true_iff.1 settled
    exact ⟨d, there, of_decide_eq_true both.1, of_decide_eq_true both.2⟩
  | running | failed | cancelled => simp
  | completed | skipped =>
    refine .inr (.inr ⟨by decide, fun approved => ?_⟩)
    rw [WorkflowTask.settled, status, approved] at is
    exact Bool.noConfusion is

/-- The second of two tasks waits for the first, which is completed and waits for its approval. -/
def gatedRun : Engine := runs (fun _ => 0) {}
  [.create ⟨"gated", [{ id := "a", type := "text", approvalRequired := true },
      { id := "b", type := "text", dependencies := ["a"] }]⟩ ∅,
    .register "n" ["text"] {} ∅, .start 0 true, .result "n" 0 (.ok (.json .null)), .tick true]

example : (["a", "b"].map fun id => (gatedRun.task? 0 id).map fun t => (t.status, t.approval)) =
    [some (.completed, .pending), some (.pending, .approved)] := by decide +kernel

theorem unfinished_jobs_have_an_open_task_gate : ∃ j id t,
    gatedRun.jobs.get? 0 = some j ∧ j.tasks.get? id = some t ∧
      (t.status = .pending ∧ j.ready t = true ∨ t.status ∈ [TaskStatus.running, .failed, .cancelled] ∨
        t.status.Done ∧ t.approval ≠ .approved) := by
  have unfinished : (gatedRun.jobs.get? 0).map (·.finished) = some false := by decide +kernel
  obtain ⟨j, here, is⟩ := Option.map_eq_some_iff.1 unfinished
  obtain ⟨id, t, found, is⟩ := unfinished_jobs_have_an_open_task (reachable_empty _) here is
  exact ⟨j, id, t, here, found, is⟩

end Vertep.Workflow
