import Vertep.Core.OtherNodes

/-!
# Claim requests that overlap (`core/api/tasks.py`)

`claim_task` runs in a thread of its own. It copies the record of its node, and long after, when the queue was searched,
it files that copy with the task it gives. `Phase` says where such a request stands between two accesses to the records
or to the queue, and `Phase.step` is the next access; alone, a request does what `claimTask` says. A `World` has any
number of requests of one node under way.
-/

namespace Vertep.Core.Overlap
open Lib Queue

/-! ## A request, step by step -/

/-- Where a claim request stands. -/
inductive Phase where
  | entered
  /-- the record was copied, and its node is idle -/
  | idle (worker : Worker)
  /-- some turns of the loop are left, with the tasks that are kept aside -/
  | scanning (worker : Worker) (left : ℕ) (held : List TaskId)
  | claimed (worker : Worker) (left : ℕ) (held : List TaskId) (item : Item TaskBody)
  /-- the task is dropped once those kept aside are back -/
  | dropping (worker : Worker) (left : ℕ) (held : List TaskId) (item : Item TaskBody)
  /-- the task is given once those kept aside are back -/
  | giving (worker : Worker) (held : List TaskId) (item : Item TaskBody)
  /-- these records may still be bound to the task -/
  | unbinding (worker : Worker) (item : Item TaskBody) (rest : List NodeName)
  | filed (item : Item TaskBody)
  | busy (item : Item TaskBody)
  | assigned (item : Item TaskBody)
  /-- there is no task, once those kept aside are back -/
  | closing (held : List TaskId)
  | done (task : Option (Item TaskBody))
deriving DecidableEq

/-- `task_queue.release` of a task. -/
def giveBack (env : Env) (id : TaskId) (c : System) : System :=
  { c with queue := (c.queue.release id env.now c.nextId).2, nextId := c.nextId + 1 }

/-- A write into `store.workers[node]`, which raises where there is no such record. -/
def mark (node : NodeName) (f : Worker → Worker) (next : Phase) (c : System) : Phase × System :=
  match c.workers.get? node with
  | some w => (next, { c with workers := c.workers.set node (f w) })
  | none => (.done none, c)

/-- One turn of the loop over the other records. -/
def unbindOne (node other : NodeName) (task : TaskId) (c : System) : System :=
  match c.workers.get? other with
  | some w =>
    if other ≠ node ∧ w.currentTask = some task then { c with workers := c.workers.set other w.reassigned } else c
  | none => c

/-- What a claimed task writes into its Job, as far as it is still there. -/
def assign (node : NodeName) (item : Item TaskBody) (c : System) : System :=
  match c.jobs.get? item.payload.jobId with
  | some job => (c.on item.payload.jobId job (Act.take node item)).2
  | none => c

/-- The next access of the request to the records or to the queue. -/
def Phase.step (env : Env) (p : Claim) : Phase → System → Phase × System
  | .entered, c =>
    match (if env.authorized then admitted env p c else none) with
    | some worker => (.idle worker, c)
    | none => (.done none, c)
  | .idle worker, c => (.scanning worker (max 1 c.queue.ready.length) [], c)
  | .scanning _ 0 held, c => (.closing held, c)
  | .scanning worker (n + 1) held, c =>
    match c.queue.claim env.now env.lease with
    | (none, queue) => (.closing held, { c with queue := queue })
    | (some item, queue) => (.claimed worker n held item, { c with queue := queue })
  | .claimed worker n held item, c =>
    match (c.jobs.get? item.payload.jobId).map fun job => verdict env worker c.jobs job item with
    | none | some .drop => (.scanning worker n held, { c with queue := c.queue.ack item.taskId })
    | some .hold => (.scanning worker n (held ++ [item.taskId]), c)
    | some .releaseAndDrop => (.dropping worker n held item, c)
    | some .take => (.giving worker held item, c)
  | .dropping worker n (id :: held) item, c => (.dropping worker n held item, giveBack env id c)
  | .dropping worker n [] item, c => (.scanning worker n [], { c with queue := c.queue.ack item.taskId })
  | .giving worker (id :: held) item, c => (.giving worker held item, giveBack env id c)
  | .giving worker [] item, c =>
    (.unbinding worker item (if item.payload.claimKind = .assembly then c.workers.keys else []),
      assign p.nodeName item c)
  | .unbinding worker item (other :: rest), c =>
    (.unbinding worker item rest, unbindOne p.nodeName other item.taskId c)
  | .unbinding worker item [], c => (.filed item, { c with workers := c.workers.set p.nodeName worker })
  | .filed item, c => mark p.nodeName ({ · with status := .busy }) (.busy item) c
  | .busy item, c => mark p.nodeName ({ · with currentJob := some item.payload.jobId }) (.assigned item) c
  | .assigned item, c => mark p.nodeName ({ · with currentTask := some item.taskId }) (.done (some item)) c
  | .closing (id :: held), c => (.closing held, giveBack env id c)
  | .closing [], c => (.done none, c)
  | .done task, c => (.done task, c)

/-! ## Alone -/

section
variable {env : Env} {p : Claim} {worker : Worker} {item : Item TaskBody} {c : System}

abbrev Steps (env : Env) (p : Claim) : Phase × System → Phase × System → Prop :=
  Relation.ReflTransGen fun x y => y = x.1.step env p x.2

lemma closing_steps (held : List TaskId) (c : System) :
    Steps env p (.closing held, c) (.done none, c.releaseAll env held) := by
  induction held generalizing c with
  | nil => exact .single rfl
  | cons id held ih => exact .head rfl (ih (giveBack env id c))

lemma dropping_steps (n : ℕ) (held : List TaskId) (c : System) :
    Steps env p (.dropping worker n held item, c) (.scanning worker n [],
      { c.releaseAll env held with queue := (c.releaseAll env held).queue.ack item.taskId }) := by
  induction held generalizing c with
  | nil => exact .single rfl
  | cons id held ih => exact .head rfl (ih (giveBack env id c))

lemma giving_steps (held : List TaskId) (c : System) :
    Steps env p (.giving worker held item, c) (.giving worker [] item, c.releaseAll env held) := by
  induction held generalizing c with
  | nil => exact .refl
  | cons id held ih => exact .head rfl (ih (giveBack env id c))

lemma unbinding_steps (rest : List NodeName) (c : System) :
    Steps env p (.unbinding worker item rest, c)
      (.unbinding worker item [], rest.foldl (fun c other => unbindOne p.nodeName other item.taskId c) c) := by
  induction rest generalizing c with
  | nil => exact .refl
  | cons other rest ih => exact .head rfl (ih _)

/-- Record after record, the binding is dropped as `unbind` drops it. -/
lemma unbindOne_foldl (node : NodeName) (task : TaskId) (c : System) :
    c.workers.keys.foldl (fun c other => unbindOne node other task c) c =
      { c with workers := unbind node task c.workers } := by
  rw [Dict.keys, List.foldl_map, unbind]
  -- the records that are still to come are as they were
  have walk (es : List (NodeName × Worker)) : ∀ c' : System, (es.map Prod.fst).Nodup →
      (∀ e ∈ es, c'.workers.get? e.1 = some e.2) →
      es.foldl (fun c e => unbindOne node e.1 task c) c' =
        { c' with
          workers :=
            es.foldl (fun workers e =>
              if e.1 ≠ node ∧ e.2.currentTask = some task then workers.set e.1 e.2.reassigned else workers)
              c'.workers } := by
    induction es with
    | nil => exact fun _ _ _ => rfl
    | cons e es ih =>
      intro c' nodup there
      obtain ⟨absent, nodup⟩ := List.nodup_cons.1 nodup
      have here := there e List.mem_cons_self
      rw [List.foldl_cons, List.foldl_cons]
      rw [unbindOne, here]
      dsimp only
      split
      · apply ih _ nodup
        intro e' within
        have other : e.1 ≠ e'.1 := fun same => absent (List.mem_map.2 ⟨e', within, same.symm⟩)
        rw [Dict.get?_set, if_neg other]
        exact there e' (List.mem_cons_of_mem e within)
      · exact ih c' nodup fun e' within => there e' (List.mem_cons_of_mem e within)
  exact walk c.workers.entries c c.workers.nodup fun e within => Dict.mem_entries_iff.1 within

instance keepsWorkers_take (node : NodeName) (item : Item TaskBody) :
    Command.Keeps Ctx.workers (Act.take node item) := by
  unfold Act.take
  refine .next fun job => ?_
  cases item.payload.claimKind with
  | scene =>
    dsimp only
    split
    · infer_instance
    · infer_instance
  | _ => infer_instance

lemma mark_set (node : NodeName) (f : Worker → Worker) (next : Phase) (w : Worker) (c : System) :
    mark node f next { c with workers := c.workers.set node w } =
      (next, { c with workers := c.workers.set node (f w) }) := by
  rw [mark, Dict.get?_set, if_pos rfl]
  dsimp only
  rw [Dict.set_set]

lemma give_steps {job : Job} (found : c.jobs.get? item.payload.jobId = some job) :
    Steps env p (.giving worker [] item, c) (.done (some item), c.give p worker job item) := by
  let c₁ : System := (c.on item.payload.jobId job (Act.take p.nodeName item)).2
  have assigned : assign p.nodeName item c = c₁ := by
    rw [assign, found]
  have workers : c₁.workers = c.workers :=
    Command.Within.keeps (keepsWorkers_take p.nodeName item) (c.ctx item.payload.jobId job)
  let records : Dict NodeName Worker :=
    if item.payload.claimKind = .assembly then unbind p.nodeName item.taskId c₁.workers else c₁.workers
  have unbound : Steps env p (.giving worker [] item, c)
      (.unbinding worker item [], { c₁ with workers := records }) := by
    have first : (Phase.giving worker [] item).step env p c =
        (.unbinding worker item (if item.payload.claimKind = .assembly then c₁.workers.keys else []), c₁) := by
      rw [Phase.step, assigned, workers]
    refine .head first.symm ((unbinding_steps _ c₁).trans ?_)
    split
    · rename_i assembly
      rw [unbindOne_foldl]
      simp only [records, if_pos assembly]
      exact .refl
    · rename_i other
      simp only [records, if_neg other]
      exact .refl
  -- what is left are the four writes into the record
  refine unbound.trans (.head rfl ?_)
  refine .head (mark_set p.nodeName _ _ worker { c₁ with workers := records }).symm ?_
  refine .head (mark_set p.nodeName _ _ _ { c₁ with workers := records }).symm ?_
  exact .head (mark_set p.nodeName _ _ _ { c₁ with workers := records }).symm .refl

lemma releaseAll_jobs (env : Env) (held : List TaskId) (c : System) : (c.releaseAll env held).jobs = c.jobs := by
  induction held generalizing c with
  | nil => rfl
  | cons id held ih => exact ih (giveBack env id c)

lemma scan_steps (n : ℕ) (held : List TaskId) (c : System) :
    Steps env p (.scanning worker n held, c)
      (.done (claimScan env p worker n held c).1, (claimScan env p worker n held c).2) := by
  induction n generalizing held c with
  | zero => exact .head rfl (closing_steps held c)
  | succ n ih =>
    rw [claimScan]
    rcases served : c.queue.claim env.now env.lease with ⟨_ | item, queue⟩
    · have first : (Phase.scanning worker (n + 1) held).step env p c = (.closing held, { c with queue := queue }) := by
        rw [Phase.step, served]
      exact .head first.symm (closing_steps held _)
    · have first : (Phase.scanning worker (n + 1) held).step env p c =
          (.claimed worker n held item, { c with queue := queue }) := by
        rw [Phase.step, served]
      refine .head first.symm ?_
      dsimp only
      cases found : c.jobs.get? item.payload.jobId with
      | none =>
        refine .head ?_ (ih held _)
        rw [Phase.step, found]
        rfl
      | some job =>
        dsimp only
        cases said : verdict env worker c.jobs job item with
        | drop =>
          refine .head ?_ (ih held _)
          simp only [Phase.step, found, Option.map_some, said]
        | hold =>
          refine .head ?_ (ih (held ++ [item.taskId]) _)
          simp only [Phase.step, found, Option.map_some, said]
        | releaseAndDrop =>
          refine .head ?_ ((dropping_steps n held _).trans (ih [] _))
          simp only [Phase.step, found, Option.map_some, said]
        | take =>
          refine .head ?_ ((giving_steps held _).trans (give_steps ?_))
          · simp only [Phase.step, found, Option.map_some, said]
          · rw [releaseAll_jobs]
            exact found

/-- **A request alone** does what `claimTask` says. -/
theorem claimTask_steps (env : Env) (p : Claim) (c : System) (authorized : env.authorized = true) :
    ∃ task, (claimTask env p c).1 = .ok task ∧ Steps env p (.entered, c) (.done task, (claimTask env p c).2) := by
  rw [claimTask, if_neg (not_not.2 authorized)]
  cases admits : admitted env p c with
  | none =>
    refine ⟨none, rfl, .single ?_⟩
    simp only [Phase.step, authorized, if_true, admits]
  | some worker =>
    have scan : Steps env p (.idle worker, c) (.done (claimScan env p worker (max 1 c.queue.ready.length) [] c).1,
        (claimScan env p worker (max 1 c.queue.ready.length) [] c).2) := .head rfl (scan_steps _ [] c)
    refine ⟨_, rfl, .head ?_ scan⟩
    simp only [Phase.step, authorized, if_true, admits]

end

/-! ## Requests of one node -/

/-- The request has copied the record and has not answered yet. -/
def Phase.underWay : Phase → Bool
  | .entered | .done _ => false
  | _ => true

/-- A claim request and where it stands. -/
structure Handling where
  claim : Claim
  phase : Phase := .entered

/-- The claim requests of a node that CORE handles, and the tasks it handed to that node which have been in flight ever
since. -/
structure World where
  core : System
  requests : List Handling := []
  handed : List TaskId := []

/-- The task the request was answered with. -/
def Phase.task : Phase → Option TaskId
  | .done task => task.map Item.taskId
  | _ => none

def answered (before after : Phase) : List TaskId := if before.underWay then after.task.toList else []

/-- The request `i` makes its next access. -/
def World.turn (env : Env) (i : ℕ) (h : Handling) (w : World) : World :=
  let (phase, core) := h.phase.step env h.claim w.core
  { core := core
    requests := w.requests.set i { h with phase := phase }
    handed := (answered h.phase phase ++ w.handed).filter (inFlight core.queue) }

def World.goOn (w : World) (c : System) : World := { w with core := c, handed := w.handed.filter (inFlight c.queue) }

/-- A request of the node comes in, or copies the record where `may` allows it, or goes on; or a result or a heartbeat
of another node is handled. -/
inductive Step (node : NodeName) (may : List Handling → Prop) : World → World → Prop
  | arrives (w : World) (p : Claim) (own : p.nodeName = node) :
    Step node may w { w with requests := w.requests ++ [{ claim := p }] }
  | turn (w : World) (env : Env) (i : ℕ) (h : Handling) (there : w.requests[i]? = some h)
      (can : h.phase = .entered → may w.requests) : Step node may w (w.turn env i h)
  | result (w : World) (env : Env) (r : TaskResult) (other : r.nodeName ≠ node) :
    Step node may w (w.goOn (taskResult env r w.core).2)
  | heartbeat (w : World) (env : Env) (p : Heartbeat) (other : p.nodeName ≠ node) :
    Step node may w (w.goOn (Core.heartbeat env p w.core).2)

/-- No request is under way, and the node has the task that its record names. -/
def World.start (node : NodeName) (c : System) : World where
  core := c
  handed := ((c.workers.get? node).bind Worker.currentTask).toList.filter (inFlight c.queue)

def Runs (node : NodeName) (may : List Handling → Prop) (c : System) (w : World) : Prop :=
  Relation.ReflTransGen (Step node may) (.start node c) w

/-- What is kept: one request at most is under way, and meanwhile nothing is handed out; what is handed out is the task
of the record. -/
structure Sound (node : NodeName) (w : World) : Prop where
  own : ∀ h ∈ w.requests, h.claim.nodeName = node
  one : ∀ (i j : ℕ) (h h' : Handling), w.requests[i]? = some h → w.requests[j]? = some h' → h.phase.underWay →
    h'.phase.underWay → i = j
  free : ∀ h ∈ w.requests, h.phase.underWay → w.handed = []
  bound : ∀ task ∈ w.handed, Bound node w.core.workers task

section
variable {node : NodeName} {env : Env} {p : Claim} {c : System} {w w' : World} {phase : Phase} {item : Item TaskBody}

lemma Bound.eq {task task' : TaskId} (b : Bound node c.workers task) (b' : Bound node c.workers task') :
    task = task' := by
  obtain ⟨w, found, is⟩ := b
  obtain ⟨w', found', is'⟩ := b'
  obtain rfl := Option.some.inj (found.symm.trans found')
  exact Option.some.inj (is.symm.trans is')

lemma not_bound_of_admitted {worker : Worker} (admits : admitted env p c = some worker) (task : TaskId) :
    ¬ Bound p.nodeName c.workers task := by
  rintro ⟨w, found, is⟩
  rw [admitted] at admits
  split at admits
  · rw [found, Option.filter_some] at admits
    simp [is] at admits
  · cases admits

lemma bound_of_step (runs : phase.underWay = true) (answers : (phase.step env p c).1 = .done (some item)) :
    Bound p.nodeName (phase.step env p c).2.workers item.taskId := by
  have marks (f : Worker → Worker) (next : Phase) (other : next ≠ .done (some item)) :
      (mark p.nodeName f next c).1 ≠ .done (some item) := by
    rw [mark]
    split
    · exact other
    · exact fun h => by cases h
  cases phase with
  | entered => cases runs
  | done task => cases runs
  | idle worker => cases answers
  | scanning worker left held =>
    cases left with
    | zero => cases answers
    | succ n =>
      rw [Phase.step] at answers
      split at answers
      · cases answers
      · cases answers
  | claimed worker left held item =>
    rw [Phase.step] at answers
    split at answers
    all_goals cases answers
  | dropping worker left held item =>
    cases held with
    | nil => cases answers
    | cons id held => cases answers
  | giving worker held item =>
    cases held with
    | nil => cases answers
    | cons id held => cases answers
  | unbinding worker item rest =>
    cases rest with
    | nil => cases answers
    | cons other rest => cases answers
  | filed item | busy item => exact absurd answers (marks _ _ fun h => by cases h)
  | assigned item' =>
    simp only [Phase.step, mark] at answers ⊢
    cases found : c.workers.get? p.nodeName with
    | none =>
      rw [found] at answers
      cases answers
    | some w =>
      rw [found] at answers
      cases answers
      exact ⟨_, (Dict.get?_set _ _ _ _).trans (if_pos rfl), rfl⟩
  | closing held =>
    cases held with
    | nil => cases answers
    | cons id held => cases answers

/-! ## One task -/

lemma underWay_of_step (runs : (phase.step env p c).1.underWay = true) : phase.underWay = true ∨ phase = .entered := by
  cases phase with
  | entered => exact .inr rfl
  | done task => cases runs
  | _ => exact .inl rfl

lemma step_of_not_underWay (stands : phase.underWay = false) : (phase.step env p c).2 = c := by
  cases phase with
  | entered =>
    rw [Phase.step]
    split
    · rfl
    · rfl
  | done task => rfl
  | _ => cases stands

lemma answered_of_not_underWay {after : Phase} (stands : phase.underWay = false) : answered phase after = [] := by
  rw [answered, stands]
  rfl

lemma answered_of_underWay {after : Phase} (runs : after.underWay = true) : answered phase after = [] := by
  have none_ : after.task = none := by
    cases after with
    | done task => cases runs
    | _ => rfl
  rw [answered, none_, Option.toList_none, ite_self]

lemma mem_answered {after : Phase} {task : TaskId} (within : task ∈ answered phase after) :
    phase.underWay = true ∧ ∃ item : Item TaskBody, after = .done (some item) ∧ item.taskId = task := by
  rw [answered] at within
  split at within
  · rename_i runs
    refine ⟨runs, ?_⟩
    rw [Option.mem_toList] at within
    cases after with
    | done answer =>
      obtain ⟨item, rfl, same⟩ := Option.map_eq_some_iff.1 within
      exact ⟨item, rfl, same⟩
    | _ => cases within
  · cases within

/-- The request at a place after a turn of the request `i`. -/
lemma turn_request {i j : ℕ} {h h' : Handling} (there : w.requests[i]? = some h)
    (after : (w.turn env i h).requests[j]? = some h') :
    i = j ∧ h' = { h with phase := (h.phase.step env h.claim w.core).1 } ∨ i ≠ j ∧ w.requests[j]? = some h' := by
  rw [World.turn, List.getElem?_set] at after
  split at after
  · rename_i same
    rw [if_pos (List.getElem?_eq_some_iff.1 there).1] at after
    exact .inl ⟨same, (Option.some.inj after).symm⟩
  · rename_i other
    exact .inr ⟨other, after⟩

lemma Sound.turn (sound : Sound node w) {i : ℕ} {h : Handling} (there : w.requests[i]? = some h)
    (can : h.phase = .entered → ∀ h' ∈ w.requests, ¬ h'.phase.underWay) : Sound node (w.turn env i h) := by
  have own : h.claim.nodeName = node := sound.own h (List.mem_of_getElem? there)
  -- while another request is under way this one only stands
  have stands (j : ℕ) (h' : Handling) (other : i ≠ j) (there' : w.requests[j]? = some h') (runs : h'.phase.underWay) :
      h.phase.underWay = false ∧ h.phase ≠ .entered := by
    refine ⟨Bool.eq_false_iff.2 fun also => other (sound.one i j h h' there there' also runs), fun entered => ?_⟩
    exact can entered h' (List.mem_of_getElem? there') runs
  have others (j : ℕ) (h' : Handling) (other : i ≠ j) (there' : w.requests[j]? = some h') (runs : h'.phase.underWay) :
      ¬ (h.phase.step env h.claim w.core).1.underWay := by
    intro also
    obtain ⟨stands, begun⟩ := stands j h' other there' runs
    rcases underWay_of_step also with goes | entered
    · rw [stands] at goes
      cases goes
    · exact begun entered
  refine ⟨fun h' within => ?_, fun a b ha hb there₁ there₂ runs₁ runs₂ => ?_, fun h' within runs => ?_,
    fun task within => ?_⟩
  · obtain ⟨j, after⟩ := List.mem_iff_getElem?.1 within
    rcases turn_request there after with ⟨-, rfl⟩ | ⟨-, there'⟩
    · exact own
    · exact sound.own h' (List.mem_of_getElem? there')
  · rcases turn_request there there₁ with ⟨rfl, rfl⟩ | ⟨other₁, old₁⟩
    · rcases turn_request there there₂ with ⟨same, -⟩ | ⟨other₂, old₂⟩
      · exact same
      · exact absurd runs₁ (others b hb other₂ old₂ runs₂)
    · rcases turn_request there there₂ with ⟨-, rfl⟩ | ⟨-, old₂⟩
      · exact absurd runs₂ (others a ha other₁ old₁ runs₁)
      · exact sound.one a b ha hb old₁ old₂ runs₁ runs₂
  · obtain ⟨j, after⟩ := List.mem_iff_getElem?.1 within
    suffices none_ : answered h.phase (h.phase.step env h.claim w.core).1 = [] ∧ w.handed = [] by
      change (answered h.phase (h.phase.step env h.claim w.core).1 ++ w.handed).filter _ = []
      rw [none_.1, none_.2]
      rfl
    rcases turn_request there after with ⟨-, rfl⟩ | ⟨other, there'⟩
    · refine ⟨answered_of_underWay runs, ?_⟩
      rcases underWay_of_step runs with goes | entered
      · exact sound.free h (List.mem_of_getElem? there) goes
      · -- the record that was just copied names no task
        have admits : ∃ worker, admitted env h.claim w.core = some worker := by
          rw [entered, Phase.step] at runs
          split at runs
          · rename_i worker admits
            split at admits
            · exact ⟨worker, admits⟩
            · cases admits
          · cases runs
        obtain ⟨worker, admits⟩ := admits
        rw [List.eq_nil_iff_forall_not_mem]
        intro task within
        apply not_bound_of_admitted admits task
        rw [own]
        exact sound.bound task within
    · refine ⟨answered_of_not_underWay (stands j h' other there' runs).1, ?_⟩
      exact sound.free h' (List.mem_of_getElem? there') runs
  · obtain ⟨within, -⟩ := List.mem_filter.1 within
    rcases List.mem_append.1 within with new | old
    · obtain ⟨runs, item, answers, rfl⟩ := mem_answered new
      rw [← own]
      exact bound_of_step runs answers
    · have stands : h.phase.underWay = false := by
        by_contra runs
        rw [sound.free h (List.mem_of_getElem? there) (by simpa using runs)] at old
        cases old
      change Bound node (h.phase.step env h.claim w.core).2.workers task
      rw [step_of_not_underWay stands]
      exact sound.bound task old

lemma Sound.goOn (sound : Sound node w) (spares : ∀ task, Bound node w.core.workers task →
    inFlight c.queue task = true → Bound node c.workers task) : Sound node (w.goOn c) := by
  refine ⟨sound.own, sound.one, fun h within runs => ?_, fun task within => ?_⟩
  · change w.handed.filter _ = []
    rw [sound.free h within runs]
    rfl
  · obtain ⟨within, flies⟩ := List.mem_filter.1 within
    exact spares task (sound.bound task within) flies

lemma Runs.sound (run : Runs node (fun requests => ∀ h ∈ requests, ¬ h.phase.underWay) c w) : Sound node w := by
  induction run with
  | refl =>
    exact
      { own := fun h within => absurd within List.not_mem_nil
        one := fun i j h h' there => by cases there
        free := fun h within => absurd within List.not_mem_nil
        bound := fun task within => by
          obtain ⟨within, -⟩ := List.mem_filter.1 within
          exact Option.bind_eq_some_iff.1 (Option.mem_toList.1 within) }
  | @tail w' w'' _ step ih =>
    cases step with
    | arrives p own =>
      have old (j : ℕ) (h : Handling) (there : (w'.requests ++ [{ claim := p }])[j]? = some h)
          (runs : h.phase.underWay) : w'.requests[j]? = some h := by
        rw [List.getElem?_append] at there
        split at there
        · exact there
        · obtain rfl := List.mem_singleton.1 (List.mem_of_getElem? there)
          cases runs
      refine ⟨fun h within => ?_, fun i j h h' hi hj runs runs' => ?_, fun h within runs => ?_, ih.bound⟩
      · rcases List.mem_append.1 within with within | new
        · exact ih.own h within
        · obtain rfl := List.mem_singleton.1 new
          exact own
      · exact ih.one i j h h' (old i h hi runs) (old j h' hj runs') runs runs'
      · obtain ⟨j, there⟩ := List.mem_iff_getElem?.1 within
        exact ih.free h (List.mem_of_getElem? (old j h there runs)) runs
    | turn env i h there can => exact ih.turn there can
    | result env r other => exact ih.goOn fun task bound _ => bound_of_get? (record_taskResult other w'.core) bound
    | heartbeat env p other => exact ih.goOn (bound_heartbeat other w'.core)

/-- **One task for a node.** While no request of the node copies its record as another one is under way, two tasks that
the node was handed are never in flight together. -/
theorem one_task_per_node (run : Runs node (fun requests => ∀ h ∈ requests, ¬ h.phase.underWay) c w) (now : Time)
    (task task' : TaskId) (handed : task ∈ w.handed) (handed' : task' ∈ w.handed)
    (_ : w.core.queue.inflightActive task now) (_ : w.core.queue.inflightActive task' now) : task = task' :=
  (run.sound.bound task handed).eq (run.sound.bound task' handed')

end

/-! ## Two requests at once -/

/-- The requests that go on, one access each, as far as they may. -/
def World.turns (env : Env) (may : List Handling → Prop) [DecidablePred may] (order : List ℕ) (w : World) : World :=
  order.foldl (fun w i =>
    match w.requests[i]? with
    | some h => if h.phase = .entered → may w.requests then w.turn env i h else w
    | none => w) w

lemma turns_steps {node : NodeName} {may : List Handling → Prop} [DecidablePred may] (env : Env) (order : List ℕ)
    (w : World) : Relation.ReflTransGen (Step node may) w (w.turns env may order) := by
  induction order generalizing w with
  | nil => exact .refl
  | cons i order ih =>
    rw [World.turns, List.foldl_cons]
    cases there : w.requests[i]? with
    | none => exact ih w
    | some h =>
      dsimp only
      split
      · rename_i can
        exact .head (.turn w env i h there can) (ih _)
      · exact ih w

/-- Two scenes of a Job wait for a worker, and node 7 is free. -/
def scenesQueued : System :=
  System.after {}
    [.create (.plain 1) ⟨.image, 5, 3⟩,
      .ask (.plain 1) 0 (.edit { script := some ⟨[false, false]⟩ }),
      .background (fun _ => .plain 1) (fun _ => .plain 1) 0,
      .heartbeat (.plain 1) (.free 7)]

theorem claimTask_steps_scene : ∃ task, (claimTask (.plain 2) ⟨7, true, true⟩ scenesQueued).1 = .ok task ∧
    Steps (.plain 2) ⟨7, true, true⟩ (.entered, scenesQueued) (.done task, (claimTask (.plain 2) ⟨7, true, true⟩ scenesQueued).2) :=
  claimTask_steps (.plain 2) ⟨7, true, true⟩ scenesQueued rfl

/-- Two requests of node 7 are in. -/
def twoRequests : World :=
  let request : Handling := { claim := ⟨7, true, true⟩ }
  { World.start 7 scenesQueued with requests := [request, request] }

lemma twoRequests_runs (may : List Handling → Prop) [DecidablePred may] (order : List ℕ) :
    Runs 7 may scenesQueued (twoRequests.turns (.plain 2) may order) := by
  let one : World := { World.start 7 scenesQueued with requests := [{ claim := ⟨7, true, true⟩ }] }
  have first : Step 7 may (.start 7 scenesQueued) one := .arrives _ ⟨7, true, true⟩ rfl
  have second : Step 7 may one twoRequests := .arrives one ⟨7, true, true⟩ rfl
  exact .head first (.head second (turns_steps _ order twoRequests))

/-- Where the second request copies the record before the first has filed its task, both are answered with a task. -/
theorem two_tasks_for_a_node :
    ¬ ∀ (node : NodeName) (c : System) (w : World), Reachable c → Runs node (fun _ => True) c w →
      ∀ (now : Time) (task task' : TaskId), task ∈ w.handed → task' ∈ w.handed →
        w.core.queue.inflightActive task now → w.core.queue.inflightActive task' now → task = task' := by
  intro claim
  let order : List ℕ := [0, 1] ++ List.replicate 8 0 ++ List.replicate 8 1
  have same : (1 : TaskId) = 2 := by
    apply claim 7 scenesQueued _ (reachable_after _) (twoRequests_runs _ order) 3
    all_goals decide +kernel
  cases same

/-- One after the other. -/
theorem one_task_per_node_kept :
    ∃ w, Runs 7 (fun requests => ∀ h ∈ requests, ¬ h.phase.underWay) scenesQueued w ∧ 1 ∈ w.handed ∧
      ∀ task ∈ w.handed, w.core.queue.inflightActive task 3 → 1 = task := by
  let order : List ℕ := List.replicate 9 0 ++ List.replicate 9 1
  let may (requests : List Handling) : Prop := ∀ h ∈ requests, ¬ h.phase.underWay
  have run := twoRequests_runs may order
  have handed : 1 ∈ (twoRequests.turns (.plain 2) may order).handed := by decide +kernel
  refine ⟨_, run, handed, fun task within live => ?_⟩
  exact one_task_per_node run 3 1 task handed within (by decide +kernel) live

end Vertep.Core.Overlap
