import Vertep.Core.LateResults
import Vertep.Core.Stages

/-!
# Scenes that are dispatched again (`core/api/job_helpers.py`)

A retry or a resume sets a Job to NEW, and `_prepare_and_dispatch` issues tasks for its scenes again: for
those that are PENDING or FAILED and record no task. A resume makes PENDING of PAUSED first, a retry does
not, and neither looks at a scene that is CANCELLED (as the siblings of an exhausted scene are), RUNNING, or
that records a task which has left the queue. Such a scene is waited for, and no task of it is there.
-/

namespace Vertep.Core
open Lib Queue
open Command Act

set_option synthInstance.maxSize 4000
set_option synthInstance.maxHeartbeats 200000

/-- A task in the queue is bound to the scene through `active_task_ids`. -/
def Ctx.Served (s : Ctx) (scene : SceneId) : Prop :=
  ∃ task, s.job.activeTaskIds.get? task = some scene ∧ InQueue s.queue s.jobId task

def Scene.state (scene : Scene) : SceneId × StageStatus := (scene.sceneId, scene.status)

/-- The scenes and the tasks bound to them are left alone. -/
@[reducible] def Footprint.sameScenes : Footprint where
  scenes := false
  active := false

/-- The Job never gets to its assets. -/
@[reducible] def Footprint.noAssets : Footprint where
  status := fun
    | .assetGeneration => false
    | _ => true

/-- The storyboard of the Job is not approved. -/
@[reducible] def Footprint.noStoryboard : Footprint where
  status := fun
    | .storyboardApproved => false
    | _ => true

lemma Touched.noAssets {s s' : Ctx} (t : Touched .noAssets s s') (after : s'.job.status = .assetGeneration) :
    s.job.status = .assetGeneration := by
  rcases t.status with same | allowed
  · exact same.symm.trans after
  · rw [after] at allowed
    cases allowed

/-! ## Issuing tasks for scenes -/

lemma Moved.live {A : TaskId → Prop} {s s' : Ctx} (m : Moved A s s') (o : s.Ordered) {n : ℕ} (le : n ≤ s.nextId)
    (spared : ∀ task < n, ¬ A task) {task : TaskId} (lt : task < n) :
    InQueue s'.queue s.jobId task ↔ InQueue s.queue s.jobId task := by
  constructor
  · rintro ⟨i, member, rfl, own⟩
    rcases (m.stays o).fresh i member with member | ⟨new, _⟩
    · exact ⟨i, member, rfl, own⟩
    · exact absurd (lt.trans_le le) (not_lt.2 new)
  · rintro ⟨i, member, rfl, own⟩
    exact ⟨i, (m.stays o).kept i member (spared _ lt), rfl, own⟩

/-- What `enqueueScene` does for the scenes it gets, and with which tasks. -/
structure Dispatched (scenes : List Scene) (queued : List (Scene × TaskId)) (s s' : Ctx) : Prop where
  names : queued.map Prod.fst = scenes
  moved : Moved (fun _ => False) s s'
  states : s'.job.scenes.map Scene.state = s.job.scenes.map Scene.state
  older : ∀ task < s.nextId, s'.job.activeTaskIds.get? task = s.job.activeTaskIds.get? task
  bound : ∀ e ∈ queued, s.nextId ≤ e.2 ∧ s'.job.activeTaskIds.get? e.2 = some e.1.sceneId
  only : ∀ task scene, s.nextId ≤ task → s'.job.activeTaskIds.get? task = some scene →
    ∃ e ∈ queued, e.2 = task ∧ e.1.sceneId = scene

variable {scenes : List Scene} {envs : ℕ → Env} {parked : Option Parked}

section
variable {env : Env} {s s' : Ctx}

lemma readReferences_state : (readReferences env s).2 = s := by
  simp only [readReferences, theJob_bind]
  split <;> rfl

lemma enqueueJobTask_ok {scene : Scene} {newAttempt : Bool} {delay : ℚ} {id : TaskId}
    (fresh : newAttempt = true ∨ scene.taskId = none)
    (run : enqueueJobTask env scene newAttempt delay s = (.ok id, s')) :
    id = s.nextId ∧ ∃ item : Item TaskBody, item.taskId = s.nextId ∧ item.payload.jobId = s.jobId ∧
      s' = { s with
        queue := s.queue.push item
        nextId := s.nextId + 1
        job := { s.job with
          activeTaskId := some s.nextId
          activeTaskIds := s.job.activeTaskIds.set s.nextId scene.sceneId
          scenes := s.job.scenes.map fun other =>
            if other.sceneId = scene.sceneId then { other with taskId := some s.nextId } else other } } := by
  simp only [enqueueJobTask, taskFor, bind_bind] at run
  obtain ⟨_, s₁, asked, issued⟩ := bind_eq_ok.1 run
  obtain rfl : s₁ = s := by
    have same := @readReferences_state env s
    rwa [asked] at same
  simp only [theJob_bind, theId_bind, pure_bind_eq] at issued
  rw [bind_of_ok (enqueue_fresh env fresh)] at issued
  cases issued
  exact ⟨rfl, _, stamp_fresh fresh, rfl, rfl⟩

lemma enqueueScene_dispatched (o : s.Ordered) {scene : Scene} {e : Scene × TaskId} (fresh : scene.taskId = none)
    (run : enqueueScene env scene s = (.ok e, s')) : Dispatched [scene] [e] s s' := by
  have moved := (moves_enqueueScene (A := fun _ => False) env scene fresh).leads s
  rw [run] at moved
  obtain ⟨id, s₁, issued, done⟩ := bind_eq_ok.1 run
  cases done
  obtain ⟨rfl, item, name, own, rfl⟩ := enqueueJobTask_ok (.inr fresh) issued
  refine ⟨rfl, moved, ?_, fun task lt => ?_, ?_, fun task id le found => ?_⟩
  · simp only [List.map_map]
    refine List.map_congr_left fun other _ => ?_
    simp only [Function.comp]
    split <;> rfl
  · rw [Dict.get?_set, if_neg lt.ne']
  · simp
  · rw [Dict.get?_set] at found
    split at found
    · rename_i same
      exact ⟨_, List.mem_singleton_self _, same, Option.some.inj found⟩
    · exact absurd (o.below task .scene (Dict.mem_keys_iff.2 ⟨id, found⟩)) (not_lt.2 le)

lemma collect_dispatched (fresh : ∀ scene ∈ scenes, scene.taskId = none)
    {queued : List (Scene × TaskId)} (o : s.Ordered)
    (run : collect (enqueueScene env) scenes s = (.ok queued, s')) : Dispatched scenes queued s s' := by
  induction scenes generalizing s queued with
  | nil =>
    cases run
    refine ⟨rfl, refl_of (Moved _) _, rfl, fun _ _ => rfl, fun _ member => absurd member List.not_mem_nil, ?_⟩
    intro task id le found
    exact absurd (o.below task .scene (Dict.mem_keys_iff.2 ⟨id, found⟩)) (not_lt.2 le)
  | cons scene scenes ih =>
    obtain ⟨e, s₁, first, run⟩ := bind_eq_ok.1 run
    obtain ⟨es, s₂, rest, done⟩ := bind_eq_ok.1 run
    cases done
    have head := enqueueScene_dispatched o (fresh scene List.mem_cons_self) first
    have tail := ih (fun other member => fresh other (List.mem_cons_of_mem _ member)) (head.moved.ordered o) rest
    have later := head.moved.later
    refine ⟨?_, IsTrans.trans _ _ _ head.moved tail.moved, tail.states.trans head.states, ?_, ?_, ?_⟩
    · rw [List.map_cons, tail.names]
      exact congrArg (· :: scenes) (List.cons.inj head.names).1
    · intro task lt
      rw [tail.older task (lt.trans_le later), head.older task lt]
    · intro x member
      rcases List.mem_cons.1 member with rfl | member
      · obtain ⟨le, found⟩ := head.bound _ List.mem_cons_self
        refine ⟨le, ?_⟩
        have lt : x.2 < s₁.nextId := (head.moved.ordered o).below x.2 .scene (Dict.mem_keys_iff.2 ⟨_, found⟩)
        rw [tail.older _ lt, found]
      · obtain ⟨le, found⟩ := tail.bound x member
        exact ⟨later.trans le, found⟩
    · intro task id le found
      by_cases new : s₁.nextId ≤ task
      · obtain ⟨x, member, same⟩ := tail.only task id new found
        exact ⟨x, List.mem_cons_of_mem _ member, same⟩
      · rw [tail.older task (not_le.1 new)] at found
        obtain ⟨x, member, same⟩ := head.only task id le found
        exact ⟨x, List.mem_cons.2 (.inl (List.mem_singleton.1 member)), same⟩

lemma Dispatched.served {queued : List (Scene × TaskId)} (o : s.Ordered)
    (d : Dispatched scenes queued s s') (id : SceneId) :
    s'.Served id ↔ s.Served id ∨ ∃ scene ∈ scenes, scene.sceneId = id := by
  have live {task : TaskId} (lt : task < s.nextId) := d.moved.live o le_rfl (fun _ _ => not_false) lt
  have same := d.moved.sameJob
  constructor
  · rintro ⟨task, found, queued⟩
    by_cases new : s.nextId ≤ task
    · obtain ⟨e, member, _, scene⟩ := d.only task id new found
      exact .inr ⟨e.1, d.names ▸ List.mem_map_of_mem member, scene⟩
    · rw [d.older task (not_le.1 new)] at found
      exact .inl ⟨task, found, (live (not_le.1 new)).1 (same ▸ queued)⟩
  · rintro (⟨task, found, queued⟩ | ⟨scene, member, rfl⟩)
    · have lt : task < s.nextId := o.below task .scene (Dict.mem_keys_iff.2 ⟨id, found⟩)
      exact ⟨task, (d.older task lt).trans found, same.symm ▸ (live lt).2 queued⟩
    · rw [← d.names] at member
      obtain ⟨e, listed, rfl⟩ := List.mem_map.1 member
      obtain ⟨le, found⟩ := d.bound e listed
      have recorded : s'.job.records e.2 .scene := Dict.mem_keys_iff.2 ⟨_, found⟩
      exact ⟨e.2, found, same.symm ▸ (d.moved.stays o).issued e.2 .scene recorded le not_false⟩

/-! ## Scenes CORE draws -/

def drawn (ids : List SceneId) (state : SceneId × StageStatus) : SceneId × StageStatus :=
  if state.1 ∈ ids then (state.1, .ready) else state

lemma registerArtifact_ok {kind : ArtifactKind} {index : ℕ} {scene : Option SceneId} {task : Option TaskId}
    {node : Option NodeName} {id : ArtifactId}
    (run : registerArtifact env kind index scene task node s = (.ok id, s')) :
    id = s.nextId ∧ s' = { s with
      nextId := s.nextId + 1
      job := { s.job with artifacts := s.job.artifacts ++ [⟨s.nextId, kind, scene, task, node⟩] } } := by
  simp only [registerArtifact] at run
  cases answered : env.register kind index with
  | none =>
    rw [answered] at run
    cases run
    exact ⟨rfl, rfl⟩
  | some x =>
    rw [answered] at run
    obtain ⟨_ | _, e⟩ := x <;> cases run

/-- What `drawScene` does for the scenes and tasks it gets, where all of these are at least `n`. -/
structure Drawn (queued : List (Scene × TaskId)) (n : ℕ) (s s' : Ctx) : Prop where
  moved : Moved (n ≤ ·) s s'
  states : s'.job.scenes.map Scene.state =
    (s.job.scenes.map Scene.state).map (drawn (queued.map fun e => e.1.sceneId))
  older : ∀ task < n, s'.job.activeTaskIds.get? task = s.job.activeTaskIds.get? task
  fewer : ∀ task id, s'.job.activeTaskIds.get? task = some id → s.job.activeTaskIds.get? task = some id

lemma drawScene_drawn {e : Scene × TaskId} {n : ℕ} (le : n ≤ e.2) (run : drawScene env e s = (.ok (), s')) :
    Drawn [e] n s s' := by
  have spent : Spends (n ≤ ·) e.2 := ⟨le⟩
  have moved := (inferInstance : Moves (n ≤ ·) (drawScene env e)).leads s
  rw [run] at moved
  simp only [drawScene] at run
  obtain ⟨_, s₁, discarded, rest⟩ := bind_eq_ok.1 run
  obtain ⟨_, s₂, painted, rest'⟩ := bind_eq_ok.1 rest
  obtain ⟨id, s₃, registered, written⟩ := bind_eq_ok.1 rest'
  obtain rfl : s₂ = s₁ := (congrArg Prod.snd painted).symm
  obtain ⟨_, rfl⟩ := registerArtifact_ok registered
  cases discarded
  cases written
  refine ⟨moved, ?_, fun task lt => ?_, fun task id found => ?_⟩
  · simp only [List.map_map]
    refine List.map_congr_left fun scene _ => ?_
    by_cases same : scene.sceneId = e.1.sceneId <;>
      simp [Scene.state, finishScene, drawn, same]
  · rw [Dict.get?_pop, if_neg (lt.trans_le le).ne']
  · rw [Dict.get?_pop] at found
    split at found
    · cases found
    · exact found

lemma forEach_drawn {queued : List (Scene × TaskId)} {n : ℕ} (new : ∀ e ∈ queued, n ≤ e.2)
    (run : forEach (drawScene env) queued s = (.ok (), s')) : Drawn queued n s s' := by
  induction queued generalizing s with
  | nil =>
    cases run
    exact ⟨refl_of (Moved _) _, by simp [drawn], fun _ _ => rfl, fun _ _ found => found⟩
  | cons e queued ih =>
    obtain ⟨_, s₁, first, rest⟩ := bind_eq_ok.1 run
    have head := drawScene_drawn (new e List.mem_cons_self) first
    have tail := ih (fun x member => new x (List.mem_cons_of_mem _ member)) rest
    refine ⟨IsTrans.trans _ _ _ head.moved tail.moved, ?_, ?_, ?_⟩
    · rw [tail.states, head.states, List.map_map]
      refine List.map_congr_left fun state _ => ?_
      simp only [Function.comp, drawn, List.map_cons, List.map_nil, List.mem_cons]
      grind
    · intro task lt
      rw [tail.older task lt, head.older task lt]
    · exact fun task id found => head.fewer task id (tail.fewer task id found)

def Scene.Waits (scene : Scene) : Prop :=
  scene.taskId = none ∧ (scene.status = .pending ∨ scene.status = .failed)

lemma Script.plan_waits (script : Script) : ∀ scene ∈ script.plan, scene.Waits := by
  intro scene member
  rw [Script.plan, List.mem_mapIdx] at member
  obtain ⟨_, _, rfl⟩ := member
  exact ⟨rfl, .inl rfl⟩

def Ctx.AllServed (s : Ctx) : Prop := ∀ scene ∈ s.job.scenes, scene.status ≠ .ready → s.Served scene.sceneId

lemma Ctx.allServed_iff : s.AllServed ↔ ∀ state ∈ s.job.scenes.map Scene.state, state.2 ≠ .ready → s.Served state.1 := by
  simp only [Ctx.AllServed, List.forall_mem_map]
  rfl

/-- The scenes `_dispatch_assets` issues tasks for. -/
lemma mem_waiting {job : Job} {scene : Scene} :
    scene ∈ (pendingScenes job).filter (·.taskId.isNone) ↔ scene ∈ job.scenes ∧ scene.Waits := by
  simp only [pendingScenes, List.mem_filter, Scene.Waits, decide_eq_true_eq, Option.isNone_iff_eq_none]
  tauto

lemma Distinct.eq (d : Distinct scenes) {x y : Scene} (hx : x ∈ scenes) (hy : y ∈ scenes)
    (same : x.sceneId = y.sceneId) : x = y :=
  List.inj_on_of_nodup_map d hx hy same

section
variable {queued : List (Scene × TaskId)} (o : s.Ordered) (d : Distinct s.job.scenes)
include o d

lemma Dispatched.allServed (issued : Dispatched ((pendingScenes s.job).filter (·.taskId.isNone)) queued s s') :
    s'.AllServed ↔ ∀ scene ∈ s.job.scenes, scene.status ≠ .ready → s.Served scene.sceneId ∨ scene.Waits := by
  rw [Ctx.allServed_iff, issued.states, List.forall_mem_map]
  refine forall₂_congr fun scene member => imp_congr_right fun _ => ?_
  rw [issued.served o]
  refine or_congr_right ⟨fun ⟨other, waiting, same⟩ => ?_, fun waits => ?_⟩
  · obtain ⟨listed, waits⟩ := mem_waiting.1 waiting
    exact d.eq listed member same ▸ waits
  · exact ⟨scene, mem_waiting.2 ⟨member, waits⟩, rfl⟩

lemma Drawn.allServed {s₁ : Ctx}
    (issued : Dispatched ((pendingScenes s.job).filter (·.taskId.isNone)) queued s s₁)
    (painted : Drawn queued s.nextId s₁ s') :
    s'.AllServed ↔ ∀ scene ∈ s.job.scenes, scene.status ≠ .ready → s.Served scene.sceneId ∨ scene.Waits := by
  have waiting {scene : Scene} (member : scene ∈ s.job.scenes) :
      scene.sceneId ∈ queued.map (fun e => e.1.sceneId) ↔ scene.Waits := by
    rw [show queued.map (fun e => e.1.sceneId) = (queued.map Prod.fst).map Scene.sceneId by simp,
      issued.names, List.mem_map]
    constructor
    · rintro ⟨other, listed, same⟩
      obtain ⟨listed, waits⟩ := mem_waiting.1 listed
      exact d.eq listed member same ▸ waits
    · exact fun waits => ⟨scene, mem_waiting.2 ⟨member, waits⟩, rfl⟩
  rw [Ctx.allServed_iff, painted.states, issued.states, List.map_map, List.forall_mem_map]
  refine forall₂_congr fun scene member => ?_
  by_cases waits : scene.Waits
  · have ready : (drawn (queued.map fun e => e.1.sceneId) ∘ Scene.state) scene = (scene.sceneId, .ready) :=
      if_pos ((waiting member).2 waits)
    rw [ready]
    exact ⟨fun _ _ => .inr waits, fun _ unfinished => absurd rfl unfinished⟩
  · -- the tasks of the other scenes are those they had
    have sameJob : s'.jobId = s.jobId := painted.moved.sameJob.trans issued.moved.sameJob
    have live {task : TaskId} (lt : task < s.nextId) :
        InQueue s'.queue s.jobId task ↔ InQueue s.queue s.jobId task := by
      have second := painted.moved.live (issued.moved.ordered o) issued.moved.later (fun _ => not_le.2) lt
      rw [issued.moved.sameJob] at second
      exact second.trans (issued.moved.live o le_rfl (fun _ _ => not_false) lt)
    have older {task : TaskId} (lt : task < s.nextId) :
        s'.job.activeTaskIds.get? task = s.job.activeTaskIds.get? task :=
      (painted.older task lt).trans (issued.older task lt)
    have same : (drawn (queued.map fun e => e.1.sceneId) ∘ Scene.state) scene = scene.state :=
      if_neg fun listed => waits ((waiting member).1 listed)
    rw [same, or_iff_left waits]
    refine imp_congr_right fun _ => ⟨?_, ?_⟩
    · rintro ⟨task, found, inQueue⟩
      have lt : task < s.nextId := by
        by_contra new
        obtain ⟨e, listed, _, same⟩ := issued.only task _ (not_lt.1 new) (painted.fewer task _ found)
        exact waits ((waiting member).1 (List.mem_map.2 ⟨e, listed, same⟩))
      exact ⟨task, older lt ▸ found, (live lt).1 (sameJob ▸ inQueue)⟩
    · rintro ⟨task, found, inQueue⟩
      have lt : task < s.nextId := o.below task .scene (Dict.mem_keys_iff.2 ⟨_, found⟩)
      exact ⟨task, (older lt).trans found, sameJob.symm ▸ (live lt).2 inQueue⟩

end

/-! ## `_dispatch_assets` -/

lemma finalizeJob_assets (begun : s.job.status = .assetGeneration) :
    finalizeJob env s = finalizeJob env { s with job := { s.job with status := .assetsReady } } := by
  have goes : ¬ s.job.status.halted = true := by simp [begun, JobStatus.halted]
  have goes' : ¬ JobStatus.assetsReady.halted = true := by simp [JobStatus.halted]
  simp only [finalizeJob, theJob_bind]
  rw [if_neg goes, if_neg goes']
  rfl

lemma finalizeAndNotify_leaves {render : Option (ℕ × ℕ)}
    (begun : s.job.status = .assetGeneration) (run : finalizeAndNotify envs s = (.ok render, s')) :
    s'.job.status ≠ .assetGeneration := by
  have moved : finalizeAndNotify envs s =
      finalizeAndNotify envs { s with job := { s.job with status := .assetsReady } } := by
    have first (env : Env) : finalizeJobSafe env s =
        finalizeJobSafe env { s with job := { s.job with status := .assetsReady } } := by
      simp only [finalizeJobSafe, handle, finalizeJob_assets begun]
    simp only [finalizeAndNotify, theJob_bind, finalizeLoop]
    rw [bind_apply, first, ← bind_apply]
  intro after
  have t := touched .noAssets (finalizeAndNotify envs) { s with job := { s.job with status := .assetsReady } }
  rw [← moved, run] at t
  cases t.noAssets after

lemma initializePlan_scenes (job : Job) : job.initializePlan.initializePlan.scenes = job.initializePlan.scenes := by
  obtain ⟨_, _, _, script, _, scenes⟩ := job
  cases script with
  | none => rfl
  | some script => cases scenes <;> simp [Job.initializePlan]

/-- What `_dispatch_assets` leaves in the asset stage: a scene that is not READY has a task if and only if it
had one or waited for one. -/
lemma dispatchAssets_served {render : Option (ℕ × ℕ)} (o : s.Ordered)
    (d : Distinct s.job.scenes) (begun : s.job.status = .assetGeneration)
    (run : dispatchAssets envs s = (.ok render, s')) (after : s'.job.status = .assetGeneration) :
    s'.AllServed ↔ ∀ scene ∈ s.job.initializePlan.scenes, scene.status ≠ .ready →
      s.Served scene.sceneId ∨ scene.Waits := by
  simp only [dispatchAssets, modifyJob_bind, theJob_bind] at run
  obtain ⟨_, s₁, staged, run'⟩ := bind_eq_ok.1 run
  -- the stage runs, and nothing of the scenes but their plan is new
  obtain ⟨job, rfl, scenes, active, status⟩ : ∃ job, s₁ = { s with job := job } ∧
      job.scenes = s.job.initializePlan.scenes ∧ job.activeTaskIds = s.job.activeTaskIds ∧
      job.status = s.job.status := by
    simp only [when] at staged
    split at staged
    · rw [transitionStage_apply] at staged
      split at staged
      · cases staged
        exact ⟨_, rfl, initializePlan_scenes s.job, rfl, rfl⟩
      · cases staged
    · cases staged
      exact ⟨_, rfl, rfl, rfl, rfl⟩
  have planned : Ctx.Ordered { s with job := s.job.initializePlan } :=
    ((moves_modifyJob (A := fun _ => False) Job.initializePlan).leads s).ordered o
  have o₁ : Ctx.Ordered { s with job := job } := by
    have moved := (inferInstance : Moves (fun _ => False)
      (when (s.job.initializePlan.stage .assets = .pending) (transitionStage .assets .running))).leads
        { s with job := s.job.initializePlan }
    rw [staged] at moved
    exact moved.ordered planned
  have d₁ : Distinct job.scenes := by
    rw [scenes]
    exact (touched .sameScenes (modifyJob Job.initializePlan) s).distinct d
  have served (id : SceneId) : Ctx.Served { s with job := job } id ↔ s.Served id := by
    simp only [Ctx.Served, active]
  have assets : job.status = .assetGeneration := status.trans begun
  simp only [theJob_bind] at run'
  rw [← scenes]
  simp only [← served]
  split at run'
  · -- all scenes are READY: the Job leaves the stage
    split at run'
    · exact absurd after (finalizeAndNotify_leaves assets run')
    · obtain ⟨_, s₂, _, failed⟩ := bind_eq_ok.1 run'
      cases failed
      cases after
  · obtain ⟨queued, s₂, issued, run''⟩ := bind_eq_ok.1 run'
    have asked := touched_run .sameStatus issued
    have issued := collect_dispatched (fun scene member => (mem_waiting.1 member).2.1) o₁ issued
    split at run''
    · obtain ⟨_, s₃, painted, rest⟩ := bind_eq_ok.1 run''
      have drew := touched_run .sameStatus painted
      have still : s₃.job.status = .assetGeneration :=
        (drew.status.resolve_right (by rintro ⟨⟩)).trans ((asked.status.resolve_right (by rintro ⟨⟩)).trans assets)
      have painted := forEach_drawn (fun e member => (issued.bound e member).1) painted
      simp only [modifyJob_bind, theJob_bind] at rest
      split at rest
      · obtain ⟨_, s₄, closed, finalized⟩ := bind_eq_ok.1 rest
        have closes := touched_run .sameStatus closed
        have open_ : s₄.job.status = .assetGeneration := (closes.status.resolve_right (by rintro ⟨⟩)).trans still
        exact absurd after (finalizeAndNotify_leaves open_ finalized)
      · cases rest
        have all := painted.allServed o₁ d₁ issued
        exact all
    · cases run''
      exact issued.allServed o₁ d₁

/-! ## `_prepare_and_dispatch` -/

/-- The tasks of the scenes are left alone, and so are the scenes but for their plan. -/
structure Steady (s s' : Ctx) : Prop where
  moved : Moved (fun _ => False) s s'
  touched : Touched .sameScenes s s'

lemma Steady.trans {s s' s'' : Ctx} (h : Steady s s') (h' : Steady s' s'') : Steady s s'' :=
  ⟨IsTrans.trans _ _ _ h.moved h'.moved, IsTrans.trans _ _ _ h.touched h'.touched⟩

lemma Steady.of_run {α : Type} {m : Act α} [moves : Moves (fun _ => False) m] [touches : Touches .sameScenes m]
    {x : Except Err α} (run : m s = (x, s')) : Steady s s' := by
  have moved := moves.leads s
  rw [run] at moved
  exact ⟨moved, touched_run _ run⟩

lemma Moved.served (m : Moved (fun _ => False) s s') (active : s'.job.activeTaskIds = s.job.activeTaskIds)
    (o : s.Ordered) (id : SceneId) : s'.Served id ↔ s.Served id := by
  unfold Ctx.Served
  rw [active, m.sameJob]
  refine exists_congr fun task => and_congr_right fun found => ?_
  have lt : task < s.nextId := o.below task .scene (Dict.mem_keys_iff.2 ⟨id, found⟩)
  exact m.live o le_rfl (fun _ _ => not_false) lt

lemma Steady.active (h : Steady s s') : s'.job.activeTaskIds = s.job.activeTaskIds :=
  (h.touched.active.resolve_left nofun).symm

lemma Steady.served (h : Steady s s') (o : s.Ordered) (id : SceneId) : s'.Served id ↔ s.Served id :=
  h.moved.served h.active o id

def GateOpen (s : Ctx) : Prop := ∀ env, imageStoryboardGate env s = (.ok false, s)

lemma gate_open (new : s.job.status = .new) (run : imageStoryboardGate env s = (.ok false, s')) :
    s' = s ∧ GateOpen { s with job := { s.job with status := .assetGeneration } } := by
  have early (status : JobStatus) (waits : status = .new ∨ status = .assetGeneration) :
      status ∉ [JobStatus.scriptApproved, .storyboardQueued, .storyboardGenerating, .storyboardFailed] := by
    rcases waits with rfl | rfl <;> simp
  simp only [GateOpen, imageStoryboardGate, theJob_bind] at run ⊢
  split at run
  · rename_i gated
    rw [if_neg (early s.job.status (.inl new))] at run
    split at run
    · cases run
    · rename_i shown
      cases active : activeStoryboard s.job with
      | none =>
        rw [active] at run
        cases run
      | some storyboard =>
        rw [active] at run
        simp only at run
        split at run
        · obtain ⟨_, _, _, wrong⟩ := bind_eq_ok.1 run
          cases wrong
        · rename_i approved
          cases run
          refine ⟨rfl, fun env => ?_⟩
          rw [if_pos gated, if_neg (early .assetGeneration (.inr rfl)), if_neg shown]
          have found : activeStoryboard { s.job with status := .assetGeneration } = some storyboard := active
          simp only [found, approved, if_false]
          rfl
  · rename_i gated
    cases run
    refine ⟨rfl, fun env => ?_⟩
    rw [if_neg gated]
    rfl

lemma prepareTurn_cases {turn : Option Bool} (new : s.job.status = .new)
    (run : prepareTurn env s = (.ok turn, s')) :
    turn = some false ∧ s'.job.status ≠ .assetGeneration ∨
    turn = none ∧ Steady s s' ∧ (s'.job.status = .assetGeneration → GateOpen s') := by
  simp only [prepareTurn, theJob_bind] at run
  split at run
  · simp only [modifyJob_bind, theJob_bind] at run
    obtain ⟨_, s₁, staged, run'⟩ := bind_eq_ok.1 run
    obtain ⟨blocked, s₂, gated, run''⟩ := bind_eq_ok.1 run'
    have planned : Steady s s₁ :=
      (Steady.of_run (m := modifyJob Job.initializePlan) rfl).trans (.of_run staged)
    have still : s₁.job.status = .new :=
      ((touched_run .sameStatus staged).status.resolve_right nofun).trans new
    cases blocked with
    | true =>
      have t := touched_run .noAssets gated
      cases run''
      exact .inl ⟨rfl, fun after => by cases still.symm.trans (t.noAssets after)⟩
    | false =>
      obtain ⟨rfl, opened⟩ := gate_open still gated
      cases run''
      exact .inr ⟨rfl, planned.trans (.of_run (m := update .assetGeneration) rfl), fun _ => opened⟩
  · split at run
    · obtain ⟨_, s₁, prepared, done⟩ := bind_eq_ok.1 run
      have t := touched_run .noAssets prepared
      cases done
      exact .inr ⟨rfl, .of_run prepared, fun after => by cases new.symm.trans (t.noAssets after)⟩
    · rename_i listed
      simp [new] at listed

lemma prepareLoop_steady {n : ℕ} {goesOn : Bool} (new : s.job.status = .new)
    (run : prepareLoop envs n s = (.ok goesOn, s')) (after : s'.job.status = .assetGeneration) :
    goesOn = true ∧ Steady s s' ∧ GateOpen s' := by
  induction n generalizing s with
  | zero =>
    cases run
    cases new.symm.trans after
  | succ n ih =>
    obtain ⟨turn, s₁, turned, run'⟩ := bind_eq_ok.1 run
    rcases prepareTurn_cases new turned with ⟨rfl, left⟩ | ⟨rfl, steady, open_⟩
    · cases run'
      exact absurd after left
    · simp only [theJob_bind] at run'
      split at run'
      · cases run'
        exact ⟨rfl, steady, open_ after⟩
      · obtain ⟨goes, again, open_⟩ := ih rfl run'
        refine ⟨goes, steady.trans (.trans ?_ again), open_⟩
        have counted : Steady s₁ { s₁ with job := { s₁.job with retries := s₁.job.retries + 1 } } :=
          .of_run (m := modifyJob fun job => { job with retries := job.retries + 1 }) rfl
        exact counted.trans (.of_run (m := update .new) rfl)

lemma dispatch_begun (run : dispatch envs s = (.ok parked, s'))
    (other : s.job.status ≠ .storyboardApproved) (after : s'.job.status = .assetGeneration) :
    s.job.status = .assetGeneration := by
  simp only [dispatch, theJob_bind] at run
  cases status : s.job.status with
  | assetGeneration => rfl
  | storyboardApproved => exact absurd status other
  | _ =>
    rw [status] at run
    have t := touched_run .noAssets run
    exact status.symm.trans (t.noAssets after)

lemma dispatch_assets (begun : s.job.status = .assetGeneration)
    (open_ : GateOpen s) (run : dispatch envs s = (.ok parked, s')) (after : s'.job.status = .assetGeneration) :
    ∃ render, dispatchAssets envs s = (.ok render, s') := by
  simp only [dispatch, theJob_bind, begun] at run
  rw [bind_of_ok (open_ _)] at run
  obtain ⟨render, s₁, dispatched, run'⟩ := bind_eq_ok.1 run
  cases render with
  | some r =>
    cases run'
    exact ⟨_, dispatched⟩
  | none =>
    obtain ⟨_, s₂, voiced, done⟩ := bind_eq_ok.1 run'
    cases done
    have still := (touched_run .noAssets voiced).noAssets after
    simp only [dispatchVoices, theJob_bind, still, when] at voiced
    cases voiced
    exact ⟨_, dispatched⟩

/-- What `_prepare_and_dispatch` of a new Job leaves in the asset stage. -/
lemma prepareAndDispatch_served {later : ℕ → Env} (o : s.Ordered)
    (d : Distinct s.job.scenes) (new : s.job.status = .new)
    (run : prepareAndDispatch envs later s = (.ok parked, s')) (after : s'.job.status = .assetGeneration) :
    s'.AllServed ↔ ∀ scene ∈ s.job.scenes, scene.status ≠ .ready → s.Served scene.sceneId ∨ scene.Waits := by
  simp only [prepareAndDispatch, theJob_bind] at run
  obtain ⟨goesOn, s₁, prepared, run'⟩ := bind_eq_ok.1 run
  cases goesOn with
  | false =>
    cases run'
    cases (prepareLoop_steady new prepared after).1
  | true =>
    have other : s₁.job.status ≠ .storyboardApproved := by
      intro approved
      rcases (touched_run .noStoryboard prepared).status with same | allowed
      · cases new.symm.trans (same.symm.trans approved)
      · rw [approved] at allowed
        cases allowed
    have begun := dispatch_begun run' other after
    obtain ⟨_, steady, open_⟩ := prepareLoop_steady new prepared begun
    obtain ⟨render, dispatched⟩ := dispatch_assets begun open_ run' after
    rw [dispatchAssets_served (steady.moved.ordered o) (steady.touched.distinct d) begun dispatched after]
    simp only [steady.served o]
    -- the scenes are those there were, or a plan whose scenes all wait
    have planned : Planned id s.job.scenes s₁.job.initializePlan.scenes :=
      (steady.touched.scenes.resolve_left nofun).trans (initializePlan_planned id s₁.job)
    rcases planned with same | ⟨none_, script, planned⟩
    · simp only [List.map_id] at same
      rw [same]
    · simp only [List.map_id] at planned
      rw [none_, planned]
      refine ⟨fun _ _ member => absurd member List.not_mem_nil, fun _ scene member _ => .inr ?_⟩
      exact script.plan_waits scene member

/-! ## Retry and resume -/

/-- The request leads to a dispatch of this scene: it may run, or a resume lets it, and it records no task. -/
def Scene.Again (q : JobRequest) (scene : Scene) : Prop :=
  scene.taskId = none ∧ (scene.status = .pending ∨ scene.status = .failed ∨
    q = .resume ∧ scene.status = .paused)

lemma retryJob_ok (run : retryJob s = (.ok (), s')) (new : s'.job.status ≠ .failed) :
    Steady s s' ∧ s'.job.status = .new ∧ s'.job.scenes = s.job.scenes := by
  have steady := Steady.of_run run
  simp only [retryJob, theJob_bind] at run
  split at run
  · cases run
  · split at run
    · cases run
      exact absurd rfl new
    · cases run
      exact ⟨steady, rfl, rfl⟩

lemma resumeJob_ok (run : resumeJob s = (.ok (), s')) :
    Moved (fun _ => False) s s' ∧ s'.job.activeTaskIds = s.job.activeTaskIds ∧ s'.job.status = .new ∧
      Planned id (s.job.scenes.map fun scene =>
        if scene.status = .paused then { scene with status := .pending } else scene) s'.job.scenes := by
  have moved := (inferInstance : Moves (fun _ => False) resumeJob).leads s
  rw [run] at moved
  simp only [resumeJob, modifyJob_bind] at run
  have steady := Steady.of_run run
  obtain ⟨_, s₁, _, run₁⟩ := bind_eq_ok.1 run
  obtain ⟨_, s₂, _, run₂⟩ := bind_eq_ok.1 run₁
  cases run₂
  exact ⟨moved, steady.active, rfl, steady.touched.scenes.resolve_left nofun⟩

/-- What a retry or a resume leaves for `_prepare_and_dispatch`. -/
lemma again_served {q : JobRequest} (again : q = .retry ∨ q = .resume) (o : s.Ordered)
    (run : q.act env s = (.ok (), s')) (begun : s'.job.status = .new) :
    (∀ scene ∈ s'.job.scenes, scene.status ≠ .ready → s'.Served scene.sceneId ∨ scene.Waits) ↔
      ∀ scene ∈ s.job.scenes, scene.status ≠ .ready → s.Served scene.sceneId ∨ scene.Again q := by
  rcases again with rfl | rfl
  · obtain ⟨steady, _, scenes⟩ := retryJob_ok run (by simp [begun])
    rw [scenes]
    refine forall₃_congr fun scene _ _ => or_congr (steady.served o _) ?_
    simp [Scene.Waits, Scene.Again]
  · obtain ⟨moved, active, _, planned⟩ := resumeJob_ok run
    simp only [moved.served active o]
    rcases planned with same | ⟨none_, script, planned⟩
    · simp only [List.map_id] at same
      rw [same, List.forall_mem_map]
      refine forall₂_congr fun scene _ => ?_
      by_cases paused : scene.status = .paused <;> simp [paused, Scene.Waits, Scene.Again]
    · simp only [List.map_id] at planned
      rw [planned, List.map_eq_nil_iff.1 none_]
      refine ⟨fun _ _ member => absurd member List.not_mem_nil, fun _ scene member _ => .inr ?_⟩
      exact script.plan_waits scene member

end

lemma System.on_ctx {c : System} {id : JobId} {job : Job} {α : Type} {m : Act α} {x : Except Err α} {s : Ctx}
    (run : m (c.ctx id job) = (x, s)) (same : s.jobId = id) :
    (c.on id job m).2.jobs.get? id = some s.job ∧ (c.on id job m).2.ctx id s.job = { s with submitted := [] } := by
  have left : c.on id job m = (x,
      { jobs := c.jobs.set id s.job
        workers := s.workers
        queue := s.queue
        nextId := s.nextId
        submitted := c.submitted ++ s.submitted.map fun b => (id, b)
        rendering := c.rendering }) := by
    simp only [System.ctx] at run
    simp only [System.on, run]
  subst same
  rw [left]
  exact ⟨by simp, rfl⟩

lemma runThread_ok {c : System} {id : JobId} {job : Job} {m : Act (Option Parked)}
    (found : c.jobs.get? id = some job) (kept : ∀ s, (m s).2.jobId = s.jobId)
    (ran : (runThread id m c).1 = .ok ()) :
    ∃ parked s, m (c.ctx id job) = (.ok parked, s) ∧ (runThread id m c).2.jobs.get? id = some s.job ∧
      (runThread id m c).2.ctx id s.job = { s with submitted := [] } := by
  simp only [runThread, read_bind, found] at ran ⊢
  obtain ⟨x, s, run⟩ : ∃ x s, m (c.ctx id job) = (x, s) := ⟨_, _, rfl⟩
  have same : s.jobId = id := by
    have same := kept (c.ctx id job)
    rwa [run] at same
  obtain ⟨entry, left⟩ := System.on_ctx run same
  have answered : (c.on id job m).1 = x := congrArg Prod.fst run
  obtain ⟨c', left'⟩ : ∃ c', onJob id job m c = (x, c') := ⟨_, Prod.ext answered rfl⟩
  have is : (c.on id job m).2 = c' := congrArg Prod.snd left'
  rw [is] at entry left
  cases x with
  | error e =>
    rw [bind_of_error left'] at ran
    cases ran
  | ok parked =>
    refine ⟨parked, s, run, ?_⟩
    rw [bind_of_ok left']
    exact ⟨entry, left⟩

/-- After a retry or a resume and the dispatch that follows, every scene that is not READY has a task if and only
if each of them had one before or was left for the dispatch to see: PENDING or FAILED, or PAUSED where it is
resumed, and without a task. -/
theorem again_dispatches_unfinished {c : System} (r : Reachable c) {env : Env} {id : JobId} {q : JobRequest}
    (again : q = .retry ∨ q = .resume) {job : Job} (found : c.jobs.get? id = some job)
    (asked : (forJob id (q.act env) c).1 = .ok ()) {envs later : ℕ → Env} {index : ℕ}
    (listed : (forJob id (q.act env) c).2.submitted[index]? = some (id, .prepareAndDispatch))
    (ran : (runBackground envs later index (forJob id (q.act env) c).2).1 = .ok ()) {job' : Job}
    (found' : (runBackground envs later index (forJob id (q.act env) c).2).2.jobs.get? id = some job')
    (after : job'.status = .assetGeneration) :
    ((runBackground envs later index (forJob id (q.act env) c).2).2.ctx id job').AllServed ↔
      ∀ scene ∈ job.scenes, scene.status ≠ .ready →
        (c.ctx id job).Served scene.sceneId ∨ scene.Again q := by
  have o : (c.ctx id job).Ordered := r.ordered.ctx found
  have d : Distinct (c.ctx id job).job.scenes := r.distinct id job found
  have known : forJob id (q.act env) c = c.on id job (q.act env) := by
    simp only [forJob, read_bind, found, onJob]
  rw [known] at asked listed ran found' ⊢
  -- the request
  obtain ⟨x, s₁, run₁⟩ : ∃ x s₁, q.act env (c.ctx id job) = (x, s₁) := ⟨_, _, rfl⟩
  obtain rfl : x = .ok () := by
    have answered : (c.on id job (q.act env)).1 = x := congrArg Prod.fst run₁
    exact answered.symm.trans asked
  have moved : Moved (fun _ => True) (c.ctx id job) s₁ := by
    have leads := (moves_jobRequest (A := fun _ => True) env q).leads (c.ctx id job)
    rwa [run₁] at leads
  obtain ⟨entry, start⟩ := System.on_ctx run₁ moved.sameJob
  have distinct : Distinct s₁.job.scenes := by
    have t := (Handler.ask env q).writes (c.ctx id job)
    rw [show Handler.act (.ask env q) = q.act env from rfl, run₁] at t
    exact t.distinct d
  -- the thread
  generalize (c.on id job (q.act env)).2 = c₁ at entry start listed ran found'
  have thread : runBackground envs later index c₁ = runThread id (prepareAndDispatch envs later)
      { c₁ with submitted := c₁.submitted.eraseIdx index } := by
    simp only [runBackground, read_bind, listed, write_bind]
    rfl
  rw [thread] at ran found' ⊢
  have kept (s : Ctx) : (prepareAndDispatch envs later s).2.jobId = s.jobId :=
    (touched .any (prepareAndDispatch envs later) s).jobId
  obtain ⟨parked, s₂, run₂, entry₂, finish⟩ := runThread_ok
    (c := { c₁ with submitted := c₁.submitted.eraseIdx index }) entry kept ran
  obtain rfl : job' = s₂.job := Option.some.inj (found'.symm.trans entry₂)
  have start' : System.ctx { c₁ with submitted := c₁.submitted.eraseIdx index } id s₁.job =
      { s₁ with submitted := [] } := start
  rw [start'] at run₂
  rw [finish]
  have begun : s₁.job.status = .new := by
    rcases again with rfl | rfl
    · by_cases failed : s₁.job.status = .failed
      · have idle : (prepareAndDispatch envs later { s₁ with submitted := [] }).2 =
            { s₁ with submitted := [] } := by
          simp [prepareAndDispatch, prepareLoop, prepareTurn, dispatch, failed]
        rw [run₂] at idle
        obtain rfl : s₂ = { s₁ with submitted := [] } := idle
        cases failed.symm.trans after
      · exact (retryJob_ok run₁ failed).2.1
    · exact (resumeJob_ok run₁).2.2.1
  have o₁ : Ctx.Ordered { s₁ with submitted := [] } := ⟨(moved.ordered o).coherent, (moved.ordered o).below⟩
  have all := prepareAndDispatch_served o₁ distinct begun run₂ after
  have here := again_served again o run₁ begun
  exact all.trans here

/-- A Job is paused while the task of its only scene waits. -/
def scenePaused : System :=
  System.after {}
    [.create (.plain 1) ⟨.image, 5, 3⟩,
      .ask (.plain 1) 0 (.edit { script := some ⟨[false]⟩ }),
      .background (fun _ => .plain 1) (fun _ => .plain 1) 0,
      .ask (.plain 4) 0 (.halt .pause)]

def sceneResumed : System := (forJob 0 (JobRequest.resume.act (.plain 5)) scenePaused).2

theorem again_dispatches_unfinished_paused :
    ∃ job job', scenePaused.jobs.get? 0 = some job ∧
      (runBackground (fun _ => .plain 5) (fun _ => .plain 5) 0 sceneResumed).2.jobs.get? 0 = some job' ∧
      (((runBackground (fun _ => .plain 5) (fun _ => .plain 5) 0 sceneResumed).2.ctx 0 job').AllServed ↔
        ∀ scene ∈ job.scenes, scene.status ≠ .ready →
          (scenePaused.ctx 0 job).Served scene.sceneId ∨ scene.Again .resume) := by
  unfold sceneResumed
  obtain ⟨job, found⟩ := Option.isSome_iff_exists.1
    (show (scenePaused.jobs.get? 0).isSome = true by decide +kernel)
  have status : ((runBackground (fun _ => .plain 5) (fun _ => .plain 5) 0
      (forJob 0 (JobRequest.resume.act (.plain 5)) scenePaused).2).2.jobs.get? 0).map
        Job.status = some .assetGeneration := by
    decide +kernel
  obtain ⟨job', found', after⟩ := Option.map_eq_some_iff.1 status
  refine ⟨job, job', found, found', ?_⟩
  exact @again_dispatches_unfinished scenePaused (reachable_after _) (.plain 5) 0 .resume (.inr rfl) job found
    (by decide +kernel) (fun _ => .plain 5) (fun _ => .plain 5) 0 (by decide +kernel) (by decide +kernel) job' found'
    after

/-- One of two scenes of a Job fails for good, and the other is given up with it. -/
def siblingFailed : List Op :=
  [.create (.plain 1) ⟨.image, 5, 1⟩,
    .ask (.plain 1) 0 (.edit { script := some ⟨[false, false]⟩ }),
    .background (fun _ => .plain 1) (fun _ => .plain 1) 0,
    .heartbeat (.plain 1) (.free 7),
    .claim (.plain 2) ⟨7, true, true⟩,
    .result (.plain 3) { jobId := 0, nodeName := 7, taskId := 1, success := false }]

/-- A retry waits for the sibling of a failed scene, and there is no task of it. -/
theorem cancelled_sibling_waits_forever :
    ¬ ∀ (c : System) (env : Env) (id : JobId) (q : JobRequest) (job' : Job) (envs later : ℕ → Env) (index : ℕ),
      ReachableBy (fun _ op => op.cancels id = false) c → (q = .retry ∨ q = .resume) →
      (forJob id (q.act env) c).1 = .ok () →
      (forJob id (q.act env) c).2.submitted[index]? = some (id, .prepareAndDispatch) →
      (runBackground envs later index (forJob id (q.act env) c).2).1 = .ok () →
      (runBackground envs later index (forJob id (q.act env) c).2).2.jobs.get? id = some job' →
      job'.status = .assetGeneration →
        ((runBackground envs later index (forJob id (q.act env) c).2).2.ctx id job').AllServed := by
  intro h
  have reached : ReachableBy (fun _ op => op.cancels 0 = false) (System.after {} siblingFailed) := by
    refine .after (.init rfl) _ ?_
    simp [siblingFailed, System.Along, Op.cancels]
  have status : ((runBackground (fun _ => .plain 4) (fun _ => .plain 4) 0
      (forJob 0 (JobRequest.retry.act (.plain 4)) (System.after {} siblingFailed)).2).2.jobs.get? 0).map
        Job.status = some .assetGeneration := by
    decide +kernel
  obtain ⟨job', found, after⟩ := Option.map_eq_some_iff.1 status
  have served := h (System.after {} siblingFailed) (.plain 4) 0 .retry job' (fun _ => .plain 4)
    (fun _ => .plain 4) 0 reached (.inl rfl) (by decide +kernel) (by decide +kernel) (by decide +kernel) found after
  -- the second scene is CANCELLED, and the only task is that of the first
  have scenes : ((runBackground (fun _ => .plain 4) (fun _ => .plain 4) 0
      (forJob 0 (JobRequest.retry.act (.plain 4)) (System.after {} siblingFailed)).2).2.jobs.get? 0).map
        (fun job => (job.scenes.map Scene.state, job.activeTaskIds.entries)) =
          some ([(1, .failed), (2, .cancelled)], [(3, 1)]) := by
    decide +kernel
  rw [found, Option.map_some, Option.some.injEq, Prod.mk.injEq] at scenes
  obtain ⟨listed, active⟩ := scenes
  have waits : ((2 : SceneId), StageStatus.cancelled) ∈ job'.scenes.map Scene.state := by simp [listed]
  obtain ⟨scene, member, state⟩ := List.mem_map.1 waits
  obtain ⟨name, cancelled⟩ := Prod.mk.inj state
  obtain ⟨task, bound, -⟩ := served scene member (by simp [cancelled])
  have only : (task, scene.sceneId) ∈ job'.activeTaskIds.entries := Dict.mem_entries_iff.2 bound
  simp [active, name] at only

end Vertep.Core
