import Vertep.Core.LateResults

/-!
# Dispatched renders (`core/api/tasks.py`)

A pause or a cancel takes the dispatched attempts of a Job away and leaves `assembly_cancel_requested`
behind, which `_claim_task` reads: an attempt of such a Job is dropped and not handed out. Only
`regenerate_job` takes the mark back, and `finalize_job` does not look at it. Where nothing is finalized
on the route of an external engine while the mark stands, an attempt in the queue can be claimed.
-/

namespace Vertep.Core
open Lib Queue
open Command Act

set_option synthInstance.maxSize 4000
set_option synthInstance.maxHeartbeats 200000

def Job.Quiet (job : Job) : Prop :=
  job.assemblyCancelRequested = true → job.assemblyTaskId = none ∧ job.assemblyTaskIds = ∅

/-- The mark and the attempts are left alone. -/
@[reducible] def Footprint.sameAttempts : Footprint where
  render := false
  renders := false
  cancel := false

@[reducible] def Footprint.sameMark : Footprint where
  cancel := false

lemma Job.Quiet.kept {s s' : Ctx} (before : s.job.Quiet) (t : Touched .sameAttempts s s') :
    s'.job.Quiet := by
  obtain mark := t.cancel.resolve_left nofun
  obtain render := t.render.resolve_left nofun
  obtain renders := t.renders.resolve_left nofun
  intro marked
  obtain ⟨none, empty⟩ := before (mark.trans marked)
  exact ⟨render ▸ none, renders ▸ empty⟩

lemma Job.Quiet.of_unmarked {s s' : Ctx} (mark : s.job.assemblyCancelRequested = false)
    (t : Touched .sameMark s s') : s'.job.Quiet := by
  intro marked
  have same := t.cancel.resolve_left nofun
  rw [mark, marked] at same
  cases same

instance (priority := low) {α : Type} (m : Act α) [within : Touches .sameAttempts m] :
    Within (Stable fun s : Ctx => s.job.Quiet) m :=
  ⟨fun s before => before.kept (within.leads s)⟩

section
variable (env : Env)

instance (a : Halt) :
    Within (Stable fun s : Ctx => s.job.Quiet) (haltAssemblies env a) := by
  have cleared : Within (Stable fun s : Ctx => s.job.Quiet) (modifyJob ({ · with
      assemblyTaskIds := ∅
      assemblyTaskId := none
      assemblyCancelRequested := true })) := ⟨fun s _ _ => ⟨rfl, rfl⟩⟩
  unfold haltAssemblies
  infer_instance

instance quiet_haltJob (a : Halt) : Within (Stable fun s : Ctx => s.job.Quiet) (haltJob env a) := by
  unfold haltJob
  refine .next fun job => .next fun _ => ?_
  refine .next fun _ => .next fun _ => ?_
  refine .next fun _ => .next fun _ => ?_
  refine .next fun _ => .next fun _ => ?_
  infer_instance

instance quiet_regenerateJob : Within (Stable fun s : Ctx => s.job.Quiet) (regenerateJob env) := by
  unfold regenerateJob
  refine .next fun job => .ite inferInstance ?_
  refine .next fun _ => .next fun _ => ?_
  refine .bind ⟨fun s _ marked => ?_⟩ fun _ => inferInstance
  cases marked

end

/-! ## Handlers -/

section
variable {s : Ctx}

lemma result_sameAttempts {env : Env} {r : TaskResult} (empty : s.job.assemblyTaskIds = ∅) :
    Touched .sameAttempts s (result env r s).2 := by
  rw [result_eq_handler]
  cases branch : s.job.branch r.taskId with
  | assembly =>
    simp only [Job.branch, empty] at branch
    repeat' split at branch
    all_goals first | (rename_i held; cases held) | cases branch
  | _ =>
    simp only [Branch.handler]
    exact touched _ _ s

lemma recoverTask_sameAttempts {env : Env} {node : NodeName} {task : Option TaskId}
    (empty : s.job.assemblyTaskIds = ∅) : Touched .sameAttempts s (recoverTask env node task s).2 := by
  have rest (scene : Option Scene) :
      Touched .sameAttempts s (recoverTask.recoverRest env node task s.job scene s).2 := by
    have unheld : task.filter (s.job.assemblyTaskIds.contains ·) = none := by
      rw [empty]
      cases task <;> rfl
    simp only [recoverTask.recoverRest, unheld]
    split
    · exact touched _ _ s
    · exact touched _ _ s
  simp only [recoverTask, theJob_bind]
  split
  · exact touched _ _ s
  split
  · exact touched _ _ s
  cases task with
  | none => exact rest _
  | some id =>
    simp only [Option.bind_some]
    cases s.job.publishTaskIds.get? id with
    | some channel =>
      simp only
      split
      · exact touched _ _ s
      · exact rest _
    | none =>
      cases s.job.ttsActiveTaskIds.get? id with
      | some sceneId =>
        simp only
        split
        · exact touched _ _ s
        · exact rest _
      | none => exact rest _

end

/-- While the Job is marked, its threads find no external engine. -/
def Handler.SparesAttempts (job : Job) : Handler → Prop
  | .background envs later _ => job.assemblyCancelRequested = true →
      ∀ n identity, (envs n).engine ≠ .external identity ∧ (later n).engine ≠ .external identity
  | .render _ envs _ => job.assemblyCancelRequested = true →
      ∀ n identity, (envs n).engine ≠ .external identity
  | _ => True

lemma Handler.quiet {s : Ctx} {h : Handler} (before : s.job.Quiet) (allowed : h.SparesAttempts s.job) :
    (h.act s).2.job.Quiet := by
  have unmarked {m : Act Unit} [Touches .sameMark m] (mark : s.job.assemblyCancelRequested = false) :
      (m s).2.job.Quiet := .of_unmarked mark (touched _ m s)
  have core {env : Env} (native : ∀ identity, env.engine ≠ .external identity) :
      MayDispatch .sameAttempts env := ⟨fun identity external => absurd external (native identity)⟩
  cases mark : s.job.assemblyCancelRequested with
  | false =>
    cases h with
    | ask env q =>
      cases q with
      | halt a => exact (quiet_haltJob env a).leads s before
      | regenerate => exact (quiet_regenerateJob env).leads s before
      | _ =>
        simp only [Handler.act, JobRequest.act]
        exact unmarked mark
    | _ =>
      simp only [Handler.act]
      exact unmarked mark
  | true =>
    have empty := (before mark).2
    cases h with
    | result env r => exact before.kept (result_sameAttempts empty)
    | recover env node task => exact before.kept (recoverTask_sameAttempts empty)
    | background envs later b =>
      have first (n : ℕ) := core fun identity => (allowed mark n identity).1
      have second (n : ℕ) := core fun identity => (allowed mark n identity).2
      refine before.kept ?_
      simp only [Handler.act]
      exact touched _ _ s
    | render env envs p =>
      have first (n : ℕ) := core (allowed mark n)
      refine before.kept ?_
      simp only [Handler.act]
      exact touched _ _ s
    | ask env q =>
      cases q with
      | halt a => exact (quiet_haltJob env a).leads s before
      | regenerate => exact (quiet_regenerateJob env).leads s before
      | _ =>
        refine before.kept ?_
        simp only [Handler.act, JobRequest.act]
        exact touched _ _ s
    | _ =>
      refine before.kept ?_
      simp only [Handler.act]
      exact touched _ _ s

/-! ## Runs -/

lemma Job.Quiet.reload {job : Job} (before : job.Quiet) (video : Bool) : (job.reload video).Quiet := by
  simp only [Job.reload]
  repeat' split
  all_goals first | exact before | exact fun _ => ⟨rfl, rfl⟩

/-- A thread of the marked Job finds an external engine. -/
def Op.FinalizesMarked (id : JobId) (c : System) : Op → Prop
  | .background envs later index => ∃ b job, c.submitted[index]? = some (id, b) ∧
      c.jobs.get? id = some job ∧ job.assemblyCancelRequested = true ∧
      ∃ n identity, (envs n).engine = .external identity ∨ (later n).engine = .external identity
  | .render _ envs index => ∃ p job, c.rendering[index]? = some (id, p) ∧ c.jobs.get? id = some job ∧
      job.assemblyCancelRequested = true ∧ ∃ n identity, (envs n).engine = .external identity
  | _ => False

/-- The attempt a Job in ASSEMBLY has in the queue is not one that a claim drops for the mark: whoever can
serve it gets it. -/
theorem dispatched_render_claimable {id : JobId} {c : System}
    (r : ReachableBy (fun c op => ¬ op.FinalizesMarked id c) c) {job : Job}
    (found : c.jobs.get? id = some job) (status : job.status = .assembly) :
    ∀ item ∈ c.queue.items, job.assemblyTaskId = some item.taskId →
      job.assemblyCancelRequested = false ∧
        ∀ env worker, item.payload.claimKind = .assembly → job.assemblyTaskIds.contains item.taskId →
          env.engineMismatch (item.payload.engineSnapshot.or job.videoEngineSnapshot) = false →
          engineReleaseHold c.jobs (item.payload.engineSnapshot.or job.videoEngineSnapshot) = false →
          env.selects worker item.payload.jobId item.payload = true →
            verdict env worker c.jobs job item = .take := by
  have quiet : ∀ k job, c.jobs.get? k = some job → k = id → job.Quiet := by
    refine ReachableBy.jobs (H := fun k job h => k = id → h.SparesAttempts job)
      (fun c op _ spared => ?_) ?_ ?_ ?_ r
    · cases op with
      | background envs later index =>
        intro k b job waiting found same marked n identity
        refine ⟨fun external => spared ?_, fun external => spared ?_⟩
        · exact ⟨b, job, same ▸ waiting, same ▸ found, marked, n, identity, .inl external⟩
        · exact ⟨b, job, same ▸ waiting, same ▸ found, marked, n, identity, .inr external⟩
      | render env envs index =>
        intro k p job waiting found same marked n identity external
        exact spared ⟨p, job, same ▸ waiting, same ▸ found, marked, n, identity, external⟩
      | _ => simp [Op.Allowed, Handler.SparesAttempts]
    · intro k request status _ _ marked
      cases marked
    · exact fun k job video before same => (before same).reload video
    · exact fun s h before allowed same => Handler.quiet (before same) (allowed same)
  intro item _ current
  have unmarked : job.assemblyCancelRequested = false := by
    cases mark : job.assemblyCancelRequested with
    | false => rfl
    | true =>
      have none := (quiet id job found rfl mark).1
      rw [none] at current
      cases current
  refine ⟨unmarked, fun env worker kind held engine hold selects => ?_⟩
  have recorded : job.assemblyTaskIds.get? item.taskId ≠ none := Option.isSome_iff_ne_none.1 held
  simp [verdict, kind, recorded, current, status, unmarked, engine, hold, selects]

/-- A Job whose one scene is drawn, with its render in the queue. -/
def renderQueued : List Op :=
  [.create (.rendering 1) ⟨.image, 5, 3⟩,
    .ask (.rendering 1) 0 (.edit { script := some ⟨[false]⟩ }),
    .background (fun _ => .rendering 1) (fun _ => .rendering 1) 0]

theorem dispatched_render_claimable_queued :
    ∃ job item, (System.after {} renderQueued).jobs.get? 0 = some job ∧ job.status = .assembly ∧
      item ∈ (System.after {} renderQueued).queue.items ∧ job.assemblyTaskId = some item.taskId ∧
      job.assemblyCancelRequested = false := by
  have spared : System.Along (fun c op => ¬ op.FinalizesMarked 0 c) {} renderQueued := by
    refine ⟨id, id, ?_, trivial⟩
    rintro ⟨b, job, -, found, marked, -⟩
    have unmarked : ((System.after {} (renderQueued.take 2)).jobs.get? 0).map
        Job.assemblyCancelRequested = some false := by decide +kernel
    rw [show (System.after {} (renderQueued.take 2)).jobs.get? 0 = some job from found] at unmarked
    simp [marked] at unmarked
  have standing : ((System.after {} renderQueued).jobs.get? 0).map
      (fun job => (job.status, job.assemblyTaskId)) = some (.assembly, some 3) := by decide +kernel
  have queued : (System.after {} renderQueued).queue.items.head?.map Item.taskId = some 3 := by
    decide +kernel
  obtain ⟨job, found, same⟩ := Option.map_eq_some_iff.1 standing
  obtain ⟨status, current⟩ := Prod.mk.inj same
  obtain ⟨item, first, task⟩ := Option.map_eq_some_iff.1 queued
  have member := List.mem_of_head? first
  rw [← task] at current
  have claimable := dispatched_render_claimable (.after (.init rfl) _ spared) found status item member current
  exact ⟨job, item, found, status, member, current, claimable.1⟩

/-- A Job that was paused during its render is resumed, and no claim gets the new attempt. -/
theorem resumed_render_not_claimable :
    ¬ ∀ (id : JobId) (c : System) (job : Job), Reachable c → c.jobs.get? id = some job →
      job.status = .assembly → ∀ item ∈ c.queue.items, job.assemblyTaskId = some item.taskId →
        job.assemblyCancelRequested = false := by
  intro h
  let ops := renderQueued ++
    [.ask (.rendering 2) 0 (.halt .pause), .ask (.rendering 3) 0 .resume,
      .background (fun _ => .rendering 4) (fun _ => .rendering 4) 0]
  have standing : ((System.after {} ops).jobs.get? 0).map
      (fun job => (job.status, job.assemblyTaskId, job.assemblyCancelRequested)) =
        some (.assembly, some 4, true) := by decide +kernel
  have queued : (System.after {} ops).queue.items.head?.map Item.taskId = some 4 := by decide +kernel
  obtain ⟨job, found, same⟩ := Option.map_eq_some_iff.1 standing
  obtain ⟨status, rest⟩ := Prod.mk.inj same
  obtain ⟨current, marked⟩ := Prod.mk.inj rest
  obtain ⟨item, first, task⟩ := Option.map_eq_some_iff.1 queued
  rw [← task] at current
  have unmarked := h 0 _ job (reachable_after ops) found status item (List.mem_of_head? first) current
  exact Bool.noConfusion (marked.symm.trans unmarked)

end Vertep.Core
