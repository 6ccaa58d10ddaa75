import Vertep.Core.Returns

/-!
# Stages that can run again (`core/api/job_helpers.py`)

A stage that is CANCELLED never runs again. A pause closes stages as PAUSED, which a resume opens; but a
native render that ends while its Job is paused closes the stage as a cancel would (`renderNative`). Where
no render ends so and nobody cancels the Job, no stage of it is ever CANCELLED, whatever else happens.
-/

namespace Vertep.Core
open Lib Queue
open Command Act

set_option synthInstance.maxSize 4000
set_option synthInstance.maxHeartbeats 200000

/-- Neither the Job nor one of its stages becomes CANCELLED. -/
@[reducible] def Footprint.uncancelled : Footprint where
  status := fun
    | .cancelled => false
    | _ => true
  stage := fun _ => fun
    | .cancelled => false
    | _ => true

instance : IsTrue (Footprint.uncancelled.status Halt.pause.status) := ⟨rfl⟩

instance (n : StageName) : IsTrue (Footprint.uncancelled.stage n Halt.pause.stageStatus) := ⟨rfl⟩

@[reducible] def Footprint.sameStatus : Footprint where
  status := fun _ => false

/-- The Job and its stages are not CANCELLED. -/
structure Job.Uncancelled (job : Job) : Prop where
  status : job.status ≠ .cancelled
  stage : ∀ n, job.stage n ≠ .cancelled

lemma Job.Uncancelled.kept {s s' : Ctx} (before : s.job.Uncancelled)
    (t : Touched .uncancelled s s') : s'.job.Uncancelled where
  status after := by
    rcases t.status with same | allowed
    · exact before.status (same ▸ after)
    · rw [after] at allowed
      cases allowed
  stage n after := by
    rcases t.stage n with same | allowed
    · exact before.stage n (same ▸ after)
    · rw [after] at allowed
      cases allowed

lemma Job.Uncancelled.runs {s : Ctx} (job : s.job.Uncancelled) (n : StageName) :
    (transitionStage n .running s).1 = .ok () := by
  have planned := touched .uncancelled (modifyJob Job.initializePlan) s
  have open_ := (job.kept planned).stage n
  have allowed : (s.job.initializePlan.stage n).mayBecome .running = true := by
    change s.job.initializePlan.stage n ≠ .cancelled at open_
    revert open_
    cases s.job.initializePlan.stage n <;> decide
  simp only [transitionStage, modifyJob_bind, theJob_bind, allowed, if_true]
  rfl

/-! ## Renders that end -/

/-- The render ends and its subtitles are recorded: its thread looks at the Job again. -/
def RenderEnds (env : Env) (id : JobId) : Prop :=
  Answers (env.render id) ∧ (env.subtitles = true → env.register .subtitles 0 = none)

section
variable {env : Env} {version : ℕ} {s : Ctx}

lemma renderEnds_of_awaitRender {s' : Ctx} (run : awaitRender env s = (.ok (), s')) :
    RenderEnds env s.jobId := by
  simp only [awaitRender, theId_bind] at run
  cases rendered : env.render s.jobId with
  | error e =>
    rw [rendered] at run
    cases run
  | ok a =>
    rw [rendered, answer_ok_bind] at run
    refine ⟨⟨a, rendered⟩, fun subtitles => ?_⟩
    cases registered : env.register .subtitles 0 with
    | none => rfl
    | some e =>
      obtain ⟨written, e⟩ := e
      cases written <;> simp [when, subtitles, registerArtifact, registered, bind_apply] at run <;> cases run

lemma renderNative_touched (waits : s.job.status.halted = true → ¬ RenderEnds env s.jobId) :
    Touched .uncancelled s (renderNative env version s).2 := by
  unfold renderNative
  refine leads_bind (touched _ (awaitRender env) s) fun a s₁ awaited => ?_
  have same : s₁.job.status = s.job.status := by
    have t := touched .sameStatus (awaitRender env) s
    rw [awaited] at t
    exact t.status.resolve_right nofun
  simp only [theJob_bind, same]
  cases halted : s.job.status.halted with
  | true => exact absurd (renderEnds_of_awaitRender awaited) (waits halted)
  | false => exact touched _ (recordVideo env version) s₁

lemma renderSafe_touched (waits : s.job.status.halted = true → ¬ RenderEnds env s.jobId) :
    Touched .uncancelled s (renderSafe env version s).2 :=
  leads_handle (renderNative_touched waits) fun _ => inferInstance

lemma resumeLoop_touched {envs : ℕ → Env} {n : ℕ}
    (waits : s.job.status.halted = true → ¬ RenderEnds env s.jobId) :
    Touched .uncancelled s (resumeLoop env envs version n s).2 := by
  unfold resumeLoop
  exact leads_bind (renderSafe_touched waits) fun _ s₁ _ => touched _ _ s₁

lemma parked_touched {envs : ℕ → Env} {p : Parked}
    (waits : s.job.status.halted = true → ¬ RenderEnds env s.jobId) :
    Touched .uncancelled s (p.act env envs s).2 := by
  cases p with
  | finalize version n | dispatch version n =>
    exact leads_bind (resumeLoop_touched waits) fun _ s₁ _ => touched _ _ s₁
  | dispatchVoices version n =>
    refine leads_bind (resumeLoop_touched waits) fun render s₁ _ => ?_
    cases render with
    | none | some r => exact touched _ _ s₁
  | regenerate version => exact leads_bind (renderSafe_touched waits) fun _ s₁ _ => touched _ _ s₁

end

/-! ## Runs -/

/-- A handler that neither cancels its Job nor ends a render of it while it is paused. -/
def Handler.SparesStages (id : JobId) (job : Job) : Handler → Prop
  | .ask _ (.halt .cancel) => False
  | .render env _ _ => job.status = .paused → ¬ RenderEnds env id
  | _ => True

lemma Handler.spares {s : Ctx} {h : Handler} (before : s.job.Uncancelled)
    (allowed : h.SparesStages s.jobId s.job) : Touched .uncancelled s (h.act s).2 := by
  cases h with
  | render env envs p =>
    -- the only halted Job that is not cancelled is a paused one
    have waits : s.job.status.halted = true → ¬ RenderEnds env s.jobId := by
      intro halted
      refine allowed ?_
      have alive := before.status
      revert halted alive
      cases s.job.status <;> simp [JobStatus.halted]
    exact leads_bind (parked_touched waits) fun _ s₁ _ => touched _ _ s₁
  | ask env q =>
    cases q with
    | halt a =>
      cases a with
      | pause => exact touched _ (haltJob env .pause) s
      | cancel => exact absurd allowed id
    | _ =>
      simp only [Handler.act, JobRequest.act]
      exact touched _ _ s
  | _ =>
    simp only [Handler.act]
    exact touched _ _ s

lemma Job.Uncancelled.reload {job : Job} (before : job.Uncancelled) (video : Bool) :
    (job.reload video).Uncancelled where
  status := by
    simp only [Job.reload]
    repeat' split
    all_goals first | exact before.status | rintro ⟨⟩
  stage n := by
    have closed : job.recoverAfterRestart.stage n ≠ .cancelled := by
      have open_ := before.stage n
      cases filled : job.stages with
      | none =>
        rw [Job.stage, Job.recoverAfterRestart, filled]
        cases n <;> simp [Stages.get]
      | some stages =>
        rw [Job.stage, filled] at open_
        rw [Job.stage, Job.recoverAfterRestart, filled]
        cases n <;> simp only [Option.map_some, Option.getD_some, Stages.get] at open_ ⊢ <;> split <;>
          first | exact open_ | decide
    simp only [Job.reload]
    repeat' split
    all_goals first | exact before.stage n | exact closed

/-- The operator cancels the Job. -/
def Op.cancels (id : JobId) : Op → Bool
  | .ask _ k (.halt .cancel) => k = id
  | _ => false

/-- A native render of the Job ends while the Job is paused. -/
def Op.EndsPaused (id : JobId) (c : System) : Op → Prop
  | .render env _ index => ∃ p job, c.rendering[index]? = some (id, p) ∧ c.jobs.get? id = some job ∧
      job.status = .paused ∧ RenderEnds env id
  | _ => False

/-- However often a Job is paused and resumed, none of its stages is CANCELLED and each can run, as long
as nobody cancels it and none of its native renders ends while it is paused. -/
theorem paused_stages_run_again {id : JobId} {c : System}
    (r : ReachableBy (fun c op => op.cancels id = false ∧ ¬ op.EndsPaused id c) c) {job : Job}
    (found : c.jobs.get? id = some job) (n : StageName) :
    job.stage n ≠ .cancelled ∧ (transitionStage n .running (c.ctx id job)).1 = .ok () := by
  have uncancelled : ∀ k job, c.jobs.get? k = some job → k = id → job.Uncancelled := by
    refine ReachableBy.jobs (H := fun k job h => k = id → h.SparesStages id job)
      (fun c op _ met => ?_) ?_ ?_ ?_ r
    · obtain ⟨kept, ends⟩ := met
      cases op with
      | ask env k q =>
        intro job _ same
        cases q with
        | halt a =>
          cases a with
          | pause => trivial
          | cancel => simp [Op.cancels, same] at kept
        | _ => trivial
      | render env envs index =>
        intro k p job waiting found same paused rendered
        exact ends ⟨p, job, same ▸ waiting, same ▸ found, paused, rendered⟩
      | _ => simp [Op.Allowed, Handler.SparesStages]
    · intro k request status listed _
      refine ⟨fun cancelled => ?_, fun n => ?_⟩
      · obtain rfl : status = .cancelled := cancelled
        simp at listed
      · cases n <;> rintro ⟨⟩
    · exact fun k job video before same => (before same).reload video
    · intro s h before allowed same
      exact (before same).kept (Handler.spares (before same) (same ▸ allowed same))
  have now : (c.ctx id job).job.Uncancelled := uncancelled id job found rfl
  exact ⟨now.stage n, now.runs n⟩

def Env.alone (now : Time) : Env := { Env.plain now with localFallback := true }

/-- A Job with a script of one scene, up to its render by CORE. -/
def renderStarts : List Op :=
  [.create (.alone 1) ⟨.image, 5, 3⟩,
    .ask (.alone 1) 0 (.edit { script := some ⟨[false]⟩ }),
    .background (fun _ => .alone 1) (fun _ => .alone 1) 0]

/-- The Job is paused and resumed during its render. -/
def renderResumed : List Op :=
  renderStarts ++
    [.ask (.alone 2) 0 (.halt .pause), .ask (.alone 3) 0 .resume, .render (.alone 4) (fun _ => .alone 4) 0]

theorem paused_stages_run_again_resumed :
    ∃ job, (System.after {} renderResumed).jobs.get? 0 = some job ∧ ∀ n, job.stage n ≠ .cancelled ∧
      (transitionStage n .running ((System.after {} renderResumed).ctx 0 job)).1 = .ok () := by
  have met : System.Along (fun c op => op.cancels 0 = false ∧ ¬ op.EndsPaused 0 c) {} renderResumed := by
    refine ⟨⟨rfl, id⟩, ⟨rfl, id⟩, ⟨rfl, id⟩, ⟨rfl, id⟩, ⟨rfl, id⟩, ⟨rfl, ?_⟩, trivial⟩
    rintro ⟨p, job, -, found, paused, -⟩
    have status : ((System.after {} (renderResumed.take 5)).jobs.get? 0).map Job.status = some .new := by
      decide +kernel
    rw [show (System.after {} (renderResumed.take 5)).jobs.get? 0 = some job from found] at status
    simp [paused] at status
  have known : ((System.after {} renderResumed).jobs.get? 0).isSome = true := by decide +kernel
  obtain ⟨job, found⟩ := Option.isSome_iff_exists.1 known
  exact ⟨job, found, paused_stages_run_again (.after (.init rfl) _ met) found⟩

/-- A native render that ends while its Job is paused makes the assembly stage unrunnable. -/
theorem paused_render_cancels_assembly :
    ¬ ∀ (id : JobId) (c : System) (job : Job), ReachableBy (fun _ op => op.cancels id = false) c →
      c.jobs.get? id = some job → ∀ n, job.stage n ≠ .cancelled ∧
        (transitionStage n .running (c.ctx id job)).1 = .ok () := by
  intro h
  let ops := renderStarts ++ [.ask (.alone 2) 0 (.halt .pause), .render (.alone 3) (fun _ => .alone 3) 0]
  have reached : ReachableBy (fun _ op => op.cancels 0 = false) (System.after {} ops) :=
    .after (.init rfl) ops ⟨rfl, rfl, rfl, rfl, rfl, trivial⟩
  have stage : ((System.after {} ops).jobs.get? 0).map (·.stage .assembly) = some .cancelled := by
    decide +kernel
  cases found : (System.after {} ops).jobs.get? 0 with
  | none => simp [found] at stage
  | some job =>
    rw [found, Option.map_some, Option.some.injEq] at stage
    exact (h 0 _ job reached found .assembly).1 stage

end Vertep.Core
