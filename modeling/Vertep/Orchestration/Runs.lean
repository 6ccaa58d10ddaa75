import Mathlib.Data.List.Induction
import Vertep.Orchestration.History

/-!
# Runs on the stages and scenes of a Job

Every call of the functions of `core/orchestration.py` is an operation on a Job, a scene being the one at
an index of its list. `Op.Appends` says of a call and the Job before it that it takes none of the steps
which reopen a history; a run has append-only histories exactly if all its calls are such.
-/

namespace Vertep.Orchestration
open Lib Command
open Core (StageName StageStatus)

/-- A call of a function of `orchestration.py`. -/
inductive Op where
  | transition (name : StageName) (status : StageStatus) (error : Option String) (now : Instant)
  | start (i : ℕ) (taskId : String) (node : Option String) (now : Instant)
  | finish (i : ℕ) (artifactIds : List String) (now : Instant)
  | fail (i : ℕ) (error : String) (now : Instant)
  | interrupt (i : ℕ) (error : String) (now : Instant)
  | cancel (i : ℕ) (reason : String) (now : Instant)
  | recover (now : Instant)

def Job.updateScene (job : Job) (i : ℕ) (f : SceneRecord → SceneRecord) : Job :=
  { job with scenes := job.scenes.modify i f }

/-- The Job a call leaves, also where it raises. -/
def Op.run (job : Job) : Op → Job
  | .transition name status error now => (transitionStage name status error now job).2
  | .start i taskId node now => job.updateScene i (·.start taskId node now)
  | .finish i artifactIds now => job.updateScene i (·.finish artifactIds now)
  | .fail i error now => job.updateScene i (·.fail error now)
  | .interrupt i error now => job.updateScene i (·.interrupt error now)
  | .cancel i reason now => job.updateScene i (·.cancel reason now)
  | .recover now => job.recoverAfterRestart now

def run (job : Job) (ops : List Op) : Job := ops.foldl (fun job op => op.run job) job

/-- A stage or a scene of a Job. -/
inductive Record where
  | stage (name : StageName)
  | scene (i : ℕ)

def Job.attempts (job : Job) : Record → List AttemptRecord
  | .stage name => ((job.stages.get? name).map (·.attempts)).getD []
  | .scene i => (job.scenes[i]?.map (·.attempts)).getD []

/-- The call does not reopen a history: no stage leaves its pause or is cancelled after it failed, no scene
starts while its last attempt runs, and none ends another attempt than one that runs. -/
def Op.Appends (job : Job) : Op → Prop
  | .transition name status _ _ => ∀ stage, job.stages.get? name = some stage → ¬ stage.Reopens status
  | .start i _ _ _ => ∀ scene, job.scenes[i]? = some scene → ¬ LastRuns scene.attempts
  | .finish i _ now => ∀ scene, job.scenes[i]? = some scene →
    LastIs scene.attempts fun a => a.close .ready a.error now
  | .fail i error now | .interrupt i error now => ∀ scene, job.scenes[i]? = some scene →
    LastIs scene.attempts fun a => a.close .failed (some error) now
  | .cancel _ _ _ | .recover _ => True

/-- Along the run, histories are well-formed and keep what was closed. -/
def AppendOnly (job : Job) (ops : List Op) : Prop :=
  ∀ earlier later, earlier ++ later <+: ops → ∀ r, WellFormed ((run job earlier).attempts r) ∧
    Kept ((run job earlier).attempts r) ((run job (earlier ++ later)).attempts r)

/-! ## The plan -/

variable {stage : StageRecord}

lemma newStages_attempts {script : Option ℕ} {name : StageName}
    (found : (newStages script).get? name = some stage) :
    stage.attempts = [] ∧ (stage.status = .pending ∨ stage.status = .ready) := by
  have filled (names : List StageName) (stages : Dict StageName StageRecord)
      (fresh : ∀ stage, stages.get? name = some stage → stage.attempts = [] ∧ stage.status = .pending)
      (found : (names.foldl (fun stages name => stages.set name { name := name }) stages).get? name = some stage) :
      stage.attempts = [] ∧ stage.status = .pending := by
    induction names generalizing stages with
    | nil => exact fresh stage found
    | cons other names ih =>
      refine ih _ ?_ found
      intro stage found
      rw [Dict.get?_set] at found
      split at found
      · cases found
        exact ⟨rfl, rfl⟩
      · exact fresh stage found
  unfold newStages at found
  dsimp only at found
  split at found
  · rw [Dict.get?_set] at found
    split at found
    · cases found
      exact ⟨rfl, .inr rfl⟩
    · exact (filled stageOrder ∅ (by simp) found).imp_right .inl
  · exact (filled stageOrder ∅ (by simp) found).imp_right .inl

lemma Job.attempts_initializePlan (job : Job) (r : Record) : job.initializePlan.attempts r = job.attempts r := by
  cases r with
  | stage name =>
    unfold Job.attempts Job.initializePlan
    dsimp only
    split
    · rename_i empty
      rw [Dict.get?_of_entries empty]
      cases found : (newStages job.script).get? name with
      | none => rfl
      | some stage => exact (newStages_attempts found).1
    · rfl
  | scene i =>
    unfold Job.attempts Job.initializePlan
    dsimp only
    cases job.script with
    | none => rfl
    | some scenes =>
      dsimp only
      split
      · rename_i empty
        rw [empty, List.getElem?_map]
        cases (List.range' 1 (max scenes 1))[i]? <;> rfl
      · rfl

/-- Every stage agrees with its history, and every scene has a good one. -/
structure Job.Sane (job : Job) : Prop where
  stages : ∀ name stage, job.stages.get? name = some stage → stage.Sane
  scenes : ∀ scene ∈ job.scenes, Good scene.attempts

lemma sane_of_idle (none : stage.attempts = [])
    (status : stage.status = .pending ∨ stage.status = .ready) : stage.Sane := by
  constructor
  · rw [none]
    exact good_nil
  · rw [none]
    refine iff_of_false ?_ ?_
    · rintro ⟨a, last, _⟩
      cases last
    · rcases status with is | is <;> rw [is] <;> decide
  · exact fun _ => none
  · intro failed
    rcases status with is | is <;> exact absurd (is.symm.trans failed) (by decide)

variable {job : Job}

lemma Job.Sane.initializePlan (h : job.Sane) : job.initializePlan.Sane := by
  constructor
  · intro name stage found
    unfold Job.initializePlan at found
    dsimp only at found
    split at found
    · obtain ⟨none, status⟩ := newStages_attempts found
      exact sane_of_idle none status
    · exact h.stages name stage found
  · intro scene member
    unfold Job.initializePlan at member
    dsimp only at member
    cases is : job.script with
    | none =>
      rw [is] at member
      exact h.scenes scene member
    | some scenes =>
      rw [is] at member
      dsimp only at member
      split at member
      · obtain ⟨index, _, rfl⟩ := List.mem_map.1 member
        exact good_nil
      · exact h.scenes scene member

/-! ## One call -/

lemma transitionStage_cases (job : Job) (name : StageName) (status : StageStatus) (error : Option String)
    (now : Instant) :
    (∃ stage, job.initializePlan.stages.get? name = some stage ∧ status ≠ stage.status ∧
      status ∈ stage.status.next ∧ (transitionStage name status error now job).2 =
        { job.initializePlan with
          stages := job.initializePlan.stages.set name (stage.enter status error now)
          version := job.initializePlan.version + 1 }) ∨
    (transitionStage name status error now job).2 = job.initializePlan ∧
      ∀ stage, job.initializePlan.stages.get? name = some stage →
        ¬ (status ≠ stage.status ∧ status ∈ stage.status.next) := by
  simp only [transitionStage, write_bind, read_bind]
  cases job.initializePlan.stages.get? name with
  | none => exact .inr ⟨rfl, by rintro _ ⟨⟩⟩
  | some stage =>
    by_cases same : status = stage.status
    · refine .inr ⟨?_, ?_⟩
      · show Prod.snd ((if _ then _ else _ : JobM StageRecord) _) = _
        rw [if_pos same]
        rfl
      · rintro _ ⟨⟩ ⟨other, _⟩
        exact other same
    by_cases allowed : status ∈ stage.status.next
    · refine .inl ⟨stage, rfl, same, allowed, ?_⟩
      show Prod.snd ((if _ then _ else if _ then _ else _ : JobM StageRecord) _) = _
      rw [if_neg same, if_neg (not_not.2 allowed)]
      rfl
    · refine .inr ⟨?_, ?_⟩
      · show Prod.snd ((if _ then _ else if _ then _ else _ : JobM StageRecord) _) = _
        rw [if_neg same, if_pos allowed]
        rfl
      · rintro _ ⟨⟩ ⟨_, is⟩
        exact allowed is

lemma Job.attempts_updateScene (job : Job) (i : ℕ) (f : SceneRecord → SceneRecord) (r : Record) :
    (job.updateScene i f).attempts r = job.attempts r ∨ r = .scene i ∧ ∃ scene, job.scenes[i]? = some scene ∧
      job.attempts r = scene.attempts ∧ (job.updateScene i f).attempts r = (f scene).attempts := by
  cases r with
  | stage name => exact .inl rfl
  | scene k =>
    simp only [Job.attempts, Job.updateScene, List.getElem?_modify]
    by_cases same : i = k
    · subst same
      cases found : job.scenes[i]? with
      | none => simp
      | some scene => exact .inr ⟨rfl, scene, rfl, rfl, by simp⟩
    · simp [same]

lemma Job.Sane.updateScene (h : job.Sane) {i : ℕ} {f : SceneRecord → SceneRecord}
    (step : ∀ scene, job.scenes[i]? = some scene → Good scene.attempts →
      Good (f scene).attempts ∧ Kept scene.attempts (f scene).attempts) :
    (job.updateScene i f).Sane ∧ ∀ r, Kept (job.attempts r) ((job.updateScene i f).attempts r) := by
  constructor
  · constructor
    · exact h.stages
    · intro scene member
      obtain ⟨k, found⟩ := List.mem_iff_getElem?.1 member
      rw [Job.updateScene, List.getElem?_modify] at found
      obtain ⟨before, there, is⟩ := Option.map_eq_some_iff.1 found
      have good := h.scenes before (List.mem_of_getElem? there)
      split at is
      · rename_i same
        subst same is
        exact (step before there good).1
      · subst is
        exact good
  · intro r
    rcases job.attempts_updateScene i f r with same | ⟨_, scene, found, before, after⟩
    · rw [same]
      exact Kept.refl _
    · rw [before, after]
      exact (step scene found (h.scenes scene (List.mem_of_getElem? found))).2

lemma Job.attempts_scene {i : ℕ} {scene : SceneRecord} (found : job.scenes[i]? = some scene)
    (f : SceneRecord → SceneRecord) :
    job.attempts (.scene i) = scene.attempts ∧ (job.updateScene i f).attempts (.scene i) = (f scene).attempts := by
  simp [Job.attempts, Job.updateScene, found]

lemma Job.stage_initializePlan {name : StageName}
    (found : job.stages.get? name = some stage) : job.initializePlan.stages.get? name = some stage := by
  unfold Job.initializePlan
  dsimp only
  split
  · rename_i empty
    rw [Dict.get?_of_entries empty] at found
    cases found
  · exact found

lemma Job.Sane.step (h : job.Sane) {op : Op} (ok : op.Appends job) :
    (op.run job).Sane ∧ ∀ r, Kept (job.attempts r) ((op.run job).attempts r) := by
  cases op with
  | transition name status error now =>
    have plan := h.initializePlan
    show ((transitionStage name status error now job).2).Sane ∧ _
    rcases transitionStage_cases job name status error now with ⟨stage, found, changes, allowed, is⟩ | ⟨is, _⟩
    · have closed : ¬ stage.Reopens status := by
        cases before : job.stages.get? name with
        | some stage' =>
          cases found.symm.trans (Job.stage_initializePlan before)
          exact ok stage before
        | none =>
          -- a stage that the plan just made waits or is ready
          unfold Job.initializePlan at found
          dsimp only at found
          split at found
          · obtain ⟨_, idle⟩ := newStages_attempts found
            rintro (⟨other, _⟩ | ⟨other, _⟩) <;> rw [other] at idle <;> simp at idle
          · cases before.symm.trans found
      obtain ⟨sane, kept⟩ := (plan.stages name stage found).enter error now changes allowed closed
      rw [is]
      constructor
      · constructor
        · intro name' stage' found'
          rw [show Dict.get? _ name' = _ from Dict.get?_set _ _ _ _] at found'
          split at found'
          · cases found'
            exact sane
          · exact plan.stages name' stage' found'
        · exact plan.scenes
      · intro r
        show Kept _ (Job.attempts (Prod.snd (transitionStage name status error now job)) r)
        rw [is, ← job.attempts_initializePlan]
        cases r with
        | scene i => exact Kept.refl _
        | stage name' =>
          simp only [Job.attempts, Dict.get?_set]
          split
          · rename_i same
            subst same
            rw [found]
            exact kept
          · exact Kept.refl _
    · rw [is]
      refine ⟨plan, fun r => ?_⟩
      show Kept _ (Job.attempts (Prod.snd (transitionStage name status error now job)) r)
      rw [is, job.attempts_initializePlan]
      exact Kept.refl _
  | start i taskId node now =>
    exact h.updateScene fun scene found good => ⟨good.begin (ok scene found), kept_openAttempt⟩
  | finish i artifactIds now =>
    exact h.updateScene fun scene found good =>
      ⟨good.close (by decide) _ now, good.kept_updateLast_iff.2 (ok scene found)⟩
  | fail i error now =>
    exact h.updateScene fun scene found good =>
      ⟨good.close (by decide) _ now, good.kept_updateLast_iff.2 (ok scene found)⟩
  | interrupt i error now =>
    exact h.updateScene fun scene found good =>
      ⟨good.close (by decide) _ now, good.kept_updateLast_iff.2 (ok scene found)⟩
  | cancel i reason now =>
    exact h.updateScene fun scene found good => good.closeRunning .cancelled (by decide) reason now
  | recover now =>
    constructor
    · constructor
      · intro name stage found
        have mapped := Dict.get?_map job.stages (fun _ stage => stage.recover now) name
        obtain ⟨before, there, rfl⟩ := Option.map_eq_some_iff.1 (mapped.symm.trans found)
        exact ((h.stages name before there).recover now).1
      · intro scene member
        obtain ⟨before, there, rfl⟩ := List.mem_map.1 member
        unfold SceneRecord.recover
        dsimp only
        split
        · exact ((h.scenes before there).closeRunning .failed (by decide) _ now).1
        · exact h.scenes before there
    · intro r
      cases r with
      | stage name =>
        simp only [Op.run, Job.recoverAfterRestart, Job.attempts, Dict.get?_map]
        cases found : job.stages.get? name with
        | none => exact Kept.refl _
        | some stage => exact ((h.stages name stage found).recover now).2
      | scene i =>
        simp only [Op.run, Job.recoverAfterRestart, Job.attempts, List.getElem?_map]
        cases found : job.scenes[i]? with
        | none => exact Kept.refl _
        | some scene =>
          show Kept scene.attempts (scene.recover now).attempts
          unfold SceneRecord.recover
          dsimp only
          split
          · exact ((h.scenes scene (List.mem_of_getElem? found)).closeRunning .failed (by decide) _ now).2
          · exact Kept.refl _

lemma Job.Sane.broken (h : job.Sane) {op : Op} (bad : ¬ op.Appends job) :
    ∃ r, ¬ WellFormed ((op.run job).attempts r) ∨ ¬ Kept (job.attempts r) ((op.run job).attempts r) := by
  -- a scene whose last attempt has ended is written again
  have rewritten {i : ℕ} {f : SceneRecord → SceneRecord} {g : AttemptRecord → AttemptRecord} {scene : SceneRecord}
      (found : job.scenes[i]? = some scene) (writes : (f scene).attempts = updateLast g scene.attempts)
      (closed : ¬ LastIs scene.attempts g) :
      ¬ Kept (job.attempts (.scene i)) ((job.updateScene i f).attempts (.scene i)) := by
    obtain ⟨before, after⟩ := Job.attempts_scene found f
    rw [before, after, writes]
    exact fun kept => closed ((h.scenes scene (List.mem_of_getElem? found)).kept_updateLast_iff.1 kept)
  cases op with
  | transition name status error now =>
    simp only [Op.Appends, not_forall, not_not] at bad
    obtain ⟨stage, found, reopens⟩ := bad
    obtain ⟨changes, allowed, breaks⟩ := (h.stages name stage found).reopens error now reopens
    have planned := Job.stage_initializePlan found
    refine ⟨.stage name, ?_⟩
    show ¬ WellFormed (Job.attempts (Prod.snd (transitionStage name status error now job)) _) ∨
      ¬ Kept _ (Job.attempts (Prod.snd (transitionStage name status error now job)) _)
    rcases transitionStage_cases job name status error now with ⟨stage', found', _, _, is⟩ | ⟨_, refused⟩
    · cases planned.symm.trans found'
      rw [is]
      simp only [Job.attempts, Dict.get?_set, if_pos, found, Option.map_some, Option.getD_some]
      exact breaks
    · exact absurd ⟨changes, allowed⟩ (refused stage planned)
  | start i taskId node now =>
    simp only [Op.Appends, not_forall, not_not] at bad
    obtain ⟨scene, found, runs⟩ := bad
    refine ⟨.scene i, .inl ?_⟩
    rw [Op.run, (Job.attempts_scene found _).2]
    exact not_wellFormed_openAttempt runs
  | finish i artifactIds now =>
    simp only [Op.Appends, not_forall] at bad
    obtain ⟨scene, found, closed⟩ := bad
    exact ⟨.scene i, .inr (rewritten found rfl closed)⟩
  | fail i error now =>
    simp only [Op.Appends, not_forall] at bad
    obtain ⟨scene, found, closed⟩ := bad
    exact ⟨.scene i, .inr (rewritten found rfl closed)⟩
  | interrupt i error now =>
    simp only [Op.Appends, not_forall] at bad
    obtain ⟨scene, found, closed⟩ := bad
    exact ⟨.scene i, .inr (rewritten found rfl closed)⟩
  | cancel | recover => exact absurd trivial bad

/-! ## Runs -/

lemma run_append (job : Job) (ops ops' : List Op) : run job (ops ++ ops') = run (run job ops) ops' :=
  List.foldl_append

lemma run_concat (job : Job) (ops : List Op) (op : Op) : run job (ops ++ [op]) = op.run (run job ops) :=
  run_append job ops [op]

def Appending (job : Job) (ops : List Op) : Prop :=
  ∀ earlier op, earlier ++ [op] <+: ops → op.Appends (run job earlier)

lemma Appending.earlier {ops ops' : List Op} (h : Appending job ops) (p : ops' <+: ops) :
    Appending job ops' := fun earlier op q => h earlier op (q.trans p)

lemma Job.Sane.run (h : job.Sane) {ops : List Op} (ok : Appending job ops) : (run job ops).Sane := by
  induction ops using List.reverseRecOn with
  | nil => exact h
  | append_singleton ops op ih =>
    rw [run_concat]
    exact ((ih (ok.earlier (List.prefix_append _ _))).step (ok ops op (List.prefix_refl _))).1

lemma Job.Sane.kept (h : job.Sane) {earlier later : List Op} (ok : Appending job (earlier ++ later))
    (r : Record) : Kept ((Orchestration.run job earlier).attempts r)
      ((Orchestration.run job (earlier ++ later)).attempts r) := by
  induction later using List.reverseRecOn with
  | nil =>
    rw [List.append_nil]
    exact Kept.refl _
  | append_singleton later op ih =>
    rw [← List.append_assoc] at ok ⊢
    have before := ok.earlier (List.prefix_append _ _)
    rw [run_concat]
    exact (ih before).trans (((h.run before).step (ok _ op (List.prefix_refl _))).2 r)

lemma Job.Sane.wellFormed (h : job.Sane) (r : Record) : WellFormed (job.attempts r) := by
  cases r with
  | stage name =>
    rw [Job.attempts]
    cases found : job.stages.get? name with
    | none => exact good_nil.wellFormed
    | some stage => exact (h.stages name stage found).good.wellFormed
  | scene i =>
    rw [Job.attempts]
    cases found : job.scenes[i]? with
    | none => exact good_nil.wellFormed
    | some scene => exact (h.scenes scene (List.mem_of_getElem? found)).wellFormed

lemma sane_new (script : Option ℕ) : ({ script := script } : Job).Sane := by
  constructor
  · intro name stage found
    cases found
  · intro scene member
    cases member

/-- The histories of a new Job are append-only along a run exactly if no call of it reopens one. -/
theorem append_only_iff (script : Option ℕ) (ops : List Op) :
    AppendOnly { script := script } ops ↔ Appending { script := script } ops := by
  have sane := sane_new script
  constructor
  · intro only
    induction ops using List.reverseRecOn with
    | nil =>
      intro earlier op p
      cases List.append_eq_nil_iff.1 (List.prefix_nil.1 p) |>.2
    | append_singleton ops op ih =>
      have before := ih fun earlier later p => only earlier later (p.trans (List.prefix_append _ _))
      intro earlier op' p
      rcases List.prefix_concat_iff.1 p with same | p
      · obtain ⟨rfl, is⟩ := List.append_inj' same rfl
        cases is
        by_contra bad
        obtain ⟨r, broken⟩ := (sane.run before).broken bad
        rw [← run_concat] at broken
        rcases broken with broken | broken
        · exact broken (only (earlier ++ [op]) [] (List.append_nil _ ▸ List.prefix_refl _) r).1
        · exact broken (only earlier [op] (List.prefix_refl _) r).2
      · exact before earlier op' p
  · intro ok earlier later p r
    have before := ok.earlier ((List.prefix_append earlier later).trans p)
    exact ⟨(sane.run before).wellFormed r, sane.kept (ok.earlier p) r⟩

/-- The stage fails and is cancelled: the attempt that failed is cancelled as well, without its error. -/
theorem cancel_rewrites_failed_stage : ¬ AppendOnly {}
    [.transition .assets .running none "10:00", .transition .assets .failed (some "worker lost") "10:05",
      .transition .assets .cancelled none "10:10"] := by
  intro only
  have kept := (only [.transition .assets .running none "10:00",
    .transition .assets .failed (some "worker lost") "10:05"] [.transition .assets .cancelled none "10:10"]
    (List.prefix_refl _) (.stage .assets)).2
  obtain ⟨a, found, status, _⟩ := kept 0 ⟨1, .failed, "10:00", some "10:05", none, some "worker lost"⟩
    (by decide +kernel) (by decide)
  have after : ((run {} [.transition .assets .running none "10:00",
      .transition .assets .failed (some "worker lost") "10:05",
      .transition .assets .cancelled none "10:10"]).attempts (.stage .assets))[0]?.map (·.status) =
      some .cancelled := by
    decide +kernel
  rw [List.cons_append, List.cons_append, List.nil_append] at found
  rw [found, Option.map_some, status] at after
  cases after

end Vertep.Orchestration
