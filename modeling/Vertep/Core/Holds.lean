import Vertep.Core.LateResults

/-!
# Compute that nobody has proved free (`core/api/tasks.py`)

A render that is taken from an external engine leaves a record under its submit key. While the record is
unconfirmed, no claim hands out a render for the same engine and endpoint (`engine_release_hold`). The
record may be closed by the engine itself, when it is the one the record names, or by a late result of a
node the attempt was handed to. CORE takes more than that as proof: `confirm_assembly_release` asks
whatever engine is configured now, a late result is matched by its task alone, and a second attempt under
the same key replaces the record of the first.
-/

namespace Vertep.Core
open Lib Queue
open Command Act

set_option synthInstance.maxSize 4000
set_option synthInstance.maxHeartbeats 200000

/-- The Job holds the runtime for the render under the key. -/
def Job.Holds (job : Job) (key : SubmitKey) (identity : EngineIdentity) : Prop :=
  ∃ release, job.assemblyReleases.get? key = some release ∧ release.state = .unconfirmed ∧
    release.identity = identity

@[reducible] def Footprint.sameReleases : Footprint where
  releases := false

lemma Job.Holds.kept {s s' : Ctx} {key : SubmitKey} {identity : EngineIdentity}
    (holds : s.job.Holds key identity) (t : Touched .sameReleases s s') : s'.job.Holds key identity := by
  have same := t.releases.resolve_left nofun
  rwa [Job.Holds, ← same]

lemma Job.Holds.releaseHold {job : Job} {key other : SubmitKey} {identity : EngineIdentity}
    (holds : job.Holds key identity) (ne : other ≠ key) : (job.releaseHold other).Holds key identity := by
  obtain ⟨release, found, state, same⟩ := holds
  unfold Job.releaseHold
  split
  · split
    · exact ⟨release, found, state, same⟩
    · refine ⟨release, ?_, state, same⟩
      simpa [ne] using found
  · exact ⟨release, found, state, same⟩

/-! ## Handlers -/

section
variable {env : Env} {s : Ctx} {key : SubmitKey} {identity : EngineIdentity}

lemma result_holds {r : TaskResult} (holds : s.job.Holds key identity)
    (other : ∀ release, s.job.assemblyReleases.get? key = some release → release.taskId ≠ r.taskId) :
    (result env r s).2.job.Holds key identity := by
  rw [result_eq_handler]
  cases s.job.branch r.taskId with
  | scene =>
    simp only [Branch.handler, sceneResult, theJob_bind]
    split
    · exact holds
    cases found : cancelledAttemptRelease s.job r.taskId with
    | none =>
      simp only
      cases sceneForTask s.job r.taskId with
      | none => exact holds
      | some scene => exact holds.kept (touched _ _ s)
    | some e =>
      obtain ⟨k, release⟩ := e
      have listed := List.mem_of_find?_eq_some found
      have task : release.taskId = r.taskId := by simpa using List.find?_some found
      refine holds.releaseHold fun same => ?_
      subst same
      exact other release (Dict.mem_entries_iff.1 listed) task
  | _ =>
    simp only [Branch.handler]
    exact holds.kept (touched _ _ s)

/-- While attempts are outstanding, the record under the key of the snapshot is of the same engine. -/
def Job.SameEngine (job : Job) (key : SubmitKey) (identity : EngineIdentity) : Prop :=
  job.assemblyTaskIds.entries ≠ [] → job.videoEngineSnapshot.bind EngineSnapshot.submitKey = some key →
    engineIdentity job = identity

/-- What is left alone until the attempts are taken. -/
@[reducible] def Footprint.sameEngine : Footprint where
  renders := false
  releases := false
  snapshot := false

/-- The record stands, and it is of the engine whose attempts are about to be taken. -/
def HoldsEngine (id : JobId) (key : SubmitKey) (identity : EngineIdentity) (s : Ctx) : Prop :=
  s.jobId = id ∧ s.job.Holds key identity ∧ s.job.SameEngine key identity

instance (priority := low) {id : JobId} {α : Type} (m : Act α) [within : Touches .sameEngine m] :
    Within (Stable (HoldsEngine id key identity)) m := by
  refine ⟨fun s before => ?_⟩
  obtain ⟨known, holds, same⟩ := before
  have t := within.leads s
  have renders := t.renders.resolve_left nofun
  have releases := t.releases.resolve_left nofun
  have snapshot := t.snapshot.resolve_left nofun
  refine ⟨t.jobId.trans known, ?_, ?_⟩
  · rwa [Job.Holds, ← releases]
  · rwa [Job.SameEngine, engineIdentity, ← renders, ← snapshot]

end

section
variable {env : Env} {id : JobId} {key : SubmitKey} {identity : EngineIdentity}
  (silent : env.engine.identity = identity → env.cancelState id key = .unconfirmed)
include silent

lemma haltAssembly_holds (task : TaskId × ℕ) : Within
    (Stable fun s => s.job.assemblyTaskIds.entries ≠ [] ∧ HoldsEngine id key identity s)
    (haltAssembly env task) := by
  refine ⟨fun s before => ?_⟩
  obtain ⟨attempts, known, holds, same⟩ := before
  unfold haltAssembly
  simp only [read_bind]
  cases submitted : s.job.videoEngineSnapshot.bind EngineSnapshot.submitKey with
  | none => exact ⟨attempts, known, holds, same⟩
  | some k =>
    refine ⟨attempts, known, ?_, same⟩
    let release : AssemblyRelease :=
      ⟨engineIdentity s.job, cancelAndReleaseState env s.jobId s.job k, task.1⟩
    change Job.Holds { s.job with assemblyReleases := s.job.assemblyReleases.set k release } key identity
    by_cases own : k = key
    · subst own
      have engine := same attempts submitted
      refine ⟨release, (Dict.get?_set _ _ _ _).trans (if_pos rfl), ?_, engine⟩
      simp only [release, cancelAndReleaseState, engine]
      split
      · rfl
      · rename_i current
        rw [known]
        exact silent (not_not.1 current)
    · obtain ⟨release, found, state, of⟩ := holds
      exact ⟨release, (Dict.get?_set _ _ _ _).trans ((if_neg own).trans found), state, of⟩

lemma haltAssemblies_holds (a : Halt) : Within (Stable (HoldsEngine id key identity))
    (haltAssemblies env a) := by
  refine ⟨fun s before => ?_⟩
  simp only [haltAssemblies, theJob_bind, when]
  split
  · rename_i attempts
    have each := haltAssembly_holds silent
    have all := (inferInstance : Within (Stable fun s =>
      s.job.assemblyTaskIds.entries ≠ [] ∧ HoldsEngine id key identity s)
        (forEach (haltAssembly env) s.job.assemblyTaskIds.entries)).leads s ⟨attempts, before⟩
    rw [bind_apply]
    generalize forEach (haltAssembly env) s.job.assemblyTaskIds.entries s = r at all
    obtain ⟨x, s₁⟩ := r
    obtain ⟨-, kept⟩ := all
    cases x with
    | error e => exact kept
    | ok _ =>
      obtain ⟨known, holds, -⟩ := kept
      simp only [modifyJob_bind]
      refine (inferInstance : Within (Stable (HoldsEngine id key identity)) (haltStage a .assembly)).leads _ ?_
      exact ⟨known, holds, fun some => absurd rfl some⟩
  · exact before

lemma haltJob_holds (a : Halt) : Within (Stable (HoldsEngine id key identity)) (haltJob env a) := by
  have := haltAssemblies_holds silent a
  unfold haltJob
  refine .next fun job => .next fun _ => ?_
  refine .next fun _ => .next fun _ => ?_
  refine .next fun _ => .next fun _ => ?_
  refine .next fun _ => .next fun _ => ?_
  infer_instance

end

lemma confirm_holds {env : Env} {s : Ctx} {key other : SubmitKey} {identity : EngineIdentity}
    (holds : s.job.Holds key identity)
    (silent : other = key → env.releaseState key ≠ .ok .released ∧ env.releaseState key ≠ .ok .notApplied) :
    (confirmAssemblyRelease env other s).2.job.Holds key identity := by
  have closed : env.releaseState other = .ok .released ∨ env.releaseState other = .ok .notApplied →
      (s.job.releaseHold other).Holds key identity := by
    intro answered
    refine holds.releaseHold fun same => ?_
    obtain ⟨no, no'⟩ := silent same
    rw [same] at answered
    exact answered.elim no no'
  simp only [confirmAssemblyRelease, theJob_bind]
  cases s.job.assemblyReleases.get? other with
  | none => exact holds
  | some release =>
    simp only
    split
    · exact holds
    cases answered : env.releaseState other with
    | error e => exact holds
    | ok state =>
      cases state with
      | released => exact closed (.inl answered)
      | notApplied => exact closed (.inr answered)
      | unconfirmed => exact holds

/-! ## Claims -/

lemma claimScan_taken {env : Env} {p : Claim} {worker : Worker} {item : Item TaskBody} (n : ℕ)
    (held : List TaskId) (c : System) (taken : (claimScan env p worker n held c).1 = some item) :
    ∃ job, c.jobs.get? item.payload.jobId = some job ∧ verdict env worker c.jobs job item = .take := by
  induction n generalizing held c with
  | zero => cases taken
  | succ n ih =>
    rw [claimScan] at taken
    rcases run : c.queue.claim env.now env.lease with ⟨served, queue⟩
    rw [run] at taken
    cases served with
    | none => cases taken
    | some next =>
      simp only at taken
      cases found : c.jobs.get? next.payload.jobId with
      | none =>
        simp only [found] at taken
        have later := ih _ _ taken
        exact later
      | some job =>
        cases tests : verdict env worker c.jobs job next with
        | drop | hold =>
          simp only [found, tests] at taken
          have later := ih _ _ taken
          exact later
        | releaseAndDrop =>
          simp only [found, tests] at taken
          have same := (sameTasks_releaseAll env held { c with queue := queue }).jobs
          obtain ⟨job', found', tests'⟩ := ih _ _ taken
          rw [same] at found' tests'
          exact ⟨job', found', tests'⟩
        | take =>
          simp only [found, tests] at taken
          obtain rfl := Option.some.inj taken
          exact ⟨job, found, tests⟩

/-- The node and the task of a claim that is answered with one. -/
def Op.handsOut (c : System) : Op → Option (NodeName × TaskId)
  | .claim env p =>
    match (claimTask env p c).1 with
    | .ok (some item) => some (p.nodeName, item.taskId)
    | _ => none
  | _ => none

/-- Each step of a run, with the tasks that were handed to nodes before it. -/
def System.Throughout (P : List (NodeName × TaskId) → System → Op → Prop)
    (handed : List (NodeName × TaskId)) (c : System) : List Op → Prop
  | [] => True
  | op :: ops => P handed c op ∧ (op.run c).Throughout P (handed ++ (op.handsOut c).toList) ops

/-- Which tasks a run hands to which nodes. -/
def handedOut (c : System) : List Op → List (NodeName × TaskId)
  | [] => []
  | op :: ops => (op.handsOut c).toList ++ handedOut (op.run c) ops

lemma System.Throughout.last {P : List (NodeName × TaskId) → System → Op → Prop}
    {handed : List (NodeName × TaskId)} {c : System} {ops : List Op} {op : Op}
    (all : c.Throughout P handed (ops ++ [op])) : P (handed ++ handedOut c ops) (c.after ops) op := by
  induction ops generalizing handed c with
  | nil =>
    rw [handedOut, List.append_nil]
    exact all.1
  | cons first ops ih =>
    rw [handedOut, ← List.append_assoc]
    exact ih all.2

/-- The Job has a record under the key, and nobody has proved that the render ended. -/
def System.Unproven (c : System) (id : JobId) (key : SubmitKey) (release : AssemblyRelease) : Prop :=
  ∃ job, c.jobs.get? id = some job ∧ job.assemblyReleases.get? key = some release ∧
    release.state = .unconfirmed

lemma claimed_render_unheld {env : Env} {p : Claim} {c : System} {item : Item TaskBody} {job : Job}
    (answered : (claimTask env p c).1 = .ok (some item)) (kind : item.payload.claimKind = .assembly)
    (found : c.jobs.get? item.payload.jobId = some job) {id : JobId} {key : SubmitKey}
    {release : AssemblyRelease} (unproven : c.Unproven id key release) :
    release.identity ≠
      ((item.payload.engineSnapshot.or job.videoEngineSnapshot).map EngineSnapshot.identity).getD .native := by
  have taken : ∃ worker, verdict env worker c.jobs job item = .take := by
    simp only [claimTask] at answered
    split at answered
    · cases answered
    · cases admits : admitted env p c with
      | none =>
        rw [admits] at answered
        cases answered
      | some worker =>
        rw [admits] at answered
        obtain ⟨job', found', tests⟩ := claimScan_taken _ [] c (Except.ok.inj answered)
        obtain rfl := Option.some.inj (found.symm.trans found')
        exact ⟨worker, tests⟩
  obtain ⟨worker, tests⟩ := taken
  obtain ⟨holder, listed, recorded, state⟩ := unproven
  intro same
  have hold : engineReleaseHold c.jobs (item.payload.engineSnapshot.or job.videoEngineSnapshot) = true := by
    refine List.any_eq_true.2 ⟨holder, List.mem_map.2 ⟨_, Dict.mem_entries_iff.2 listed, rfl⟩, ?_⟩
    refine List.any_eq_true.2 ⟨release, List.mem_map.2 ⟨_, Dict.mem_entries_iff.2 recorded, rfl⟩, ?_⟩
    simp [state, same]
  simp only [verdict, kind, hold, if_true] at tests
  repeat' split at tests
  all_goals cases tests

/-! ## Runs -/

/-- Evidence that the render of a record has ended: of the engine the record names, or of a node the
attempt was handed to. -/
def Op.Proves (handed : List (NodeName × TaskId)) (id : JobId) (key : SubmitKey)
    (release : AssemblyRelease) : Op → Prop
  | .ask env k (.confirmRelease other) => k = id ∧ other = key ∧ env.engine.identity = release.identity ∧
      (env.releaseState key = .ok .released ∨ env.releaseState key = .ok .notApplied)
  | .ask env k (.halt _) => k = id ∧ env.engine.identity = release.identity ∧
      env.cancelState id key ≠ .unconfirmed
  | .result _ r => r.jobId = id ∧ r.taskId = release.taskId ∧ (r.nodeName, r.taskId) ∈ handed
  | _ => False

/-- No step books an engine that is held, and none lets go of a record without evidence. -/
structure KeepsHolds (handed : List (NodeName × TaskId)) (c : System) (op : Op) : Prop where
  claims : ∀ env p item job, op = .claim env p → (claimTask env p c).1 = .ok (some item) →
    item.payload.claimKind = .assembly → c.jobs.get? item.payload.jobId = some job →
    ∀ id key release, c.Unproven id key release → release.identity ≠
      ((item.payload.engineSnapshot.or job.videoEngineSnapshot).map EngineSnapshot.identity).getD .native
  records : ∀ id key release, c.Unproven id key release → op.Proves handed id key release ∨
    ∃ job, (op.run c).jobs.get? id = some job ∧ job.Holds key release.identity

/-- A step that CORE has no guard for: a confirmation asks the engine the record names, a Job is halted
with attempts of the engine its record under the same key names, and a late result comes from a node the
attempt was handed to. -/
def Op.Accounts (handed : List (NodeName × TaskId)) (c : System) : Op → Prop
  | .ask env id (.confirmRelease key) => ∀ release, c.Unproven id key release →
      env.releaseState key = .ok .released ∨ env.releaseState key = .ok .notApplied →
        env.engine.identity = release.identity
  | .ask _ id (.halt _) => ∀ key release, c.Unproven id key release →
      ∀ job, c.jobs.get? id = some job → job.SameEngine key release.identity
  | .result _ r => ∀ key release, c.Unproven r.jobId key release → release.taskId = r.taskId →
      (r.nodeName, r.taskId) ∈ handed
  | _ => True

section
variable {c : System} {handed : List (NodeName × TaskId)} {id : JobId} {key : SubmitKey}
  {release : AssemblyRelease}

/-- A handler that keeps the record of a Job, whatever the rest of the state. -/
def Handler.KeepsHold (id : JobId) (key : SubmitKey) (identity : EngineIdentity) (k : JobId) (job : Job)
    (h : Handler) : Prop :=
  k = id → ∀ s : Ctx, s.jobId = k → s.job = job → s.job.Holds key identity →
    (h.act s).2.job.Holds key identity

lemma Op.keeps_record (o : c.Ordered) {op : Op}
    (allowed : op.Allowed (Handler.KeepsHold id key release.identity) (fun _ _ => True) c)
    (unproven : c.Unproven id key release) :
    ∃ job, (op.run c).jobs.get? id = some job ∧ job.Holds key release.identity := by
  obtain ⟨job, found, recorded, state⟩ := unproven
  refine Path.job (fun s h known _ holds keeps => keeps rfl s known rfl holds) ?_ (Op.path allowed) o
    ⟨job, found, release, recorded, state, rfl⟩
  intro job video holds
  obtain ⟨release, recorded, state, same⟩ := holds
  refine ⟨release, ?_, state, same⟩
  simp only [Job.reload]
  repeat' split
  all_goals exact recorded

lemma Handler.keepsHold_of_touched {h : Handler} (t : ∀ s, Touched .sameReleases s (h.act s).2)
    {k : JobId} {job : Job} {identity : EngineIdentity} : h.KeepsHold id key identity k job :=
  fun _ s _ _ holds => holds.kept (t s)

lemma Op.keepsHolds (o : c.Ordered) {op : Op} (accounts : op.Accounts handed c) :
    KeepsHolds handed c op := by
  refine ⟨fun env p item job same answered kind found id key release unproven => ?_,
    fun id key release unproven => ?_⟩
  · subst same
    exact claimed_render_unheld answered kind found unproven
  by_cases evidence : op.Proves handed id key release
  · exact .inl evidence
  refine .inr (Op.keeps_record o ?_ unproven)
  have ⟨job, found, recorded, state⟩ := unproven
  cases op with
  | result env r =>
    intro _ job' found' own s _ same holds
    subst same
    have here : s.job = job := Option.some.inj (found'.symm.trans (own ▸ found))
    refine result_holds holds fun release' recorded' task => evidence ?_
    obtain rfl := Option.some.inj ((here ▸ recorded').symm.trans recorded)
    exact ⟨own, task.symm, accounts key release' (own ▸ unproven) task⟩
  | ask env k q =>
    intro job' found' own s known same holds
    subst same
    have here : s.job = job := Option.some.inj (found'.symm.trans (own ▸ found))
    cases q with
    | halt a =>
      have engine := accounts key release (own ▸ unproven) s.job found'
      have silent (current : env.engine.identity = release.identity) :
          env.cancelState id key = .unconfirmed := by
        by_contra answered
        exact evidence ⟨own, current, answered⟩
      exact ((haltJob_holds silent a).leads s ⟨known.trans own, holds, engine⟩).2.1
    | confirmRelease other =>
      refine confirm_holds holds fun same => ?_
      subst same
      refine ⟨fun answered => evidence ?_, fun answered => evidence ?_⟩
      · exact ⟨own, rfl, accounts release (own ▸ unproven) (.inl answered), .inl answered⟩
      · exact ⟨own, rfl, accounts release (own ▸ unproven) (.inr answered), .inr answered⟩
    | _ =>
      simp only [Handler.act, JobRequest.act]
      exact holds.kept (touched _ _ s)
  | restart env durable =>
    refine ⟨fun _ _ => trivial, fun id job status => Handler.keepsHold_of_touched fun s => ?_⟩
    simp only [Handler.act]
    exact touched _ _ s
  | claim env p =>
    refine fun _ _ => ⟨fun item job _ => Handler.keepsHold_of_touched fun s => ?_, fun _ _ => trivial⟩
    simp only [Handler.act]
    exact touched _ _ s
  | create env request | renew env node task => trivial
  | _ =>
    simp only [Op.Allowed]
    intros
    refine Handler.keepsHold_of_touched fun s => ?_
    simp only [Handler.act]
    exact touched _ _ s

end

/-- No run books compute that is not proved free, and none lets go of a record without evidence, as long as
each of its steps accounts for what CORE takes on trust. -/
theorem unproven_compute_held (ops : List Op) (accounted : System.Throughout Op.Accounts [] {} ops) :
    System.Throughout KeepsHolds [] {} ops := by
  suffices ∀ (handed : List (NodeName × TaskId)) (c : System), Reachable c →
      c.Throughout Op.Accounts handed ops → c.Throughout KeepsHolds handed ops from
    this [] {} (.init rfl) accounted
  clear accounted
  induction ops with
  | nil => exact fun _ _ _ _ => trivial
  | cons op ops ih =>
    intro handed c reached accounted
    obtain ⟨first, rest⟩ := accounted
    exact ⟨Op.keepsHolds reached.ordered first, ih _ _ (reached.step ⟨op, trivial, rfl⟩) rest⟩

/-- A render of node 7 is cancelled without a confirmation of its engine, and the node returns later. -/
def renderReturned : List Op :=
  [.create (.rendering 1) ⟨.image, 5, 3⟩,
    .ask (.rendering 1) 0 (.edit { script := some ⟨[false]⟩ }),
    .background (fun _ => .rendering 1) (fun _ => .rendering 1) 0,
    .heartbeat (.rendering 1) (.free 7),
    .claim (.rendering 2) ⟨7, true, true⟩,
    .ask (.rendering 3) 0 (.halt .cancel),
    .result (.rendering 4) (.bare 0 7 3)]

theorem unproven_compute_held_returned : System.Throughout KeepsHolds [] {} renderReturned := by
  refine unproven_compute_held renderReturned ⟨trivial, trivial, trivial, trivial, trivial, ?_, ?_, trivial⟩
  · rintro key release ⟨job, found, recorded, -⟩
    have empty : ((System.after {} (renderReturned.take 5)).jobs.get? 0).map
        (fun job => job.assemblyReleases) = some ∅ := by decide +kernel
    rw [show (System.after {} (renderReturned.take 5)).jobs.get? 0 = some job from found,
      Option.map_some, Option.some.injEq] at empty
    rw [empty] at recorded
    cases recorded
  · intro key release _ _
    change (7, 3) ∈ [] ++ Option.toList _ ++ _ ++ _ ++ _ ++ _ ++ _
    decide +kernel

/-- Node 8 never had the render, but its result proves that the render has ended. -/
theorem stranger_releases_hold :
    ¬ ∀ ops : List Op, System.Throughout KeepsHolds [] {} ops := by
  intro h
  -- everything up to the halt, then the result of another node
  let before := System.after {} (renderReturned.take 6)
  let answer : Op := .result (.rendering 4) (.bare 0 8 3)
  have last : KeepsHolds ([] ++ handedOut {} (renderReturned.take 6)) before answer :=
    (h (renderReturned.take 6 ++ [answer])).last
  have record : (before.jobs.get? 0).map (fun job => job.assemblyReleases.get? 1) =
      some (some ⟨⟨1, 1⟩, .unconfirmed, 3⟩) := by decide +kernel
  have closed : ((answer.run before).jobs.get? 0).map (fun job => job.assemblyReleases.get? 1) =
      some (some ⟨⟨1, 1⟩, .released, 3⟩) := by decide +kernel
  obtain ⟨job, found, recorded⟩ := Option.map_eq_some_iff.1 record
  obtain ⟨job', found', recorded'⟩ := Option.map_eq_some_iff.1 closed
  rcases last.records 0 1 _ ⟨job, found, recorded, rfl⟩ with ⟨-, -, handed⟩ | ⟨job'', found'', holds⟩
  · have stranger : (8, 3) ∉ [] ++ handedOut {} (renderReturned.take 6) := by decide +kernel
    exact stranger handed
  · obtain rfl := Option.some.inj (found'.symm.trans found'')
    obtain ⟨release, is, state, -⟩ := holds
    obtain rfl := Option.some.inj (recorded'.symm.trans is)
    cases state

end Vertep.Core
