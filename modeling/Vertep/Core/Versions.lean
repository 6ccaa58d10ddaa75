import Vertep.Core.Stages

/-!
# Video versions (`core/pipeline.py`)

A version number is planned as one more than every recorded number, carried by an attempt or by a native
render, and recorded when that comes back. A worker's video is refused when its number is recorded; a
native render is not asked, and `regenerate_job` unlinks the files of all artifacts and forgets the
records whose file is gone. Where every native render that records still has the next number, and a
regeneration finds the file of every record and none of them among the artifacts, the records are
numbered from one without a gap, nothing is ever taken out of them or changed, and the active version is
one of them.
-/

namespace Vertep.Core
open Lib Queue
open Command Act

set_option synthInstance.maxSize 4000
set_option synthInstance.maxHeartbeats 200000

def Job.onRecord (job : Job) : List (ℕ × Digest) := job.videoVersions.map fun v => (v.version, v.sha256)

/-- The records are numbered from one, and what is under way has a recorded number or the next one. -/
structure Job.Numbered (job : Job) : Prop where
  numbers : job.videoVersions.map VideoVersion.version = List.range' 1 job.videoVersions.length
  attempts : ∀ task version, job.assemblyTaskIds.get? task = some version →
    1 ≤ version ∧ version ≤ job.videoVersions.length + 1
  active : ∀ version, job.activeVideoVersion = some version →
    1 ≤ version ∧ version ≤ job.videoVersions.length

lemma foldl_max_range' (n a : ℕ) : (List.range' 1 n).foldl max a = max a n := by
  induction n with
  | zero => simp
  | succ n ih =>
    rw [List.range'_1_concat, List.foldl_append, ih]
    simp only [List.foldl_cons, List.foldl_nil]
    omega

variable {job : Job}

lemma Job.Numbered.plan (h : job.Numbered) :
    planVersion job = job.videoVersions.length + 1 := by
  rw [planVersion, h.numbers, foldl_max_range']
  omega

lemma Job.Numbered.finish (h : job.Numbered) {version : ℕ}
    (next : version = job.videoVersions.length + 1) (sha256 : Digest) :
    (finishVideoVersion job version sha256).Numbered := by
  refine ⟨?_, fun task v held => ?_, fun v is => ?_⟩
  · simp only [finishVideoVersion, List.map_append, List.map_cons, List.map_nil, List.length_append,
      List.length_cons, List.length_nil, Nat.zero_add, h.numbers, List.range'_1_concat, next]
    rw [Nat.add_comm 1]
  · have := h.attempts task v held
    simp only [finishVideoVersion, List.length_append, List.length_cons, List.length_nil]
    omega
  · obtain rfl := Option.some.inj is
    simp only [finishVideoVersion, List.length_append, List.length_cons, List.length_nil]
    omega

lemma Job.Numbered.increasing (h : job.Numbered) :
    (job.onRecord.map Prod.fst).Pairwise (· < ·) := by
  have numbers : job.onRecord.map Prod.fst = List.range' 1 job.videoVersions.length := by
    rw [Job.onRecord, List.map_map]
    exact h.numbers
  rw [numbers]
  exact List.pairwise_lt_range'

lemma Job.Numbered.first (h : job.Numbered) {version : ℕ}
    (active : job.activeVideoVersion = some version) :
    ∃ v ∈ job.videoVersions, v.version = version ∧
      job.onRecord.find? (·.1 = version) = some (version, v.sha256) := by
  obtain ⟨positive, most⟩ := h.active version active
  have listed : version ∈ job.videoVersions.map VideoVersion.version := by
    rw [h.numbers, List.mem_range'_1]
    omega
  obtain ⟨v, member, is⟩ := List.mem_map.1 listed
  cases found : job.onRecord.find? (·.1 = version) with
  | none =>
    have other := List.find?_eq_none.1 found (v.version, v.sha256) (List.mem_map.2 ⟨v, member, rfl⟩)
    simp [is] at other
  | some e =>
    obtain ⟨w, held, same⟩ := List.mem_map.1 (List.mem_of_find?_eq_some found)
    have number : e.1 = version := by simpa using List.find?_some found
    subst same
    exact ⟨w, held, number, by rw [← number]⟩

lemma Job.Numbered.recorded (h : job.Numbered) (version : ℕ) :
    job.videoVersions.any (·.version = version) = true ↔
      1 ≤ version ∧ version ≤ job.videoVersions.length := by
  have listed : job.videoVersions.any (·.version = version) = true ↔
      version ∈ job.videoVersions.map VideoVersion.version := by
    simp [List.any_eq_true]
  rw [listed, h.numbers, List.mem_range'_1]
  omega

/-! ## What keeps the numbers -/

def Counted (base : List (ℕ × Digest)) (s : Ctx) : Prop := s.job.Numbered ∧ base <+: s.job.onRecord

variable {base : List (ℕ × Digest)}

/-- Attempts, records and the active version are left alone. -/
@[reducible] def Footprint.sameVersions : Footprint where
  renders := false
  versions := false
  version := false

lemma Counted.kept {s s' : Ctx} (before : Counted base s) (t : Touched .sameVersions s s') :
    Counted base s' := by
  obtain ⟨numbered, extends_⟩ := before
  have renders := t.renders.resolve_left nofun
  have versions := t.versions.resolve_left nofun
  have version := t.version.resolve_left nofun
  refine ⟨⟨?_, ?_, ?_⟩, ?_⟩
  · rw [← versions]
    exact numbered.numbers
  · rw [← versions, ← renders]
    exact numbered.attempts
  · rw [← versions, ← version]
    exact numbered.active
  · rwa [Job.onRecord, ← versions]

instance (priority := low) {α : Type} (m : Act α) [within : Touches .sameVersions m] :
    Within (Stable (Counted base)) m :=
  ⟨fun s before => before.kept (within.leads s)⟩

lemma map_approved {α : Type} (f : VideoVersion → α) (blind : ∀ v, f { v with approved := true } = f v)
    (n : ℕ) (vs : List VideoVersion) :
    (vs.modify n ({ · with approved := true })).map f = vs.map f := by
  induction vs generalizing n with
  | nil => cases n <;> rfl
  | cons v vs ih =>
    cases n with
    | zero => simp [blind]
    | succ n => simp [ih]

lemma Job.Numbered.approve (h : job.Numbered) (version : ℕ) :
    (job.approveVersion version).Numbered := by
  have length : (job.approveVersion version).videoVersions.length = job.videoVersions.length := by
    simp [Job.approveVersion]
  have numbers : (job.approveVersion version).videoVersions.map VideoVersion.version =
      job.videoVersions.map VideoVersion.version := map_approved _ (fun _ => rfl) _ _
  refine ⟨?_, ?_, ?_⟩
  · rw [length, numbers]
    exact h.numbers
  · rw [length]
    exact h.attempts
  · rw [length]
    exact h.active

def Parked.version : Parked → ℕ
  | .finalize version _ | .dispatch version _ | .dispatchVoices version _ | .regenerate version => version

def Next (base : List (ℕ × Digest)) (version : ℕ) (s : Ctx) : Prop :=
  Counted base s ∧ version = planVersion s.job

instance (priority := low) {α : Type} {version : ℕ} (m : Act α) [within : Touches .sameVersions m] :
    Within (Stable (Next base version)) m := by
  refine ⟨fun s before => ?_⟩
  have t := within.leads s
  refine ⟨before.1.kept t, ?_⟩
  rw [planVersion, ← t.versions.resolve_left nofun]
  exact before.2

section
variable (env : Env)

instance (version : ℕ) :
    Within (Stable (Counted base)) (modifyJob (·.approveVersion version)) := by
  refine ⟨fun s before => ?_⟩
  obtain ⟨numbered, extends_⟩ := before
  have same : (s.job.approveVersion version).onRecord = s.job.onRecord :=
    map_approved _ (fun _ => rfl) _ _
  exact ⟨numbered.approve version, same ▸ extends_⟩

lemma counted_finish {version : ℕ} {sha256 : Digest} {s : Ctx} (ready : Next base version s) :
    Counted base (modifyJob (finishVideoVersion · version sha256) s).2 := by
  obtain ⟨⟨numbered, extends_⟩, next⟩ := ready
  refine ⟨numbered.finish (next.trans numbered.plan) sha256, extends_.trans ?_⟩
  change s.job.onRecord <+: (finishVideoVersion s.job version sha256).onRecord
  simp [Job.onRecord, finishVideoVersion]

lemma counted_enqueueAssemblyTask {body : TaskBody} {newAttempt : Bool} {s : Ctx}
    (before : Counted base s) (next : body.version = some (planVersion s.job)) :
    Counted base (enqueueAssemblyTask env body newAttempt s).2 := by
  obtain ⟨⟨numbers, attempts, active⟩, extends_⟩ := before
  refine ⟨⟨numbers, fun task version held => ?_, active⟩, extends_⟩
  change (s.job.assemblyTaskIds.set _ (body.version.getD 0)).get? task = some version at held
  rw [Dict.get?_set] at held
  split at held
  · obtain rfl := Option.some.inj held
    have plan := Job.Numbered.plan ⟨numbers, attempts, active⟩
    rw [next, Option.getD_some, plan]
    exact ⟨Nat.le_add_left 1 _, le_rfl⟩
  · exact attempts task version held

instance counted_dropAssembly (id : TaskId) : Within (Stable (Counted base)) (dropAssembly id) := by
  refine ⟨fun s before => ?_⟩
  obtain ⟨⟨numbers, attempts, active⟩, extends_⟩ := before
  refine ⟨⟨numbers, fun task version held => ?_, active⟩, extends_⟩
  change (s.job.assemblyTaskIds.pop id).get? task = some version at held
  rw [Dict.get?_pop] at held
  split at held
  · cases held
  · exact attempts task version held

/-! ## Attempts of workers -/

lemma assemblyRetryTask_version {id : JobId} {body : TaskBody}
    (retry : assemblyRetryTask env id job = .ok (some body)) : body.version = some (planVersion job) := by
  dsimp only [assemblyRetryTask] at retry
  repeat' split at retry
  all_goals try cases retry
  rename_i planned _ _ _
  cases staged : env.stageInputs id with
  | error e =>
    rw [staged] at retry
    cases retry
  | ok _ =>
    rw [staged] at retry
    cases retry
    exact congrArg some (not_not.1 planned).symm

lemma checkAssembly_ok {task : TaskId} {artifacts : List Upload} {version : ℕ} {data : Data}
    (checked : checkAssembly env job task artifacts = .ok (version, data)) :
    job.assemblyTaskIds.get? task = some version ∧ job.videoVersions.any (·.version = version) = false := by
  unfold checkAssembly at checked
  split at checked
  · cases checked
  · cases checked
  · cases checked
  · cases checked
  rename_i attempt artifact held free
  cases declared : artifact.contract with
  | other =>
    rw [declared] at checked
    cases checked
  | absent =>
    rw [declared] at checked
    cases checked
  | object contract =>
    simp only [declared] at checked
    split at checked
    · cases checked
    split at checked
    · cases checked
    obtain ⟨data', -, rest⟩ := except_bind_ok.1 checked
    split at rest
    · cases rest
    split at rest
    · cases rest
    split at rest
    · cases rest
    obtain ⟨size, -, rest⟩ := except_bind_ok.1 rest
    split at rest
    · cases rest
    obtain ⟨number, -, rest⟩ := except_bind_ok.1 rest
    split at rest
    · cases rest
    obtain ⟨_, -, rest⟩ := except_bind_ok.1 rest
    obtain ⟨_, -, rest⟩ := except_bind_ok.1 rest
    split at rest
    · cases rest
    rename_i fresh
    obtain ⟨rfl, -⟩ := Prod.mk.inj (Except.ok.inj rest)
    exact ⟨held, by simpa using fresh⟩

lemma checkAssembly_version (numbered : job.Numbered) {task : TaskId} {artifacts : List Upload}
    {version : ℕ} {data : Data} (checked : checkAssembly env job task artifacts = .ok (version, data)) :
    version = planVersion job := by
  obtain ⟨held, fresh⟩ := checkAssembly_ok env checked
  obtain ⟨positive, most⟩ := numbered.attempts task version held
  have recorded := (numbered.recorded version).not
  rw [fresh] at recorded
  rw [numbered.plan]
  by_contra other
  exact recorded.1 Bool.false_ne_true ⟨positive, by omega⟩

variable (r : TaskResult)

instance : Within (Stable (Counted base)) (handleAssemblyResult env r) := by
  refine ⟨fun s before => ?_⟩
  simp only [handleAssemblyResult, theJob_bind]
  cases checked : checkAssembly env s.job r.taskId r.artifacts with
  | error e => exact before
  | ok x =>
    obtain ⟨version, data⟩ := x
    simp only [answer_ok_bind]
    have next : Next base version s := ⟨before, checkAssembly_version env before.1 checked⟩
    have weaken (s : Ctx) (h : Next base version s) : Counted base s := h.1
    refine ends_bind inferInstance weaken (fun _ s₁ next => ?_) next
    refine ends_bind (.handle inferInstance fun e => ?_) weaken (fun _ s₂ next => ?_) next
    · cases e <;> infer_instance
    refine ends_bind inferInstance weaken (fun _ s₃ next => ?_) next
    simp only [theId_bind]
    refine ends_bind inferInstance weaken (fun sha256 s₄ next => ?_) next
    exact (counted_dropAssembly r.taskId).leads _ (counted_finish next)

instance : Within (Stable (Counted base)) (importAssembly env r) := by
  unfold importAssembly
  refine .handle inferInstance fun e => ?_
  cases e <;> infer_instance

instance (first second : Act Unit) [Touches .sameVersions first]
    [Touches .sameVersions second] : Within (Stable (Counted base)) (retryAssembly env first second) := by
  refine ⟨fun s => ?_⟩
  simp only [retryAssembly, read_bind]
  refine leads_answer fun body retry before => ?_
  cases body with
  | none =>
    have failing : Within (Stable (Counted base)) (second >>= fun _ =>
      transitionStage .assembly .failed >>= fun _ => update .failed) := inferInstance
    exact failing.leads s before
  | some body =>
    have next : body.version = some (planVersion s.job) := by
      split at retry
      · exact assemblyRetryTask_version env retry
      · cases retry
    have ready : Next base (planVersion s.job) s := ⟨before, rfl⟩
    refine ends_bind inferInstance (fun _ h => h.1) (fun _ s₁ ready => ?_) ready
    have enqueued : Counted base (enqueueAssemblyTask env body true s₁).2 :=
      counted_enqueueAssemblyTask env ready.1 (ready.2 ▸ next)
    exact (inferInstance : Within (Stable (Counted base)) (update .assembly)).leads _ enqueued

instance : Within (Stable (Counted base)) (takeAssembly env r) := by
  unfold takeAssembly
  refine .ite inferInstance (.next fun refused => ?_)
  cases refused <;> infer_instance

instance counted_assemblyResult : Within (Stable (Counted base)) (assemblyResult env r) := by
  unfold assemblyResult
  infer_instance

instance : Within (Stable (Counted base)) (result env r) := by
  refine ⟨fun s before => ?_⟩
  rw [result_eq_handler]
  cases s.job.branch r.taskId with
  | assembly => exact (counted_assemblyResult env r).leads s before
  | _ =>
    simp only [Branch.handler]
    exact before.kept (touched _ _ s)

instance (node : NodeName) (task : TaskId) :
    Within (Stable (Counted base)) (recoverAssembly env node task) := by
  unfold recoverAssembly
  refine .next fun _ => .next fun _ => ?_
  refine .next fun _ => ⟨fun s => ?_⟩
  simp only [read_bind]
  refine leads_answer fun body retry before => ?_
  cases body with
  | none =>
    have failing : Within (Stable (Counted base)) (transitionStage .assembly .failed >>= fun _ =>
      update .failed >>= fun _ => unassign node) := inferInstance
    exact failing.leads s before
  | some body =>
    have next : body.version = some (planVersion s.job) := by
      split at retry
      · exact assemblyRetryTask_version env retry
      · cases retry
    have enqueued : Counted base (enqueueAssemblyTask env body true s).2 :=
      counted_enqueueAssemblyTask env before next
    exact (inferInstance : Within (Stable (Counted base)) (unassign node)).leads _ enqueued

instance (node : NodeName) (task : Option TaskId) :
    Within (Stable (Counted base)) (recoverTask env node task) := by
  have rest (job : Job) (scene : Option Scene) :
      Within (Stable (Counted base)) (recoverTask.recoverRest env node task job scene) := by
    unfold recoverTask.recoverRest
    refine .ite inferInstance ?_
    split <;> infer_instance
  unfold recoverTask
  refine .next fun job => .ite inferInstance (.ite inferInstance ?_)
  split <;> infer_instance

/-! ## Renders -/

instance : Within (Stable (Counted base)) (finalizeJob env) := by
  unfold finalizeJob
  refine .next fun job => .ite inferInstance ?_
  refine .next fun _ => .next fun _ => ?_
  refine .next fun _ => .next fun id => ?_
  refine .next fun _ => ⟨fun s before => ?_⟩
  simp only [theJob_bind]
  cases env.engine with
  | native => exact before
  | foreign _ =>
    have failing : Within (Stable (Counted base)) (transitionStage .assembly .failed >>= fun _ =>
      update .failed >>= fun _ => pure (none : Option ℕ)) := inferInstance
    exact failing.leads s before
  | external identity =>
    -- the number of the plan is asked for and used in one state
    have ready : Next base (planVersion s.job) s := ⟨before, rfl⟩
    refine ends_bind inferInstance (fun _ h => h.1) (fun key s₁ ready => ?_) ready
    refine ends_bind inferInstance (fun _ h => h.1) (fun _ s₂ ready => ?_) ready
    exact counted_enqueueAssemblyTask env ready.1 (congrArg some ready.2)

instance : Within (Stable (Counted base)) (finalizeJobSafe env) := by
  unfold finalizeJobSafe
  infer_instance

variable (envs : ℕ → Env)

instance (n : ℕ) : Within (Stable (Counted base)) (finalizeLoop envs n) := by
  induction n with
  | zero =>
    unfold finalizeLoop
    infer_instance
  | succ n ih =>
    unfold finalizeLoop
    refine .next fun version => ?_
    split <;> infer_instance

instance : Within (Stable (Counted base)) (finalizeAndNotify envs) := by
  unfold finalizeAndNotify
  infer_instance

instance : Within (Stable (Counted base)) (dispatchAssets envs) := by
  unfold dispatchAssets
  infer_instance

instance : Within (Stable (Counted base)) (dispatch envs) := by
  unfold dispatch
  refine .next fun job => ?_
  split
  · infer_instance
  · infer_instance
  · infer_instance
  · infer_instance
  · split <;> infer_instance
  · refine .next fun blocked => .ite inferInstance ?_
    refine .next fun render => ?_
    split <;> infer_instance
  · infer_instance
  · infer_instance

instance (later : ℕ → Env) :
    Within (Stable (Counted base)) (prepareAndDispatch envs later) := by
  unfold prepareAndDispatch
  infer_instance

instance :
    Within (Stable (Counted base)) (finalizeVideoRegenerate env) := by
  unfold finalizeVideoRegenerate
  refine .next fun job => .ite inferInstance ?_
  refine .next fun id => .ite ?_ inferInstance
  refine .next fun _ => .next fun version => ?_
  split <;> infer_instance

instance (later : ℕ → Env) (b : Background) :
    Within (Stable (Counted base)) (b.act envs later) := by
  cases b <;> simp only [Background.act] <;> infer_instance

instance (a : Halt) : Within (Stable (Counted base)) (haltAssemblies env a) := by
  have cleared : Within (Stable (Counted base)) (modifyJob ({ · with
      assemblyTaskIds := ∅
      assemblyTaskId := none
      assemblyCancelRequested := true })) :=
    ⟨fun s before => ⟨⟨before.1.numbers, nofun, before.1.active⟩, before.2⟩⟩
  unfold haltAssemblies
  infer_instance

instance (a : Halt) : Within (Stable (Counted base)) (haltJob env a) := by
  unfold haltJob
  refine .next fun job => .next fun _ => ?_
  refine .next fun _ => .next fun _ => ?_
  refine .next fun _ => .next fun _ => ?_
  refine .next fun _ => .next fun _ => ?_
  infer_instance

instance (version : ℕ) (sha256 : Option Digest) :
    Within (Stable (Counted base)) (approveVideo env version sha256) := by
  unfold approveVideo
  infer_instance

end

section
variable {env : Env} {version : ℕ} {s : Ctx}

lemma recordVideo_counted (ready : Next base version s) : Counted base (recordVideo env version s).2 := by
  have weaken (s : Ctx) (h : Next base version s) : Counted base s := h.1
  unfold recordVideo
  refine ends_bind inferInstance weaken (fun _ s₁ ready => ?_) ready
  refine ends_bind inferInstance weaken (fun _ s₂ ready => ?_) ready
  simp only [theId_bind]
  refine ends_bind inferInstance weaken (fun sha256 s₃ ready => ?_) ready
  simp only [modifyJob_bind]
  have closing : Within (Stable (Counted base)) (update .videoReady >>= fun _ =>
    transitionStage .assembly .ready >>= fun _ => update .videoPendingApproval >>= fun _ =>
      theId >>= fun id => answer (env.notify id)) := inferInstance
  exact closing.leads _ (counted_finish ready)

lemma renderNative_counted (before : Counted base s) (next : s.job.status.halted = false →
    RenderEnds env s.jobId → version = planVersion s.job) :
    Counted base (renderNative env version s).2 := by
  unfold renderNative
  have t := touched .sameVersions (awaitRender env) s
  have status := touched .sameStatus (awaitRender env) s
  rw [bind_apply]
  cases awaited : awaitRender env s with
  | mk x s₁ =>
    rw [awaited] at t status
    cases x with
    | error e => exact before.kept t
    | ok _ =>
      simp only [theJob_bind]
      split
      · exact (before.kept t).kept (touched _ _ s₁)
      · rename_i open_
        rw [status.status.resolve_right nofun, Bool.not_eq_true] at open_
        refine recordVideo_counted ⟨before.kept t, ?_⟩
        rw [planVersion, ← t.versions.resolve_left nofun]
        exact next open_ (renderEnds_of_awaitRender awaited)

lemma renderSafe_counted (before : Counted base s) (next : s.job.status.halted = false →
    RenderEnds env s.jobId → version = planVersion s.job) : Counted base (renderSafe env version s).2 :=
  leads_handle (R := Stable (Counted base)) (fun before => renderNative_counted before next)
    (fun _ => inferInstance) before

lemma resumeLoop_counted {envs : ℕ → Env} {n : ℕ} (before : Counted base s)
    (next : s.job.status.halted = false → RenderEnds env s.jobId → version = planVersion s.job) :
    Counted base (resumeLoop env envs version n s).2 := by
  unfold resumeLoop
  refine leads_bind (R := Stable (Counted base)) (fun before => renderSafe_counted before next)
    (fun _ s₁ _ => ?_) before
  exact (inferInstance : Within (Stable (Counted base)) _).leads s₁

lemma parked_counted {envs : ℕ → Env} {p : Parked} (before : Counted base s)
    (next : s.job.status.halted = false → RenderEnds env s.jobId → p.version = planVersion s.job) :
    Counted base (p.act env envs s).2 := by
  have resumed (version n : ℕ) (next : s.job.status.halted = false → RenderEnds env s.jobId →
      version = planVersion s.job) {α : Type} (f : Option (ℕ × ℕ) → Act α)
      [rest : ∀ render, Within (Stable (Counted base)) (f render)] :
      Counted base ((resumeLoop env envs version n >>= f) s).2 :=
    leads_bind (R := Stable (Counted base)) (fun before => resumeLoop_counted before next)
      (fun render s₁ _ => (rest render).leads s₁) before
  cases p with
  | finalize version n | dispatch version n => exact resumed version n next _
  | dispatchVoices version n =>
    rw [Parked.act]
    refine @resumed version n next _ _ ?_
    rintro (_ | render) <;> infer_instance
  | regenerate version =>
    have rest : Within (Stable (Counted base)) (endRegenerate >>= fun _ => pure (none : Option Parked)) :=
      inferInstance
    exact leads_bind (R := Stable (Counted base)) (fun before => renderSafe_counted before next)
      (fun _ s₁ _ => rest.leads s₁) before

@[reducible] def Footprint.sameArtifacts : Footprint where
  artifacts := false

/-- A regeneration finds the file of every record and unlinks none of them. -/
def Job.KeepsFiles (env : Env) (job : Job) : Prop :=
  ∀ v ∈ job.videoVersions, env.versionExists v.version = true ∧ unlinks job v.version = false

lemma regenerateJob_counted (before : Counted base s) (there : midRender s.job = false → s.job.KeepsFiles env) :
    Counted base (regenerateJob env s).2 := by
  let I (s' : Ctx) : Prop := Counted base s' ∧ s'.job.KeepsFiles env
  have keeps {α : Type} (m : Act α) [Touches .sameVersions m] [Touches .sameArtifacts m] : Within (Stable I) m := by
    refine ⟨fun s₁ h => ?_⟩
    have t := touched .sameVersions m s₁
    refine ⟨h.1.kept t, fun v member => ?_⟩
    rw [← t.versions.resolve_left nofun] at member
    rw [unlinks, ← (touched .sameArtifacts m s₁).artifacts.resolve_left nofun]
    exact h.2 v member
  simp only [regenerateJob, theJob_bind]
  split
  · exact before
  rename_i idle
  refine ends_bind (I := I) (keeps _) (fun _ h => h.1) (fun _ s₁ h => ?_)
    ⟨before, there (Bool.not_eq_true _ ▸ idle)⟩
  refine ends_bind (I := I) (keeps _) (fun _ h => h.1) (fun _ s₂ h => ?_) h
  obtain ⟨⟨⟨numbers, attempts, active⟩, extends_⟩, kept⟩ := h
  have all : s₂.job.videoVersions.filter (fun v => env.versionExists v.version && !unlinks s₂.job v.version) =
      s₂.job.videoVersions := List.filter_eq_self.2 fun v member => by simp [kept v member]
  simp only [modifyJob_bind, all]
  have rest : Within (Stable (Counted base)) (answer env.writeManifest >>= fun _ => update .new >>= fun _ =>
    submit .prepareAndDispatch) := inferInstance
  exact rest.leads _ ⟨⟨numbers, nofun, active⟩, extends_⟩

end

/-! ## Runs -/

/-- A handler that neither records a number twice nor forgets a record. -/
def Handler.KeepsNumbers (id : JobId) (job : Job) : Handler → Prop
  | .ask env .regenerate => midRender job = false → job.KeepsFiles env
  | .render env _ p => job.status.halted = false → RenderEnds env id → p.version = planVersion job
  | _ => True

lemma Handler.counted {s : Ctx} {h : Handler} (before : Counted base s)
    (allowed : h.KeepsNumbers s.jobId s.job) : Counted base (h.act s).2 := by
  have lift {α : Type} {m : Act α} [rule : Within (Stable (Counted base)) m] : Counted base (m s).2 :=
    rule.leads s before
  cases h with
  | render env envs p =>
    exact leads_bind (R := Stable (Counted base)) (fun before => parked_counted before allowed)
      (fun _ _ _ h => h) before
  | ask env q =>
    cases q with
    | regenerate => exact regenerateJob_counted before allowed
    | _ =>
      simp only [Handler.act, JobRequest.act]
      exact lift
  | _ =>
    simp only [Handler.act]
    exact lift

lemma Job.Numbered.reload (h : job.Numbered) (video : Bool) : (job.reload video).Numbered := by
  simp only [Job.reload]
  repeat' split
  all_goals first | exact ⟨h.numbers, h.attempts, h.active⟩ | exact ⟨h.numbers, by rintro _ _ ⟨⟩, h.active⟩

lemma Job.onRecord_reload (job : Job) (video : Bool) : (job.reload video).onRecord = job.onRecord := by
  simp only [Job.reload]
  repeat' split
  all_goals rfl

/-- The operation ends a native render of the Job whose number is not the next one any more, or
regenerates the Job where the file of a recorded version is gone or is one of the artifacts. -/
def Op.MissesNumbers (id : JobId) (c : System) : Op → Prop
  | .render env _ index => ∃ p job, c.rendering[index]? = some (id, p) ∧ c.jobs.get? id = some job ∧
      job.status.halted = false ∧ RenderEnds env id ∧ p.version ≠ planVersion job
  | .ask env k .regenerate => k = id ∧ ∃ job, c.jobs.get? id = some job ∧ midRender job = false ∧
      ¬ job.KeepsFiles env
  | _ => False

section
variable {id : JobId} {c : System}

lemma Op.allowsNumbers {op : Op} (met : ¬ op.MissesNumbers id c) :
    op.Allowed (fun k job h => k = id → h.KeepsNumbers id job) (fun _ _ => True) c := by
  cases op with
  | render env envs index =>
    intro k p job waiting found same open_ ends
    by_contra other
    exact met ⟨p, job, same ▸ waiting, same ▸ found, open_, ends, other⟩
  | ask env k q =>
    intro job found same
    cases q with
    | regenerate =>
      intro idle
      by_contra gone
      exact met ⟨same, job, same ▸ found, idle, gone⟩
    | _ => trivial
  | _ => simp [Op.Allowed, Handler.KeepsNumbers]

lemma ReachableBy.numbered (r : ReachableBy (fun c op => ¬ op.MissesNumbers id c) c)
    (found : c.jobs.get? id = some job) : job.Numbered := by
  refine ReachableBy.jobs (J := fun k job => k = id → job.Numbered) (fun c op _ met => op.allowsNumbers met)
    ?_ (fun k job video before same => (before same).reload video) ?_ r id job found rfl
  · intro k request status _ _
    exact ⟨rfl, nofun, nofun⟩
  · intro s h before allowed same
    have counted : Counted [] s := ⟨before same, List.nil_prefix⟩
    exact (Handler.counted counted (same ▸ allowed same)).1

def System.onRecord (c : System) (id : JobId) : List (ℕ × Digest) :=
  ((c.jobs.get? id).map Job.onRecord).getD []

/-- Everything a run records for the Job: each step adds at the end of what was on record. -/
def everRecorded (id : JobId) (c : System) : List Op → List (ℕ × Digest)
  | [] => []
  | op :: ops => ((op.run c).onRecord id).drop (c.onRecord id).length ++ everRecorded id (op.run c) ops

lemma Op.extends_record (r : ReachableBy (fun c op => ¬ op.MissesNumbers id c) c) {op : Op}
    (met : ¬ op.MissesNumbers id c) : c.onRecord id <+: (op.run c).onRecord id := by
  cases found : c.jobs.get? id with
  | none =>
    rw [System.onRecord, found]
    exact List.nil_prefix
  | some job =>
    have now : ∃ job', c.jobs.get? id = some job' ∧ job'.Numbered ∧ job.onRecord <+: job'.onRecord :=
      ⟨job, found, r.numbered found, List.prefix_rfl⟩
    have handled (s : Ctx) (h : Handler) (known : s.jobId = id)
        (_ : ∀ task b, s.job.records task b → task < s.nextId)
        (before : s.job.Numbered ∧ job.onRecord <+: s.job.onRecord)
        (allowed : id = id → h.KeepsNumbers id s.job) :
        (h.act s).2.job.Numbered ∧ job.onRecord <+: (h.act s).2.job.onRecord :=
      Handler.counted before (known ▸ allowed rfl)
    have reloaded (job' : Job) (video : Bool) (before : job'.Numbered ∧ job.onRecord <+: job'.onRecord) :
        (job'.reload video).Numbered ∧ job.onRecord <+: (job'.reload video).onRecord :=
      ⟨before.1.reload video, (Job.onRecord_reload job' video).symm ▸ before.2⟩
    obtain ⟨job', found', -, extends_⟩ := Path.job handled reloaded (op.path (op.allowsNumbers met))
      (ReachableBy.reachable r).ordered now
    rw [System.onRecord, System.onRecord, found, found']
    exact extends_

lemma onRecord_after (r : ReachableBy (fun c op => ¬ op.MissesNumbers id c) c) (ops : List Op)
    (met : c.Along (fun c op => ¬ op.MissesNumbers id c) ops) :
    (c.after ops).onRecord id = c.onRecord id ++ everRecorded id c ops := by
  induction ops generalizing c with
  | nil => rw [everRecorded, List.append_nil, System.after, List.foldl_nil]
  | cons op ops ih =>
    obtain ⟨first, rest⟩ := met
    have later := ih (r.step ⟨op, first, rfl⟩) rest
    rw [everRecorded, ← List.append_assoc, List.prefix_iff_eq_append.1 (op.extends_record r first)]
    exact later

end

/-- The numbers a run records for a Job only grow, and its active version is on record with the digest that
was recorded first for its number. -/
theorem versions_never_reused {id : JobId} (ops : List Op)
    (met : System.Along (fun c op => ¬ op.MissesNumbers id c) {} ops) :
    ((everRecorded id {} ops).map Prod.fst).Pairwise (· < ·) ∧
      ∀ job, (System.after {} ops).jobs.get? id = some job → ∀ version,
        job.activeVideoVersion = some version → ∃ v ∈ job.videoVersions, v.version = version ∧
          (everRecorded id {} ops).find? (·.1 = version) = some (version, v.sha256) := by
  have whole : (System.after {} ops).onRecord id = everRecorded id {} ops :=
    onRecord_after (.init rfl) ops met
  have reached : ReachableBy (fun c op => ¬ op.MissesNumbers id c) (System.after {} ops) :=
    .after (.init rfl) ops met
  rw [← whole]
  generalize System.after {} ops = c at reached
  cases found : c.jobs.get? id with
  | none =>
    rw [System.onRecord, found]
    refine ⟨.nil, fun job same => ?_⟩
    cases same
  | some job =>
    have recorded : c.onRecord id = job.onRecord := by rw [System.onRecord, found, Option.map_some, Option.getD_some]
    rw [recorded]
    refine ⟨(ReachableBy.numbered reached found).increasing, fun job' same version active => ?_⟩
    obtain rfl := Option.some.inj same
    exact (ReachableBy.numbered reached found).first active

def renderEnded : List Op := renderStarts ++ [.render (.alone 2) (fun _ => .alone 2) 0]

theorem versions_never_reused_ended :
    ((everRecorded 0 {} renderEnded).map Prod.fst).Pairwise (· < ·) ∧
      ∀ job, (System.after {} renderEnded).jobs.get? 0 = some job → ∀ version,
        job.activeVideoVersion = some version → ∃ v ∈ job.videoVersions, v.version = version ∧
          (everRecorded 0 {} renderEnded).find? (·.1 = version) = some (version, v.sha256) := by
  refine versions_never_reused renderEnded ⟨id, id, id, ?_, trivial⟩
  rintro ⟨p, job, waiting, found, -, -, other⟩
  have planned : ((System.after {} renderStarts).rendering[0]?).map (fun e => e.2.version) =
      ((System.after {} renderStarts).jobs.get? 0).map planVersion := by decide +kernel
  rw [show (System.after {} renderStarts).rendering[0]? = some (0, p) from waiting,
    show (System.after {} renderStarts).jobs.get? 0 = some job from found, Option.map_some,
    Option.map_some, Option.some.injEq] at planned
  exact other planned

/-- A Job that is paused and resumed during its render is rendered twice under one number. -/
def renderDoubled : List Op :=
  renderStarts ++
    [.ask (.alone 2) 0 (.halt .pause), .ask (.alone 3) 0 .resume,
      .background (fun _ => .alone 4) (fun _ => .alone 4) 0,
      .render (.alone 5) (fun _ => .alone 5) 0,
      .render { Env.alone 6 with finishVersion := fun _ => .ok 2 } (fun _ => .alone 6) 0]

/-- The number of the first video is recorded again with other content. -/
theorem doubled_render_reuses_number :
    ¬ ∀ (id : JobId) (ops : List Op), ((everRecorded id {} ops).map Prod.fst).Pairwise (· < ·) := by
  intro h
  have twice : (everRecorded 0 {} renderDoubled).map Prod.fst = [1, 1] := by decide +kernel
  have increasing := h 0 renderDoubled
  rw [twice] at increasing
  revert increasing
  decide

end Vertep.Core
