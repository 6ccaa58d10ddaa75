import Vertep.Core.Pointers

/-!
# What a handler writes (`core/api/job_helpers.py`)

A footprint says which fields of a Job may be written, and for its status and its stages with which
values. `Touched` is what a handler within a footprint can do, and each function of CORE has one instance:
it stays within every footprint that allows what it writes. An invariant then only looks at the functions
outside the footprint that leaves its own fields alone.
-/

namespace Vertep.Core
open Lib Queue
open Command Act

set_option synthInstance.maxSize 4000
set_option synthInstance.maxHeartbeats 200000

/-- The fields of a Job, and whether the workers, a handler may write; everything, where nothing else is said. -/
structure Footprint where
  status : JobStatus → Bool := fun _ => true
  stage : StageName → StageStatus → Bool := fun _ _ => true
  scenes : Bool := true
  tasks : Bool := true
  artifacts : Bool := true
  active : Bool := true
  voices : Bool := true
  render : Bool := true
  renders : Bool := true
  cancel : Bool := true
  releases : Bool := true
  snapshot : Bool := true
  versions : Bool := true
  version : Bool := true
  publishes : Bool := true
  intent : Bool := true
  results : Bool := true
  channels : Bool := true
  regenerating : Bool := true
  workers : Bool := true
  record : NodeName → Bool := fun _ => true

/-- A footprint allows something. -/
class IsTrue (b : Bool) : Prop where
  is : b = true

instance : IsTrue true := ⟨rfl⟩

def Kept {α : Type} (b : Bool) (x y : α) : Prop := b = true ∨ x = y

variable {α : Type}

lemma Kept.trans {b : Bool} {x y z : α} (h : Kept b x y) (h' : Kept b y z) : Kept b x z := by
  rcases h with h | rfl
  · exact .inl h
  · exact h'

def Scene.bound (scene : Scene) : SceneId × Option TaskId := (scene.sceneId, scene.taskId)

/-- A Job has the scenes it had, or a plan where it had none. -/
def Planned {α : Type} (view : Scene → α) (scenes scenes' : List Scene) : Prop :=
  scenes'.map view = scenes.map view ∨
    scenes = [] ∧ ∃ script : Script, scenes'.map view = script.plan.map view

lemma Planned.refl (view : Scene → α) (scenes : List Scene) : Planned view scenes scenes := .inl rfl

lemma Planned.trans {view : Scene → α} {x y z : List Scene} (h : Planned view x y)
    (h' : Planned view y z) : Planned view x z := by
  rcases h with same | ⟨rfl, script, planned⟩
  · rcases h' with same' | ⟨rfl, planned⟩
    · exact .inl (same'.trans same)
    · exact .inr ⟨List.map_eq_nil_iff.1 same.symm, planned⟩
  · rcases h' with same' | ⟨_, planned'⟩
    · exact .inr ⟨rfl, script, same'.trans planned⟩
    · exact .inr ⟨rfl, planned'⟩

def Distinct (scenes : List Scene) : Prop := (scenes.map Scene.sceneId).Nodup

lemma Script.plan_distinct (script : Script) : Distinct script.plan := by
  rw [Distinct, Script.plan]
  generalize (if script.scenes = [] then [false] else script.scenes) = voices
  have numbered : (voices.mapIdx fun index voiceover =>
      ({ sceneId := index + 1, voiceover := voiceover } : Scene)).map Scene.sceneId =
        List.range' 1 voices.length :=
    List.ext_getElem (by simp) fun i _ _ => by simp [Nat.add_comm]
  rw [numbered]
  exact List.nodup_range'

/-- What a handler within a footprint can do. -/
structure Touched (W : Footprint) (s s' : Ctx) : Prop where
  jobId : s'.jobId = s.jobId
  taskType : s'.job.taskType = s.job.taskType
  maxRetries : s'.job.maxRetries = s.job.maxRetries
  status : s'.job.status = s.job.status ∨ W.status s'.job.status = true
  stage : ∀ n, s'.job.stage n = s.job.stage n ∨ W.stage n (s'.job.stage n) = true
  scenes : W.scenes = true ∨ Planned id s.job.scenes s'.job.scenes
  tasks : W.tasks = true ∨ Planned Scene.bound s.job.scenes s'.job.scenes
  distinct : Distinct s.job.scenes → Distinct s'.job.scenes
  artifacts : Kept W.artifacts s.job.artifacts s'.job.artifacts
  active : Kept W.active s.job.activeTaskIds s'.job.activeTaskIds
  voices : Kept W.voices s.job.ttsActiveTaskIds s'.job.ttsActiveTaskIds
  render : Kept W.render s.job.assemblyTaskId s'.job.assemblyTaskId
  renders : Kept W.renders s.job.assemblyTaskIds s'.job.assemblyTaskIds
  cancel : Kept W.cancel s.job.assemblyCancelRequested s'.job.assemblyCancelRequested
  releases : Kept W.releases s.job.assemblyReleases s'.job.assemblyReleases
  snapshot : Kept W.snapshot s.job.videoEngineSnapshot s'.job.videoEngineSnapshot
  versions : Kept W.versions s.job.videoVersions s'.job.videoVersions
  version : Kept W.version s.job.activeVideoVersion s'.job.activeVideoVersion
  publishes : Kept W.publishes s.job.publishTaskIds s'.job.publishTaskIds
  intent : Kept W.intent s.job.publishIntent s'.job.publishIntent
  results : Kept W.results s.job.publicationResults s'.job.publicationResults
  channels : Kept W.channels s.job.publishedChannels s'.job.publishedChannels
  regenerating : Kept W.regenerating s.job.videoRegenerating s'.job.videoRegenerating
  workers : Kept W.workers s.workers s'.workers
  records : ∀ n, s'.workers.get? n = s.workers.get? n ∨ W.record n = true

variable {W : Footprint}

instance : Std.Refl (Touched W) where
  refl s := by
    constructor
    case status => exact .inl rfl
    case stage => exact fun _ => .inl rfl
    all_goals first | rfl | exact .inr rfl | exact .inr (.refl _ _) | exact id | exact fun _ => .inl rfl

lemma written_trans {p : α → Bool} {x y z : α} (h : y = x ∨ p y = true) (h' : z = y ∨ p z = true) :
    z = x ∨ p z = true := by
  rcases h' with rfl | h'
  · exact h
  · exact .inr h'

instance : IsTrans Ctx (Touched W) where
  trans _ _ _ t t' := by
    constructor
    case jobId => exact t'.jobId.trans t.jobId
    case taskType => exact t'.taskType.trans t.taskType
    case maxRetries => exact t'.maxRetries.trans t.maxRetries
    case status => exact written_trans t.status t'.status
    case stage => exact fun n => written_trans (t.stage n) (t'.stage n)
    case records =>
      exact fun n => (t'.records n).elim (fun same => (t.records n).imp_left same.trans) .inr
    case scenes => exact t.scenes.elim .inl fun p => t'.scenes.imp_right p.trans
    case tasks => exact t.tasks.elim .inl fun p => t'.tasks.imp_right p.trans
    case distinct => exact fun d => t'.distinct (t.distinct d)
    all_goals
      cases t
      cases t'
      exact Kept.trans ‹_› ‹_›

abbrev Touches (W : Footprint) {α : Type} (m : Act α) : Prop := Within (Touched W) m

lemma touched (W : Footprint) (m : Act α) [within : Touches W m] (s : Ctx) :
    Touched W s (m s).2 := within.leads s

lemma touched_run (W : Footprint) {m : Act α} [Touches W m] {s s' : Ctx} {x : Except Err α}
    (run : m s = (x, s')) : Touched W s s' := by
  have t := touched W m s
  rwa [run] at t

lemma Touched.of_workers {s s' : Ctx} (jobId : s'.jobId = s.jobId) (job : s'.job = s.job)
    (workers : Kept W.workers s.workers s'.workers)
    (records : ∀ n, s'.workers.get? n = s.workers.get? n ∨ W.record n = true) : Touched W s s' := by
  obtain ⟨id, _, _, _, _, _⟩ := s
  obtain ⟨id', _, _, _, _, _⟩ := s'
  obtain rfl : id' = id := jobId
  subst job
  constructor
  case status => exact .inl rfl
  case stage => exact fun _ => .inl rfl
  case workers => exact workers
  case records => exact records
  all_goals first | rfl | exact .inr rfl | exact .inr (.refl _ _) | exact id

lemma Touched.of_job {s s' : Ctx} (jobId : s'.jobId = s.jobId) (job : s'.job = s.job)
    (workers : s'.workers = s.workers) : Touched W s s' :=
  .of_workers jobId job (.inr workers.symm) fun n => .inl (congrArg (Dict.get? · n) workers)

/-! ## Updates of a Job -/

/-- Where CORE hands renders to an external engine, the footprint allows what that writes. -/
class MayDispatch (W : Footprint) (env : Env) : Prop where
  writes : ∀ identity, env.engine = .external identity →
    W.render = true ∧ W.renders = true ∧ W.snapshot = true

instance (priority := low) (env : Env) [render : IsTrue W.render] [renders : IsTrue W.renders]
    [snapshot : IsTrue W.snapshot] : MayDispatch W env :=
  ⟨fun _ _ => ⟨render.is, renders.is, snapshot.is⟩⟩

/-- A field is left alone, or may be written. -/
class Leaves {α : Type} (b : Bool) (x y : α) : Prop where
  leaves : b = true ∨ x = y

instance {α : Type} (b : Bool) (x : α) : Leaves b x x := ⟨.inr rfl⟩

instance (priority := low) {α : Type} (b : Bool) (x y : α) [h : IsTrue b] : Leaves b x y := ⟨.inl h.is⟩

/-- A status is left alone, or may be taken. -/
class MayTake (p : JobStatus → Bool) (x y : JobStatus) : Prop where
  taken : x = y ∨ p x = true

instance (p : JobStatus → Bool) (x : JobStatus) : MayTake p x x := ⟨.inl rfl⟩

instance (priority := low) (p : JobStatus → Bool) (x y : JobStatus) [h : IsTrue (p x)] : MayTake p x y :=
  ⟨.inr h.is⟩

/-- The stages are left alone, or may be taken back. -/
class MayReset (p : StageName → StageStatus → Bool) (x y : Option Stages) : Prop where
  reset : x = y ∨ x = none ∧ ∀ n, p n .pending = true

instance (p : StageName → StageStatus → Bool) (x : Option Stages) : MayReset p x x := ⟨.inl rfl⟩

instance (p : StageName → StageStatus → Bool) (y : Option Stages) [h : ∀ n, IsTrue (p n .pending)] :
    MayReset p none y := ⟨.inr ⟨rfl, fun n => (h n).is⟩⟩

/-- The scenes are left alone, or may be written so. -/
class Rewrites (W : Footprint) (x y : List Scene) : Prop where
  scenes : W.scenes = true ∨ Planned id y x
  tasks : W.tasks = true ∨ Planned Scene.bound y x
  distinct : Distinct y → Distinct x

instance (x : List Scene) : Rewrites W x x := ⟨.inr (.refl _ _), .inr (.refl _ _), id⟩

instance (y : List Scene) [scenes : IsTrue W.scenes] [tasks : IsTrue W.tasks] : Rewrites W [] y :=
  ⟨.inl scenes.is, .inl tasks.is, fun _ => List.nodup_nil⟩

/-- A scene keeps its name, and its task where that may not be written. -/
class Redraws (W : Footprint) (f : Scene → Scene) : Prop where
  name : ∀ scene, (f scene).sceneId = scene.sceneId
  task : W.tasks = true ∨ ∀ scene, (f scene).taskId = scene.taskId

instance (f : Scene → Scene) [name : ∀ scene, Leaves false (f scene).sceneId scene.sceneId]
    [task : ∀ scene, Leaves W.tasks (f scene).taskId scene.taskId] : Redraws W f where
  name scene := (name scene).leaves.resolve_left nofun
  task := by
    cases allowed : W.tasks with
    | true => exact .inl rfl
    | false => exact .inr fun scene => (task scene).leaves.resolve_left (by simp [allowed])

instance (f : Scene → Scene) [redraws : Redraws W f] (c : Scene → Prop) [DecidablePred c] :
    Redraws W fun scene => if c scene then f scene else scene where
  name scene := by
    split
    · exact redraws.name scene
    · rfl
  task := redraws.task.imp_right fun task scene => by
    split
    · exact task scene
    · rfl

instance (ids : List ArtifactId) : Redraws W (finishScene ids) :=
  ⟨fun _ => rfl, .inr fun _ => rfl⟩

instance : Redraws W interruptScene := ⟨fun _ => rfl, .inr fun _ => rfl⟩

instance : Redraws W cancelScene := ⟨fun _ => rfl, .inr fun _ => rfl⟩

instance (task : TaskId) (node : NodeName) [tasks : IsTrue W.tasks] :
    Redraws W (startScene task node) := ⟨fun _ => rfl, .inl tasks.is⟩

instance [tasks : IsTrue W.tasks] :
    Redraws W fun s => cancelScene { s with taskId := none, assignedWorker := none } :=
  ⟨fun _ => rfl, .inl tasks.is⟩

instance [tasks : IsTrue W.tasks] :
    Redraws W fun s => { failScene s with taskId := none, assignedWorker := none } :=
  ⟨fun _ => rfl, .inl tasks.is⟩

instance (y : List Scene) (f : Scene → Scene) [scenes : IsTrue W.scenes] [redraws : Redraws W f] :
    Rewrites W (y.map f) y where
  scenes := .inl scenes.is
  tasks := redraws.task.imp_right fun task => .inl <| by
    simp only [List.map_map]
    exact List.map_congr_left fun scene _ => Prod.ext (redraws.name scene) (task scene)
  distinct d := by
    rw [Distinct, List.map_map]
    rwa [show Scene.sceneId ∘ f = Scene.sceneId from funext redraws.name]

instance (f : Job → Job)
    [taskType : ∀ job, Leaves false (f job).taskType job.taskType]
    [maxRetries : ∀ job, Leaves false (f job).maxRetries job.maxRetries]
    [status : ∀ job, MayTake W.status (f job).status job.status]
    [stages : ∀ job, MayReset W.stage (f job).stages job.stages]
    [scenes : ∀ job, Rewrites W (f job).scenes job.scenes]
    [artifacts : ∀ job, Leaves W.artifacts (f job).artifacts job.artifacts]
    [active : ∀ job, Leaves W.active (f job).activeTaskIds job.activeTaskIds]
    [voices : ∀ job, Leaves W.voices (f job).ttsActiveTaskIds job.ttsActiveTaskIds]
    [render : ∀ job, Leaves W.render (f job).assemblyTaskId job.assemblyTaskId]
    [renders : ∀ job, Leaves W.renders (f job).assemblyTaskIds job.assemblyTaskIds]
    [cancel : ∀ job, Leaves W.cancel (f job).assemblyCancelRequested job.assemblyCancelRequested]
    [releases : ∀ job, Leaves W.releases (f job).assemblyReleases job.assemblyReleases]
    [snapshot : ∀ job, Leaves W.snapshot (f job).videoEngineSnapshot job.videoEngineSnapshot]
    [versions : ∀ job, Leaves W.versions (f job).videoVersions job.videoVersions]
    [version : ∀ job, Leaves W.version (f job).activeVideoVersion job.activeVideoVersion]
    [publishes : ∀ job, Leaves W.publishes (f job).publishTaskIds job.publishTaskIds]
    [intent : ∀ job, Leaves W.intent (f job).publishIntent job.publishIntent]
    [results : ∀ job, Leaves W.results (f job).publicationResults job.publicationResults]
    [channels : ∀ job, Leaves W.channels (f job).publishedChannels job.publishedChannels]
    [regenerating : ∀ job, Leaves W.regenerating (f job).videoRegenerating job.videoRegenerating] :
    Touches W (modifyJob f) := by
  have kept {α : Type} {b : Bool} {x y : α} (h : Leaves b x y) : Kept b y x := h.leaves.imp_right Eq.symm
  refine ⟨fun s => ?_⟩
  rw [show (modifyJob f s).2 = { s with job := f s.job } from rfl]
  constructor
  case jobId => rfl
  case taskType => exact (taskType s.job).leaves.resolve_left nofun
  case maxRetries => exact (maxRetries s.job).leaves.resolve_left nofun
  case status => exact (status s.job).taken
  case stage =>
    intro n
    rcases (stages s.job).reset with same | ⟨none, allowed⟩
    · exact .inl (congrArg (fun x => (x.getD {}).get n) same)
    · have pending : (f s.job).stage n = .pending := by
        rw [Job.stage, none]
        cases n <;> rfl
      exact .inr (pending.symm ▸ allowed n)
  case scenes => exact (scenes s.job).scenes
  case tasks => exact (scenes s.job).tasks
  case distinct => exact (scenes s.job).distinct
  case workers => exact .inr rfl
  case records => exact fun _ => .inl rfl
  all_goals exact kept inferInstance

lemma initializePlan_planned (view : Scene → α) (job : Job) :
    Planned view job.scenes job.initializePlan.scenes := by
  simp only [Job.initializePlan]
  split
  · rename_i script _
    split
    · rename_i empty
      exact .inr ⟨empty, script, rfl⟩
    · exact .refl view job.scenes
  · exact .refl view job.scenes

instance [script : IsTrue (W.stage .script .ready)] :
    Touches W (modifyJob Job.initializePlan) := by
  refine ⟨fun s => ?_⟩
  constructor
  case status => exact .inl rfl
  case scenes => exact .inr (initializePlan_planned id s.job)
  case tasks => exact .inr (initializePlan_planned Scene.bound s.job)
  case distinct =>
    intro d
    rcases initializePlan_planned Scene.sceneId s.job with same | ⟨_, script, planned⟩
    · change (s.job.initializePlan.scenes.map Scene.sceneId).Nodup
      rwa [same]
    · change (s.job.initializePlan.scenes.map Scene.sceneId).Nodup
      rw [planned]
      exact script.plan_distinct
  case stage =>
    intro n
    change s.job.initializePlan.stage n = _ ∨ W.stage n (s.job.initializePlan.stage n) = true
    cases filled : s.job.stages with
    | some stages => exact .inl (by simp [Job.stage, Job.initializePlan, filled])
    | none =>
      cases n with
      | script =>
        cases written : s.job.script.isSome with
        | true => exact .inr (by simpa [Job.stage, Job.initializePlan, filled, written, Stages.get] using script.is)
        | false => exact .inl (by simp [Job.stage, Job.initializePlan, filled, written, Stages.get])
      | _ => exact .inl (by simp [Job.stage, Job.initializePlan, filled, Stages.get])
  all_goals first | rfl | exact .inr rfl | exact fun _ => .inl rfl

instance (name : StageName) (status : StageStatus) [allowed : IsTrue (W.stage name status)] :
    Touches W (modifyJob (·.setStage name status)) := by
  refine ⟨fun s => ?_⟩
  constructor
  case status => exact .inl rfl
  case stage =>
    intro n
    by_cases same : n = name
    · subst same
      exact .inr ((s.job.stage_setStage n status).symm ▸ allowed.is)
    · exact .inl (s.job.stage_setStage_ne status same)
  all_goals first | rfl | exact .inr rfl | exact .inr (.refl _ _) | exact id | exact fun _ => .inl rfl

instance (version sha256 : ℕ) [versions : IsTrue W.versions]
    [active : IsTrue W.version] : Touches W (modifyJob (finishVideoVersion · version sha256)) := by
  refine ⟨fun s => ?_⟩
  constructor
  case status => exact .inl rfl
  case stage => exact fun _ => .inl rfl
  case versions => exact .inl versions.is
  case version => exact .inl active.is
  all_goals first | rfl | exact .inr rfl | exact .inr (.refl _ _) | exact id | exact fun _ => .inl rfl

instance (version : ℕ) [versions : IsTrue W.versions] :
    Touches W (modifyJob (·.approveVersion version)) := by
  refine ⟨fun s => ?_⟩
  constructor
  case status => exact .inl rfl
  case stage => exact fun _ => .inl rfl
  case versions => exact .inl versions.is
  all_goals first | rfl | exact .inr rfl | exact .inr (.refl _ _) | exact id | exact fun _ => .inl rfl

instance (key : SubmitKey) [releases : IsTrue W.releases] :
    Touches W (releaseAssemblyHold key) := by
  refine ⟨fun s => ?_⟩
  have shape : s.job.releaseHold key =
      { s.job with assemblyReleases := (s.job.releaseHold key).assemblyReleases } := by
    unfold Job.releaseHold
    split
    · split <;> rfl
    · rfl
  change Touched W s { s with job := s.job.releaseHold key }
  rw [shape]
  constructor
  case status => exact .inl rfl
  case stage => exact fun _ => .inl rfl
  case releases => exact .inl releases.is
  all_goals first | rfl | exact .inr rfl | exact .inr (.refl _ _) | exact id | exact fun _ => .inl rfl

/-! ## The shared operations -/

section
variable (env : Env)

variable [workers : IsTrue W.workers] [IsTrue W.scenes] [artifacts : IsTrue W.artifacts] [IsTrue (W.stage .script .ready)]
  [all : ∀ n, IsTrue (W.record n)]

instance : Touches W theJob := ⟨fun s => refl_of (Touched W) s⟩

instance : Touches W theId := ⟨fun s => refl_of (Touched W) s⟩

instance (id : SceneId) (f : Scene → Scene) [Redraws W f] : Touches W (modifyScene id f) := by
  unfold modifyScene
  infer_instance

instance (version : ℕ) (f : StoryboardVersion → StoryboardVersion) :
    Touches W (modifyStoryboard version f) := by
  unfold modifyStoryboard
  infer_instance

instance (status : JobStatus) [IsTrue (W.status status)] : Touches W (update status) := by
  unfold update
  infer_instance

instance (status : JobStatus) [IsTrue (W.status status)] :
    Touches W (transition status) := by
  unfold transition
  infer_instance

instance (name : StageName) (status : StageStatus) [IsTrue (W.stage name status)] :
    Touches W (transitionStage name status) := by
  unfold transitionStage
  infer_instance

instance (b : Background) : Touches W (submit b) := ⟨fun _ => .of_job rfl rfl rfl⟩

instance (node : NodeName) (f : Worker → Worker) [own : IsTrue (W.record node)] : Touches W (modifyWorker node f) := by
  refine ⟨fun s => .of_workers rfl rfl (.inl workers.is) fun n => ?_⟩
  by_cases other : node = n
  · exact .inr (other ▸ own.is)
  · refine .inl ?_
    change (match s.workers.get? node with
      | some w => s.workers.set node (f w)
      | none => s.workers).get? n = _
    split
    · rw [Dict.get?_set, if_neg other]
    · rfl

instance (node : NodeName) [IsTrue (W.record node)] : Touches W (releaseWorker env node) := by
  unfold releaseWorker
  infer_instance

instance (task : Queue.Task TaskBody) (newAttempt : Bool) :
    Touches W (enqueue env task newAttempt) := ⟨fun _ => .of_job rfl rfl rfl⟩

instance (id : TaskId) : Touches W (ack id) := ⟨fun _ => .of_job rfl rfl rfl⟩

instance (id : TaskId) : Touches W (Act.discard id) := ⟨fun _ => .of_job rfl rfl rfl⟩

instance (task : Queue.Task TaskBody) (error : Option String) :
    Touches W (deadLetter env task error) := ⟨fun _ => .of_job rfl rfl rfl⟩

instance (id : TaskId) : Touches W (release env id) := ⟨fun _ => .of_job rfl rfl rfl⟩

instance (kind : ArtifactKind) (index : ℕ) (scene : Option SceneId)
    (task : Option TaskId) (node : Option NodeName) :
    Touches W (registerArtifact env kind index scene task node) := by
  have append (record : Artifact) : Touches W (write fun s : Ctx =>
      { s with nextId := s.nextId + 1, job := { s.job with artifacts := s.job.artifacts ++ [record] } } :
        Act Unit) := by
    refine ⟨fun s => ?_⟩
    constructor
    case status => exact .inl rfl
    case stage => exact fun _ => .inl rfl
    case artifacts => exact .inl artifacts.is
    all_goals first | rfl | exact .inr rfl | exact .inr (.refl _ _) | exact id | exact fun _ => .inl rfl
  unfold registerArtifact
  refine .next fun id => ?_
  dsimp only
  split <;> infer_instance

instance (id : TaskId) : Touches W (freeOwners id) :=
  ⟨fun _ => .of_workers rfl rfl (.inl workers.is) fun n => .inr (all n).is⟩

end

end Vertep.Core
