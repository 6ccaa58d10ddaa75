import Vertep.Core.Footprint
import Vertep.Core.Operations

/-!
# What every handler does (`core/api/job_helpers.py`)

One instance for each function of CORE that works on a Job, in the order of the modules that define them: it
stays within every footprint that allows what it writes, and moves tasks as `Moved` says. A function that acks
or discards a task asks for `Spends` of it; where the tasks are read from the Job itself, for `Spends` of every
task.
-/

namespace Vertep.Core
open Lib Queue
open Command Act

set_option synthInstance.maxSize 4000
set_option synthInstance.maxHeartbeats 200000

variable {W : Footprint} {A : TaskId → Prop} {s : Ctx} {α : Type}

/-- What a handler does to its Job, within a footprint, and to the tasks. -/
structure Acted (W : Footprint) (A : TaskId → Prop) (s s' : Ctx) : Prop where
  touched : Touched W s s'
  moved : Moved A s s'

instance : Std.Refl (Acted W A) := ⟨fun s => ⟨refl_of _ s, refl_of _ s⟩⟩

instance : IsTrans Ctx (Acted W A) where
  trans _ _ _ f f' := ⟨trans_of _ f.touched f'.touched, trans_of _ f.moved f'.moved⟩

abbrev Acts (W : Footprint) (A : TaskId → Prop) {α : Type} (m : Act α) : Prop := Within (Acted W A) m

lemma Acts.of_moves {m : Act α} [touches : Touches W m] (moves : Moves A m) : Acts W A m :=
  ⟨fun s => ⟨touches.leads s, moves.leads s⟩⟩

lemma Acts.both {m : Act α} [Touches W m] [moves : Moves A m] : Acts W A m := .of_moves moves

@[reducible] def Footprint.any : Footprint := {}

instance (priority := low) (m : Act α) [acts : Acts W (fun _ => True) m] : Touches W m :=
  ⟨fun s => (acts.leads s).touched⟩

instance (priority := low) (m : Act α) [acts : Acts .any A m] : Moves A m := ⟨fun s => (acts.leads s).moved⟩

/-! ## The shared operations -/

section
variable (env : Env)

instance : Acts W A theJob := .both

instance : Acts W A theId := .both

instance (f : Job → Job) [Touches W (modifyJob f)] [Moves A (modifyJob f)] : Acts W A (modifyJob f) := .both

instance (id : SceneId) (f : Scene → Scene) [IsTrue W.scenes] [Redraws W f] : Acts W A (modifyScene id f) := .both

instance (version : ℕ) (f : StoryboardVersion → StoryboardVersion) : Acts W A (modifyStoryboard version f) := .both

instance (status : JobStatus) [IsTrue (W.status status)] : Acts W A (update status) := .both

instance (status : JobStatus) [IsTrue (W.status status)] : Acts W A (transition status) := .both

instance (body : TaskBody) (newAttempt : Bool) [IsTrue W.render] [IsTrue W.renders] [IsTrue W.snapshot] :
    Touches W (enqueueAssemblyTask env body newAttempt) := by
  unfold enqueueAssemblyTask
  infer_instance

lemma acted_enqueueAssemblyTask [IsTrue W.render] [IsTrue W.renders] [IsTrue W.snapshot] {body : TaskBody}
    (own : body.jobId = s.jobId) (newAttempt : Bool) :
    Acted W A s (enqueueAssemblyTask env body newAttempt s).2 := by
  refine ⟨touched W _ s, ?_⟩
  unfold enqueueAssemblyTask
  simp only [theJob_bind]
  refine moved_issue env (.inr rfl) own .assembly fun s₁ => ⟨rfl, rfl, rfl, fun id b h => ?_⟩
  cases b with
  | assembly => exact (Dict.mem_keys_set.1 h).symm.imp_right fun new => ⟨new, rfl⟩
  | _ => exact .inl h

lemma assemblyRetryTask_jobId {id : JobId} {job : Job} {body : TaskBody}
    (h : assemblyRetryTask env id job = .ok (some body)) : body.jobId = id := by
  dsimp only [assemblyRetryTask] at h
  repeat' split at h
  all_goals try cases h
  cases staged : env.stageInputs id with
  | error e =>
    rw [staged] at h
    cases h
  | ok _ =>
    rw [staged] at h
    cases h
    rfl

variable [workers : IsTrue W.workers] [IsTrue W.scenes] [IsTrue W.tasks] [IsTrue W.active] [IsTrue W.voices]
  [artifacts : IsTrue W.artifacts]
  [IsTrue W.render] [IsTrue W.renders] [IsTrue W.snapshot] [IsTrue W.versions] [IsTrue W.version]
  [IsTrue W.results] [IsTrue W.publishes] [IsTrue W.intent] [IsTrue W.channels] [IsTrue W.releases]
  [IsTrue W.regenerating] [IsTrue W.cancel] [IsTrue (W.status .failed)] [IsTrue (W.status .assetsReady)]
  [IsTrue (W.status .scriptGenerating)] [IsTrue (W.status .scriptPendingApproval)]
  [IsTrue (W.status .scriptQueued)] [IsTrue (W.status .storyboardQueued)] [IsTrue (W.status .storyboardReady)]
  [IsTrue (W.status .storyboardPendingApproval)] [IsTrue (W.status .storyboardFailed)]
  [IsTrue (W.status .scriptFailed)] [IsTrue (W.status .assembly)] [IsTrue (W.status .videoReady)]
  [IsTrue (W.status .videoPendingApproval)] [IsTrue (W.status .publishing)] [IsTrue (W.status .published)]
  [IsTrue (W.status .ttsReady)] [IsTrue (W.status .ready)] [IsTrue (W.status .ttsGenerating)]
  [IsTrue (W.status .assetGeneration)] [allowed : IsTrue (W.status .new)] [IsTrue (W.status .storyboardGenerating)]
  [IsTrue (W.status .scriptApproved)] [IsTrue (W.status .scriptRevisionRequested)]
  [IsTrue (W.status .storyboardApproved)] [IsTrue (W.status .storyboardRevisionRequested)]
  [IsTrue (W.status .videoApproved)] [IsTrue (W.status .videoRevisionRequested)]
  [IsTrue (W.status .videoFailed)] [IsTrue (W.stage .script .ready)] [IsTrue (W.stage .tts .failed)]
  [IsTrue (W.stage .tts .running)] [IsTrue (W.stage .tts .ready)] [IsTrue (W.stage .assembly .failed)]
  [IsTrue (W.stage .assembly .ready)] [IsTrue (W.stage .publish .ready)] [IsTrue (W.stage .publish .failed)]
  [IsTrue (W.stage .assets .failed)] [IsTrue (W.stage .assets .ready)] [IsTrue (W.stage .assembly .cancelled)]
  [IsTrue (W.stage .assembly .running)] [IsTrue (W.stage .assets .running)]
  [IsTrue (W.stage .script .running)] [IsTrue (W.stage .publish .running)] [every : ∀ n, IsTrue (W.record n)]

instance (name : StageName) (status : StageStatus) [IsTrue (W.stage name status)] :
    Acts W A (transitionStage name status) := .both

instance (b : Background) : Acts W A (submit b) := .both

instance (node : NodeName) (f : Worker → Worker) [IsTrue (W.record node)] : Acts W A (modifyWorker node f) := .both

instance (node : NodeName) [IsTrue (W.record node)] : Acts W A (releaseWorker env node) := .both

instance (id : TaskId) [Spends A id] : Acts W A (ack id) := .both

instance (id : TaskId) [Spends A id] : Acts W A (Act.discard id) := .both

instance (task : Queue.Task TaskBody) (error : Option String) [Moves A (deadLetter env task error)] :
    Acts W A (deadLetter env task error) := .both

instance (id : TaskId) : Acts W A (release env id) := .both

instance (kind : ArtifactKind) (index : ℕ) (scene : Option SceneId)
    (task : Option TaskId) (node : Option NodeName) :
    Acts W A (registerArtifact env kind index scene task node) := .both

instance (key : SubmitKey) : Moves A (releaseAssemblyHold key) := by
  unfold releaseAssemblyHold
  infer_instance

instance (key : SubmitKey) : Acts W A (releaseAssemblyHold key) := .both

instance (id : TaskId) : Moves A (freeOwners id) :=
  ⟨fun _ => .of_fewer rfl rfl le_rfl fun _ _ h => h⟩

instance (id : TaskId) : Acts W A (freeOwners id) := .both

instance [all : ∀ id, Spends A id] (task : Queue.Task TaskBody)
    (error : Option String) : Moves A (deadLetter env task error) :=
  moves_deadLetter env _ _ fun id _ => (all id).spends

/-! ## The functions of CORE -/

variable (r : TaskResult) (channel : Channel) (scene : Scene) (node : NodeName) (item : Item TaskBody)
  [IsTrue (W.record r.nodeName)] [IsTrue (W.record node)]

instance : Acts W A (readReferences env) := by
  unfold readReferences
  infer_instance

instance : Acts W A (readVoice env) := by
  unfold readVoice
  infer_instance

instance (newAttempt : Bool) (delay : ℚ) :
    Touches W (enqueueJobTask env scene newAttempt delay) := by
  unfold enqueueJobTask taskFor
  infer_instance

lemma moves_enqueueJobTask (newAttempt : Bool) (delay : ℚ) (fresh : newAttempt = true ∨ scene.taskId = none) :
    Moves A (enqueueJobTask env scene newAttempt delay) := by
  unfold enqueueJobTask taskFor
  rw [bind_bind]
  refine .next fun _ => ⟨fun s => ?_⟩
  simp only [theJob_bind, theId_bind, pure_bind_eq, bind_bind]
  refine moved_issue env fresh rfl .scene fun s₁ => ⟨rfl, rfl, rfl, fun id b h => ?_⟩
  cases b with
  | scene => exact (Dict.mem_keys_set.1 h).symm.imp_right fun new => ⟨new, rfl⟩
  | _ => exact .inl h

instance (delay : ℚ) (scene : Scene) : Acts W A (enqueueTtsTask env delay scene) := by
  unfold enqueueTtsTask ttsTaskFor
  refine .of_moves ⟨fun s => ?_⟩
  simp only [theJob_bind, theId_bind, pure_bind_eq, bind_bind]
  refine leads_answer fun character _ => ?_
  simp only [theId_bind]
  refine moved_issue env (.inr rfl) rfl .voice fun s₁ => ⟨rfl, rfl, rfl, fun id b h => ?_⟩
  cases b with
  | voice => exact (Dict.mem_keys_set.1 h).symm.imp_right fun new => ⟨new, rfl⟩
  | _ => exact .inl h

instance (scene : Scene) : Acts W A (exhaustTts env scene) := by
  unfold exhaustTts
  infer_instance

instance : Acts W A (dispatchTts env) := by
  unfold dispatchTts
  infer_instance

instance : Acts W A (generateScriptLocal env) := by
  unfold generateScriptLocal
  infer_instance

instance : Acts W A (enqueueScriptTask env) := by
  unfold enqueueScriptTask
  refine .of_moves ⟨fun s => ?_⟩
  simp only [read_bind]
  split
  · exact (inferInstance : Moves A (generateScriptLocal env)).leads s
  · refine moved_issue env (.inr rfl) rfl .script fun s₁ => ⟨rfl, rfl, rfl, fun id b h => ?_⟩
    cases b with
    | script => exact .inr ⟨(Option.some.inj h).symm, rfl⟩
    | _ => exact .inl h

/-- A storyboard is asked for, by `StoryboardService.queue` or after an expired lease. -/
lemma moves_askStoryboard (job : Job) (f : TaskId → Job → Job) (records : ∀ id job task b,
    (f id job).records task b → job.records task b ∨ task = id ∧ b = .storyboard) : Moves A (do
    let _ ← answer (env.loadCharacter (← theId))
    answer (env.storyboardPrompt (← theId))
    let id ← enqueue env
      { priority := some job.priority
        payload :=
          { jobId := ← theId
            task := some .storyboard
            storyboardVersion := some job.nextStoryboard
            imageVersion := some ((job.storyboards.getLast?.map StoryboardVersion.imageVersion).getD 1) } }
      false
    modifyJob (f id) : Act Unit) := by
  refine ⟨fun s => ?_⟩
  simp only [theId_bind]
  refine leads_answer fun _ _ => ?_
  simp only [theId_bind]
  refine leads_answer fun _ _ => ?_
  simp only [theId_bind]
  exact moved_issue env (.inr rfl) rfl .storyboard fun s₁ => ⟨rfl, rfl, rfl, records _ s₁.job⟩

instance : Acts W A (queueStoryboard env) := by
  unfold queueStoryboard
  refine .of_moves (.next fun _ => .next fun _ => .next fun job =>
    moves_askStoryboard env job _ fun id _ task b h => ?_)
  cases b with
  | storyboard => exact .inr ⟨(Option.some.inj h).symm, rfl⟩
  | _ => exact .inl h

instance (version : ℕ) (indexes : List ℕ) :
    Acts W A (queueImageStoryboard env version indexes) := by
  unfold queueImageStoryboard
  refine .next fun job => ?_
  split
  · infer_instance
  · refine .next fun _ => .next fun _ => ?_
    refine Within.forEach _ fun scene _ => .next fun _ => Acts.of_moves ⟨fun s => ?_⟩
    simp only [theId_bind]
    refine moved_issue env (.inr rfl) rfl .imageStoryboard
      fun s₁ => ⟨rfl, rfl, rfl, fun id b h => ?_⟩
    cases b with
    | imageStoryboard => exact (Dict.mem_keys_set.1 h).symm.imp_right fun new => ⟨new, rfl⟩
    | _ => exact .inl h

instance (id : TaskId) : Acts W A (dropPreview id) := by
  unfold dropPreview
  infer_instance

instance (task : TaskId) (scene : SceneId) (version : ℕ) (id : ArtifactId) :
    Acts W A (placePreview task scene version id) := by
  unfold placePreview
  infer_instance

instance (id : TaskId) (success : Bool) (blob : Option Blob) (error : Option String)
    (artifacts : List Upload) :
    Acts W A (handleImageResult env id success blob error artifacts) := by
  unfold handleImageResult
  refine .next fun _ => ?_
  split
  · infer_instance
  · refine .ite inferInstance (.ite inferInstance ?_)
    refine .next fun _ => .next fun _ => ?_
    split <;> infer_instance

instance [∀ id, Spends A id] : Acts W A (drawPreviews env) := by
  unfold drawPreviews
  infer_instance

instance [Spends A r.taskId] : Acts W A (takePreview env r) := by
  unfold takePreview
  infer_instance

instance [Spends A r.taskId] : Acts W A (imageStoryboardResult env r) := by
  unfold imageStoryboardResult
  infer_instance

instance [∀ id, Spends A id] : Acts W A (handleStoryboardResult env r) := by
  unfold handleStoryboardResult
  refine .next fun _ => ?_
  refine .ite inferInstance (.ite inferInstance (.ite inferInstance
    (.ite inferInstance (.ite inferInstance ?_))))
  split
  · infer_instance
  · refine .next fun payload => .ite inferInstance ?_
    refine .next fun _ => .next fun _ => ?_
    infer_instance

instance [∀ id, Spends A id] : Acts W A (storyboardResult env r) := by
  unfold storyboardResult
  refine .next fun _ => .ite inferInstance ?_
  refine .bind (.handle inferInstance fun e => ?_) fun x => .ite ?_ inferInstance
  · split <;> infer_instance
  · refine .next fun _ => .next fun _ => ?_
    refine .next fun _ => .next fun _ => ?_
    split <;> infer_instance

instance (spent : Act Unit) [Acts W A spent] : Acts W A (retryScript env spent) := by
  unfold retryScript
  infer_instance

instance (id : TaskId) (error : Option String) [Spends A id] :
    Acts W A (scriptDeadLetter env id error) := by
  unfold scriptDeadLetter
  infer_instance

instance [Spends A r.taskId] : Acts W A (handleScriptResult env r) := by
  unfold handleScriptResult
  refine .next fun _ => .ite inferInstance ?_
  split
  · infer_instance
  · split <;> infer_instance

instance [Spends A r.taskId] : Acts W A (takeScript env r) := by
  unfold takeScript
  infer_instance

instance [Spends A r.taskId] : Acts W A (scriptResult env r) := by
  unfold scriptResult
  infer_instance

instance (id : TaskId) : Acts W A (dropAssembly id) := by
  unfold dropAssembly
  infer_instance

instance [Spends A r.taskId] : Acts W A (assemblyDeadLetter env r) := by
  unfold assemblyDeadLetter
  infer_instance

instance : Acts W A (handleAssemblyResult env r) := by
  unfold handleAssemblyResult
  refine .next fun _ => .next fun _ => ?_
  refine .next fun _ => .bind ?_ fun _ => inferInstance
  refine .handle inferInstance fun e => ?_
  split <;> infer_instance

instance : Acts W A (importAssembly env r) := by
  unfold importAssembly
  refine .handle inferInstance fun e => ?_
  split <;> infer_instance

instance (before before' : Act Unit) [first : Acts W A before] [Acts W A before'] :
    Acts W A (retryAssembly env before before') := by
  unfold retryAssembly
  refine ⟨fun s => ?_⟩
  simp only [read_bind]
  refine leads_answer fun body answered => ?_
  cases body with
  | none =>
    have failing : Acts W A (before' >>= fun _ => transitionStage .assembly .failed >>= fun _ =>
      update .failed) := inferInstance
    exact failing.leads s
  | some body =>
    have own : body.jobId = s.jobId := by
      split at answered
      · exact assemblyRetryTask_jobId env answered
      · cases answered
    refine leads_bind (first.leads s) fun _ s' run => ?_
    have same : s'.jobId = s.jobId := by
      have := (first.leads s).moved.sameJob
      rwa [run] at this
    refine leads_bind (acted_enqueueAssemblyTask env (own.trans same.symm) true) fun _ s'' _ => ?_
    exact (inferInstance : Acts W A (update .assembly)).leads s''

instance [Spends A r.taskId] : Acts W A (takeAssembly env r) := by
  unfold takeAssembly
  refine .ite inferInstance (.next fun _ => ?_)
  split <;> infer_instance

instance [Spends A r.taskId] : Acts W A (assemblyResult env r) := by
  unfold assemblyResult
  infer_instance

instance : Acts W A (publishLocal env channel) := by
  unfold publishLocal
  infer_instance

instance (delay : ℚ) : Acts W A (enqueuePublishTask env channel delay) := by
  unfold enqueuePublishTask
  refine .of_moves ⟨fun s => ?_⟩
  simp only [read_bind]
  split
  · exact (inferInstance : Moves A (publishLocal env channel)).leads s
  · refine leads_bind ((moves_modifyJob (A := A) _).leads s) fun _ s₁ run => ?_
    have same : s.jobId = s₁.jobId := congrArg (fun x => Ctx.jobId (Prod.snd x)) run
    have settings : Moves A (when (channel = .threads ∨ channel = .telegram)
      (answer (env.publishSettings channel)) : Act Unit) := inferInstance
    have moved := settings.leads s₁
    refine leads_bind moved fun _ s₂ run => ?_
    have same' : s₂.jobId = s₁.jobId := by
      rw [run] at moved
      exact moved.sameJob
    refine moved_issue env (.inr rfl) (same.trans same'.symm) .publish
      fun s₁ => ⟨rfl, rfl, rfl, fun id b h => ?_⟩
    cases b with
    | publish => exact (Dict.mem_keys_set.1 h).symm.imp_right fun new => ⟨new, rfl⟩
    | _ => exact .inl h

instance (id : TaskId) : Acts W A (dropPublish id channel) := by
  unfold dropPublish
  infer_instance

instance (id : TaskId) : Acts W A (enqueueWithBackoff env id channel) := by
  unfold enqueueWithBackoff
  infer_instance

instance : Acts W A (handlePublishResult env r channel) := by
  unfold handlePublishResult
  refine .next fun _ => ?_
  dsimp only
  refine .ite inferInstance ?_
  split
  · infer_instance
  · split
    · infer_instance
    · infer_instance
    · infer_instance
    · refine .next fun _ => .ite inferInstance ?_
      split <;> infer_instance

instance : Acts W A settlePublish := by
  unfold settlePublish
  infer_instance

instance [Spends A r.taskId] : Acts W A (takePublish env r channel) := by
  unfold takePublish
  infer_instance

instance [Spends A r.taskId] : Acts W A (publishResult env r) := by
  unfold publishResult
  refine .next fun _ => ?_
  split <;> infer_instance

instance (id : TaskId) (error : Option String) (used most : ℕ) [Spends A id] :
    Acts W A (retryTts env id error scene used most) := by
  unfold retryTts
  infer_instance

/-- The records of these nodes may be written. -/
class Named (W : Footprint) (nodes : List NodeName) : Prop where
  allowed : ∀ n ∈ nodes, IsTrue (W.record n)

instance (priority := low) (nodes : List NodeName) : Named W nodes := ⟨fun n _ => every n⟩

instance (node : NodeName) [own : IsTrue (W.record node)] : Named W (some node).toList :=
  ⟨fun _ is => List.mem_singleton.1 is ▸ own⟩

instance (id : TaskId) (node : Option NodeName) (error : Option String) [Spends A id] [named : Named W node.toList] :
    Acts W A (handleTtsFailure env id node error scene) := by
  have dismissed : Acts W A (forEach (fun node => modifyWorker node (·.dismissed env.now)) node.toList) := by
    refine .forEach _ fun n is => ?_
    have := named.allowed n is
    infer_instance
  unfold handleTtsFailure
  infer_instance

instance (index : ℕ) : Acts W A (registerAudio env r scene index) := by
  unfold registerAudio
  infer_instance

instance : Acts W A (settleTts env) := by
  unfold settleTts
  infer_instance

instance [Spends A r.taskId] : Acts W A (takeVoice env r) := by
  unfold takeVoice
  infer_instance

instance [Spends A r.taskId] : Acts W A (voiceResult env r) := by
  unfold voiceResult
  refine .next fun _ => ?_
  split
  · infer_instance
  · refine .ite inferInstance (.ite inferInstance ?_)
    split <;> infer_instance

instance [Spends A r.taskId] : Acts W A (sceneCancelled env r scene) := by
  unfold sceneCancelled
  infer_instance

instance (sibling : TaskId × SceneId) [Spends A sibling.1] : Acts W A (cancelSibling env sibling) := by
  unfold cancelSibling
  infer_instance

instance [∀ id, Spends A id] : Acts W A (failAssets env r scene) := by
  unfold failAssets
  infer_instance

instance [∀ id, Spends A id] : Acts W A (sceneFailed env r scene) := by
  unfold sceneFailed
  have retry (delay : ℚ) : Acts W A (enqueueJobTask env
      { failScene scene with taskId := none, assignedWorker := none } true delay) :=
    .of_moves (moves_enqueueJobTask env _ true delay (.inl rfl))
  infer_instance

instance : Acts W A (settleScenes env) := by
  unfold settleScenes
  refine .next fun _ => .next fun _ => ?_
  split <;> infer_instance

instance [Spends A r.taskId] : Acts W A (sceneDone env r scene) := by
  unfold sceneDone
  refine .next fun job => .next fun _ => ?_
  refine .next fun _ => .next fun _ => ?_
  refine .next fun saved => .next fun _ => ?_
  infer_instance

instance [∀ id, Spends A id] : Acts W A (takeScene env r scene) := by
  unfold takeScene
  infer_instance

instance [∀ id, Spends A id] : Acts W A (sceneResult env r) := by
  unfold sceneResult
  refine .next fun _ => .ite inferInstance ?_
  split
  · infer_instance
  · split <;> infer_instance

instance [∀ id, Spends A id] : Acts W A (result env r) := by
  unfold result
  infer_instance

instance : Acts W A (awaitRender env) := by
  unfold awaitRender
  infer_instance

instance (version : ℕ) : Acts W A (recordVideo env version) := by
  unfold recordVideo
  infer_instance

instance (version : ℕ) : Acts W A (renderNative env version) := by
  unfold renderNative
  infer_instance

instance [MayDispatch W env] : Acts W A (finalizeJob env) := by
  unfold finalizeJob
  refine .next fun job => .ite inferInstance ?_
  refine .next fun _ => .next fun _ => ?_
  refine .next fun _ => ⟨fun s => ?_⟩
  simp only [theId_bind]
  refine leads_answer fun _ _ => ?_
  simp only [theJob_bind]
  cases route : env.engine with
  | native => exact refl_of (Acted W A) s
  | foreign _ =>
    have failing : Acts W A (transitionStage .assembly .failed >>= fun _ => update .failed >>= fun _ =>
      pure (none : Option ℕ)) := inferInstance
    exact failing.leads s
  | external identity =>
    obtain ⟨render, renders, snapshot⟩ := MayDispatch.writes (W := W) identity route
    have := IsTrue.mk render
    have := IsTrue.mk renders
    have := IsTrue.mk snapshot
    refine leads_answer fun key _ => ?_
    refine leads_answer fun _ _ => ?_
    exact leads_bind (acted_enqueueAssemblyTask env rfl false) fun _ s' _ => refl_of (Acted W A) s'

instance : Acts W A failAssembly := by
  unfold failAssembly
  infer_instance

instance [MayDispatch W env] : Acts W A (finalizeJobSafe env) := by
  unfold finalizeJobSafe
  infer_instance

instance (version : ℕ) : Acts W A (renderSafe env version) := by
  unfold renderSafe
  infer_instance

instance (envs : ℕ → Env) (n : ℕ) [∀ n, MayDispatch W (envs n)] :
    Acts W A (finalizeLoop envs n) := by
  induction n with
  | zero =>
    unfold finalizeLoop
    infer_instance
  | succ n ih =>
    unfold finalizeLoop
    refine .next fun version => ?_
    split <;> infer_instance

instance (envs : ℕ → Env) (version n : ℕ) [∀ n, MayDispatch W (envs n)] :
    Acts W A (resumeLoop env envs version n) := by
  unfold resumeLoop
  infer_instance

instance (envs : ℕ → Env) [∀ n, MayDispatch W (envs n)] :
    Acts W A (finalizeAndNotify envs) := by
  unfold finalizeAndNotify
  infer_instance

instance (queued : Scene × TaskId) [Spends A queued.2] : Acts W A (drawScene env queued) := by
  unfold drawScene
  infer_instance

instance : Touches W (enqueueScene env scene) := by
  unfold enqueueScene
  infer_instance

lemma moves_enqueueScene (fresh : scene.taskId = none) : Moves A (enqueueScene env scene) := by
  unfold enqueueScene
  have issue := moves_enqueueJobTask (A := A) env scene false 0 (.inr fresh)
  infer_instance

instance [∀ id, Spends A id] (envs : ℕ → Env) [∀ n, MayDispatch W (envs n)] :
    Acts W A (dispatchAssets envs) := by
  unfold dispatchAssets
  refine .next fun _ => .next fun _ => ?_
  refine .next fun _ => .next fun job => ?_
  refine .ite inferInstance (.bind ?_ fun _ => inferInstance)
  refine Within.collect _ fun scene member => Acts.of_moves (moves_enqueueScene (envs 0) scene ?_)
  simpa using (List.mem_filter.1 member).2

instance : Acts W A (generateScript env) := by
  unfold generateScript
  refine .next fun job => .ite inferInstance ?_
  refine .next fun _ => .next fun _ => ?_
  refine .next fun _ => ?_
  split <;> infer_instance

instance : Acts W A (prepareJob env) := by
  unfold prepareJob
  infer_instance

instance : Acts W A (prepareJobSafe env) := by
  unfold prepareJobSafe
  infer_instance

instance : Acts W A (requeueStoryboard env) := by
  unfold requeueStoryboard
  infer_instance

instance [∀ id, Spends A id] (storyboard : StoryboardVersion) : Acts W A (queuePreviews env storyboard) := by
  unfold queuePreviews
  infer_instance

instance [∀ id, Spends A id] : Acts W A (imageStoryboardGate env) := by
  unfold imageStoryboardGate
  refine .next fun _ => .ite ?_ inferInstance
  refine .ite inferInstance (.ite inferInstance ?_)
  split <;> infer_instance

instance [∀ id, Spends A id] : Acts W A (prepareTurn env) := by
  unfold prepareTurn
  infer_instance

instance [∀ id, Spends A id] (envs : ℕ → Env) (n : ℕ) : Acts W A (prepareLoop envs n) := by
  induction n with
  | zero =>
    unfold prepareLoop
    infer_instance
  | succ n ih =>
    unfold prepareLoop
    refine .next fun turn => ?_
    split <;> infer_instance

instance : Acts W A (dispatchVoices env) := by
  unfold dispatchVoices
  infer_instance

instance [∀ id, Spends A id] (envs : ℕ → Env) [∀ n, MayDispatch W (envs n)] : Acts W A (dispatch envs) := by
  unfold dispatch
  refine .next fun job => ?_
  split
  · infer_instance
  · infer_instance
  · infer_instance
  · infer_instance
  · split <;> infer_instance
  · refine .next fun blocked => .ite inferInstance ?_
    refine .next fun render => ?_
    split <;> infer_instance
  · infer_instance
  · infer_instance

instance [∀ id, Spends A id] (envs later : ℕ → Env) [∀ n, MayDispatch W (later n)] :
    Acts W A (prepareAndDispatch envs later) := by
  unfold prepareAndDispatch
  infer_instance

instance (node : NodeName) (item : Item TaskBody) : Acts W A (take node item) := by
  unfold take
  refine .next fun job => ?_
  dsimp only
  split
  · infer_instance
  · infer_instance
  · infer_instance
  · infer_instance
  · infer_instance
  · split <;> infer_instance

instance : Acts W A (unassign node) := by
  unfold unassign
  infer_instance

variable [∀ id, Spends A id]

instance (task : Option TaskId) : Acts W A (discardOption task) := by
  unfold discardOption
  infer_instance

instance (task : Option TaskId) : Acts W A (releaseOption env task) := by
  unfold releaseOption
  infer_instance

instance (id : TaskId) : Acts W A (dismissOwner env id) := by
  unfold dismissOwner
  infer_instance

instance (task : Option TaskId) : Acts W A (recoverScript env node task) := by
  unfold recoverScript
  infer_instance

instance (task : TaskId) : Acts W A (recoverPublish env node task channel) := by
  unfold recoverPublish
  infer_instance

instance (task : TaskId) (sceneId : SceneId) :
    Acts W A (recoverVoice env node task sceneId) := by
  unfold recoverVoice
  infer_instance

instance (task : Option TaskId) : Acts W A (recoverStoryboard env node task) := by
  unfold recoverStoryboard
  infer_instance

instance (task : TaskId) : Acts W A (recoverAssembly env node task) := by
  unfold recoverAssembly
  refine .next fun _ => .next fun _ => ?_
  refine .next fun _ => ⟨fun s => ?_⟩
  simp only [read_bind]
  refine leads_answer fun body answered => ?_
  have left : Acts W A (unassign node) := inferInstance
  cases body with
  | none =>
    have failing : Acts W A (transitionStage .assembly .failed >>= fun _ => update .failed >>= fun _ =>
      unassign node) := inferInstance
    exact failing.leads s
  | some body =>
    have own : body.jobId = s.jobId := by
      split at answered
      · exact assemblyRetryTask_jobId env answered
      · cases answered
    exact leads_bind (acted_enqueueAssemblyTask env own true) fun _ s'' _ => left.leads s''

instance (task : Option TaskId) : Acts W A (recoverTask env node task) := by
  have rest (job : Job) (scene : Option Scene) :
      Acts W A (recoverTask.recoverRest env node task job scene) := by
    unfold recoverTask.recoverRest
    refine .ite inferInstance ?_
    split <;> infer_instance
  unfold recoverTask
  refine .next fun job => ?_
  refine .ite inferInstance (.ite inferInstance ?_)
  split <;> infer_instance

instance : Acts W A (expireScript env item) := by
  unfold expireScript
  infer_instance

instance : Acts W A (expireStoryboard env item) := by
  unfold expireStoryboard
  refine .next fun _ => .next fun _ => ?_
  refine .next fun _ => .next fun job => ?_
  refine .ite (.next fun _ => .next fun _ => Acts.of_moves
    (moves_askStoryboard env job _ fun id _ task b h => ?_)) inferInstance
  cases b with
  | storyboard => exact .inr ⟨(Option.some.inj h).symm, rfl⟩
  | _ => exact .inl h

instance : Acts W A (expirePublish env item channel) := by
  unfold expirePublish
  infer_instance

instance : Acts W A (expireTask env item) := by
  have rest (job : Job) (scene : Option Scene) :
      Acts W A (expireTask.expireRest env item job scene) := by
    unfold expireTask.expireRest
    split <;> infer_instance
  unfold expireTask
  refine .next fun job => ?_
  dsimp only
  split <;> infer_instance

instance (a : Halt) (task : TaskId × SceneId) : Acts W A (haltScene env a task) := by
  unfold haltScene
  infer_instance

instance (task : TaskId × SceneId) : Acts W A (haltVoice env task) := by
  unfold haltVoice
  infer_instance

instance (task : TaskId × ℕ) : Acts W A (haltAssembly env task) := by
  unfold haltAssembly
  infer_instance

instance (a : Halt) (name : StageName) [IsTrue (W.stage name a.stageStatus)] :
    Acts W A (haltStage a name) := by
  unfold haltStage
  infer_instance

instance (a : Halt) [IsTrue (W.stage .assembly a.stageStatus)] :
    Acts W A (haltAssemblies env a) := by
  unfold haltAssemblies
  infer_instance

instance (a : Halt) [IsTrue (W.status a.status)] [IsTrue (W.stage .script a.stageStatus)]
    [IsTrue (W.stage .assets a.stageStatus)] [IsTrue (W.stage .tts a.stageStatus)]
    [IsTrue (W.stage .assembly a.stageStatus)] :
    Acts W A (haltJob env a) := by
  unfold haltJob
  refine .next fun job => .next fun _ => ?_
  refine .next fun _ => .next fun _ => ?_
  refine .next fun _ => .next fun _ => ?_
  refine .next fun _ => .next fun _ => ?_
  infer_instance

instance (name : StageName) [IsTrue (W.stage name .running)] :
    Acts W A (resumeStage name) := by
  unfold resumeStage
  infer_instance

instance : Acts W A resumeJob := by
  unfold resumeJob
  infer_instance

instance : Acts W A retryJob := by
  unfold retryJob
  infer_instance

instance [∀ n, IsTrue (W.stage n .pending)] : Acts W A (regenerateJob env) := by
  unfold regenerateJob
  infer_instance

instance : Acts W A approveScript := by
  unfold approveScript
  infer_instance

instance : Acts W A requestScriptRevision := by
  unfold requestScriptRevision
  infer_instance

instance [∀ n, IsTrue (W.stage n .pending)] : Acts W A (regenerateScript env) := by
  unfold regenerateScript
  infer_instance

instance (version : ℕ) : Acts W A (activeVersion version) := by
  unfold activeVersion
  refine .next fun _ => ?_
  split <;> infer_instance

instance (version : ℕ) (script : Script) :
    Acts W A (approveStoryboard env version script) := by
  unfold approveStoryboard
  infer_instance

instance (version : ℕ) : Acts W A (approveImages version) := by
  unfold approveImages
  infer_instance

instance (version : ℕ) (indexes : List ℕ) :
    Acts W A (requestImageRevision env version indexes) := by
  unfold requestImageRevision
  infer_instance

instance (version : ℕ) : Acts W A (regenerateStoryboard env version) := by
  unfold regenerateStoryboard
  infer_instance

instance (version : ℕ) (sha256 : Option Digest) :
    Acts W A (approveVideo env version sha256) := by
  have approve : Fewer (·.approveVersion version) := by
    unfold Job.approveVersion
    infer_instance
  unfold approveVideo
  infer_instance

instance : Acts W A regenerateVideo := by
  unfold regenerateVideo
  infer_instance

instance : Acts W A endRegenerate := by
  unfold endRegenerate
  infer_instance

instance [MayDispatch W env] : Acts W A (finalizeVideoRegenerate env) := by
  unfold finalizeVideoRegenerate
  refine .next fun job => .ite inferInstance ?_
  refine .next fun id => .ite ?_ inferInstance
  refine .next fun _ => .next fun version => ?_
  split <;> infer_instance

instance (channels : List Channel) : Acts W A (closePublish channels) := by
  unfold closePublish
  infer_instance

instance (channels : List Channel) : Acts W A (publishJob env channels) := by
  unfold publishJob
  infer_instance

instance (edit : Edit) : Acts W A (editJob env edit) := by
  unfold editJob
  infer_instance

instance (text : String) [∀ n, IsTrue (W.stage n .pending)] :
    Acts W A (requestVideoRevision env text) := by
  unfold requestVideoRevision
  infer_instance

instance (key : SubmitKey) : Acts W A (confirmAssemblyRelease env key) := by
  unfold confirmAssemblyRelease
  refine .next fun job => ?_
  split
  · infer_instance
  · split
    · infer_instance
    · split <;> infer_instance

instance (envs later : ℕ → Env) (b : Background) [∀ n, MayDispatch W (envs n)]
    [∀ n, MayDispatch W (later n)] :
    Acts W A (b.act envs later) := by
  cases b <;> simp only [Background.act] <;> infer_instance

instance (envs : ℕ → Env) (p : Parked) [∀ n, MayDispatch W (envs n)] :
    Acts W A (p.act env envs) := by
  cases p with
  | dispatchVoices version attempts =>
    simp only [Parked.act]
    refine .next fun render => ?_
    split <;> infer_instance
  | finalize version attempts | dispatch version attempts | regenerate version =>
    simp only [Parked.act]
    infer_instance

instance : Touches W (reviveTask item) := by
  unfold reviveTask
  refine .next fun job => ?_
  split <;> infer_instance

/-- The watchdog lets a Job that waited for the system go on. -/
instance :
    Touches W (modifyJob fun job =>
      if job.status = .waitingForSystem then { job with status := .new } else job) := by
  refine ⟨fun s => ?_⟩
  have shape : (if s.job.status = .waitingForSystem then { s.job with status := .new } else s.job) =
      { s.job with status := if s.job.status = .waitingForSystem then .new else s.job.status } := by
    split <;> rfl
  change Touched W s { s with job := if s.job.status = .waitingForSystem then _ else s.job }
  rw [shape]
  constructor
  case status =>
    dsimp only
    split
    · exact .inr allowed.is
    · exact .inl rfl
  case stage => exact fun _ => .inl rfl
  all_goals first | rfl | exact .inr rfl | exact .inr (.refl _ _) | exact id | exact fun _ => .inl rfl

end

@[reducible] def Footprint.sameWorkers : Footprint := { workers := false }

/-- Only the functions that call `modifyWorker` write worker records. -/
instance (priority := low) keepsWorkers {α : Type} (m : Act α) [within : Touches .sameWorkers m] :
    Keeps Ctx.workers m := ⟨fun s => ((within.leads s).workers.resolve_left nofun).symm⟩

end Vertep.Core
