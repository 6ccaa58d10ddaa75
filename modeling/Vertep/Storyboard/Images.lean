import Vertep.Storyboard.History

/-!
# The pictures of a storyboard (`core/storyboard.py`)

Whose picture a scene shows. Every task of a picture is for one version of a storyboard and one version of
its pictures, and a result is only taken while both are the ones in review. That ties a picture to what was
asked for last, except where a scene is asked for again and keeps what it shows; and it does not keep a
result from changing pictures that are approved already.
-/

namespace Vertep.Storyboard
open Lib Command Vertep.Core
open Queue (Json Members)

/-! ## What was asked for -/

/-- The version of the pictures that a task asks for, if it is for this scene. -/
def Task.requested (version : ℕ) (index : ℤ) : Task → Option ℤ
  | .storyboard _ _ _ _ => none
  | .image v imageVersion i _ _ => if v = version ∧ i = index then some imageVersion else none

def lastRequested (tasks : List Task) (version : ℕ) (index : ℤ) : Option ℤ :=
  (tasks.filterMap (·.requested version index)).getLast?

lemma lastRequested_append (tasks more : List Task) (version : ℕ) (index : ℤ) :
    lastRequested (tasks ++ more) version index =
      (lastRequested more version index).or (lastRequested tasks version index) := by
  rw [lastRequested, List.filterMap_append, List.getLast?_append]
  rfl

lemma lastRequested_other {tasks more : List Task} {version : ℕ} {index : ℤ}
    (other : ∀ task ∈ more, task.requested version index = none) :
    lastRequested (tasks ++ more) version index = lastRequested tasks version index := by
  have none : lastRequested more version index = none := by
    rw [lastRequested, List.filterMap_eq_nil_iff.2 other]
    rfl
  rw [lastRequested_append, none, Option.none_or]

lemma lastRequested_same {tasks more : List Task} {version : ℕ} {index imageVersion : ℤ}
    (same : ∀ task ∈ more, ∀ v, task.requested version index = some v → v = imageVersion)
    (asked : ∃ task ∈ more, (task.requested version index).isSome) :
    lastRequested (tasks ++ more) version index = some imageVersion := by
  obtain ⟨task, member, is⟩ := asked
  obtain ⟨v, is⟩ := Option.isSome_iff_exists.1 is
  have there : v ∈ more.filterMap (·.requested version index) := List.mem_filterMap.2 ⟨task, member, is⟩
  cases last : lastRequested more version index with
  | none =>
    rw [List.getLast?_eq_none_iff.1 last] at there
    cases there
  | some w =>
    obtain ⟨task', member', is'⟩ := List.mem_filterMap.1 (List.mem_of_getLast? last)
    rw [lastRequested_append, last, same task' member' w is']
    rfl

/-! ## Storyboards by their version -/

lemma modify_findIdx {l : List StoryboardVersion} (nodup : (l.map (·.version)).Nodup) (version : ℕ)
    (f : StoryboardVersion → StoryboardVersion) :
    l.modify (l.findIdx (·.version = version)) f = l.map fun sb => if sb.version = version then f sb else sb := by
  induction l with
  | nil => rfl
  | cons sb l ih =>
    rw [List.map_cons, List.nodup_cons] at nodup
    by_cases here : sb.version = version
    · have others : (l.map fun b => if b.version = version then f b else b) = l := by
        refine (List.map_congr_left fun b member => ?_).trans (List.map_id l)
        rw [if_neg fun same : b.version = version => nodup.1 (here ▸ same ▸ List.mem_map_of_mem member)]
        rfl
      rw [List.findIdx_cons, List.map_cons, others]
      simp [here]
    · rw [List.findIdx_cons, List.map_cons, ← ih nodup.2]
      simp [here]

lemma History.nodup {job : Job} (h : History job) : (job.storyboards.map (·.version)).Nodup := by
  rw [h.numbered]
  exact List.nodup_range'

variable {sb : StoryboardVersion}

lemma History.storyboard?_of_mem {job : Job} (h : History job)
    (member : sb ∈ job.storyboards) : job.storyboard? sb.version = some sb := by
  cases found : job.storyboard? sb.version with
  | none =>
    have absent := List.find?_eq_none.1 found sb member
    simp at absent
  | some b =>
    have same := storyboard?_version found
    rw [List.inj_on_of_nodup_map h.nodup (List.mem_of_find?_eq_some found) member same]

variable {s : System}

lemma modifyStoryboard_run (h : History s.job) (version : ℕ)
    (f : StoryboardVersion → StoryboardVersion) :
    modifyStoryboard version f s = (.ok (), { s with job := { s.job with
      storyboards := s.job.storyboards.map fun sb => if sb.version = version then f sb else sb } }) := by
  rw [← modify_findIdx h.nodup]
  rfl

/-! ## The queue of a storyboard -/

/-- The storyboard with other scenes. -/
def System.withScenes (s : System) (version : ℕ) (scenes : List StoryboardScene) : System :=
  { s with job := { s.job with
    storyboards := s.job.storyboards.map fun b => if b.version = version then { b with scenes := scenes } else b } }

def StoryboardScene.queued (scene : StoryboardScene) (sceneIndexes : List ℤ) (sb : StoryboardVersion) :
    StoryboardScene := if isTarget sceneIndexes scene then scene.asked sb else scene

/-- What the queue of some scenes adds to the tasks of pictures. -/
structure Asks (sb : StoryboardVersion) (scenes : List StoryboardScene) (s s' : System) : Prop where
  topic : s'.job.topic = s.job.topic
  storyboards : s'.job.storyboards = s.job.storyboards
  active : s'.job.activeStoryboardVersion = s.job.activeStoryboardVersion
  artifacts : s'.job.artifacts = s.job.artifacts
  tasks : s'.tasks = s.tasks ++ scenes.map fun scene => imageTaskFor s.job sb (scene.asked sb)
  outstanding : ∀ t x, s'.job.imageStoryboardTaskIds.get? t = some x →
    s.job.imageStoryboardTaskIds.get? t = some x ∧
      s'.job.imageStoryboardTaskVersions.get? t = s.job.imageStoryboardTaskVersions.get? t ∨
    ∃ scene ∈ scenes, x = scene.sceneId.getD (sb.version, scene.index) ∧
      s'.job.imageStoryboardTaskVersions.get? t = some (sb.version, sb.imageVersion) ∧
      s'.tasks[t]? = some (imageTaskFor s.job sb (scene.asked sb))

/-- The queue of one scene. -/
def System.asking (s : System) (sb : StoryboardVersion) (scene : StoryboardScene) : System where
  job := { s.job with
    imageStoryboardTaskIds :=
      s.job.imageStoryboardTaskIds.set s.tasks.length (scene.sceneId.getD (sb.version, scene.index))
    imageStoryboardTaskVersions :=
      s.job.imageStoryboardTaskVersions.set s.tasks.length (sb.version, sb.imageVersion) }
  tasks := s.tasks ++ [imageTaskFor s.job sb (scene.asked sb)]

lemma Asks.cons {scene : StoryboardScene} {scenes : List StoryboardScene} {s' : System}
    (h : Asks sb scenes (s.asking sb scene) s') : Asks sb (scene :: scenes) s s' := by
  have tasks : s'.tasks = s.tasks ++ (scene :: scenes).map fun scene => imageTaskFor s.job sb (scene.asked sb) := by
    rw [h.tasks]
    exact List.append_assoc _ _ _
  refine ⟨h.topic, h.storyboards, h.active, h.artifacts, tasks, fun t x is => ?_⟩
  rcases h.outstanding t x is with ⟨before, same⟩ | ⟨other, member, is, versions, task⟩
  · simp only [System.asking, Dict.get?_set] at before same
    by_cases new : s.tasks.length = t
    · rw [if_pos new] at before same
      refine .inr ⟨scene, List.mem_cons_self, (Option.some.inj before).symm, same, ?_⟩
      rw [tasks, ← new]
      simp
    · rw [if_neg new] at before same
      exact .inl ⟨before, same⟩
  · exact .inr ⟨other, List.mem_cons_of_mem _ member, is, versions, task⟩

lemma History.withScenes (h : History s.job) (version : ℕ) (scenes : List StoryboardScene) :
    History (s.withScenes version scenes).job := by
  refine h.replace (fun _ b => if b.version = version then { b with scenes := scenes } else b) (fun _ b => ?_)
    (fun k => List.getElem?_map) rfl
  dsimp only
  split
  · exact ⟨rfl, fun waiting => waiting⟩
  · exact ⟨rfl, fun waiting => waiting⟩

lemma queueScene_run (h : History s.job) (sb : StoryboardVersion) (done rest : List StoryboardScene)
    (scene : StoryboardScene) :
    queueScene sb done.length scene (s.withScenes sb.version (done ++ scene :: rest)) =
      (.ok (), (s.asking sb scene).withScenes sb.version (done ++ scene.asked sb :: rest)) := by
  have asked : modifyStoryboard sb.version
      (fun now => { now with scenes := now.scenes.set done.length (scene.asked sb) })
      (s.withScenes sb.version (done ++ scene :: rest)) =
      (.ok (), s.withScenes sb.version (done ++ scene.asked sb :: rest)) := by
    rw [modifyStoryboard_run (h.withScenes _ _)]
    unfold System.withScenes
    dsimp only
    rw [List.map_map]
    congr 4
    funext b
    by_cases here : b.version = sb.version
    · simp [here]
    · simp [here]
  unfold queueScene
  rw [bind_of_ok asked]
  rfl

/-- The loop of `queue_image_storyboard`, once the scenes of `done` are behind it. -/
lemma queueScenes_run (sb : StoryboardVersion) (sceneIndexes : List ℤ) (rest done : List StoryboardScene)
    (h : History s.job) :
    ∃ s', forEach (fun p => when (isTarget sceneIndexes p.1 = true) (queueScene sb p.2 p.1)) (rest.zipIdx done.length)
        (s.withScenes sb.version (done ++ rest)) =
          (.ok (), s'.withScenes sb.version (done ++ rest.map (·.queued sceneIndexes sb))) ∧
      Asks sb (rest.filter (isTarget sceneIndexes)) s s' := by
  induction rest generalizing done s with
  | nil =>
    refine ⟨s, rfl, rfl, rfl, rfl, rfl, (List.append_nil _).symm, fun t x is => .inl ⟨is, rfl⟩⟩
  | cons scene rest ih =>
    rw [List.zipIdx_cons, forEach, List.map_cons, List.filter_cons]
    by_cases target : isTarget sceneIndexes scene = true
    · have next := ih (done ++ [scene.asked sb]) (s := s.asking sb scene) ⟨h.numbered, h.pending, h.active⟩
      rw [List.length_append, List.append_assoc, List.append_assoc] at next
      obtain ⟨s', run, asks⟩ := next
      refine ⟨s', ?_, by rw [if_pos target]; exact asks.cons⟩
      rw [when, if_pos target, bind_of_ok (queueScene_run h sb done rest scene), StoryboardScene.queued,
        if_pos target]
      exact run
    · have next := ih (done ++ [scene]) h
      rw [List.length_append, List.append_assoc, List.append_assoc] at next
      obtain ⟨s', run, asks⟩ := next
      refine ⟨s', ?_, by rw [if_neg target]; exact asks⟩
      rw [when, if_neg target, StoryboardScene.queued, if_neg target]
      exact run

/-- What the queue of a storyboard makes of the state. -/
structure Queued (sceneIndexes : List ℤ) (sb : StoryboardVersion) (s s' : System) : Prop where
  storyboards : s'.job.storyboards = s.job.storyboards.map fun b =>
    if b.version = sb.version then
      { b with imageStatus := .generating, scenes := sb.scenes.map (·.queued sceneIndexes sb) }
    else b
  active : s'.job.activeStoryboardVersion = some sb.version
  artifacts : s'.job.artifacts = s.job.artifacts
  tasks : s'.tasks = s.tasks ++
    (sb.scenes.filter (isTarget sceneIndexes)).map fun scene => imageTaskFor s.job sb (scene.asked sb)
  outstanding : ∀ t x, s'.job.imageStoryboardTaskIds.get? t = some x →
    s.job.imageStoryboardTaskIds.get? t = some x ∧
      s'.job.imageStoryboardTaskVersions.get? t = s.job.imageStoryboardTaskVersions.get? t ∨
    ∃ scene ∈ sb.scenes.filter (isTarget sceneIndexes), x = scene.sceneId.getD (sb.version, scene.index) ∧
      s'.job.imageStoryboardTaskVersions.get? t = some (sb.version, sb.imageVersion) ∧
      s'.tasks[t]? = some (imageTaskFor s.job sb (scene.asked sb))

lemma queueImageStoryboard_run (h : History s.job) {version : ℕ}
    (found : s.job.storyboard? version = some sb) (sceneIndexes : List ℤ) :
    ∃ s', queueImageStoryboard version sceneIndexes s = (.ok (), s') ∧ Queued sceneIndexes sb s s' := by
  have member := List.mem_of_find?_eq_some found
  have only {b : StoryboardVersion} (there : b ∈ s.job.storyboards) (same : b.version = sb.version) : b = sb :=
    List.inj_on_of_nodup_map h.nodup there member same
  have storyboards : (s.job.generating sb).storyboards = s.job.storyboards.map fun b =>
      if b.version = sb.version then { b with imageStatus := .generating } else b := modify_findIdx h.nodup _ _
  -- the scenes are those that were read
  have start : System.withScenes ⟨s.job.generating sb, s.tasks⟩ sb.version sb.scenes = ⟨s.job.generating sb, s.tasks⟩ := by
    unfold System.withScenes
    dsimp only
    congr 2
    refine Eq.trans ?_ storyboards.symm
    rw [storyboards, List.map_map]
    refine List.map_congr_left fun b there => ?_
    by_cases same : b.version = sb.version
    · cases only there same
      simp
    · simp [same]
  obtain ⟨s', run, asks⟩ := queueScenes_run sb sceneIndexes sb.scenes [] (s := ⟨s.job.generating sb, s.tasks⟩)
    (h.generating member)
  rw [List.nil_append, start] at run
  refine ⟨s'.withScenes sb.version (sb.scenes.map (·.queued sceneIndexes sb)), Eq.trans ?_ run, ?_, asks.active,
    asks.artifacts, asks.tasks, asks.outstanding⟩
  · rw [queueImageStoryboard, theJob_bind, found]
    rfl
  · show List.map _ s'.job.storyboards = _
    rw [asks.storyboards, storyboards, List.map_map]
    refine List.map_congr_left fun b there => ?_
    by_cases same : b.version = sb.version
    · simp [same]
    · simp [same]

/-! ## The results for pictures -/

/-- The result is for a task that is awaited, of the storyboard in review and its pictures. -/
structure Matched (taskId : TaskId) (sceneId : SceneId) (sb : StoryboardVersion) (s : System) : Prop where
  awaited : s.job.imageStoryboardTaskIds.get? taskId = some sceneId
  current : s.job.isStale taskId = false
  active : s.job.active = some sb

/-- The picture of a scene. -/
def StoryboardVersion.place (sb : StoryboardVersion) (sceneId : SceneId) (id : ArtifactId) : StoryboardVersion :=
  { sb with
    scenes := sb.scenes.modify (sb.scenes.findIdx (·.sceneId = some sceneId))
      ({ · with imageArtifactId := some id, artifactId := some id }) }

/-- What a result makes of storyboards and artifacts. -/
inductive Outcome (taskId : TaskId) (s s' : System) : Prop
  | aside : s'.job.storyboards = s.job.storyboards → s'.job.artifacts = s.job.artifacts → Outcome taskId s s'
  | failed {sceneId : SceneId} {sb : StoryboardVersion} : Matched taskId sceneId sb s →
    s'.job.artifacts = s.job.artifacts →
    s'.job.storyboards = s.job.storyboards.map (fun b =>
      if b.version = sb.version then { b with imageStatus := .pending } else b) → Outcome taskId s s'
  | placed {sceneId : SceneId} {sb : StoryboardVersion} {scene : StoryboardScene} {id : ArtifactId} {ready : Bool} :
    Matched taskId sceneId sb s → sb.scenes.find? (·.sceneId = some sceneId) = some scene →
    s'.job.artifacts = s.job.artifacts ++ [⟨id, scene.sceneId, taskId, sb.promptVersion⟩] →
    s'.job.storyboards = s.job.storyboards.map (fun b =>
      if b.version = sb.version then
        { b.place sceneId id with imageStatus := if ready then .ready else b.imageStatus }
      else b) → Outcome taskId s s'

/-- A result queues nothing and awaits nothing new. -/
structure Answered (s s' : System) : Prop where
  active : s'.job.activeStoryboardVersion = s.job.activeStoryboardVersion
  tasks : s'.tasks = s.tasks
  outstanding : ∀ t x, s'.job.imageStoryboardTaskIds.get? t = some x →
    s.job.imageStoryboardTaskIds.get? t = some x ∧
      s'.job.imageStoryboardTaskVersions.get? t = s.job.imageStoryboardTaskVersions.get? t

instance : Std.Refl Answered := ⟨fun _ => ⟨rfl, rfl, fun _ _ is => ⟨is, rfl⟩⟩⟩

instance : IsTrans System Answered where
  trans s s' s'' h h' := {
    active := h'.active.trans h.active
    tasks := h'.tasks.trans h.tasks
    outstanding := fun t x is => by
      obtain ⟨is', same'⟩ := h'.outstanding t x is
      obtain ⟨is, same⟩ := h.outstanding t x is'
      exact ⟨is, same'.trans same⟩ }

instance (taskId : TaskId) : Within Answered (dropTask taskId) where
  leads s := by
    refine ⟨rfl, rfl, fun t x is => ?_⟩
    change (s.job.imageStoryboardTaskIds.pop taskId).get? t = some x at is
    show _ ∧ (s.job.imageStoryboardTaskVersions.pop taskId).get? t = _
    rw [Dict.get?_pop] at is ⊢
    split at is
    · cases is
    · rename_i other
      exact ⟨is, if_neg other⟩

instance (version : ℕ) (f : StoryboardVersion → StoryboardVersion) :
    Within Answered (modifyStoryboard version f) := ⟨fun _ => ⟨rfl, rfl, fun _ _ is => ⟨is, rfl⟩⟩⟩

instance answered_handleImageResult (r : ImageResult) : Within Answered (handleImageResult r) := by
  have plain {f : Job → Job} (same : ∀ job, (f job).activeStoryboardVersion = job.activeStoryboardVersion ∧
      (f job).imageStoryboardTaskIds = job.imageStoryboardTaskIds ∧
      (f job).imageStoryboardTaskVersions = job.imageStoryboardTaskVersions) : Within Answered (modifyJob f) := by
    refine ⟨fun s => ⟨(same s.job).1, rfl, fun t x is => ?_⟩⟩
    change (f s.job).imageStoryboardTaskIds.get? t = some x at is
    show _ ∧ (f s.job).imageStoryboardTaskVersions.get? t = _
    rw [(same s.job).2.1] at is
    rw [(same s.job).2.2]
    exact ⟨is, rfl⟩
  have reads : Within Answered theJob := ⟨fun s => refl_of Answered s⟩
  have updates (status : JobStatus) : Within Answered (update status) := plain fun _ => ⟨rfl, rfl, rfl⟩
  unfold handleImageResult
  refine reads.bind fun job => ?_
  split
  · infer_instance
  refine .ite inferInstance (.ite ?_ ?_)
  · refine .next fun _ => .bind ?_ fun _ => inferInstance
    exact plain fun _ => ⟨rfl, rfl, rfl⟩
  · refine .next fun images => .next fun _ => ?_
    unfold storeImage
    refine reads.bind fun job => ?_
    split
    · infer_instance
    split
    · infer_instance
    · refine .next fun _ => .bind ?_ fun id => ?_
      · unfold registerArtifact
        refine reads.bind fun _ => .bind ?_ fun _ => inferInstance
        exact plain fun _ => ⟨rfl, rfl, rfl⟩
      · unfold placeImage
        infer_instance

lemma map_version_comp (version : ℕ) (f g : StoryboardVersion → StoryboardVersion)
    (kept : ∀ b, (f b).version = b.version) (l : List StoryboardVersion) :
    (l.map fun b => if b.version = version then f b else b).map (fun b => if b.version = version then g b else b) =
      l.map fun b => if b.version = version then g (f b) else b := by
  rw [List.map_map]
  refine List.map_congr_left fun b _ => ?_
  by_cases same : b.version = version
  · simp [same, kept]
  · simp [same]

lemma placeImage_run (h : History s.job) (taskId : TaskId) (sb : StoryboardVersion)
    (sceneId : SceneId) (id : ArtifactId) : ∃ ready : Bool,
    (placeImage taskId sb sceneId id s).2.job.artifacts = s.job.artifacts ∧
    (placeImage taskId sb sceneId id s).2.job.storyboards = s.job.storyboards.map fun b =>
      if b.version = sb.version then
        { b.place sceneId id with imageStatus := if ready then .ready else b.imageStatus }
      else b := by
  have placed := modifyStoryboard_run h sb.version (·.place sceneId id)
  have kept : History { s.job with
      storyboards := s.job.storyboards.map fun b => if b.version = sb.version then b.place sceneId id else b } := by
    refine h.replace (fun _ b => if b.version = sb.version then b.place sceneId id else b) (fun _ b => ?_)
      (fun k => List.getElem?_map) rfl
    dsimp only
    split
    · exact ⟨rfl, fun waiting => waiting⟩
    · exact ⟨rfl, fun waiting => waiting⟩
  have run : placeImage taskId sb sceneId id s = _ := (bind_of_ok placed _).trans rfl
  rw [run]
  clear run
  -- the rest of the call: the task goes, and the storyboard may be ready
  simp only [dropTask, modifyJob, theJob, write_bind, bind_bind, read_bind, pure_bind_eq, when]
  split
  · refine ⟨true, ?_⟩
    have readied := modifyStoryboard_run (s := ⟨{ s.job with
      storyboards := s.job.storyboards.map fun b => if b.version = sb.version then b.place sceneId id else b
      imageStoryboardTaskIds := s.job.imageStoryboardTaskIds.pop taskId
      imageStoryboardTaskVersions := s.job.imageStoryboardTaskVersions.pop taskId }, s.tasks⟩)
      ⟨kept.numbered, kept.pending, kept.active⟩ sb.version ({ · with imageStatus := .ready })
    rw [bind_of_ok readied]
    dsimp only
    rw [map_version_comp sb.version (·.place sceneId id) _ fun _ => rfl]
    split
    · exact ⟨rfl, rfl⟩
    · exact ⟨rfl, rfl⟩
  · exact ⟨false, rfl, rfl⟩

lemma storeImage_outcome (h : History s.job) (r : ImageResult) {sceneId : SceneId}
    (awaited : s.job.imageStoryboardTaskIds.get? r.taskId = some sceneId)
    (current : s.job.isStale r.taskId = false) : Outcome r.taskId s (storeImage r sceneId s).2 := by
  rw [storeImage, theJob_bind]
  cases active : s.job.active with
  | none => exact .aside rfl rfl
  | some sb =>
    dsimp only
    cases found : sb.scenes.find? (·.sceneId = some sceneId) with
    | none => exact .aside rfl rfl
    | some scene =>
      dsimp only
      rw [answer_bind]
      cases r.stored with
      | error e => exact .aside rfl rfl
      | ok _ =>
        -- the picture is registered, and then placed
        have registered (k : ArtifactId → ServiceM Unit) :
            (registerArtifact scene.sceneId r.taskId sb.promptVersion >>= k) s =
              k ("art-" ++ toString s.job.artifacts.length) ⟨{ s.job with
                artifacts := s.job.artifacts ++
                  [⟨"art-" ++ toString s.job.artifacts.length, scene.sceneId, r.taskId, sb.promptVersion⟩]
                version := s.job.version + 1 }, s.tasks⟩ := rfl
        dsimp only [Except.mapError]
        rw [registered]
        obtain ⟨ready, artifacts, storyboards⟩ := placeImage_run (s := ⟨{ s.job with
            artifacts := s.job.artifacts ++
              [⟨"art-" ++ toString s.job.artifacts.length, scene.sceneId, r.taskId, sb.promptVersion⟩]
            version := s.job.version + 1 }, s.tasks⟩) ⟨h.numbered, h.pending, h.active⟩ r.taskId sb sceneId
          ("art-" ++ toString s.job.artifacts.length)
        exact .placed ⟨awaited, current, active⟩ found artifacts storyboards

lemma handleImageResult_outcome (h : History s.job) (r : ImageResult) :
    Outcome r.taskId s (handleImageResult r s).2 := by
  rw [handleImageResult, theJob_bind]
  cases awaited : s.job.imageStoryboardTaskIds.get? r.taskId with
  | none => exact .aside rfl rfl
  | some sceneId =>
    show Outcome _ _ ((ite _ _ _ : ServiceM Unit) s).2
    split
    · exact .aside rfl rfl
    rename_i current
    have current : s.job.isStale r.taskId = false := by simpa using current
    split
    · -- a failure opens the pictures of the storyboard again
      cases active : s.job.active with
      | none => exact .aside rfl rfl
      | some sb => exact .failed ⟨awaited, current, active⟩ rfl (modify_findIdx h.nodup sb.version _)
    rw [answer_bind]
    split
    · unfold when
      split
      · exact .aside rfl rfl
      · exact storeImage_outcome h r awaited current
    · exact .aside rfl rfl

end Vertep.Storyboard
