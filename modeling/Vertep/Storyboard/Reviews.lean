import Vertep.Storyboard.Images

/-!
# What a review of pictures covers (`core/storyboard.py`)

The invariant of the pictures: a picture was made for the version that its scene was last asked for, a task
that is awaited was for its storyboard, and what is approved has all its pictures. It survives every call,
but the queue of a scene that keeps a picture of an older version. What is approved stays as it is until a
revision is requested, unless its pictures are queued again or a result for them is still awaited.
-/

namespace Vertep.Storyboard
open Lib Command Vertep.Core
open Queue (Json Members)

/-- A picture of the storyboard, registered for a task that asked for this version of it. -/
def MadeFor (s : System) (sb : StoryboardVersion) (scene : StoryboardScene) (imageVersion : ℤ) : Prop :=
  ∃ record ∈ s.job.artifacts, scene.imageArtifactId = some record.artifactId ∧ record.sceneId = scene.sceneId ∧
    ∃ index id prompt, s.tasks[record.taskId]? = some (.image sb.version imageVersion index id prompt)

def Exempt (queue : Option (ℕ × List ℤ)) (sb : StoryboardVersion) (scene : StoryboardScene) : Prop :=
  ∃ indexes, queue = some (sb.version, indexes) ∧ isTarget indexes scene = true

/-- The invariant, while the scenes of `queue` are not queued yet. -/
structure Pictured (queue : Option (ℕ × List ℤ)) (s : System) : Prop where
  recorded : Recorded s
  named : ∀ sb ∈ s.job.storyboards, ∀ scene ∈ sb.scenes, scene.sceneId = some (sb.version, scene.index)
  requested : ∀ sb ∈ s.job.storyboards, ∀ scene ∈ sb.scenes, ¬ Exempt queue sb scene →
    ∃ v, scene.imageVersion = some v ∧ lastRequested s.tasks sb.version scene.index = some v
  made : ∀ sb ∈ s.job.storyboards, ∀ scene ∈ sb.scenes, scene.imageArtifactId.isSome →
    ∃ v, scene.imageVersion = some v ∧ MadeFor s sb scene v
  approved : ∀ sb ∈ s.job.storyboards, (∀ indexes, queue ≠ some (sb.version, indexes)) →
    sb.imageStatus = .approved → ∀ scene ∈ sb.scenes, scene.imageArtifactId.isSome
  outstanding : ∀ t id, s.job.imageStoryboardTaskIds.get? t = some id → ∃ v imageVersion index prompt,
    s.job.imageStoryboardTaskVersions.get? t = some (v, imageVersion) ∧
      s.tasks[t]? = some (.image v imageVersion index id prompt)
  issued : ∀ v imageVersion index id prompt, .image v imageVersion index id prompt ∈ s.tasks →
    ∃ sb ∈ s.job.storyboards, sb.version = v ∧ imageVersion ≤ sb.imageVersion
  owed : ∀ t id v imageVersion, s.job.imageStoryboardTaskIds.get? t = some id →
    s.job.imageStoryboardTaskVersions.get? t = some (v, imageVersion) →
    ∀ sb ∈ s.job.storyboards, sb.version = v → sb.imageVersion = imageVersion →
    ∀ scene ∈ sb.scenes, scene.sceneId = some id → scene.imageVersion = some imageVersion

/-- Nothing is asked for: a scene keeps its picture or shows one that was made for what it asks for. -/
structure Carried (s s' : System) : Prop where
  before : ∀ b' ∈ s'.job.storyboards, ∃ b ∈ s.job.storyboards, b'.version = b.version ∧
    b'.imageVersion = b.imageVersion ∧
    (∀ scene' ∈ b'.scenes, ∃ scene ∈ b.scenes, scene'.sceneId = scene.sceneId ∧ scene'.index = scene.index ∧
      scene'.imageVersion = scene.imageVersion ∧ (scene'.imageArtifactId = scene.imageArtifactId ∨
        ∃ v, scene.imageVersion = some v ∧ MadeFor s' b' scene' v)) ∧
    (b'.imageStatus = .approved → b.imageStatus = .approved ∨ ∀ scene ∈ b'.scenes, scene.imageArtifactId.isSome)
  after : ∀ b ∈ s.job.storyboards, ∃ b' ∈ s'.job.storyboards, b'.version = b.version ∧
    b'.imageVersion = b.imageVersion
  artifacts : ∀ record ∈ s.job.artifacts, record ∈ s'.job.artifacts
  tasks : ∃ more, s'.tasks = s.tasks ++ more ∧ ∀ task ∈ more, ¬ task.IsImage
  outstanding : ∀ t id, s'.job.imageStoryboardTaskIds.get? t = some id →
    s.job.imageStoryboardTaskIds.get? t = some id ∧
      s'.job.imageStoryboardTaskVersions.get? t = s.job.imageStoryboardTaskVersions.get? t

variable {scene scene' : StoryboardScene}

lemma MadeFor.mono {s s' : System} {sb sb' : StoryboardVersion} {v : ℤ}
    (h : MadeFor s sb scene v) (artifacts : ∀ record ∈ s.job.artifacts, record ∈ s'.job.artifacts)
    (tasks : ∃ more, s'.tasks = s.tasks ++ more) (version : sb'.version = sb.version)
    (picture : scene'.imageArtifactId = scene.imageArtifactId) (id : scene'.sceneId = scene.sceneId) :
    MadeFor s' sb' scene' v := by
  obtain ⟨record, member, is, same, index, sceneId, prompt, task⟩ := h
  obtain ⟨more, tasks⟩ := tasks
  refine ⟨record, artifacts record member, picture.trans is, same.trans id.symm, index, sceneId, prompt, ?_⟩
  rw [tasks, version, List.getElem?_append_left (List.getElem?_eq_some_iff.1 task).1, task]

lemma MadeFor.isSome {s : System} {sb : StoryboardVersion} {v : ℤ}
    (h : MadeFor s sb scene v) : scene.imageArtifactId.isSome := by
  obtain ⟨record, _, is, _⟩ := h
  rw [is]
  rfl

lemma Pictured.carried {queue : Option (ℕ × List ℤ)} {s s' : System} (h : Pictured queue s)
    (recorded : Recorded s') (carried : Carried s s') : Pictured queue s' := by
  obtain ⟨more, tasks, others⟩ := carried.tasks
  have last (version : ℕ) (index : ℤ) : lastRequested s'.tasks version index = lastRequested s.tasks version index := by
    rw [tasks]
    refine lastRequested_other fun task member => ?_
    cases task with
    | storyboard _ _ _ _ => rfl
    | image _ _ _ _ _ => exact absurd trivial (others _ member)
  refine ⟨recorded, fun b' member scene' among => ?_, fun b' member scene' among exempt => ?_,
    fun b' member scene' among shown => ?_, fun b' member free approved scene' among => ?_, fun t id awaited => ?_,
    fun v imageVersion index id prompt member => ?_, fun t id v imageVersion awaited versions b' member version
      current scene' among same => ?_⟩
  · obtain ⟨b, old, version, _, scenes, _⟩ := carried.before b' member
    obtain ⟨scene, old', sceneId, index, _⟩ := scenes scene' among
    rw [sceneId, h.named b old scene old', version, index]
  · obtain ⟨b, old, version, _, scenes, _⟩ := carried.before b' member
    obtain ⟨scene, old', _, index, imageVersion, _⟩ := scenes scene' among
    have exempt : ¬ Exempt queue b scene := by
      rintro ⟨indexes, under, target⟩
      refine exempt ⟨indexes, by rw [version, under], ?_⟩
      simpa only [isTarget, index] using target
    rw [imageVersion, last, version, index]
    exact h.requested b old scene old' exempt
  · obtain ⟨b, old, version, _, scenes, _⟩ := carried.before b' member
    obtain ⟨scene, old', sceneId, _, imageVersion, same | ⟨v, is, made⟩⟩ := scenes scene' among
    · rw [same] at shown
      obtain ⟨v, is, made⟩ := h.made b old scene old' shown
      exact ⟨v, imageVersion.trans is, made.mono carried.artifacts ⟨more, tasks⟩ version same sceneId⟩
    · exact ⟨v, imageVersion.trans is, made⟩
  · obtain ⟨b, old, version, _, scenes, status⟩ := carried.before b' member
    rcases status approved with before | all
    · obtain ⟨scene, old', _, _, _, same | ⟨v, _, made⟩⟩ := scenes scene' among
      · rw [same]
        exact h.approved b old (fun indexes => version ▸ free indexes) before scene old'
      · exact made.isSome
    · exact all scene' among
  · obtain ⟨before, same⟩ := carried.outstanding t id awaited
    obtain ⟨v, imageVersion, index, prompt, versions, task⟩ := h.outstanding t id before
    refine ⟨v, imageVersion, index, prompt, same.trans versions, ?_⟩
    rw [tasks, List.getElem?_append_left (List.getElem?_eq_some_iff.1 task).1, task]
  · rw [tasks] at member
    rcases List.mem_append.1 member with old | new
    · obtain ⟨b, there, version, below⟩ := h.issued v imageVersion index id prompt old
      obtain ⟨b', there', version', same⟩ := carried.after b there
      exact ⟨b', there', version'.trans version, same ▸ below⟩
    · exact absurd trivial (others _ new)
  · obtain ⟨b, old, version', same', scenes, _⟩ := carried.before b' member
    obtain ⟨scene, old', sceneId, _, imageVersion', _⟩ := scenes scene' among
    obtain ⟨before, kept⟩ := carried.outstanding t id awaited
    rw [imageVersion']
    exact h.owed t id v imageVersion before (kept.symm.trans versions) b old (version'.symm.trans version)
      (same'.symm.trans current) scene old' (sceneId.symm.trans same)

lemma Aside.carried {s s' : System} (aside : Aside s s') : Carried s s' := by
  obtain ⟨active, ids, versions, artifacts⟩ : _ ∧ _ ∧ _ ∧ _ := by
    simpa only [Job.outstanding, Prod.mk.injEq] using aside.same
  refine ⟨fun b' member => ?_, fun b member => ?_, fun record member => ?_, aside.tasks, fun t id awaited => ?_⟩
  · obtain ⟨k, found⟩ := List.mem_iff_getElem?.1 member
    obtain ⟨b, there, same⟩ := before_of_pictures aside.pictures found
    simp only [StoryboardVersion.pictures, Prod.mk.injEq] at same
    obtain ⟨version, scenes, imageVersion, imageStatus⟩ := same
    refine ⟨b, List.mem_of_getElem? there, version, imageVersion, fun scene' among => ?_, fun approved => ?_⟩
    · exact ⟨scene', scenes ▸ among, rfl, rfl, rfl, .inl rfl⟩
    · exact .inl (imageStatus.symm.trans approved)
  · obtain ⟨k, found⟩ := List.mem_iff_getElem?.1 member
    obtain ⟨b', there, same⟩ := before_of_pictures aside.pictures.symm found
    simp only [StoryboardVersion.pictures, Prod.mk.injEq] at same
    exact ⟨b', List.mem_of_getElem? there, same.1.symm, same.2.2.1.symm⟩
  · rw [artifacts]
    exact member
  · rw [ids] at awaited
    rw [versions]
    exact ⟨awaited, rfl⟩

/-! ## Results and approvals -/

lemma mem_modify {α : Type} {l : List α} {f : α → α} {i : ℕ} {a : α} (member : a ∈ l.modify i f) :
    a ∈ l ∨ ∃ b, l[i]? = some b ∧ a = f b := by
  obtain ⟨k, found⟩ := List.mem_iff_getElem?.1 member
  rw [List.getElem?_modify] at found
  obtain ⟨b, there, rfl⟩ := Option.map_eq_some_iff.1 found
  split
  · rename_i same
    exact .inr ⟨b, same ▸ there, rfl⟩
  · exact .inl (List.mem_of_getElem? there)

lemma Pictured.matched {s : System} (h : Pictured none s) {t : TaskId} {id : SceneId} {sb : StoryboardVersion}
    (m : Matched t id sb s) : sb ∈ s.job.storyboards ∧
      s.job.imageStoryboardTaskVersions.get? t = some (sb.version, sb.imageVersion) ∧
      ∃ index prompt, s.tasks[t]? = some (.image sb.version sb.imageVersion index id prompt) := by
  obtain ⟨v, imageVersion, index, prompt, versions, task⟩ := h.outstanding t id m.awaited
  obtain ⟨active, is, found⟩ := Option.bind_eq_some_iff.1 m.active
  have current := m.current
  simp only [Job.isStale, versions, m.active, Option.any_some, is, ne_eq, Option.some.injEq,
    decide_eq_false_iff_not, not_or, not_not, Bool.not_eq_true, decide_not, Bool.not_eq_false',
    decide_eq_true_eq] at current
  obtain ⟨rfl, rfl⟩ := current
  have version := storyboard?_version found
  subst version
  exact ⟨List.mem_of_find?_eq_some found, versions, index, prompt, task⟩

lemma Pictured.answered {s s' : System} (h : Pictured none s) (answered : Answered s s') {t : TaskId}
    (outcome : Outcome t s s') : Carried s s' := by
  have tasks : ∃ more, s'.tasks = s.tasks ++ more ∧ ∀ task ∈ more, ¬ task.IsImage :=
    ⟨[], by rw [answered.tasks, List.append_nil], List.forall_mem_nil _⟩
  cases outcome with
  | aside storyboards artifacts =>
    refine ⟨fun b' member => ?_, fun b member => ?_, fun record member => ?_, tasks, answered.outstanding⟩
    · rw [storyboards] at member
      exact ⟨b', member, rfl, rfl, fun scene among => ⟨scene, among, rfl, rfl, rfl, .inl rfl⟩, .inl⟩
    · rw [storyboards]
      exact ⟨b, member, rfl, rfl⟩
    · rw [artifacts]
      exact member
  | failed matched artifacts storyboards =>
    refine ⟨fun b' member => ?_, fun b member => ?_, fun record member => ?_, tasks, answered.outstanding⟩
    · rw [storyboards] at member
      obtain ⟨b, old, rfl⟩ := List.mem_map.1 member
      split
      · exact ⟨b, old, rfl, rfl, fun scene among => ⟨scene, among, rfl, rfl, rfl, .inl rfl⟩, by rintro ⟨⟩⟩
      · exact ⟨b, old, rfl, rfl, fun scene among => ⟨scene, among, rfl, rfl, rfl, .inl rfl⟩, .inl⟩
    · rw [storyboards]
      refine ⟨_, List.mem_map_of_mem member, ?_⟩
      split <;> exact ⟨rfl, rfl⟩
    · rw [artifacts]
      exact member
  | @placed id sb scene artifactId ready matched found artifacts storyboards =>
    obtain ⟨there, versions, index, prompt, task⟩ := h.matched matched
    refine ⟨fun b' member => ?_, fun b member => ?_, fun record member => ?_, tasks, answered.outstanding⟩
    · rw [storyboards] at member
      obtain ⟨b, old, rfl⟩ := List.mem_map.1 member
      split
      · rename_i same
        cases List.inj_on_of_nodup_map h.recorded.nodup old there same
        refine ⟨sb, there, rfl, rfl, fun scene' among => ?_, fun approved => ?_⟩
        · rcases mem_modify among with among | ⟨placed, at_index, rfl⟩
          · exact ⟨scene', among, rfl, rfl, rfl, .inl rfl⟩
          · -- the scene that the task was for
            rw [← List.find?_eq_getElem?_findIdx, found] at at_index
            cases at_index
            have sceneId : scene.sceneId = some id := by
              have is := List.find?_some found
              exact of_decide_eq_true is
            refine ⟨scene, List.mem_of_find?_eq_some found, rfl, rfl, rfl, .inr ⟨sb.imageVersion, ?_, ?_⟩⟩
            · exact h.owed t id _ _ matched.awaited versions sb there rfl rfl scene (List.mem_of_find?_eq_some found)
                sceneId
            · refine ⟨⟨artifactId, scene.sceneId, t, sb.promptVersion⟩, ?_, rfl, rfl, index, id, prompt, ?_⟩
              · rw [artifacts]
                exact List.mem_append_right _ List.mem_cons_self
              · rw [answered.tasks]
                exact task
        · dsimp only at approved
          split at approved
          · cases approved
          · exact .inl approved
      · exact ⟨b, old, rfl, rfl, fun scene among => ⟨scene, among, rfl, rfl, rfl, .inl rfl⟩, .inl⟩
    · rw [storyboards]
      refine ⟨_, List.mem_map_of_mem member, ?_⟩
      split <;> exact ⟨rfl, rfl⟩
    · rw [artifacts]
      exact List.mem_append_left _ member

lemma activeStoryboard_cases (version : ℕ) (s : System) : (∃ e, activeStoryboard version s = (.error e, s)) ∨
    ∃ sb, activeStoryboard version s = (.ok sb, s) ∧ s.job.storyboard? version = some sb := by
  unfold activeStoryboard
  show (∃ e, (ite _ _ _ : ServiceM StoryboardVersion) s = _) ∨ ∃ sb, (ite _ _ _ : ServiceM StoryboardVersion) s = _ ∧ _
  split
  · exact .inl ⟨_, rfl⟩
  rename_i is
  have is : s.job.activeStoryboardVersion = some version := not_not.1 is
  have asked : (if version = 0 then s.job.active else s.job.storyboard? version) = s.job.storyboard? version := by
    rw [Job.active, is, Option.bind_some, ite_self]
  cases found : s.job.storyboard? version with
  | none =>
    have get : getStoryboard version s = (.error .notFound, s) := by
      rw [getStoryboard, theJob_bind, asked, found]
      rfl
    exact .inl ⟨_, bind_of_error get _⟩
  | some sb =>
    have get : getStoryboard version s = (.ok sb, s) := by
      rw [getStoryboard, theJob_bind, asked, found]
      rfl
    rw [bind_of_ok get]
    split
    · exact .inl ⟨_, rfl⟩
    · exact .inr ⟨sb, rfl, rfl⟩

/-- An approval of pictures. -/
structure ImagesApproved (d : Decision) (sb : StoryboardVersion) (s s' : System) : Prop where
  member : sb ∈ s.job.storyboards
  all : ∀ scene ∈ sb.scenes, scene.imageArtifactId.isSome
  storyboards : s'.job.storyboards = s.job.storyboards.map fun b =>
    if b.version = sb.version then { b.decided d with imageStatus := .approved } else b
  same : s'.job.outstanding = s.job.outstanding
  tasks : s'.tasks = s.tasks

lemma approveImages_cases {s : System} (h : History s.job) (version : ℕ) (d : Decision) (expected : Option ℤ) :
    (approveImages version d expected s).2 = s ∨
      ∃ sb, ImagesApproved d sb s (approveImages version d expected s).2 := by
  unfold approveImages
  rcases activeStoryboard_cases version s with ⟨e, run⟩ | ⟨sb, run, found⟩
  · rw [bind_of_error run]
    exact .inl rfl
  rw [bind_of_ok run, checkReviewed, when_raise_bind]
  split
  · exact .inl rfl
  rw [when_raise_bind]
  split
  · exact .inl rfl
  rename_i all
  rw [when_raise_bind]
  split
  · exact .inl rfl
  refine .inr ⟨sb, List.mem_of_find?_eq_some found, fun scene member => ?_, ?_, rfl, rfl⟩
  · by_contra missing
    refine all (List.any_eq_true.2 ⟨scene, member, ?_⟩)
    rw [Option.not_isSome_iff_eq_none.1 missing]
    rfl
  · exact modify_findIdx h.nodup sb.version _

lemma ImagesApproved.carried {d : Decision} {sb : StoryboardVersion} {s s' : System} (recorded : Recorded s)
    (h : ImagesApproved d sb s s') : Carried s s' := by
  obtain ⟨active, ids, versions, artifacts⟩ : _ ∧ _ ∧ _ ∧ _ := by
    simpa only [Job.outstanding, Prod.mk.injEq] using h.same
  refine ⟨fun b' member => ?_, fun b member => ?_, fun record member => ?_,
    ⟨[], by rw [h.tasks, List.append_nil], List.forall_mem_nil _⟩, fun t id awaited => ?_⟩
  · rw [h.storyboards] at member
    obtain ⟨b, old, rfl⟩ := List.mem_map.1 member
    split
    · rename_i same
      cases List.inj_on_of_nodup_map recorded.nodup old h.member same
      exact ⟨sb, old, rfl, rfl, fun scene among => ⟨scene, among, rfl, rfl, rfl, .inl rfl⟩, fun _ => .inr h.all⟩
    · exact ⟨b, old, rfl, rfl, fun scene among => ⟨scene, among, rfl, rfl, rfl, .inl rfl⟩, .inl⟩
  · rw [h.storyboards]
    refine ⟨_, List.mem_map_of_mem member, ?_⟩
    split <;> exact ⟨rfl, rfl⟩
  · rw [artifacts]
    exact member
  · rw [ids] at awaited
    rw [versions]
    exact ⟨awaited, rfl⟩

/-! ## Queues -/

section

variable {sceneIndexes : List ℤ} {sb : StoryboardVersion} {s s' : System}

def StoryboardVersion.queued (sb : StoryboardVersion) (sceneIndexes : List ℤ) : StoryboardVersion :=
  { sb with imageStatus := .generating, scenes := sb.scenes.map (·.queued sceneIndexes sb) }

lemma Queued.before (q : Queued sceneIndexes sb s s') (recorded : Recorded s) (there : sb ∈ s.job.storyboards)
    {b' : StoryboardVersion} (member : b' ∈ s'.job.storyboards) :
    b' = sb.queued sceneIndexes ∨ b' ∈ s.job.storyboards ∧ b'.version ≠ sb.version := by
  rw [q.storyboards] at member
  obtain ⟨b, old, rfl⟩ := List.mem_map.1 member
  split
  · rename_i same
    cases List.inj_on_of_nodup_map recorded.nodup old there same
    exact .inl rfl
  · rename_i other
    exact .inr ⟨old, other⟩

lemma Queued.after (q : Queued sceneIndexes sb s s') {b : StoryboardVersion} (member : b ∈ s.job.storyboards) :
    ∃ b' ∈ s'.job.storyboards, b'.version = b.version ∧ b'.imageVersion = b.imageVersion := by
  rw [q.storyboards]
  refine ⟨_, List.mem_map_of_mem member, ?_⟩
  split <;> exact ⟨rfl, rfl⟩

lemma scene_queued (member : scene' ∈ (sb.queued sceneIndexes).scenes) :
    ∃ scene ∈ sb.scenes, isTarget sceneIndexes scene = true ∧ scene' = scene.asked sb ∨
      isTarget sceneIndexes scene ≠ true ∧ scene' = scene := by
  obtain ⟨scene, among, rfl⟩ := List.mem_map.1 member
  refine ⟨scene, among, ?_⟩
  unfold StoryboardScene.queued
  split
  · rename_i target
    exact .inl ⟨target, rfl⟩
  · rename_i other
    exact .inr ⟨other, rfl⟩

lemma Queued.last (q : Queued sceneIndexes sb s s') (version : ℕ) (index : ℤ) :
    lastRequested s'.tasks version index =
      if version = sb.version ∧ ∃ scene ∈ sb.scenes, isTarget sceneIndexes scene = true ∧ scene.index = index then
        some sb.imageVersion
      else lastRequested s.tasks version index := by
  rw [q.tasks]
  split
  · rename_i asked
    obtain ⟨rfl, scene, member, target, rfl⟩ := asked
    refine lastRequested_same (fun task among v is => ?_) ⟨_, List.mem_map_of_mem (List.mem_filter.2 ⟨member, target⟩), ?_⟩
    · obtain ⟨other, _, rfl⟩ := List.mem_map.1 among
      simp only [imageTaskFor, Task.requested, Option.ite_none_right_eq_some, Option.some.injEq] at is
      exact is.2.symm
    · simp [imageTaskFor, Task.requested, StoryboardScene.asked]
  · rename_i others
    refine lastRequested_other fun task among => ?_
    obtain ⟨scene, member, rfl⟩ := List.mem_map.1 among
    obtain ⟨member, target⟩ := List.mem_filter.1 member
    refine if_neg fun same => others ⟨same.1.symm, scene, member, target, same.2⟩

lemma Pictured.queued {version : ℕ} (h : Pictured (some (version, sceneIndexes)) s) (recorded : Recorded s')
    (found : s.job.storyboard? version = some sb) (q : Queued sceneIndexes sb s s')
    (keeps : ∀ scene ∈ sb.scenes, isTarget sceneIndexes scene = true → scene.imageArtifactId.isSome →
      scene.imageVersion = some sb.imageVersion) : Pictured none s' := by
  have there := List.mem_of_find?_eq_some found
  have is := storyboard?_version found
  subst is
  have before {b' : StoryboardVersion} (member : b' ∈ s'.job.storyboards) := q.before h.recorded there member
  have more : ∃ more, s'.tasks = s.tasks ++ more := ⟨_, q.tasks⟩
  have artifacts : ∀ record ∈ s.job.artifacts, record ∈ s'.job.artifacts := fun record member => by
    rw [q.artifacts]
    exact member
  have asked {scene : StoryboardScene} (member : scene ∈ sb.scenes) : (scene.asked sb).sceneId = scene.sceneId := by
    rw [h.named sb there scene member]
    show some (scene.sceneId.getD _) = _
    rw [h.named sb there scene member]
    rfl
  have free {b : StoryboardVersion} (other : b.version ≠ sb.version) (indexes : List ℤ) :
      some (sb.version, sceneIndexes) ≠ some (b.version, indexes) := by
    simp [other.symm]
  refine ⟨recorded, fun b' member scene' among => ?_, fun b' member scene' among _ => ?_,
    fun b' member scene' among shown => ?_, fun b' member _ approved scene' among => ?_, fun t id awaited => ?_,
    fun v imageVersion index id prompt member => ?_, fun t id v imageVersion awaited versions b' member version
      current scene' among same => ?_⟩
  · rcases before member with rfl | ⟨old, _⟩
    · obtain ⟨scene, inside, ⟨_, rfl⟩ | ⟨_, rfl⟩⟩ := scene_queued among
      · rw [asked inside]
        exact h.named sb there scene inside
      · exact h.named sb there _ inside
    · exact h.named b' old scene' among
  · rcases before member with rfl | ⟨old, other⟩
    · obtain ⟨scene, inside, ⟨target, rfl⟩ | ⟨target, rfl⟩⟩ := scene_queued among
      · refine ⟨sb.imageVersion, rfl, ?_⟩
        rw [q.last]
        exact if_pos ⟨rfl, scene, inside, target, rfl⟩
      · obtain ⟨v, is, last⟩ := h.requested sb there _ inside (by
          rintro ⟨indexes, under, target'⟩
          cases under
          exact target target')
        refine ⟨v, is, ?_⟩
        rw [q.last, if_neg]
        · exact last
        · -- a target with its index would make it a target
          rintro ⟨_, other, _, target', same⟩
          exact target (by simpa only [isTarget, same] using target')
    · obtain ⟨v, is, last⟩ := h.requested b' old scene' among (by
        rintro ⟨indexes, under, _⟩
        exact free other indexes under)
      exact ⟨v, is, by rw [q.last, if_neg fun same => other same.1, last]⟩
  · rcases before member with rfl | ⟨old, other⟩
    · obtain ⟨scene, inside, ⟨target, rfl⟩ | ⟨target, rfl⟩⟩ := scene_queued among
      · obtain ⟨v, is, made⟩ := h.made sb there scene inside shown
        cases is.symm.trans (keeps scene inside target shown)
        exact ⟨sb.imageVersion, rfl, made.mono artifacts more rfl rfl (asked inside)⟩
      · obtain ⟨v, is, made⟩ := h.made sb there _ inside shown
        exact ⟨v, is, made.mono artifacts more rfl rfl rfl⟩
    · obtain ⟨v, is, made⟩ := h.made b' old scene' among shown
      exact ⟨v, is, made.mono artifacts more rfl rfl rfl⟩
  · rcases before member with rfl | ⟨old, other⟩
    · cases approved
    · exact h.approved b' old (free other) approved scene' among
  · rcases q.outstanding t id awaited with ⟨was, same⟩ | ⟨scene, _, rfl, versions, task⟩
    · obtain ⟨v, imageVersion, index, prompt, versions, task⟩ := h.outstanding t id was
      refine ⟨v, imageVersion, index, prompt, same.trans versions, ?_⟩
      rw [q.tasks, List.getElem?_append_left (List.getElem?_eq_some_iff.1 task).1, task]
    · exact ⟨_, _, _, _, versions, task⟩
  · rw [q.tasks] at member
    rcases List.mem_append.1 member with old | new
    · obtain ⟨b, there, version, below⟩ := h.issued v imageVersion index id prompt old
      obtain ⟨b', there', version', same⟩ := q.after there
      exact ⟨b', there', version'.trans version, same ▸ below⟩
    · obtain ⟨scene, _, is⟩ := List.mem_map.1 new
      cases is
      obtain ⟨b', there', version', same⟩ := q.after there
      exact ⟨b', there', version', same ▸ le_refl _⟩
  · rcases q.outstanding t id awaited with ⟨was, kept⟩ | ⟨target, inside, rfl, asks, _⟩
    · have owed {b : StoryboardVersion} := h.owed t id v imageVersion was (kept.symm.trans versions) b
      rcases before member with rfl | ⟨old, _⟩
      · obtain ⟨scene, inside, ⟨_, rfl⟩ | ⟨_, rfl⟩⟩ := scene_queued among
        · exact congrArg some current
        · exact owed there version current _ inside same
      · exact owed old version current scene' among same
    · cases versions.symm.trans asks
      obtain ⟨inside, isTarget'⟩ := List.mem_filter.1 inside
      rcases before member with rfl | ⟨_, other⟩
      · rw [h.named sb there target inside] at same
        obtain ⟨scene, inside', ⟨_, rfl⟩ | ⟨not, rfl⟩⟩ := scene_queued among
        · rfl
        · -- the same id is the same index, so it would be a target as well
          rw [h.named sb there _ inside'] at same
          have index : scene'.index = target.index := congrArg Prod.snd (Option.some.inj same)
          exact absurd (by simpa only [isTarget, index] using isTarget') not
      · exact absurd version other

end

/-! ## Revisions -/

lemma requestImageRevision_cases {s : System} (h : History s.job) (version : ℕ) (sceneIndexes : List ℤ)
    (revision : Option String) (expected : Option ℤ) :
    (requestImageRevision version sceneIndexes revision expected s).2 = s ∨ ∃ sb s₁,
      s.job.storyboard? version = some sb ∧
      s₁.job.storyboards = s.job.storyboards.map (fun b =>
        if b.version = version then b.supersede.revised sceneIndexes revision else b.supersede) ∧
      s₁.job.outstanding = s.job.outstanding ∧ s₁.tasks = s.tasks ∧
      requestImageRevision version sceneIndexes revision expected s = queueImageStoryboard version sceneIndexes s₁ := by
  unfold requestImageRevision
  rcases activeStoryboard_cases version s with ⟨e, run⟩ | ⟨sb, run, found⟩
  · rw [bind_of_error run]
    exact .inl rfl
  rw [bind_of_ok run, checkReviewed, when_raise_bind]
  split
  · exact .inl rfl
  have is := storyboard?_version found
  subst is
  have superseded : History { s.job with storyboards := s.job.storyboards.map (·.supersede) } :=
    h.replace (fun _ sb => sb.supersede) (fun _ => modest_supersede) (fun k => List.getElem?_map) rfl
  refine .inr ⟨sb, ⟨{ s.job with
    storyboards := (s.job.storyboards.map (·.supersede)).modify
      ((s.job.storyboards.map (·.supersede)).findIdx (·.version = sb.version)) (·.revised sceneIndexes revision)
    version := s.job.version + 1 }, s.tasks⟩, found, ?_, rfl, rfl, rfl⟩
  refine (modify_findIdx superseded.nodup sb.version _).trans ?_
  rw [List.map_map]
  refine List.map_congr_left fun b _ => ?_
  show (if (StoryboardVersion.supersede b).version = sb.version then _ else _) = _
  rw [(modest_supersede b).1]

lemma supersede_pictures (b : StoryboardVersion) : b.supersede.version = b.version ∧ b.supersede.scenes = b.scenes ∧
    b.supersede.imageVersion = b.imageVersion ∧ b.supersede.imageStatus ≠ .approved := by
  unfold StoryboardVersion.supersede
  split
  · exact ⟨rfl, rfl, rfl, nofun⟩
  · rename_i open_
    exact ⟨rfl, rfl, rfl, open_⟩

lemma Pictured.revised {s s₁ : System} (h : Pictured none s) {version : ℕ} {sceneIndexes : List ℤ}
    {revision : Option String} (recorded : Recorded s₁)
    (storyboards : s₁.job.storyboards = s.job.storyboards.map fun b =>
      if b.version = version then b.supersede.revised sceneIndexes revision else b.supersede)
    (same : s₁.job.outstanding = s.job.outstanding) (tasks : s₁.tasks = s.tasks) :
    Pictured (some (version, sceneIndexes)) s₁ := by
  obtain ⟨active, ids, versions, artifacts⟩ : _ ∧ _ ∧ _ ∧ _ := by
    simpa only [Job.outstanding, Prod.mk.injEq] using same
  have free {b : StoryboardVersion} {scene : StoryboardScene} : ¬ Exempt none b scene := by
    rintro ⟨_, under, _⟩
    cases under
  -- a storyboard: revised, or only superseded
  have before {b' : StoryboardVersion} (member : b' ∈ s₁.job.storyboards) : ∃ b ∈ s.job.storyboards,
      b'.version = b.version ∧ b'.imageStatus ≠ .approved ∧
      (b.version = version ∧ b'.imageVersion = b.imageVersion + 1 ∧ b'.scenes = (b.scenes.map fun scene =>
          if isTarget sceneIndexes scene then scene.revised (b.imageVersion + 1) revision else scene) ∨
        b.version ≠ version ∧ b'.imageVersion = b.imageVersion ∧ b'.scenes = b.scenes) := by
    rw [storyboards] at member
    obtain ⟨b, old, rfl⟩ := List.mem_map.1 member
    obtain ⟨same, scenes, imageVersion, closed⟩ := supersede_pictures b
    refine ⟨b, old, ?_⟩
    split
    · rename_i is
      refine ⟨same, nofun, .inl ⟨is, congrArg (· + 1) imageVersion, ?_⟩⟩
      show b.supersede.scenes.map _ = _
      rw [scenes, imageVersion]
    · rename_i other
      exact ⟨same, closed, .inr ⟨other, imageVersion, scenes⟩⟩
  have revised {b' b : StoryboardVersion} {scene' : StoryboardScene} (among : scene' ∈ b'.scenes)
      (scenes : b'.scenes = b.scenes.map fun scene =>
        if isTarget sceneIndexes scene then scene.revised (b.imageVersion + 1) revision else scene) :
      ∃ scene ∈ b.scenes, scene'.sceneId = scene.sceneId ∧ scene'.index = scene.index ∧
        (isTarget sceneIndexes scene = true ∧ scene'.imageArtifactId = none ∨ scene' = scene) := by
    rw [scenes] at among
    obtain ⟨scene, inside, rfl⟩ := List.mem_map.1 among
    refine ⟨scene, inside, ?_⟩
    split
    · rename_i target
      exact ⟨rfl, rfl, .inl ⟨target, rfl⟩⟩
    · exact ⟨rfl, rfl, .inr rfl⟩
  have kept : ∀ record ∈ s.job.artifacts, record ∈ s₁.job.artifacts := fun record member => by
    rw [artifacts]
    exact member
  have more : ∃ more, s₁.tasks = s.tasks ++ more := ⟨[], by rw [tasks, List.append_nil]⟩
  refine ⟨recorded, fun b' member scene' among => ?_, fun b' member scene' among exempt => ?_,
    fun b' member scene' among shown => ?_, fun b' member _ approved => ?_, fun t id awaited => ?_,
    fun v imageVersion index id prompt member => ?_, fun t id v imageVersion awaited asks b' member is current
      scene' among same => ?_⟩
  · obtain ⟨b, old, number, _, ⟨_, _, scenes⟩ | ⟨_, _, scenes⟩⟩ := before member
    · obtain ⟨scene, inside, sceneId, index, _⟩ := revised among scenes
      rw [sceneId, number, index]
      exact h.named b old scene inside
    · rw [number]
      exact h.named b old scene' (scenes ▸ among)
  · rw [tasks]
    obtain ⟨b, old, number, _, ⟨is, _, scenes⟩ | ⟨_, _, scenes⟩⟩ := before member
    · obtain ⟨scene, inside, _, index, ⟨target, _⟩ | rfl⟩ := revised among scenes
      · refine absurd ⟨sceneIndexes, by rw [number, is], ?_⟩ exempt
        simpa only [isTarget, index] using target
      · rw [number]
        exact h.requested b old _ inside free
    · rw [number]
      exact h.requested b old scene' (scenes ▸ among) free
  · obtain ⟨b, old, number, _, ⟨is, _, scenes⟩ | ⟨_, _, scenes⟩⟩ := before member
    · obtain ⟨scene, inside, _, _, ⟨_, none⟩ | rfl⟩ := revised among scenes
      · rw [none] at shown
        cases shown
      · obtain ⟨v, asked, made⟩ := h.made b old _ inside shown
        exact ⟨v, asked, made.mono kept more number rfl rfl⟩
    · obtain ⟨v, asked, made⟩ := h.made b old scene' (scenes ▸ among) shown
      exact ⟨v, asked, made.mono kept more number rfl rfl⟩
  · obtain ⟨_, _, _, closed, _⟩ := before member
    exact absurd approved closed
  · rw [ids] at awaited
    rw [versions, tasks]
    exact h.outstanding t id awaited
  · rw [tasks] at member
    obtain ⟨b, old, is, below⟩ := h.issued v imageVersion index id prompt member
    rw [storyboards]
    refine ⟨_, List.mem_map_of_mem old, ?_⟩
    obtain ⟨same, _, imageVersion, _⟩ := supersede_pictures b
    split
    · refine ⟨same.trans is, ?_⟩
      show _ ≤ b.supersede.imageVersion + 1
      omega
    · exact ⟨same.trans is, imageVersion ▸ below⟩
  · rw [ids] at awaited
    rw [versions] at asks
    obtain ⟨b, old, number, _, ⟨_, next, _⟩ | ⟨_, kept, scenes⟩⟩ := before member
    · -- no task is for the next version of the pictures
      obtain ⟨v', imageVersion', index, prompt, asks', task⟩ := h.outstanding t id awaited
      cases asks.symm.trans asks'
      obtain ⟨b₀, old₀, is₀, below⟩ := h.issued _ _ _ _ _ (List.mem_of_getElem? task)
      cases List.inj_on_of_nodup_map h.recorded.nodup old₀ old (is₀.trans (is.symm.trans number))
      omega
    · exact h.owed t id v imageVersion awaited asks b old (number.symm.trans is) (kept.symm.trans current) scene'
        (scenes ▸ among) same

end Vertep.Storyboard
