import Vertep.Storyboard.Reviews

/-!
# Runs of the storyboard service (`core/storyboard.py`)

The invariant of the pictures over whole runs, and that approved pictures are frozen. Both need care in some
calls, `Op.Careful`; `late_picture` is a run without it.
-/

namespace Vertep.Storyboard
open Lib Command Vertep.Core
open Queue (Json Members)

/-! ## A new storyboard -/

/-- The state in which the pictures of a new storyboard are queued. -/
def System.entered (s : System) (sb : StoryboardVersion) : System :=
  ⟨{ s.job.append sb with status := .storyboardPendingApproval }, s.tasks⟩

variable {s s' : System} {sb : StoryboardVersion}

lemma Recorded.entered (h : Recorded s) (next : sb.version = s.job.nextVersion) :
    Recorded (s.entered sb) := by
  obtain ⟨numbered, pending, active⟩ := History.append h next
  exact ⟨numbered, pending, active⟩

variable {env : Env}

lemma Pictured.append (h : Pictured none s) {r : Result} {scenes : List StoryboardScene}
    (reports : r.Reports env s.job.nextVersion scenes sb)
    (bare : ∀ scene ∈ scenes, scene.imageArtifactId = none) :
    Pictured (some (sb.version, [])) (s.entered sb) := by
  have free {b : StoryboardVersion} {scene : StoryboardScene} : ¬ Exempt none b scene := by
    rintro ⟨_, under, _⟩
    cases under
  -- an older storyboard keeps its pictures, and its version is smaller
  have before {b' : StoryboardVersion} (member : b' ∈ (s.job.append sb).storyboards) :
      b' = sb ∨ ∃ b ∈ s.job.storyboards, b'.pictures = b.pictures := by
    rcases List.mem_append.1 member with old | new
    · obtain ⟨b, there, rfl⟩ := List.mem_map.1 old
      refine .inr ⟨b, there, ?_⟩
      split <;> rfl
    · exact .inl (List.mem_singleton.1 new)
  have after {b : StoryboardVersion} (member : b ∈ s.job.storyboards) :
      ∃ b' ∈ (s.job.append sb).storyboards, b'.pictures = b.pictures := by
    refine ⟨_, List.mem_append_left _ (List.mem_map_of_mem member), ?_⟩
    split <;> rfl
  have older {b : StoryboardVersion} (member : b ∈ s.job.storyboards) : b.version ≠ sb.version := by
    intro same
    have there : b.version ∈ s.job.storyboards.map (·.version) := List.mem_map_of_mem member
    rw [h.recorded.numbered, same, reports.version, History.nextVersion h.recorded, List.mem_range'_1] at there
    omega
  have numbered {scene' : StoryboardScene} (among : scene' ∈ sb.scenes) :
      scene'.sceneId = some (sb.version, scene'.index) ∧ scene'.imageArtifactId = none := by
    rw [reports.numbered] at among
    obtain ⟨scene, inside, rfl⟩ := List.mem_map.1 among
    exact ⟨by rw [reports.version]; rfl, bare scene inside⟩
  refine ⟨h.recorded.entered reports.version, fun b' member scene' among => ?_,
    fun b' member scene' among exempt => ?_, fun b' member scene' among shown => ?_,
    fun b' member other approved => ?_, h.outstanding, fun v imageVersion index id prompt member => ?_,
    fun t id v imageVersion awaited asks b' member is current scene' among same => ?_⟩
  · rcases before member with rfl | ⟨b, old, same⟩
    · exact (numbered among).1
    · simp only [StoryboardVersion.pictures, Prod.mk.injEq] at same
      rw [same.1]
      exact h.named b old scene' (same.2.1 ▸ among)
  · rcases before member with rfl | ⟨b, old, same⟩
    · exact absurd ⟨[], rfl, rfl⟩ exempt
    · simp only [StoryboardVersion.pictures, Prod.mk.injEq] at same
      rw [same.1]
      exact h.requested b old scene' (same.2.1 ▸ among) free
  · rcases before member with rfl | ⟨b, old, same⟩
    · rw [(numbered among).2] at shown
      cases shown
    · simp only [StoryboardVersion.pictures, Prod.mk.injEq] at same
      obtain ⟨v, asked, made⟩ := h.made b old scene' (same.2.1 ▸ among) shown
      exact ⟨v, asked, made.mono (fun _ kept => kept) ⟨[], (List.append_nil _).symm⟩ same.1 rfl rfl⟩
  · rcases before member with rfl | ⟨b, old, same⟩
    · exact absurd rfl (other [])
    · simp only [StoryboardVersion.pictures, Prod.mk.injEq] at same
      rw [same.2.1]
      exact h.approved b old (by rintro _ ⟨⟩) (same.2.2.2 ▸ approved)
  · obtain ⟨b, old, is, below⟩ := h.issued v imageVersion index id prompt member
    obtain ⟨b', there, same⟩ := after old
    simp only [StoryboardVersion.pictures, Prod.mk.injEq] at same
    exact ⟨b', there, same.1.trans is, same.2.2.1 ▸ below⟩
  · rcases before member with rfl | ⟨b, old, same'⟩
    · -- no task is for the new storyboard yet
      obtain ⟨_, _, index, prompt, asks', task⟩ := h.outstanding t id awaited
      cases asks.symm.trans asks'
      obtain ⟨b, old, is', _⟩ := h.issued _ _ _ _ _ (List.mem_of_getElem? task)
      exact absurd (is'.trans is.symm) (older old)
    · simp only [StoryboardVersion.pictures, Prod.mk.injEq] at same'
      exact h.owed t id v imageVersion awaited asks b old (same'.1.symm.trans is) (same'.2.2.1.symm.trans current)
        scene' (same'.2.1 ▸ among) same

/-- A result for a picture keeps the invariant. -/
instance pictured_handleImageResult (r : ImageResult) : Within (Stable (Pictured none)) (handleImageResult r) where
  leads s h := by
    have answered := (answered_handleImageResult r).leads s
    have outcome := handleImageResult_outcome h.recorded r
    exact h.carried ((recorded_handleImageResult r).leads s h.recorded) (h.answered answered outcome)

instance (env : Env) : Within (Stable (Pictured none)) (drawPreviews env) := by
  unfold drawPreviews
  refine .bind ⟨fun _ h => h⟩ fun job => inferInstance

lemma handle_pure_state {α : Type} (m : ServiceM α) (a : α) (s : System) : (handle m (fun _ => pure a) s).2 = (m s).2 := by
  rw [handle]
  rcases m s with ⟨e | _, s'⟩ <;> rfl

lemma appendStoryboard_state (env : Env) (sb : StoryboardVersion) (s : System) :
    (appendStoryboard env sb s).2 = ((do
      queueImageStoryboard sb.version []
      when (env.localFallback = true) (drawPreviews env) : ServiceM Unit) (s.entered sb)).2 := by
  unfold appendStoryboard
  exact handle_pure_state _ () _

lemma pictured_appendStoryboard (h : Pictured none s) {r : Result}
    {scenes : List StoryboardScene} (reports : r.Reports env s.job.nextVersion scenes sb)
    (bare : ∀ scene ∈ scenes, scene.imageArtifactId = none) : Pictured none (appendStoryboard env sb s).2 := by
  have entered := h.append reports bare
  have member : sb ∈ (s.entered sb).job.storyboards := List.mem_append_right _ List.mem_cons_self
  have found := entered.recorded.storyboard?_of_mem member
  obtain ⟨s', run, queued⟩ := queueImageStoryboard_run entered.recorded found []
  have recorded := (recorded_queueImageStoryboard sb.version []).leads _ entered.recorded
  rw [run] at recorded
  have pictured := entered.queued recorded found queued (fun scene inside _ shown => by
    rw [reports.numbered] at inside
    obtain ⟨payload, there, rfl⟩ := List.mem_map.1 inside
    have none : payload.imageArtifactId = none := bare payload there
    change payload.imageArtifactId.isSome at shown
    rw [none] at shown
    cases shown)
  rw [appendStoryboard_state, bind_of_ok run]
  have draws : Within (Stable (Pictured none)) (when (env.localFallback = true) (drawPreviews env)) := inferInstance
  exact draws.leads s' pictured

/-! ## Frozen pictures -/

/-- Storyboards whose pictures are approved show the same pictures after. -/
def Frozen (s s' : System) : Prop :=
  ∀ (k : ℕ) (sb : StoryboardVersion), s.job.storyboards[k]? = some sb → sb.imageStatus = .approved →
    ∃ sb', s'.job.storyboards[k]? = some sb' ∧ sb'.imageStatus = .approved ∧
      sb'.scenes.map (·.imageArtifactId) = sb.scenes.map (·.imageArtifactId)

instance : Std.Refl Frozen := ⟨fun _ _ sb found approved => ⟨sb, found, approved, rfl⟩⟩

instance : IsTrans System Frozen where
  trans s s' s'' h h' k sb found approved := by
    obtain ⟨sb', found', approved', same'⟩ := h k sb found approved
    obtain ⟨sb'', found'', approved'', same''⟩ := h' k sb' found' approved'
    exact ⟨sb'', found'', approved'', same''.trans same'⟩

lemma frozen_map {f : StoryboardVersion → StoryboardVersion}
    (storyboards : s'.job.storyboards = s.job.storyboards.map f)
    (kept : ∀ b ∈ s.job.storyboards, b.imageStatus = .approved →
      (f b).imageStatus = .approved ∧ (f b).scenes = b.scenes) : Frozen s s' := by
  intro k sb found approved
  obtain ⟨still, scenes⟩ := kept sb (List.mem_of_getElem? found) approved
  refine ⟨f sb, ?_, still, by rw [scenes]⟩
  rw [storyboards, List.getElem?_map, found]
  rfl

lemma Aside.frozen (aside : Aside s s') : Frozen s s' := by
  intro k sb found approved
  obtain ⟨sb', found', same⟩ := before_of_pictures aside.pictures.symm found
  simp only [StoryboardVersion.pictures, Prod.mk.injEq] at same
  exact ⟨sb', found', same.2.2.2.symm.trans approved, by rw [same.2.1]⟩

lemma ImagesApproved.frozen {d : Decision} (h : ImagesApproved d sb s s') :
    Frozen s s' := by
  refine frozen_map h.storyboards fun b _ approved => ?_
  split
  · exact ⟨rfl, rfl⟩
  · exact ⟨approved, rfl⟩

lemma Queued.frozen {sceneIndexes : List ℤ} (recorded : Recorded s)
    (there : sb ∈ s.job.storyboards) (q : Queued sceneIndexes sb s s') (open_ : sb.imageStatus ≠ .approved) :
    Frozen s s' := by
  refine frozen_map q.storyboards fun b member approved => ?_
  split
  · rename_i same
    cases List.inj_on_of_nodup_map recorded.nodup member there same
    exact absurd approved open_
  · exact ⟨approved, rfl⟩

lemma Outcome.frozen {t : TaskId} (recorded : Recorded s) (outcome : Outcome t s s')
    (open_ : ∀ id sb, Matched t id sb s → sb.imageStatus ≠ .approved) : Frozen s s' := by
  have other {sb b : StoryboardVersion} {id : SceneId} (matched : Matched t id sb s) (member : b ∈ s.job.storyboards)
      (approved : b.imageStatus = .approved) : b.version ≠ sb.version := by
    intro same
    obtain ⟨active, _, found⟩ := Option.bind_eq_some_iff.1 matched.active
    cases List.inj_on_of_nodup_map recorded.nodup member (List.mem_of_find?_eq_some found) same
    exact open_ id _ matched approved
  cases outcome with
  | aside storyboards _ =>
    refine frozen_map (f := fun b => b) (storyboards.trans (List.map_id _).symm) fun b _ approved => ⟨approved, rfl⟩
  | failed matched _ storyboards =>
    refine frozen_map storyboards fun b member approved => ?_
    rw [if_neg (other matched member approved)]
    exact ⟨approved, rfl⟩
  | placed matched _ _ storyboards =>
    refine frozen_map storyboards fun b member approved => ?_
    rw [if_neg (other matched member approved)]
    exact ⟨approved, rfl⟩

def Open (s : System) : Prop := Recorded s ∧ ∀ sb ∈ s.job.storyboards,
  s.job.activeStoryboardVersion = some sb.version → sb.imageStatus ≠ .approved

lemma Open.matched (h : Open s) {t : TaskId} {id : SceneId}
    (m : Matched t id sb s) : sb.imageStatus ≠ .approved := by
  obtain ⟨active, is, found⟩ := Option.bind_eq_some_iff.1 m.active
  have version := storyboard?_version found
  exact h.2 sb (List.mem_of_find?_eq_some found) (version ▸ is)

lemma open_handleImageResult (r : ImageResult) (h : Open s) : Open (handleImageResult r s).2 := by
  have active := ((answered_handleImageResult r).leads s).active
  refine ⟨(recorded_handleImageResult r).leads s h.1, fun sb member is => ?_⟩
  rw [active] at is
  cases handleImageResult_outcome h.1 r with
  | aside storyboards _ =>
    rw [storyboards] at member
    exact h.2 sb member is
  | @failed id b₀ matched _ storyboards =>
    rw [storyboards] at member
    obtain ⟨b, old, rfl⟩ := List.mem_map.1 member
    by_cases same : b.version = b₀.version
    · rw [if_pos same]
      exact nofun
    · rw [if_neg same] at is ⊢
      exact h.2 b old is
  | @placed id b₀ scene artifact ready matched _ _ storyboards =>
    rw [storyboards] at member
    obtain ⟨b, old, rfl⟩ := List.mem_map.1 member
    by_cases same : b.version = b₀.version
    · rw [if_pos same] at is ⊢
      show (if ready then .ready else b.imageStatus : ImageStatus) ≠ .approved
      split
      · exact nofun
      · exact h.2 b old is
    · rw [if_neg same] at is ⊢
      exact h.2 b old is

lemma frozen_drawPreviews (env : Env) (h : Open s) : Frozen s (drawPreviews env s).2 := by
  refine (leads_forEach (R := Frozen) Open s.job.imageStoryboardTaskIds.keys (fun t _ s h => ⟨?_, ?_⟩) h).1
  · exact (handleImageResult_outcome h.1 _).frozen h.1 fun _ _ matched => h.matched matched
  · exact open_handleImageResult _ h

lemma frozen_appendStoryboard (env : Env) (recorded : Recorded s)
    (next : sb.version = s.job.nextVersion) : Frozen s (appendStoryboard env sb s).2 := by
  have entered := recorded.entered next
  have member : sb ∈ (s.entered sb).job.storyboards := List.mem_append_right _ List.mem_cons_self
  obtain ⟨s', run, queued⟩ := queueImageStoryboard_run entered (entered.storyboard?_of_mem member) []
  have recorded' := (recorded_queueImageStoryboard sb.version []).leads _ entered
  rw [run] at recorded'
  -- the older storyboards are at their places, and the queue is for the new one
  have older : Frozen s s' := by
    intro k b found approved
    have below := (List.getElem?_eq_some_iff.1 found).1
    have version : b.version ≠ sb.version := by
      intro same
      have there : b.version ∈ s.job.storyboards.map (·.version) :=
        List.mem_map_of_mem (List.mem_of_getElem? found)
      rw [recorded.numbered, same, next, History.nextVersion recorded, List.mem_range'_1] at there
      omega
    have kept : (s.entered sb).job.storyboards[k]? = some (if b.status = .pendingApproval then
        { b with status := .superseded } else b) := by
      show (_ ++ _ : List StoryboardVersion)[k]? = _
      rw [List.getElem?_append_left (by simpa using below), List.getElem?_map, found]
      rfl
    rw [queued.storyboards, List.getElem?_map, kept]
    refine ⟨_, rfl, ?_⟩
    by_cases waiting : b.status = .pendingApproval
    · simp [waiting, version, approved]
    · simp [waiting, version, approved]
  have open_ : Open s' := by
    refine ⟨recorded', fun b there is => ?_⟩
    rcases queued.before entered member there with rfl | ⟨_, other⟩
    · exact nofun
    · rw [queued.active] at is
      exact absurd (Option.some.inj is).symm other
  rw [appendStoryboard_state, bind_of_ok run]
  unfold when
  split
  · exact trans_of Frozen older (frozen_drawPreviews env open_)
  · exact older

/-! ## Calls with care -/

/-- Pictures that are approved are not queued again, nor does a result for them come in; a scene that still
shows a picture is not asked for in another version; and a reported storyboard brings no pictures. -/
def Op.Careful (env : Env) (s : System) : Op → Prop
  | .queueImageStoryboard version sceneIndexes => ∀ sb, s.job.storyboard? version = some sb →
    sb.imageStatus ≠ .approved ∧ ∀ scene ∈ sb.scenes, isTarget sceneIndexes scene = true →
      scene.imageArtifactId.isSome → scene.imageVersion = some sb.imageVersion
  | .handleImageResult r => s.job.imageStoryboardTaskIds.contains r.taskId = true → s.job.isStale r.taskId = false →
    ∀ sb, s.job.active = some sb → sb.imageStatus ≠ .approved
  | .handleResult r => ∀ artifact ∈ r.artifacts, ∀ data scenes, artifact.data = some (.obj data) →
    readScenes env data = some scenes → ∀ scene ∈ scenes, scene.imageArtifactId = none
  | .queue _ _ | .approve _ _ _ _ | .approveImages _ _ _ | .requestImageRevision _ _ _ _ | .reject _ _
  | .regenerate _ _ _ _ | .regenerateFromHistory _ _ _ _ => True

def CarefulRun (env : Env) : System → List Op → Prop
  | _, [] => True
  | s, op :: ops => op.Careful env s ∧ CarefulRun env (s.step env op) ops

/-- The call asks for other pictures. -/
def Op.Revises : Op → Prop
  | .requestImageRevision _ _ _ _ => True
  | .queue _ _ | .handleResult _ | .approve _ _ _ _ | .approveImages _ _ _ | .reject _ _ | .regenerate _ _ _ _
  | .regenerateFromHistory _ _ _ _ | .queueImageStoryboard _ _ | .handleImageResult _ => False

lemma command_handleResult (env : Env) (r : Result) (s : System) :
    ((Op.handleResult r).command env s).2 = (handleResult env r s).2 := by
  show ((handleResult env r >>= fun _ => pure ()) s).2 = _
  rw [bind_apply]
  rcases handleResult env r s with ⟨e | _, s'⟩ <;> rfl

lemma Pictured.of_aside (h : Pictured none s) {op : Op} (aside : Within Aside (op.command env)) :
    Pictured none (s.step env op) :=
  h.carried ((recorded_command env op).leads s h.recorded) (aside.leads s).carried

lemma queueImageStoryboard_none {version : ℕ} (absent : s.job.storyboard? version = none)
    (sceneIndexes : List ℤ) : queueImageStoryboard version sceneIndexes s = (.error .notFound, s) := by
  rw [queueImageStoryboard, theJob_bind, absent]
  rfl

lemma Pictured.weaken (h : Pictured none s) (queue : Option (ℕ × List ℤ)) : Pictured queue s :=
  { h with
    requested := fun sb member scene inside _ => h.requested sb member scene inside fun ⟨_, under, _⟩ => nomatch under
    approved := fun sb member _ => h.approved sb member nofun }

lemma Pictured.requestRevision {s₁ : System} (h : Pictured none s) {version : ℕ} {sceneIndexes : List ℤ}
    {revision : Option String} {m : ServiceM Unit}
    (found : s.job.storyboard? version = some sb)
    (storyboards : s₁.job.storyboards = s.job.storyboards.map fun b =>
      if b.version = version then b.supersede.revised sceneIndexes revision else b.supersede)
    (same : s₁.job.outstanding = s.job.outstanding) (tasks : s₁.tasks = s.tasks)
    (run : m s = queueImageStoryboard version sceneIndexes s₁) (recorded : Recorded (m s).2) :
    Pictured none (m s).2 := by
  have is := storyboard?_version found
  subst is
  have recorded₁ : Recorded s₁ := by
    refine History.replace h.recorded (fun _ b =>
      if b.version = sb.version then b.supersede.revised sceneIndexes revision else b.supersede) (fun _ b => ?_)
      (fun k => by rw [storyboards, List.getElem?_map]) (congrArg Prod.fst same)
    have modest := modest_supersede b
    dsimp only
    split
    · exact modest
    · exact modest
  have member : sb.supersede.revised sceneIndexes revision ∈ s₁.job.storyboards := by
    rw [storyboards]
    exact List.mem_map.2 ⟨sb, List.mem_of_find?_eq_some found, if_pos rfl⟩
  have found₁ := History.storyboard?_of_mem recorded₁ member
  have version : (sb.supersede.revised sceneIndexes revision).version = sb.version := (modest_supersede sb).1
  rw [version] at found₁
  obtain ⟨s', run', queued⟩ := queueImageStoryboard_run recorded₁ found₁ sceneIndexes
  rw [run, run'] at recorded ⊢
  refine (h.revised recorded₁ storyboards same tasks).queued recorded found₁ queued fun scene inside target shown => ?_
  obtain ⟨before, _, rfl⟩ := List.mem_map.1 inside
  split at shown
  · cases shown
  · rename_i other
    rw [if_neg other] at target
    exact absurd target other

lemma Pictured.step (h : Pictured none s) {op : Op} (careful : op.Careful env s) :
    Pictured none (s.step env op) := by
  have recorded : Recorded (s.step env op) := (recorded_command env op).leads s h.recorded
  cases op with
  | queue revision prompt => exact h.of_aside (aside_queue revision prompt)
  | approve version d expected script => exact h.of_aside (aside_approve version d expected script)
  | reject version d => exact h.of_aside (aside_reject version d)
  | regenerate version d revision prompt => exact h.of_aside (aside_regenerate version d revision prompt)
  | regenerateFromHistory version d revision prompt =>
    exact h.of_aside (aside_regenerateFromHistory version d revision prompt)
  | handleResult r =>
    rw [System.step, command_handleResult] at *
    rcases handleResult_cases env r s with ⟨aside, _⟩ | ⟨scenes, sb, reports, run⟩
    · exact h.carried recorded aside.carried
    · rw [run]
      obtain ⟨artifact, member, data, decoded, read⟩ := reports.read
      exact pictured_appendStoryboard h reports (careful artifact member data scenes decoded read)
  | approveImages version d expected =>
    rcases approveImages_cases h.recorded version d expected with same | ⟨sb, approved⟩
    · show Pictured none (approveImages version d expected s).2
      rw [same]
      exact h
    · exact h.carried recorded (approved.carried h.recorded)
  | requestImageRevision version sceneIndexes revision expected =>
    rcases requestImageRevision_cases h.recorded version sceneIndexes revision expected with
      same | ⟨sb, s₁, found, storyboards, same, tasks, run⟩
    · show Pictured none (requestImageRevision version sceneIndexes revision expected s).2
      rw [same]
      exact h
    · exact h.requestRevision found storyboards same tasks run recorded
  | queueImageStoryboard version sceneIndexes =>
    cases found : s.job.storyboard? version with
    | none =>
      have still := queueImageStoryboard_none found sceneIndexes
      show Pictured none (queueImageStoryboard version sceneIndexes s).2
      rw [still]
      exact h
    | some sb =>
      obtain ⟨s', run, queued⟩ := queueImageStoryboard_run h.recorded found sceneIndexes
      have recorded : Recorded s' := by
        have kept := (recorded_queueImageStoryboard version sceneIndexes).leads s h.recorded
        rwa [run] at kept
      show Pictured none (queueImageStoryboard version sceneIndexes s).2
      rw [run]
      exact (h.weaken _).queued recorded found queued (careful sb found).2
  | handleImageResult r => exact (pictured_handleImageResult r).leads s h

lemma Pictured.run (h : Pictured none s) {ops : List Op} (careful : CarefulRun env s ops) :
    Pictured none (s.run env ops) := by
  induction ops generalizing s with
  | nil => exact h
  | cons op ops ih => exact ih (h.step careful.1) careful.2

lemma frozen_step (recorded : Recorded s) {op : Op} (careful : op.Careful env s)
    (other : ¬ op.Revises) : Frozen s (s.step env op) := by
  cases op with
  | queue revision prompt => exact ((aside_queue revision prompt).leads s).frozen
  | approve version d expected script => exact ((aside_approve version d expected script).leads s).frozen
  | reject version d => exact ((aside_reject version d).leads s).frozen
  | regenerate version d revision prompt => exact ((aside_regenerate version d revision prompt).leads s).frozen
  | regenerateFromHistory version d revision prompt =>
    exact ((aside_regenerateFromHistory version d revision prompt).leads s).frozen
  | handleResult r =>
    rw [System.step, command_handleResult]
    rcases handleResult_cases env r s with ⟨aside, _⟩ | ⟨scenes, sb, reports, run⟩
    · exact aside.frozen
    · rw [run]
      exact frozen_appendStoryboard env recorded reports.version
  | approveImages version d expected =>
    rcases approveImages_cases recorded version d expected with same | ⟨sb, approved⟩
    · show Frozen s (approveImages version d expected s).2
      rw [same]
      exact refl_of Frozen s
    · exact approved.frozen
  | requestImageRevision version sceneIndexes revision expected => exact absurd trivial other
  | queueImageStoryboard version sceneIndexes =>
    cases found : s.job.storyboard? version with
    | none =>
      have still := queueImageStoryboard_none found sceneIndexes
      show Frozen s (queueImageStoryboard version sceneIndexes s).2
      rw [still]
      exact refl_of Frozen s
    | some sb =>
      obtain ⟨s', run, queued⟩ := queueImageStoryboard_run recorded found sceneIndexes
      show Frozen s (queueImageStoryboard version sceneIndexes s).2
      rw [run]
      exact queued.frozen recorded (List.mem_of_find?_eq_some found) (careful sb found).1
  | handleImageResult r =>
    refine (handleImageResult_outcome recorded r).frozen recorded fun id sb matched => ?_
    refine careful ?_ matched.current sb matched.active
    rw [Dict.contains, matched.awaited]
    rfl

lemma frozen_run (recorded : Recorded s) {ops : List Op} (careful : CarefulRun env s ops)
    (others : ∀ op ∈ ops, ¬ op.Revises) : Frozen s (s.run env ops) := by
  induction ops generalizing s with
  | nil => exact refl_of Frozen s
  | cons op ops ih =>
    have first := frozen_step recorded careful.1 (others op List.mem_cons_self)
    have rest := ih ((recorded_command env op).leads s recorded) careful.2 fun op member =>
      others op (List.mem_cons_of_mem _ member)
    exact trans_of Frozen first rest

/-- A Job without storyboards and tasks of pictures. -/
structure Fresh (s : System) : Prop where
  storyboards : s.job.storyboards = []
  active : s.job.activeStoryboardVersion = none
  outstanding : s.job.imageStoryboardTaskIds = ∅
  tasks : ∀ task ∈ s.tasks, ¬ task.IsImage

lemma Fresh.pictured (h : Fresh s) : Pictured none s := by
  have absent {sb : StoryboardVersion} (member : sb ∈ s.job.storyboards) : False := by
    rw [h.storyboards] at member
    cases member
  have idle {t : TaskId} {id : SceneId} (awaited : s.job.imageStoryboardTaskIds.get? t = some id) : False := by
    rw [h.outstanding] at awaited
    cases awaited
  refine ⟨⟨?_, fun k sb found => ?_, fun v is => ?_⟩, fun sb member => (absent member).elim,
    fun sb member => (absent member).elim, fun sb member => (absent member).elim, fun sb member => (absent member).elim,
    fun t id awaited => (idle awaited).elim, fun v imageVersion index id prompt member => ?_,
    fun t id v imageVersion awaited => (idle awaited).elim⟩
  · rw [h.storyboards]
    rfl
  · exact (absent (List.mem_of_getElem? found)).elim
  · cases h.active.symm.trans is
  · exact absurd trivial (h.tasks _ member)

/-- In careful runs: approved pictures were made for the version that their scenes were last asked for; a
result for another storyboard or another version of the pictures changes nothing; and approved pictures stay
until a revision is requested. -/
theorem pictures_covered (env : Env) (start : System) (fresh : Fresh start) (ops : List Op)
    (careful : CarefulRun env start ops) :
    (∀ sb ∈ (start.run env ops).job.storyboards, sb.imageStatus = .approved → ∀ scene ∈ sb.scenes,
      ∃ v, lastRequested (start.run env ops).tasks sb.version scene.index = some v ∧
        MadeFor (start.run env ops) sb scene v) ∧
    (∀ (r : ImageResult) (v : ℕ) (imageVersion index : ℤ) (id : SceneId) (prompt : String),
      (start.run env ops).tasks[r.taskId]? = some (.image v imageVersion index id prompt) →
      (∀ sb, (start.run env ops).job.active = some sb → ¬ (sb.version = v ∧ sb.imageVersion = imageVersion)) →
      (handleImageResult r (start.run env ops)).2.job.storyboards = (start.run env ops).job.storyboards) ∧
    ∀ later : List Op, CarefulRun env (start.run env ops) later → (∀ op ∈ later, ¬ op.Revises) →
      ∀ (k : ℕ) (sb : StoryboardVersion), (start.run env ops).job.storyboards[k]? = some sb →
        sb.imageStatus = .approved → ∃ sb', ((start.run env ops).run env later).job.storyboards[k]? = some sb' ∧
          sb'.imageStatus = .approved ∧
          sb'.scenes.map (·.imageArtifactId) = sb.scenes.map (·.imageArtifactId) := by
  have h := fresh.pictured.run careful
  generalize start.run env ops = s at h
  refine ⟨fun sb member approved scene inside => ?_, fun r v imageVersion index id prompt task other => ?_,
    fun later careful others => frozen_run h.recorded careful others⟩
  · obtain ⟨v, asked, made⟩ := h.made sb member scene inside (h.approved sb member nofun approved scene inside)
    obtain ⟨w, asked', last⟩ := h.requested sb member scene inside fun ⟨_, under, _⟩ => nomatch under
    cases asked.symm.trans asked'
    exact ⟨v, last, made⟩
  · have unmatched {id' : SceneId} {sb : StoryboardVersion} (matched : Matched r.taskId id' sb s) : False := by
      obtain ⟨_, _, _, _, task'⟩ := h.matched matched
      cases task.symm.trans task'
      exact other sb matched.active ⟨rfl, rfl⟩
    cases handleImageResult_outcome h.recorded r with
    | aside storyboards _ => exact storyboards
    | failed matched _ _ | placed matched _ _ _ => exact (unmatched matched).elim

/-- A storyboard of one scene, and the picture of task `t` for it. -/
def pictureFor (t : TaskId) : Op := .handleImageResult { taskId := t, success := true, imageBase64 := some {} }

def reviewed : List Op :=
  [.queue none (.ok "prompt"), .handleResult (reported 0 1), pictureFor 1, .approveImages 1 ⟨"editor", "10:00"⟩ none]

theorem pictures_covered_reviewed :
    (scripted.run withWorkers reviewed).job.storyboards.map (·.imageStatus) = [.approved] ∧
    ∀ sb ∈ (scripted.run withWorkers reviewed).job.storyboards, sb.imageStatus = .approved → ∀ scene ∈ sb.scenes,
      ∃ v, lastRequested (scripted.run withWorkers reviewed).tasks sb.version scene.index = some v ∧
        MadeFor (scripted.run withWorkers reviewed) sb scene v := by
  refine ⟨by decide +kernel, ?_⟩
  refine (pictures_covered withWorkers scripted ⟨rfl, rfl, rfl, nofun⟩ reviewed ⟨trivial, ?_, ?_, trivial, trivial⟩).1
  · intro artifact member data scenes decoded read scene inside
    cases List.mem_singleton.1 member
    cases decoded
    have shown := congrArg (Option.map (List.map (·.imageArtifactId))) read
    have bare : some [none] = some (scenes.map (·.imageArtifactId)) := Eq.trans (by decide +kernel) shown
    have there : scene.imageArtifactId ∈ scenes.map (·.imageArtifactId) := List.mem_map_of_mem inside
    rw [← Option.some.inj bare] at there
    exact List.mem_singleton.1 there
  · intro _ _ sb active approved
    have status := congrArg (Option.map (·.imageStatus)) active
    have generating : some .generating = some sb.imageStatus := Eq.trans (by decide +kernel) status
    cases (Option.some.inj generating).trans approved

/-- The pictures are queued once more before the first one comes in, and it is approved; the second one then
takes its place. -/
theorem late_picture :
    ((scripted.run withWorkers [.queue none (.ok "prompt"), .handleResult (reported 0 1),
        .queueImageStoryboard 1 [], pictureFor 1, .approveImages 1 ⟨"editor", "10:00"⟩ none]).job.storyboards.map
      fun sb => (sb.imageStatus, sb.scenes.map (·.imageArtifactId))) = [(.approved, [some "art-0"])] ∧
    ((scripted.run withWorkers [.queue none (.ok "prompt"), .handleResult (reported 0 1),
        .queueImageStoryboard 1 [], pictureFor 1, .approveImages 1 ⟨"editor", "10:00"⟩ none,
        pictureFor 2]).job.storyboards.map
      fun sb => (sb.imageStatus, sb.scenes.map (·.imageArtifactId))) = [(.ready, [some "art-1"])] := by
  decide +kernel

end Vertep.Storyboard
