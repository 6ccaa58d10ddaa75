import Vertep.Storyboard.Service

/-!
# The history of storyboards (`core/storyboard.py`)

Whatever is called in whatever order, the storyboards of a Job are numbered from 1 without a gap, none but
the last waits for its approval, and the active version is one of them. A result that is rejected, or raises
a `ValueError`, leaves them alone.

Most calls only decide about a storyboard or queue a task for the next one: they are `Aside` of the pictures.
-/

namespace Vertep.Storyboard
open Lib Command Vertep.Core
open Queue (Json Members)

/-! ## What leaves the pictures alone -/

def StoryboardVersion.pictures (sb : StoryboardVersion) : ℕ × List StoryboardScene × ℤ × ImageStatus :=
  (sb.version, sb.scenes, sb.imageVersion, sb.imageStatus)

def Task.IsImage : Task → Prop
  | .storyboard _ _ _ _ => False
  | .image _ _ _ _ _ => True

/-- Of a Job what the tasks of its pictures are about. -/
def Job.outstanding (job : Job) :
    Option ℕ × Dict TaskId SceneId × Dict TaskId (ℕ × ℤ) × List ArtifactRecord :=
  (job.activeStoryboardVersion, job.imageStoryboardTaskIds, job.imageStoryboardTaskVersions, job.artifacts)

/-- Nothing happens to pictures; no storyboard goes back to its approval. -/
structure Aside (s s' : System) : Prop where
  pictures : s'.job.storyboards.map (·.pictures) = s.job.storyboards.map (·.pictures)
  status : ∀ (k : ℕ) (sb sb' : StoryboardVersion), s.job.storyboards[k]? = some sb →
    s'.job.storyboards[k]? = some sb' → sb'.status = .pendingApproval → sb.status = .pendingApproval
  same : s'.job.outstanding = s.job.outstanding
  tasks : ∃ more, s'.tasks = s.tasks ++ more ∧ ∀ task ∈ more, ¬ task.IsImage

lemma before_of_pictures {l l' : List StoryboardVersion}
    (pictures : l'.map (·.pictures) = l.map (·.pictures)) {k : ℕ} {sb' : StoryboardVersion}
    (found : l'[k]? = some sb') : ∃ sb, l[k]? = some sb ∧ sb'.pictures = sb.pictures := by
  have shown : (l.map (·.pictures))[k]? = some sb'.pictures := by
    rw [← pictures, List.getElem?_map, found]
    rfl
  rw [List.getElem?_map] at shown
  obtain ⟨sb, there, same⟩ := Option.map_eq_some_iff.1 shown
  exact ⟨sb, there, same.symm⟩

lemma versions_of_pictures {l l' : List StoryboardVersion}
    (pictures : l'.map (·.pictures) = l.map (·.pictures)) : l'.map (·.version) = l.map (·.version) := by
  have versions := congrArg (List.map Prod.fst) pictures
  rwa [List.map_map, List.map_map] at versions

instance : Std.Refl Aside where
  refl s := {
    pictures := rfl
    status := fun k sb sb' found found' waiting => by
      cases found.symm.trans found'
      exact waiting
    same := rfl
    tasks := ⟨[], (List.append_nil _).symm, nofun⟩ }

instance : IsTrans System Aside where
  trans s s' s'' h h' := {
    pictures := h'.pictures.trans h.pictures
    status := fun k sb sb'' found found'' waiting => by
      obtain ⟨sb', found', _⟩ := before_of_pictures h'.pictures found''
      exact h.status k sb sb' found found' (h'.status k sb' sb'' found' found'' waiting)
    same := h'.same.trans h.same
    tasks := by
      obtain ⟨more, is, others⟩ := h.tasks
      obtain ⟨more', is', others'⟩ := h'.tasks
      refine ⟨more ++ more', by rw [is', is, List.append_assoc], fun task member => ?_⟩
      rcases List.mem_append.1 member with member | member
      · exact others task member
      · exact others' task member }

variable {f : StoryboardVersion → StoryboardVersion}

section

lemma aside_modifyJob {f : Job → Job} (storyboards : ∀ job, (f job).storyboards = job.storyboards)
    (same : ∀ job, (f job).outstanding = job.outstanding) : Within Aside (modifyJob f) where
  leads s := {
    pictures := congrArg (List.map (·.pictures)) (storyboards s.job)
    status := fun k sb sb' found found' waiting => by
      have kept : s.job.storyboards[k]? = some sb' := by
        rw [← storyboards s.job]
        exact found'
      cases found.symm.trans kept
      exact waiting
    same := same s.job
    tasks := ⟨[], (List.append_nil _).symm, nofun⟩ }

instance aside_update (status : JobStatus) : Within Aside (update status) :=
  aside_modifyJob (fun _ => rfl) fun _ => rfl

instance aside_theJob : Within Aside theJob := ⟨fun s => refl_of Aside s⟩

lemma aside_enqueue {task : Task} (other : ¬ task.IsImage) : Within Aside (enqueue task) where
  leads s := {
    pictures := rfl
    status := (refl_of Aside s).status
    same := rfl
    tasks := ⟨[task], rfl, fun _ member => List.mem_singleton.1 member ▸ other⟩ }

def Decides (f : StoryboardVersion → StoryboardVersion) : Prop :=
  ∀ sb, (f sb).pictures = sb.pictures ∧ ((f sb).status = .pendingApproval → sb.status = .pendingApproval)

lemma aside_modifyStoryboard (version : ℕ) (decides : Decides f) :
    Within Aside (modifyStoryboard version f) where
  leads s := {
    pictures := by
      apply List.ext_getElem?
      intro k
      show ((s.job.storyboards.modify _ f).map _)[k]? = _
      rw [List.getElem?_map, List.getElem?_map, List.getElem?_modify]
      cases s.job.storyboards[k]? with
      | none => rfl
      | some sb =>
        show some (ite _ _ _ : StoryboardVersion).pictures = some _
        split
        · rw [(decides sb).1]
        · rfl
    status := fun k sb sb' found found' waiting => by
      change (s.job.storyboards.modify _ f)[k]? = some sb' at found'
      rw [List.getElem?_modify, found] at found'
      cases found'
      split at waiting
      · exact (decides sb).2 waiting
      · exact waiting
    same := rfl
    tasks := ⟨[], (List.append_nil _).symm, nofun⟩ }

instance aside_queue (revision : Option String) (prompt : Except Outside String) :
    Within Aside (queue revision prompt) := by
  unfold queue
  refine .bind ?_ fun _ => aside_theJob.bind fun job => .bind ?_ fun _ => ?_
  · exact aside_modifyJob (fun _ => rfl) fun _ => rfl
  · have counted : Within Aside (modifyJob fun j => { j with
        storyboardAttempt := 0
        storyboardAttemptVersion := some job.nextVersion
        storyboardActiveRevision := revision.or job.revision }) := aside_modifyJob (fun _ => rfl) fun _ => rfl
    infer_instance
  · refine (aside_update _).bind fun _ => (within_answer _).bind fun _ => aside_theJob.bind fun _ => ?_
    refine (aside_enqueue id).bind fun _ => ?_
    exact aside_modifyJob (fun _ => rfl) fun _ => rfl

instance aside_getStoryboard (version : ℕ) : Within Aside (getStoryboard version) := by
  unfold getStoryboard
  refine aside_theJob.bind fun job => ?_
  split <;> infer_instance

instance aside_activeStoryboard (version : ℕ) : Within Aside (activeStoryboard version) := by
  unfold activeStoryboard
  infer_instance

instance aside_checkReviewed (sb : StoryboardVersion) (expected : Option ℤ) :
    Within Aside (checkReviewed sb expected) := by
  unfold checkReviewed
  infer_instance

lemma aside_approve (version : ℕ) (d : Decision) (expected : Option ℤ) (script : Except Outside Json) :
    Within Aside (approve version d expected script) := by
  unfold approve
  refine (aside_activeStoryboard _).bind fun sb => (aside_checkReviewed _ _).bind fun _ =>
    .next fun _ => aside_theJob.bind fun _ => .bind ?_ fun _ => ?_
  · exact aside_modifyStoryboard _ fun sb => ⟨rfl, nofun⟩
  · refine (within_answer _).bind fun _ => .bind ?_ fun _ => aside_update _
    exact aside_modifyJob (fun _ => rfl) fun _ => rfl

lemma aside_reject (version : ℕ) (d : Decision) : Within Aside (reject version d) := by
  unfold reject
  refine (aside_activeStoryboard _).bind fun sb => .bind ?_ fun _ => .bind ?_ fun _ =>
    .bind ?_ fun _ => aside_update _
  · exact aside_modifyStoryboard _ fun sb => ⟨rfl, nofun⟩
  · refine aside_modifyJob (fun job => ?_) fun job => ?_
    · cases job.lastApproved version <;> rfl
    · cases job.lastApproved version <;> rfl
  · exact aside_modifyJob (fun _ => rfl) fun _ => rfl

lemma aside_regenerate (version : ℕ) (d : Decision) (revision : Option String) (prompt : Except Outside String) :
    Within Aside (regenerate version d revision prompt) := by
  unfold regenerate
  refine (aside_activeStoryboard _).bind fun sb => .bind ?_ fun _ => (aside_update _).bind fun _ =>
    aside_queue _ _
  exact aside_modifyStoryboard _ fun sb => ⟨rfl, nofun⟩

lemma aside_regenerateFromHistory (version : ℕ) (d : Decision) (revision : Option String)
    (prompt : Except Outside String) : Within Aside (regenerateFromHistory version d revision prompt) := by
  unfold regenerateFromHistory
  refine (aside_getStoryboard _).bind fun base => .ite inferInstance ?_
  have superseded := aside_modifyStoryboard base.version
    (f := fun sb => { sb.decided d with status := .superseded }) fun sb => ⟨rfl, nofun⟩
  refine .next fun _ => (aside_update _).bind fun _ => .bind ?_ fun _ => aside_queue _ _
  exact aside_modifyJob (fun _ => rfl) fun _ => rfl

lemma keeps_queue (revision : Option String) (prompt : Except Outside String) :
    Keeps (·.job.storyboards) (queue revision prompt) := by
  unfold queue
  refine .bind ⟨fun _ => rfl⟩ fun _ => .bind ⟨fun _ => rfl⟩ fun job => .bind ?_ fun _ => ?_
  · have counted : Keeps (·.job.storyboards) (modifyJob fun j => { j with
        storyboardAttempt := 0
        storyboardAttemptVersion := some job.nextVersion
        storyboardActiveRevision := revision.or job.revision }) := ⟨fun _ => rfl⟩
    infer_instance
  · refine .bind ⟨fun _ => rfl⟩ fun _ => (within_answer _).bind fun _ => .bind ⟨fun _ => rfl⟩ fun _ => ?_
    exact .bind ⟨fun _ => rfl⟩ fun _ => ⟨fun _ => rfl⟩

end

/-! ## Results -/

/-- The storyboard that a result reports. -/
structure Result.Reports (env : Env) (r : Result) (next : ℕ) (scenes : List StoryboardScene)
    (sb : StoryboardVersion) : Prop where
  read : ∃ artifact ∈ r.artifacts, ∃ data, artifact.data = some (.obj data) ∧ readScenes env data = some scenes
  version : sb.version = next
  status : sb.status = .pendingApproval
  numbered : sb.scenes = scenes.map (·.numbered next sb.imageVersion)

variable {sb : StoryboardVersion}

lemma Result.read_some {env : Env} {r : Result} {next : ℕ}
    (h : r.read env next = .ok (some sb)) : ∃ scenes, r.Reports env next scenes sb := by
  unfold Result.read at h
  split at h
  · cases h
  rename_i artifact found
  split at h
  · rename_i data decoded
    split at h
    · cases h
    rename_i scenes read
    split at h
    · cases h
    rename_i same
    split at h
    · cases h
    rename_i made
    cases h
    obtain ⟨version, status, numbered⟩ := StoryboardVersion.ofJson_cases (by simpa using same) made
    exact ⟨scenes, ⟨artifact, List.mem_of_find?_eq_some found, data, decoded, read⟩, version, status, numbered⟩
  · cases h

lemma appendStoryboard_ok (env : Env) (sb : StoryboardVersion) (s : System) :
    (appendStoryboard env sb s).1 = .ok () := by
  unfold appendStoryboard
  simp only [modifyJob, write_bind, update, handle]
  split <;> rfl

lemma aside_failStoryboard (env : Env) (r : Result) : Within Aside (failStoryboard env r) := by
  unfold failStoryboard
  refine aside_theJob.bind fun job => .bind ?_ fun _ => inferInstance
  exact aside_modifyJob (fun _ => rfl) fun _ => rfl

lemma keeps_failStoryboard (env : Env) (r : Result) : Keeps (·.job.storyboards) (failStoryboard env r) := by
  unfold failStoryboard
  refine .bind ⟨fun _ => rfl⟩ fun job => .bind ⟨fun _ => rfl⟩ fun _ => .ite ?_ ?_
  · exact (keeps_queue _ _).bind fun _ => inferInstance
  · exact .bind ⟨fun _ => rfl⟩ fun _ => inferInstance

lemma handleResult_cases (env : Env) (r : Result) (s : System) :
    Aside s (handleResult env r s).2 ∧ (handleResult env r s).2.job.storyboards = s.job.storyboards ∨
      ∃ scenes sb, r.Reports env s.job.nextVersion scenes sb ∧
        handleResult env r s = (.ok true, (appendStoryboard env sb s).2) := by
  have still (x : Except Failure Bool × System) (h : x.2 = s) :
      Aside s x.2 ∧ x.2.job.storyboards = s.job.storyboards := by
    rw [h]
    exact ⟨refl_of Aside s, rfl⟩
  rw [show handleResult env r s = (ite _ _ _ : ServiceM Bool) s from rfl]
  split
  · exact .inl (still _ rfl)
  split
  · exact .inl (still _ rfl)
  split
  · exact .inl (still _ rfl)
  split
  · exact .inl (still _ rfl)
  split
  · exact .inl ⟨(aside_failStoryboard env r).leads s, (keeps_failStoryboard env r).keeps s⟩
  rw [answer_bind]
  cases read : r.read env s.job.nextVersion with
  | error e => exact .inl (still _ rfl)
  | ok reported =>
    cases reported with
    | none => exact .inl (still _ rfl)
    | some sb =>
      obtain ⟨scenes, reports⟩ := Result.read_some read
      refine .inr ⟨scenes, sb, reports, ?_⟩
      have taken := appendStoryboard_ok env sb s
      show (appendStoryboard env sb >>= fun _ => pure true) s = _
      rw [bind_of_ok (Prod.ext taken rfl)]
      rfl

/-! ## Histories -/

/-- The storyboards of a Job and which of them is active. -/
structure History (job : Job) : Prop where
  numbered : job.storyboards.map (·.version) = List.range' 1 job.storyboards.length
  pending : ∀ (k : ℕ) (sb : StoryboardVersion), job.storyboards[k]? = some sb → sb.status = .pendingApproval →
    k + 1 = job.storyboards.length
  active : ∀ v, job.activeStoryboardVersion = some v → v ∈ job.storyboards.map (·.version)

def Recorded (s : System) : Prop := History s.job

variable {job : Job}

lemma History.nextVersion (h : History job) : job.nextVersion = job.storyboards.length + 1 := by
  unfold Job.nextVersion
  cases last : job.storyboards.getLast? with
  | none =>
    rw [List.getLast?_eq_none_iff.1 last]
    rfl
  | some sb =>
    have version : (job.storyboards.map (·.version)).getLast? = some sb.version := by
      rw [List.getLast?_map, last]
      rfl
    rw [h.numbered, List.getLast?_range'] at version
    split at version
    · cases version
    · simp only [Option.some.injEq] at version
      show sb.version + 1 = _
      omega

lemma History.aside {s s' : System} (h : History s.job) (aside : Aside s s') : History s'.job := by
  have versions := versions_of_pictures aside.pictures
  have length : s'.job.storyboards.length = s.job.storyboards.length := by
    simpa using congrArg List.length versions
  refine ⟨by rw [versions, h.numbered, length], fun k sb' found' waiting => ?_, fun v is => ?_⟩
  · obtain ⟨sb, found, _⟩ := before_of_pictures aside.pictures found'
    rw [length]
    exact h.pending k sb found (aside.status k sb sb' found found' waiting)
  · rw [versions]
    exact h.active v ((congrArg Prod.fst aside.same).symm.trans is)

instance (priority := low) recorded_of_aside {α : Type} {m : ServiceM α} [h : Within Aside m] :
    Within (Stable Recorded) m := ⟨fun s start => History.aside start (h.leads s)⟩

/-- A change that leaves the number of a storyboard and puts none back to its approval. -/
def Modest (f : StoryboardVersion → StoryboardVersion) : Prop :=
  ∀ sb, (f sb).version = sb.version ∧ ((f sb).status = .pendingApproval → sb.status = .pendingApproval)

lemma History.replace {job' : Job} (h : History job) (f : ℕ → StoryboardVersion → StoryboardVersion)
    (modest : ∀ k, Modest (f k)) (replaced : ∀ k, job'.storyboards[k]? = job.storyboards[k]?.map (f k))
    (active : job'.activeStoryboardVersion = job.activeStoryboardVersion) : History job' := by
  have versions : job'.storyboards.map (·.version) = job.storyboards.map (·.version) := by
    apply List.ext_getElem?
    intro k
    rw [List.getElem?_map, List.getElem?_map, replaced k, Option.map_map]
    congr 1
    funext sb
    exact (modest k sb).1
  have length : job'.storyboards.length = job.storyboards.length := by
    simpa using congrArg List.length versions
  refine ⟨by rw [versions, h.numbered, length], fun k sb found waiting => ?_, fun v is => ?_⟩
  · rw [replaced k] at found
    obtain ⟨sb', before, rfl⟩ := Option.map_eq_some_iff.1 found
    rw [length]
    exact h.pending k sb' before ((modest k sb').2 waiting)
  · rw [versions]
    exact h.active v (active.symm.trans is)

lemma History.modify (h : History job) (modest : Modest f)
    (i : ℕ) : History { job with storyboards := job.storyboards.modify i f } := by
  refine h.replace (fun k sb => if i = k then f sb else sb) (fun k sb => ?_) (fun k => ?_) rfl
  · split
    · exact modest sb
    · exact ⟨rfl, fun waiting => waiting⟩
  · rw [List.getElem?_modify]
    rfl

lemma recorded_modifyStoryboard (version : ℕ) (modest : Modest f) :
    Within (Stable Recorded) (modifyStoryboard version f) :=
  ⟨fun _ start => History.modify start modest _⟩

/-! ## Pictures and the history -/

section

instance (taskId : TaskId) : Within (Stable Recorded) (dropTask taskId) :=
  ⟨fun _ start => ⟨start.numbered, start.pending, start.active⟩⟩

instance (sceneId : Option SceneId) (taskId : TaskId) (workflow : String) :
    Within (Stable Recorded) (registerArtifact sceneId taskId workflow) :=
  ⟨fun _ start => ⟨start.numbered, start.pending, start.active⟩⟩

instance (sb : StoryboardVersion) (k : ℕ) (scene : StoryboardScene) :
    Within (Stable Recorded) (queueScene sb k scene) := by
  unfold queueScene
  refine .bind ?_ fun _ => .next fun _ => .bind ?_ fun _ => ?_
  · exact recorded_modifyStoryboard _ fun sb => ⟨rfl, fun waiting => waiting⟩
  · exact ⟨fun _ start => start⟩
  · exact ⟨fun _ start => ⟨start.numbered, start.pending, start.active⟩⟩

lemma storyboard?_version {version : ℕ}
    (found : job.storyboard? version = some sb) : sb.version = version := by
  have same := List.find?_some found
  exact of_decide_eq_true same

lemma versions_modify (version : ∀ sb, (f sb).version = sb.version)
    (l : List StoryboardVersion) (i : ℕ) : (l.modify i f).map (·.version) = l.map (·.version) := by
  apply List.ext_getElem?
  intro k
  rw [List.getElem?_map, List.getElem?_map, List.getElem?_modify]
  cases l[k]? with
  | none => rfl
  | some sb =>
    show some (ite _ _ _ : StoryboardVersion).version = some _
    split
    · rw [version]
    · rfl

lemma History.generating (h : History job) (member : sb ∈ job.storyboards) :
    History (job.generating sb) := by
  have asked := h.modify (f := ({ · with imageStatus := .generating })) (fun sb => ⟨rfl, fun waiting => waiting⟩)
    (job.storyboards.findIdx (·.version = sb.version))
  refine ⟨asked.numbered, asked.pending, fun v is => ?_⟩
  cases is
  have versions : (job.generating sb).storyboards.map (·.version) = job.storyboards.map (·.version) :=
    versions_modify (by exact fun _ => rfl) _ _
  rw [versions]
  exact List.mem_map_of_mem member

instance recorded_queueImageStoryboard (version : ℕ) (sceneIndexes : List ℤ) :
    Within (Stable Recorded) (queueImageStoryboard version sceneIndexes) where
  leads s start := by
    rw [show queueImageStoryboard version sceneIndexes s = (match s.job.storyboard? version with
      | none => raise .notFound
      | some sb => _ : ServiceM Unit) s from rfl]
    cases found : s.job.storyboard? version with
    | none => exact start
    | some sb =>
      have asked := History.generating start (List.mem_of_find?_eq_some found)
      exact (within_forEach (R := Stable Recorded) sb.scenes.zipIdx).leads ⟨s.job.generating sb, s.tasks⟩ asked

instance (taskId : TaskId) (sb : StoryboardVersion) (sceneId : SceneId) (id : ArtifactId) :
    Within (Stable Recorded) (placeImage taskId sb sceneId id) := by
  unfold placeImage
  have ready : Within (Stable Recorded) (modifyStoryboard sb.version ({ · with imageStatus := .ready })) :=
    recorded_modifyStoryboard _ fun sb => ⟨rfl, fun waiting => waiting⟩
  refine .bind ?_ fun _ => ?_
  · exact recorded_modifyStoryboard _ fun sb => ⟨rfl, fun waiting => waiting⟩
  · infer_instance

instance (r : ImageResult) (sceneId : SceneId) : Within (Stable Recorded) (storeImage r sceneId) := by
  unfold storeImage
  refine .next fun job => ?_
  split
  · infer_instance
  split
  · infer_instance
  · infer_instance

instance recorded_handleImageResult (r : ImageResult) : Within (Stable Recorded) (handleImageResult r) := by
  unfold handleImageResult
  refine .next fun job => ?_
  split
  · infer_instance
  refine .ite inferInstance (.ite ?_ ?_)
  · refine .bind ?_ fun _ => .bind ?_ fun _ => ?_
    · exact Within.forEach _ fun sb _ => recorded_modifyStoryboard _ fun sb => ⟨rfl, fun waiting => waiting⟩
    · exact ⟨fun _ start => ⟨start.numbered, start.pending, start.active⟩⟩
    · infer_instance
  · exact .next fun images => .next fun _ => inferInstance

instance (env : Env) : Within (Stable Recorded) (drawPreviews env) := by
  unfold drawPreviews
  infer_instance

lemma History.append (h : History job) (next : sb.version = job.nextVersion) :
    History (job.append sb) := by
  have length : (job.append sb).storyboards.length = job.storyboards.length + 1 := by
    simp [Job.append]
  have versions : (job.append sb).storyboards.map (·.version) = job.storyboards.map (·.version) ++ [sb.version] := by
    rw [Job.append, List.map_append, List.map_map]
    congr 1
    apply List.map_congr_left
    intro previous _
    show (ite _ _ _ : StoryboardVersion).version = _
    split <;> rfl
  refine ⟨?_, fun k sb' found waiting => ?_, fun v is => ?_⟩
  · rw [versions, length, h.numbered, next, h.nextVersion, List.range'_concat]
    simp [Nat.add_comm]
  · rw [length]
    by_contra other
    have below : k < job.storyboards.length := by
      have := (List.getElem?_eq_some_iff.1 found).1
      omega
    -- an older storyboard that waited is superseded
    rw [Job.append, List.getElem?_append_left (by simpa using below), List.getElem?_map] at found
    obtain ⟨previous, _, rfl⟩ := Option.map_eq_some_iff.1 found
    split at waiting
    · cases waiting
    · rename_i not
      exact not waiting
  · cases is
    rw [versions]
    exact List.mem_append_right _ List.mem_cons_self

lemma recorded_appendStoryboard (env : Env) {s : System} (start : Recorded s)
    (next : sb.version = s.job.nextVersion) : Recorded (appendStoryboard env sb s).2 := by
  have entered := start.append next
  unfold appendStoryboard
  refine (Within.bind (R := Stable Recorded) (m := update .storyboardPendingApproval) inferInstance fun _ =>
    .handle inferInstance fun _ => inferInstance).leads ⟨s.job.append sb, s.tasks⟩ entered

instance recorded_handleResult (env : Env) (r : Result) : Within (Stable Recorded) (handleResult env r) where
  leads s start := by
    rcases handleResult_cases env r s with ⟨aside, _⟩ | ⟨scenes, sb, reports, run⟩
    · exact History.aside start aside
    · rw [run]
      exact recorded_appendStoryboard env start reports.version

lemma recorded_approveImages (version : ℕ) (d : Decision) (expected : Option ℤ) :
    Within (Stable Recorded) (approveImages version d expected) := by
  unfold approveImages
  refine .next fun sb => .next fun _ => .next fun _ =>
    .next fun _ => .bind ?_ fun _ => ?_
  · exact recorded_modifyStoryboard _ fun sb => ⟨rfl, fun waiting => waiting⟩
  · exact ⟨fun _ start => ⟨start.numbered, start.pending, start.active⟩⟩

lemma modest_supersede : Modest (·.supersede) := by
  intro sb
  dsimp only
  unfold StoryboardVersion.supersede
  split
  · exact ⟨rfl, fun waiting => waiting⟩
  · exact ⟨rfl, fun waiting => waiting⟩

lemma recorded_requestImageRevision (version : ℕ) (sceneIndexes : List ℤ) (revision : Option String)
    (expected : Option ℤ) :
    Within (Stable Recorded) (requestImageRevision version sceneIndexes revision expected) := by
  unfold requestImageRevision
  refine .next fun sb => .next fun _ => .bind ?_ fun _ =>
    .bind ?_ fun _ => .bind ?_ fun _ => inferInstance
  · exact ⟨fun _ start => History.replace start (fun _ sb => sb.supersede) (fun _ => modest_supersede)
      (fun k => List.getElem?_map) rfl⟩
  · exact recorded_modifyStoryboard _ fun sb => ⟨rfl, fun waiting => waiting⟩
  · exact ⟨fun _ start => ⟨start.numbered, start.pending, start.active⟩⟩

end

/-! ## Runs -/

lemma recorded_command (env : Env) (op : Op) : Within (Stable Recorded) (op.command env) := by
  cases op with
  | queue revision prompt => exact recorded_of_aside (h := aside_queue revision prompt)
  | handleResult r => exact (recorded_handleResult env r).bind fun _ => inferInstance
  | approve version d expected script => exact recorded_of_aside (h := aside_approve version d expected script)
  | approveImages version d expected => exact recorded_approveImages version d expected
  | requestImageRevision version indexes revision expected =>
    exact recorded_requestImageRevision version indexes revision expected
  | reject version d => exact recorded_of_aside (h := aside_reject version d)
  | regenerate version d revision prompt => exact recorded_of_aside (h := aside_regenerate version d revision prompt)
  | regenerateFromHistory version d revision prompt =>
    exact recorded_of_aside (h := aside_regenerateFromHistory version d revision prompt)
  | queueImageStoryboard version indexes => exact recorded_queueImageStoryboard version indexes
  | handleImageResult r => exact recorded_handleImageResult r

lemma recorded_run (env : Env) {s : System} (start : Recorded s) (ops : List Op) : Recorded (s.run env ops) := by
  induction ops generalizing s with
  | nil => exact start
  | cons op ops ih =>
    have next := (recorded_command env op).leads s start
    exact ih next

def oneScene : Json := .obj (.cons "duration" (.num 5) (.cons "index" (.num 1) (.cons "prompt" (.str "a still")
  (.cons "video_prompt" (.str "a lake") .nil))))

/-- A storyboard of that scene, as a worker reports it. -/
def oneSceneStoryboard (version : ℕ) : Json := .obj (.cons "description" (.str "") (.cons "hashtags" (.arr .nil)
  (.cons "model" (.str "m") (.cons "prompt_version" (.str "1") (.cons "scenes" (.arr (.cons oneScene .nil))
    (.cons "title" (.str "Lakes") (.cons "version" (.num version) .nil)))))))

/-- The result of the text task `taskId`. -/
def reported (taskId : TaskId) (version : ℕ) : Result where
  taskId := taskId
  success := true
  artifacts := [⟨some "storyboard", some (oneSceneStoryboard version)⟩]
  prompt := .ok "again"

/-- Settings of a host with workers. -/
def withWorkers : Env where
  numerals := ⟨fun _ => none, fun _ => none⟩
  maxRetries := 3
  localFallback := false
  demoImage := .ok ()
  demoStored := .ok ()

def scripted : System := { job := { status := .scriptApproved } }

/-- A second version while the first one is in review. -/
def twoVersions : List Op :=
  [.queue none (.ok "prompt"), .handleResult (reported 0 1), .queue (some "calmer") (.ok "prompt"),
    .handleResult (reported 2 2)]

end Vertep.Storyboard
