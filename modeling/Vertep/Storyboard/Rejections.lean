import Vertep.Storyboard.Runs

/-!
# Rejected storyboards (`core/storyboard.py`)

A rejection puts a script back that was saved with an older version when that one was approved. What an approval saves
is the script of the Job from before, not the one it installs. To tell the two apart the runs here carry a record of
the approvals.
-/

namespace Vertep.Storyboard
open Lib Command Vertep.Core
open Queue (Json)

/-- An approval of a version: the script it found, and the one it installed; it installs none where none can be made. -/
structure Approval where
  version : ℕ
  before : Option Json
  installed : Option Json

/-- A state, and the approvals up to it, the last one first. -/
structure Watched where
  system : System
  approvals : List Approval := []

def Job.isApproved (job : Job) (version : ℕ) : Bool := (job.storyboard? version).any (·.status = .approved)

/-- What a call approves: the version is approved now and was not before. -/
def Op.approvals (s : System) : Op → List Approval
  | .approve version d expected script =>
    let after := Storyboard.approve version d expected script s
    if after.2.job.isApproved version ∧ ¬ s.job.isApproved version then
      [⟨version, s.job.script, match after.1 with
        | .ok _ => after.2.job.script
        | .error _ => none⟩]
    else []
  | _ => []

def Watched.step (env : Env) (w : Watched) (op : Op) : Watched :=
  ⟨w.system.step env op, op.approvals w.system ++ w.approvals⟩

def Watched.run (env : Env) (w : Watched) (ops : List Op) : Watched := ops.foldl (Watched.step env) w

def Watched.approval? (w : Watched) (version : ℕ) : Option Approval := w.approvals.find? (·.version = version)

def Job.others (job : Job) (version : ℕ) : List StoryboardVersion :=
  job.storyboards.filter fun sb => sb.version ≠ version ∧ sb.status = .approved

def scriptOf (script : Option Json) : Option Json := script.filter (· ≠ .obj .nil)

section
variable (w : Watched) (version : ℕ)

/-- What the approval of the most recent other version that is approved has installed; `none` where it has not. -/
def Watched.lastInstalled : Option (Option Json) :=
  (w.system.job.others version).getLast?.map fun sb => (w.approval? sb.version).bind (·.installed)

/-- A rejection of the version restores the last approved script; without one the Job is not approved. -/
def Watched.Restores (job : Job) : Prop :=
  match w.lastInstalled version with
  | none => job.approved = false ∧ job.script = w.system.job.script
  | some installed => installed.isSome ∧ job.script = installed

/-- The script that the Job had before the last approval, among those of other versions that are approved, which found
one that is not empty; where all found none, the script it has. -/
def Watched.older : Option Json :=
  ((w.system.job.others version).reverse.findSome? fun sb => scriptOf ((w.approval? sb.version).bind (·.before))).or
    w.system.job.script

/-- No other version is approved, or the last approval of one installed the script that was there already. -/
def Watched.Sound : Prop := ∀ installed, w.lastInstalled version = some installed →
  installed.isSome ∧ w.older version = installed

end

/-! ## Who approves -/

/-- What is approved afterwards was approved before, with the same script. -/
def Unapproving (s s' : System) : Prop := ∀ sb' ∈ s'.job.storyboards, sb'.status = .approved →
  ∃ sb ∈ s.job.storyboards, sb.version = sb'.version ∧ sb.status = .approved ∧ sb.approvedScript = sb'.approvedScript

instance : Std.Refl Unapproving := ⟨fun _ sb member approved => ⟨sb, member, rfl, approved, rfl⟩⟩

instance : IsTrans System Unapproving where
  trans s s' s'' h h' := by
    intro sb'' member approved
    obtain ⟨sb', member', version', approved', script'⟩ := h' sb'' member approved
    obtain ⟨sb, member, version, approved, script⟩ := h sb' member' approved'
    exact ⟨sb, member, version.trans version', approved, script.trans script'⟩

variable {f : StoryboardVersion → StoryboardVersion}

section

lemma unapproving_of_keeps {α : Type} {m : ServiceM α} (keeps : Keeps (·.job.storyboards) m) :
    Within Unapproving m where
  leads s := by
    intro sb member approved
    have same : (m s).2.job.storyboards = s.job.storyboards := keeps.keeps s
    rw [same] at member
    exact ⟨sb, member, rfl, approved, rfl⟩

lemma unapproving_modifyStoryboard (version : ℕ)
    (keeps : ∀ sb, (f sb).status = .approved →
      sb.version = (f sb).version ∧ sb.status = .approved ∧ sb.approvedScript = (f sb).approvedScript) :
    Within Unapproving (modifyStoryboard version f) where
  leads s := by
    intro sb' member approved
    rcases mem_modify member with old | ⟨sb, found, rfl⟩
    · exact ⟨sb', old, rfl, approved, rfl⟩
    · exact ⟨sb, List.mem_of_getElem? found, keeps sb approved⟩

lemma unapproving_modifyJob {f : Job → Job} (storyboards : ∀ job, (f job).storyboards = job.storyboards) :
    Within Unapproving (modifyJob f) := unapproving_of_keeps ⟨fun s => storyboards s.job⟩

instance unapproving_theJob : Within Unapproving theJob := unapproving_of_keeps ⟨fun _ => rfl⟩

instance unapproving_update (status : JobStatus) : Within Unapproving (update status) :=
  unapproving_of_keeps ⟨fun _ => rfl⟩

instance (taskId : TaskId) : Within Unapproving (dropTask taskId) :=
  unapproving_of_keeps ⟨fun _ => rfl⟩

instance (sceneId : Option SceneId) (taskId : TaskId) (workflow : String) :
    Within Unapproving (registerArtifact sceneId taskId workflow) := unapproving_of_keeps ⟨fun _ => rfl⟩

instance unapproving_queue (revision : Option String) (prompt : Except Outside String) :
    Within Unapproving (queue revision prompt) := unapproving_of_keeps (keeps_queue revision prompt)

instance unapproving_getStoryboard (version : ℕ) : Within Unapproving (getStoryboard version) := by
  unfold getStoryboard
  refine unapproving_theJob.bind fun job => ?_
  split <;> infer_instance

instance unapproving_activeStoryboard (version : ℕ) : Within Unapproving (activeStoryboard version) := by
  unfold activeStoryboard
  infer_instance

instance unapproving_checkReviewed (sb : StoryboardVersion) (expected : Option ℤ) :
    Within Unapproving (checkReviewed sb expected) := by
  unfold checkReviewed
  infer_instance

instance (sb : StoryboardVersion) (k : ℕ) (scene : StoryboardScene) :
    Within Unapproving (queueScene sb k scene) := by
  unfold queueScene
  refine .bind ?_ fun _ => unapproving_theJob.bind fun _ => .bind ?_ fun _ => ?_
  · exact unapproving_modifyStoryboard _ fun sb approved => ⟨rfl, approved, rfl⟩
  · exact unapproving_of_keeps ⟨fun _ => rfl⟩
  · exact unapproving_of_keeps ⟨fun _ => rfl⟩

instance unapproving_queueImageStoryboard (version : ℕ) (sceneIndexes : List ℤ) :
    Within Unapproving (queueImageStoryboard version sceneIndexes) := by
  unfold queueImageStoryboard
  refine unapproving_theJob.bind fun job => ?_
  split
  · infer_instance
  · rename_i sb _
    refine .bind ⟨fun s sb' member approved => ?_⟩ fun _ => inferInstance
    rcases mem_modify member with old | ⟨sb, found, rfl⟩
    · exact ⟨sb', old, rfl, approved, rfl⟩
    · exact ⟨sb, List.mem_of_getElem? found, rfl, approved, rfl⟩

instance (taskId : TaskId) (sb : StoryboardVersion) (sceneId : SceneId) (id : ArtifactId) :
    Within Unapproving (placeImage taskId sb sceneId id) := by
  unfold placeImage
  have ready : Within Unapproving (modifyStoryboard sb.version ({ · with imageStatus := .ready })) :=
    unapproving_modifyStoryboard _ fun sb approved => ⟨rfl, approved, rfl⟩
  refine .bind ?_ fun _ => inferInstance
  exact unapproving_modifyStoryboard _ fun sb approved => ⟨rfl, approved, rfl⟩

instance (r : ImageResult) (sceneId : SceneId) : Within Unapproving (storeImage r sceneId) := by
  unfold storeImage
  refine unapproving_theJob.bind fun job => ?_
  split
  · infer_instance
  split <;> infer_instance

instance unapproving_handleImageResult (r : ImageResult) : Within Unapproving (handleImageResult r) := by
  unfold handleImageResult
  refine unapproving_theJob.bind fun job => ?_
  split
  · infer_instance
  refine .ite inferInstance (.ite ?_ ?_)
  · refine .bind ?_ fun _ => .bind ?_ fun _ => inferInstance
    · exact Within.forEach _ fun sb _ => unapproving_modifyStoryboard _ fun sb approved => ⟨rfl, approved, rfl⟩
    · exact unapproving_of_keeps ⟨fun _ => rfl⟩
  · infer_instance

instance (env : Env) : Within Unapproving (drawPreviews env) := by
  unfold drawPreviews
  infer_instance

lemma unapproving_appendStoryboard (env : Env) {sb : StoryboardVersion} (pending : sb.status = .pendingApproval) :
    Within Unapproving (appendStoryboard env sb) := by
  unfold appendStoryboard
  refine .bind ⟨fun s sb' member approved => ?_⟩ fun _ => (unapproving_update _).bind fun _ =>
    .handle inferInstance fun _ => inferInstance
  rcases List.mem_append.1 member with old | new
  · obtain ⟨sb, there, rfl⟩ := List.mem_map.1 old
    split at approved
    · cases approved
    · rename_i other
      rw [if_neg other]
      exact ⟨sb, there, rfl, approved, rfl⟩
  · obtain rfl := List.mem_singleton.1 new
    cases pending.symm.trans approved

lemma unapproving_handleResult (env : Env) (r : Result) : Within Unapproving (handleResult env r) := by
  constructor
  intro s
  rcases handleResult_cases env r s with ⟨_, kept⟩ | ⟨_, sb, reports, run⟩
  · intro sb member approved
    rw [kept] at member
    exact ⟨sb, member, rfl, approved, rfl⟩
  · rw [run]
    exact (unapproving_appendStoryboard env reports.status).leads s

lemma unapproving_approveImages (version : ℕ) (d : Decision) (expected : Option ℤ) :
    Within Unapproving (approveImages version d expected) := by
  unfold approveImages
  refine (unapproving_activeStoryboard _).bind fun sb => (unapproving_checkReviewed _ _).bind fun _ =>
    .next fun _ => .next fun _ => .bind ?_ fun _ => ?_
  · exact unapproving_modifyStoryboard _ fun sb approved => ⟨rfl, approved, rfl⟩
  · exact unapproving_of_keeps ⟨fun _ => rfl⟩

lemma unapproving_requestImageRevision (version : ℕ) (sceneIndexes : List ℤ) (revision : Option String)
    (expected : Option ℤ) : Within Unapproving (requestImageRevision version sceneIndexes revision expected) := by
  unfold requestImageRevision
  refine (unapproving_activeStoryboard _).bind fun sb => (unapproving_checkReviewed _ _).bind fun _ =>
    .bind ⟨fun s sb' member approved => ?_⟩ fun _ => .bind ?_ fun _ => .bind ?_ fun _ => inferInstance
  · obtain ⟨sb, there, rfl⟩ := List.mem_map.1 member
    have same : sb.supersede.version = sb.version ∧ sb.supersede.status = sb.status ∧
        sb.supersede.approvedScript = sb.approvedScript := by
      unfold StoryboardVersion.supersede
      split <;> exact ⟨rfl, rfl, rfl⟩
    exact ⟨sb, there, same.1.symm, same.2.1.symm.trans approved, same.2.2.symm⟩
  · exact unapproving_modifyStoryboard _ fun sb approved => ⟨rfl, approved, rfl⟩
  · exact unapproving_of_keeps ⟨fun _ => rfl⟩

lemma unapproving_reject (version : ℕ) (d : Decision) : Within Unapproving (reject version d) := by
  unfold reject
  refine (unapproving_activeStoryboard _).bind fun sb => .bind ?_ fun _ => .bind ?_ fun _ =>
    .bind ?_ fun _ => inferInstance
  · exact unapproving_modifyStoryboard _ fun sb approved => (by cases approved)
  · apply unapproving_modifyJob
    intro job
    cases job.lastApproved version <;> rfl
  · exact unapproving_of_keeps ⟨fun _ => rfl⟩

lemma unapproving_regenerate (version : ℕ) (d : Decision) (revision : Option String) (prompt : Except Outside String) :
    Within Unapproving (regenerate version d revision prompt) := by
  unfold regenerate
  refine (unapproving_activeStoryboard _).bind fun sb => .bind ?_ fun _ => inferInstance
  exact unapproving_modifyStoryboard _ fun sb approved => (by cases approved)

lemma unapproving_regenerateFromHistory (version : ℕ) (d : Decision) (revision : Option String)
    (prompt : Except Outside String) : Within Unapproving (regenerateFromHistory version d revision prompt) := by
  unfold regenerateFromHistory
  refine (unapproving_getStoryboard _).bind fun base => .ite inferInstance ?_
  have superseded : Within Unapproving (modifyStoryboard base.version
      fun sb => { sb.decided d with status := .superseded }) :=
    unapproving_modifyStoryboard _ fun sb approved => (by cases approved)
  have reset : Within Unapproving (modifyJob ({ · with storyboardAttemptVersion := none })) :=
    unapproving_of_keeps ⟨fun _ => rfl⟩
  infer_instance

end

/-! ## Approvals -/

lemma activeStoryboard_pending {version : ℕ} {s : System} {sb : StoryboardVersion}
    (found : activeStoryboard version s = (.ok sb, s)) : sb.status = .pendingApproval := by
  unfold activeStoryboard at found
  rw [theJob_bind] at found
  split at found
  · cases found
  obtain ⟨sb', s', _, last⟩ := bind_eq_ok.1 found
  split at last
  · cases last
  · rename_i pending
    cases last
    exact not_not.1 pending

lemma approve_cases {s : System} (h : History s.job) (version : ℕ) (d : Decision) (expected : Option ℤ)
    (script : Except Outside Json) : (∃ e, approve version d expected script s = (.error e, s)) ∨
      (∃ sb, s.job.storyboard? version = some sb ∧ sb.status = .pendingApproval) ∧
        (approve version d expected script s).2.job.storyboards = s.job.storyboards.map fun sb =>
          if sb.version = version then { sb.decided d with status := .approved, approvedScript := s.job.script }
          else sb := by
  unfold approve
  rcases activeStoryboard_cases version s with ⟨e, run⟩ | ⟨sb, run, found⟩
  · exact .inl ⟨e, by rw [bind_of_error run]⟩
  have pending := activeStoryboard_pending run
  rw [bind_of_ok run, checkReviewed, when_raise_bind]
  split
  · exact .inl ⟨_, rfl⟩
  rw [when_raise_bind]
  split
  · exact .inl ⟨_, rfl⟩
  have is := storyboard?_version found
  refine .inr ⟨⟨sb, found, pending⟩, ?_⟩
  have saved := modify_findIdx h.nodup sb.version fun sb : StoryboardVersion =>
    { sb.decided d with status := .approved, approvedScript := s.job.script }
  rw [← is]
  refine Eq.trans ?_ saved
  cases script with
  | error e => rfl
  | ok script => rfl

/-- The versions are recorded, and each that is approved carries the script that its approval found. -/
structure Saved (w : Watched) : Prop where
  recorded : Recorded w.system
  saved : ∀ sb ∈ w.system.job.storyboards, sb.status = .approved →
    (w.approval? sb.version).map (·.before) = some sb.approvedScript

section
variable {w : Watched}

lemma Saved.unapproving (h : Saved w) {s' : System} (recorded : Recorded s') (unapproving : Unapproving w.system s') :
    Saved ⟨s', w.approvals⟩ := by
  refine ⟨recorded, fun sb' member approved => ?_⟩
  obtain ⟨sb, there, version, was, script⟩ := unapproving sb' member approved
  rw [← version, ← script]
  exact h.saved sb there was

lemma Saved.approve (h : Saved w) (env : Env) (version : ℕ) (d : Decision) (expected : Option ℤ)
    (script : Except Outside Json) : Saved (w.step env (.approve version d expected script)) := by
  have recorded := (recorded_command env (.approve version d expected script)).leads w.system h.recorded
  rcases approve_cases h.recorded version d expected script with ⟨e, run⟩ | ⟨⟨sb, found, pending⟩, storyboards⟩
  · have none_ : (Op.approve version d expected script).approvals w.system = [] := by
      simp [Op.approvals, run]
    have kept : Unapproving w.system (w.system.step env (.approve version d expected script)) := by
      show Unapproving w.system (Storyboard.approve version d expected script w.system).2
      rw [run]
      exact refl_of Unapproving _
    rw [Watched.step, none_]
    exact h.unapproving recorded kept
  · have was : w.system.job.isApproved version = false := by
      rw [Job.isApproved, found]
      simp [pending]
    have is : (Storyboard.approve version d expected script w.system).2.job.isApproved version = true := by
      have same : ((fun sb : StoryboardVersion => decide (sb.version = version)) ∘ fun sb : StoryboardVersion =>
          if sb.version = version then
            { sb.decided d with status := .approved, approvedScript := w.system.job.script }
          else sb) = fun sb => decide (sb.version = version) := by
        funext sb
        show decide ((ite _ _ _ : StoryboardVersion).version = version) = _
        split <;> rfl
      have first : sb.version = version := storyboard?_version found
      have found : w.system.job.storyboards.find? (fun sb => decide (sb.version = version)) = some sb := found
      rw [Job.isApproved, Job.storyboard?, storyboards, List.find?_map, same, found, Option.map_some, if_pos first]
      rfl
    obtain ⟨installed, noted⟩ : ∃ installed, (Op.approve version d expected script).approvals w.system =
        [⟨version, w.system.job.script, installed⟩] := by
      rw [Op.approvals, if_pos ⟨is, by simp [was]⟩]
      exact ⟨_, rfl⟩
    refine ⟨recorded, fun sb' member approved => ?_⟩
    change sb' ∈ (Storyboard.approve version d expected script w.system).2.job.storyboards at member
    rw [storyboards] at member
    obtain ⟨sb, there, rfl⟩ := List.mem_map.1 member
    rw [Watched.approval?, Watched.step, noted]
    by_cases this_ : sb.version = version
    · rw [if_pos this_]
      have first : (sb.decided d).version = version := this_
      simp [first]
    · rw [if_neg this_] at approved ⊢
      rw [List.singleton_append, List.find?_cons_of_neg (by simpa using Ne.symm this_)]
      exact h.saved sb there approved

lemma Saved.step (h : Saved w) (env : Env) (op : Op) : Saved (w.step env op) := by
  have recorded := (recorded_command env op).leads w.system h.recorded
  cases op with
  | queue revision prompt => exact h.unapproving recorded ((unapproving_queue revision prompt).leads _)
  | handleResult r =>
    have aside : Within Unapproving (Op.command env (.handleResult r)) :=
      (unapproving_handleResult env r).bind fun _ => inferInstance
    exact h.unapproving recorded (aside.leads _)
  | approve version d expected script => exact h.approve env version d expected script
  | approveImages version d expected =>
    exact h.unapproving recorded ((unapproving_approveImages version d expected).leads _)
  | requestImageRevision version indexes revision expected =>
    exact h.unapproving recorded ((unapproving_requestImageRevision version indexes revision expected).leads _)
  | reject version d => exact h.unapproving recorded ((unapproving_reject version d).leads _)
  | regenerate version d revision prompt =>
    exact h.unapproving recorded ((unapproving_regenerate version d revision prompt).leads _)
  | regenerateFromHistory version d revision prompt =>
    exact h.unapproving recorded ((unapproving_regenerateFromHistory version d revision prompt).leads _)
  | queueImageStoryboard version indexes =>
    exact h.unapproving recorded ((unapproving_queueImageStoryboard version indexes).leads _)
  | handleImageResult r => exact h.unapproving recorded ((unapproving_handleImageResult r).leads _)

lemma Saved.run (h : Saved w) (env : Env) (ops : List Op) : Saved (w.run env ops) := by
  induction ops generalizing w with
  | nil => exact h
  | cons op ops ih => exact ih (h.step env op)

end

/-! ## Rejections -/

lemma bind_find?_and {α β : Type} (p : α → Bool) (f : α → Option β) (good : β → Bool) (l : List α) :
    (l.find? fun a => p a ∧ (f a).any good).bind f = (l.filter p).findSome? fun a => (f a).filter good := by
  induction l with
  | nil => rfl
  | cons a l ih =>
    cases first : p a with
    | false => simpa [List.filter_cons, first] using ih
    | true =>
      cases found : f a with
      | none => simpa [List.filter_cons, first, found] using ih
      | some b =>
        cases fine : good b with
        | false => simpa [List.filter_cons, first, found, fine] using ih
        | true => simp [first, found, fine, Option.filter]

section
variable (job : Job) (version : ℕ)

lemma lastApproved_eq :
    job.lastApproved version = (job.others version).reverse.findSome? fun sb => scriptOf sb.approvedScript := by
  have found := bind_find?_and (fun sb : StoryboardVersion => sb.version ≠ version ∧ sb.status = .approved)
    (·.approvedScript) (· ≠ .obj .nil) job.storyboards.reverse
  rw [List.filter_reverse] at found
  have same : (fun sb : StoryboardVersion => decide (sb.version ≠ version ∧ sb.status = .approved ∧
      sb.approvedScript.any (· ≠ .obj .nil))) =
      fun sb => decide (decide (sb.version ≠ version ∧ sb.status = .approved) ∧
        sb.approvedScript.any (· ≠ .obj .nil)) := by
    funext sb
    rw [decide_eq_decide, decide_eq_true_eq, and_assoc]
  rw [Job.lastApproved, same]
  exact found

lemma others_modify (l : List StoryboardVersion)
    (keeps : ∀ sb, (f sb).version = sb.version) :
    (l.map fun sb => if sb.version = version then f sb else sb).filter
        (fun sb => sb.version ≠ version ∧ sb.status = .approved) =
      l.filter fun sb => sb.version ≠ version ∧ sb.status = .approved := by
  induction l with
  | nil => rfl
  | cons sb l ih =>
    by_cases this_ : sb.version = version
    · have after : (f sb).version = version := (keeps sb).trans this_
      rw [List.map_cons, if_pos this_, List.filter_cons_of_neg (by simp [after]),
        List.filter_cons_of_neg (by simp [this_]), ih]
    · rw [List.map_cons, if_neg this_, List.filter_cons, List.filter_cons, ih]

end

lemma lastApproved_modify {job job' : Job} (h : History job) {version : ℕ}
    (keeps : ∀ sb, (f sb).version = sb.version)
    (storyboards : job'.storyboards = job.storyboards.modify (job.storyboards.findIdx (·.version = version)) f) :
    job'.lastApproved version = job.lastApproved version := by
  rw [lastApproved_eq, lastApproved_eq, Job.others, storyboards, modify_findIdx h.nodup, others_modify _ _ keeps]
  rfl

lemma reject_spec {s : System} (h : History s.job) {version : ℕ} {d : Decision}
    (made : (reject version d s).1 = .ok ()) :
    (reject version d s).2.job.script = (s.job.lastApproved version).or s.job.script ∧
      (reject version d s).2.job.approved = (s.job.lastApproved version).isSome := by
  unfold reject at made ⊢
  rcases activeStoryboard_cases version s with ⟨e, run⟩ | ⟨sb, run, found⟩
  · rw [bind_of_error run] at made
    cases made
  · rw [bind_of_ok run]
    have is := storyboard?_version found
    have same : Job.lastApproved { s.job with
          storyboards := s.job.storyboards.modify (s.job.storyboards.findIdx (·.version = sb.version))
            (fun sb => { sb.decided d with status := .rejected }) } version = s.job.lastApproved version :=
      lastApproved_modify h (f := fun sb => { sb.decided d with status := .rejected }) (fun _ => rfl) (by rw [is])
    simp only [modifyStoryboard, modifyJob, update, write_bind, same]
    cases s.job.lastApproved version with
    | none | some script => exact ⟨rfl, rfl⟩

lemma Saved.older {w : Watched} (h : Saved w) (version : ℕ) :
    (w.system.job.lastApproved version).or w.system.job.script = w.older version := by
  rw [lastApproved_eq, Watched.older]
  congr 1
  have all : ∀ sb ∈ (w.system.job.others version).reverse,
      sb.approvedScript = (w.approval? sb.version).bind (·.before) := by
    intro sb member
    obtain ⟨there, other⟩ := List.mem_filter.1 (List.mem_reverse.1 member)
    obtain ⟨a, found, before⟩ := Option.map_eq_some_iff.1 (h.saved sb there (of_decide_eq_true other).2)
    rw [found, Option.bind_some, before]
  generalize (w.system.job.others version).reverse = l at all
  induction l with
  | nil => rfl
  | cons sb l ih =>
    rw [List.findSome?_cons, List.findSome?_cons, all sb List.mem_cons_self,
      ih fun sb member => all sb (List.mem_cons_of_mem _ member)]

/-- From a Job without storyboards, any calls in any order, and then a rejection that is made: it restores the script
that the last approval of another version that is still approved has installed, if and only if no other version is
approved or that script was there before. -/
theorem rejection_restores (env : Env) (start : System) (empty : start.job.storyboards = [])
    (inactive : start.job.activeStoryboardVersion = none) (ops : List Op) (version : ℕ) (d : Decision)
    (made : (reject version d (Watched.run env ⟨start, []⟩ ops).system).1 = .ok ()) :
    (Watched.run env ⟨start, []⟩ ops).Restores version
        (reject version d (Watched.run env ⟨start, []⟩ ops).system).2.job ↔
      (Watched.run env ⟨start, []⟩ ops).Sound version := by
  have recorded : Recorded start := by
    refine ⟨?_, fun k sb found => ?_, fun v is => ?_⟩
    · rw [empty]
      rfl
    · rw [empty] at found
      cases found
    · cases inactive.symm.trans is
  have first : Saved ⟨start, []⟩ := by
    refine ⟨recorded, fun sb member => ?_⟩
    rw [show (Watched.mk start []).system.job.storyboards = [] from empty] at member
    cases member
  have h := first.run env ops
  generalize Watched.run env ⟨start, []⟩ ops = w at h made
  obtain ⟨script, approved⟩ := reject_spec h.recorded made
  rw [h.older version] at script
  rw [Watched.Restores, Watched.Sound]
  cases last : w.lastInstalled version with
  | none =>
    have none_ : w.system.job.others version = [] := by
      rw [Watched.lastInstalled, Option.map_eq_none_iff] at last
      exact List.getLast?_eq_none_iff.1 last
    refine iff_of_true ⟨?_, ?_⟩ fun installed is => by cases is
    · rw [approved, lastApproved_eq, none_]
      rfl
    · rw [script, Watched.older, none_]
      rfl
  | some installed =>
    rw [script]
    exact ⟨fun restores other is => (by cases is; exact restores), fun sound => sound installed rfl⟩

def titled (title : String) : Json := .obj (.cons "title" (.str title) .nil)

def secondVersion : List Op := reviewed ++
  [.approve 1 ⟨"editor", "10:01"⟩ none (.ok (titled "Lakes")), .queue none (.ok "prompt"), .handleResult (reported 2 2)]

/-- A Job that had no script: the first approval found none, so the script it installed stays. -/
theorem rejection_restores_first :
    (Watched.run withWorkers ⟨scripted, []⟩ secondVersion).Restores 2
      (reject 2 ⟨"editor", "10:02"⟩ (Watched.run withWorkers ⟨scripted, []⟩ secondVersion).system).2.job := by
  apply (rejection_restores withWorkers scripted rfl rfl secondVersion 2 ⟨"editor", "10:02"⟩ (by decide +kernel)).2
  intro installed is
  rw [show (Watched.run withWorkers ⟨scripted, []⟩ secondVersion).lastInstalled 2 = some (some (titled "Lakes")) by
    decide +kernel] at is
  obtain rfl := Option.some.inj is
  decide +kernel

def drafted : System := { job := { status := .scriptApproved, script := some (titled "Draft") } }

/-- The first version was approved and its script installed; the rejection of the second one brings back the script from
before. -/
theorem rejection_brings_back_draft :
    ¬ (Watched.run withWorkers ⟨drafted, []⟩ secondVersion).Restores 2
        (reject 2 ⟨"editor", "10:02"⟩ (Watched.run withWorkers ⟨drafted, []⟩ secondVersion).system).2.job ∧
      (Watched.run withWorkers ⟨drafted, []⟩ secondVersion).lastInstalled 2 = some (some (titled "Lakes")) ∧
      (reject 2 ⟨"editor", "10:02"⟩ (Watched.run withWorkers ⟨drafted, []⟩ secondVersion).system).2.job.script =
        some (titled "Draft") := by
  have installed : (Watched.run withWorkers ⟨drafted, []⟩ secondVersion).lastInstalled 2 =
      some (some (titled "Lakes")) := by
    decide +kernel
  have script :
      (reject 2 ⟨"editor", "10:02"⟩ (Watched.run withWorkers ⟨drafted, []⟩ secondVersion).system).2.job.script =
        some (titled "Draft") := by
    decide +kernel
  refine ⟨fun restores => ?_, installed, script⟩
  rw [Watched.Restores, installed] at restores
  exact absurd (script.symm.trans restores.2) (by decide)

end Vertep.Storyboard
