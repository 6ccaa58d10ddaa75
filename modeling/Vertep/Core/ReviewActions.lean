import Vertep.Core.VideoReview
import Vertep.Lib.Raised

/-!
# Review actions that are refused

Embedding of `approve_script`, `request_script_revision`, `regenerate_script`, `approve_video`,
`request_video_revision` and `regenerate_video` (`core/pipeline.py`) with all that they write of a Job, and of
`generate_script` and `_enqueue_script_task` (`core/api/job_helpers.py`) as far as a Job without a script goes through
them. Each action has a check of the status of its own and then calls `transition`, which asks the table; between the
two it writes. So an action that is refused may have written before.

What the actions meet outside may raise as well: saving the Job, reading the prompt, starting the script. `update` and
`event` do nothing for a Job that was deleted. Notifications are left out, which raise nothing. In `Core.VideoReview`
a save does not raise: see `approveVideo_mirrors`.
-/

namespace Vertep.Core.Reviewing
open Lib Command Queue

/-- A Job. -/
structure Record extends Review.Job where
  version : ℕ := 0
  revision : Option String := none
  script : Option Script := none
  scenes : List Scene := []
  stages : Option Stages := none
  artifacts : List PlannedArtifact := []
  activeTaskId : Option TaskId := none
  scriptTaskId : Option TaskId := none
  scriptAttempt : ℕ := 0
  scriptError : Option String := none
  activeTaskIds : Dict TaskId SceneId := ∅
  completedTaskIds : List TaskId := []
  assignedWorker : Option NodeName := none
  outputPath : Option String := none

inductive Raised where
  /-- `Cannot ... in status ...` -/
  | cannot (action : String) (status : JobStatus)
  /-- `Invalid job transition: ... -> ...` -/
  | invalidTransition (previous current : JobStatus)
  /-- The other checks of a review. -/
  | review (refusal : Review.Refusal)
  /-- What the outside raises. -/
  | outside (valueError : Bool) (message : String)

def Raised.IsValueError : Raised → Prop
  | .outside valueError _ => valueError = true
  | _ => True

/-- How a script starts: as a task for a text worker, or made here. -/
inductive Start where
  | worker (enqueued : Except Raised TaskId) (recorded : Option Raised)
  | here (made : Except Raised Script) (written : Option Raised)

/-- What the actions meet outside: the digests of the files, the time, what saving a Job raises with an event of this
text, what reading the prompt raises, and the start of the script. -/
structure Outside where
  files : Review.Files
  now : Review.Instant
  saves : String → Option Raised
  prompt : Option Raised
  start : Start

abbrev JobM (α : Type) := Command Record Raised α

section
variable (out : Outside)

/-! ## The store -/

def event (text : String) : JobM Unit := do
  let job ← read
  if job.deleted then pure () else meet (out.saves text)

def update (status : JobStatus) (text : String) : JobM Unit := do
  let job ← read
  if job.deleted then pure ()
  else do
    write fun job => { job with status := status }
    meet (out.saves text)

def transition (status : JobStatus) (text : String) : JobM Unit := do
  let job ← read
  if jobTransitionAllowed job.status status then update out status text
  else raise (.invalidTransition job.status status)

/-! ## The script -/

def approveScript (actor : String) : JobM Unit := do
  let job ← read
  if job.status ≠ .scriptPendingApproval ∧ job.status ≠ .scriptRevisionRequested then
    raise (.cannot "approve script" job.status)
  else do
    write fun job => { job with approved := true, approvalStatus := some "approved", version := job.version + 1 }
    transition out .scriptApproved s!"SCRIPT APPROVED by {actor}"

def requestScriptRevision (revision actor : String) : JobM Unit := do
  let job ← read
  if job.status ≠ .scriptPendingApproval then raise (.cannot "request script revision" job.status)
  else do
    write fun job =>
      { job with approvalStatus := some "revision_requested", version := job.version + 1, revision := some revision }
    transition out .scriptRevisionRequested s!"SCRIPT REVISION REQUESTED by {actor}: {revision}"

def initializePlan (job : Record) : Record :=
  { job with
    stages := some (job.stages.getD { script := if job.script.isSome then .ready else .pending })
    scenes := match job.script with
      | some script => if job.scenes = [] then script.plan else job.scenes
      | none => job.scenes }

/-- `_enqueue_script_task`, with `_generate_script_local` where there is no text worker. -/
def enqueueScriptTask : Start → JobM Unit
  | .worker enqueued recorded => do
    let taskId ← answer enqueued
    write fun job => { job with scriptTaskId := some taskId, activeTaskId := some taskId }
    meet recorded
    event out s!"SCRIPT TASK {taskId} QUEUED"
    update out .scriptQueued "SCRIPT TASK QUEUED"
  | .here made written => do
    let script ← answer made
    write fun job => { job with script := some script, scriptAttempt := 0, scriptError := none }
    update out .scriptGenerating "SCRIPT GENERATING (LOCAL FALLBACK)"
    meet written
    update out .scriptPendingApproval "SCRIPT GENERATED (LOCAL FALLBACK)"

/-- `generate_script` of a Job without a script. -/
def generateScript : JobM Unit := do
  let job ← read
  if job.status.halted then pure ()
  else do
    write initializePlan
    meet out.prompt
    enqueueScriptTask out out.start

/-- What a regeneration clears; of the artifacts the inputs stay. -/
def Record.cleared (job : Record) (revision : Option String) : Record :=
  { job with
    revision := revision
    script := none
    scenes := []
    stages := none
    artifacts := job.artifacts.filter (·.kind = "input")
    activeTaskId := none
    scriptTaskId := none
    scriptAttempt := 0
    scriptError := none
    activeTaskIds := ∅
    completedTaskIds := []
    assignedWorker := none
    outputPath := none
    version := job.version + 1 }

def regenerateScript (revision : Option String) : JobM Unit := do
  let job ← read
  if job.status ≠ .scriptRevisionRequested then raise (.cannot "regenerate script" job.status)
  else do
    write (·.cleared revision)
    transition out .scriptQueued "SCRIPT REGENERATING"
    generateScript out

/-! ## The video -/

def Record.marked (job : Record) (active : ℕ) (actor : String) (now : Review.Instant) : Record :=
  { job with toJob := { job.toJob.approve active actor now with approved := true, approvalStatus := some "approved" } }

/-- The transitions of an approval. -/
def approved (actor : String) (active : ℕ) : JobM Unit := do
  transition out .videoApproved s!"VIDEO APPROVED by {actor} (v{active})"
  transition out .videoReady s!"VIDEO READY (v{active})"
  transition out .ready s!"VIDEO APPROVED; JOB READY by {actor} (v{active})"

def approveVideo (actor : String) (expectedVersion : Option ℕ) (expectedSha256 : Option String) : JobM Unit := do
  let job ← read
  if job.status ≠ .videoPendingApproval then raise (.cannot "approve video" job.status)
  else match job.activeVideoVersion with
    | none => raise (.review .noActiveVersion)
    | some active =>
      if expectedVersion.isSome ∧ expectedVersion ≠ some active then
        raise (.review (.staleVersion (expectedVersion.getD 0) active))
      else do
        answer ((Review.checkReviewed out.files active expectedSha256 job.toJob).1.mapError .review)
        write (·.marked active actor out.now)
        approved out actor active

def requestVideoRevision (revision actor : String) : JobM Unit := do
  let text := strip revision
  if text = "" then raise (.review .textRequired)
  else do
    let job ← read
    if job.status ≠ .videoPendingApproval then raise (.cannot "request video revision" job.status)
    else do
      write fun job => { job with
        videoRevisions := job.videoRevisions ++ [⟨job.activeVideoVersion.getD 0, text, actor⟩] }
      if text = "regenerate" then
        transition out .videoRevisionRequested s!"VIDEO REVISION REQUESTED by {actor}: regenerate"
      else do
        write fun job => { job with videoRevisionUpstream := some text, approvalStatus := some "revision_requested" }
        transition out .scriptRevisionRequested s!"VIDEO REVISION ROUTED TO SCRIPT by {actor}: {text}"
        regenerateScript out (some text)

def regenerateVideo : JobM Unit := do
  let job ← read
  if job.status ≠ .videoRevisionRequested then raise (.cannot "regenerate video" job.status)
  else transition out .assembly "VIDEO REGENERATING"

inductive Action where
  | approveScript (actor : String)
  | requestScriptRevision (revision actor : String)
  | regenerateScript (revision : Option String)
  | approveVideo (actor : String) (expectedVersion : Option ℕ) (expectedSha256 : Option String)
  | requestVideoRevision (revision actor : String)
  | regenerateVideo

def Action.run : Action → JobM Unit
  | .approveScript actor => Reviewing.approveScript out actor
  | .requestScriptRevision revision actor => Reviewing.requestScriptRevision out revision actor
  | .regenerateScript revision => Reviewing.regenerateScript out revision
  | .approveVideo actor expectedVersion expectedSha256 =>
    Reviewing.approveVideo out actor expectedVersion expectedSha256
  | .requestVideoRevision revision actor => Reviewing.requestVideoRevision out revision actor
  | .regenerateVideo => Reviewing.regenerateVideo out

/-! ## What the outside raises -/

def Outside.saved (deleted : Bool) (text : String) : Option Raised := if deleted then none else out.saves text

/-- What the start of the script raises first. -/
def Outside.starting (deleted : Bool) : Option Raised :=
  match out.start with
  | .worker (.error e) _ => some e
  | .worker (.ok taskId) recorded =>
    recorded.or ((out.saved deleted s!"SCRIPT TASK {taskId} QUEUED").or (out.saved deleted "SCRIPT TASK QUEUED"))
  | .here (.error e) _ => some e
  | .here (.ok _) written =>
    (out.saved deleted "SCRIPT GENERATING (LOCAL FALLBACK)").or
      (written.or (out.saved deleted "SCRIPT GENERATED (LOCAL FALLBACK)"))

def Outside.regenerating (deleted : Bool) : Option Raised :=
  (out.saved deleted "SCRIPT REGENERATING").or (out.prompt.or (out.starting deleted))

/-- What the transitions of an approval meet first. -/
def Outside.approving (actor : String) (active : ℕ) : Option Raised :=
  (out.saves s!"VIDEO APPROVED by {actor} (v{active})").or
    ((out.saves s!"VIDEO READY (v{active})").or (out.saves s!"VIDEO APPROVED; JOB READY by {actor} (v{active})"))

/-- Nothing of this is a `ValueError`. -/
abbrev Fine (x : Option Raised) : Prop := Spares Raised.IsValueError x

/-- When a refusal leaves the Job as it was. A script is not approved while a revision of it is requested: the check
of the status lets that pass, the table does not. Past its checks an action has written; then the outside must raise no
`ValueError`, and the Job not be deleted where a second transition follows the first. -/
def Action.Sound (job : Record) : Action → Prop
  | .approveScript actor => job.status ≠ .scriptRevisionRequested ∧
    (job.status = .scriptPendingApproval → Fine (out.saved job.deleted s!"SCRIPT APPROVED by {actor}"))
  | .requestScriptRevision revision actor => job.status = .scriptPendingApproval →
    Fine (out.saved job.deleted s!"SCRIPT REVISION REQUESTED by {actor}: {revision}")
  | .regenerateScript _ => job.status = .scriptRevisionRequested → Fine (out.regenerating job.deleted)
  | .approveVideo actor expectedVersion expectedSha256 => job.status = .videoPendingApproval →
    ∀ active, job.activeVideoVersion = some active → (∀ v, expectedVersion = some v → v = active) →
      (∀ h, expectedSha256 = some h → ∃ v, job.record active = some v ∧ v.sha256 = h ∧ out.files v.path = some h) →
      if job.deleted then job.marked active actor out.now = job
      else Fine (out.approving actor active)
  | .requestVideoRevision revision actor => strip revision ≠ "" → job.status = .videoPendingApproval →
    if strip revision = "regenerate" then
      Fine (out.saved job.deleted s!"VIDEO REVISION REQUESTED by {actor}: regenerate")
    else job.deleted = false ∧
      Fine ((out.saves s!"VIDEO REVISION ROUTED TO SCRIPT by {actor}: {strip revision}").or (out.regenerating false))
  | .regenerateVideo => job.status = .videoRevisionRequested → Fine (out.saved job.deleted "VIDEO REGENERATING")

section
variable {job : Record} {status : JobStatus} {text : String}

lemma raised_event : raised (event out text) job = out.saved job.deleted text := by
  simp only [event, raised_read_bind, Outside.saved]
  split
  · rfl
  · exact raised_meet _ _

lemma update_of_deleted (deleted : job.deleted = true) : update out status text job = (.ok (), job) := by
  simp only [update, read_bind, deleted, if_true]
  rfl

lemma raised_update : raised (update out status text) job = out.saved job.deleted text := by
  simp only [update, raised_read_bind, Outside.saved]
  split
  · rfl
  · exact raised_meet _ _

lemma update_of_present (present : job.deleted = false) :
    update out status text job = meet (out.saves text) { job with status := status } := by
  simp only [update, read_bind, present, Bool.false_eq_true, if_false, write_bind]

lemma state_update (present : job.deleted = false) :
    (update out status text job).2 = { job with status := status } := by
  rw [update_of_present out present, state_meet]

lemma transition_of_allowed (allowed : jobTransitionAllowed job.status status = true) :
    transition out status text job = update out status text job := by
  rw [transition, read_bind, if_pos allowed]

lemma transition_of_forbidden (forbidden : jobTransitionAllowed job.status status = false) :
    transition out status text job = (.error (.invalidTransition job.status status), job) := by
  rw [transition, read_bind, if_neg (by simp [forbidden])]
  rfl

lemma raised_transition (allowed : jobTransitionAllowed job.status status = true) :
    raised (transition out status text) job = out.saved job.deleted text := by
  rw [raised, transition_of_allowed out allowed]
  exact raised_update out

end

/-! ## What is kept -/

def Record.fixed (job : Record) : ℕ × Bool × List Review.VideoRevision :=
  (job.version, job.deleted, job.videoRevisions)

instance keeps_event (text : String) : Keeps Record.fixed (event out text) := by
  unfold event
  infer_instance

instance keeps_update (status : JobStatus) (text : String) : Keeps Record.fixed (update out status text) := by
  unfold update
  have writes : Keeps Record.fixed (write fun job : Record => { job with status := status } : JobM Unit) :=
    keeps_write fun _ => rfl
  infer_instance

instance keeps_transition (status : JobStatus) (text : String) :
    Keeps Record.fixed (transition out status text) := by
  unfold transition
  infer_instance

instance (start : Start) : Keeps Record.fixed (enqueueScriptTask out start) := by
  cases start with
  | worker enqueued recorded =>
    refine .next fun taskId => .bind (keeps_write fun _ => rfl) fun _ => inferInstance
  | here made written =>
    refine .next fun script => .bind (keeps_write fun _ => rfl) fun _ => inferInstance

instance : Keeps Record.fixed (generateScript out) := by
  unfold generateScript
  have writes : Keeps Record.fixed (write initializePlan : JobM Unit) := keeps_write fun _ => rfl
  infer_instance

section
variable {job : Record}

lemma changed_of_version {job' : Record} (more : job'.version = job.version + 1) : job' ≠ job := by
  intro same
  rw [same] at more
  omega

lemma changed_of_revisions {job' : Record} {x : Review.VideoRevision}
    (more : job'.videoRevisions = job.videoRevisions ++ [x]) : job' ≠ job := by
  intro same
  rw [same] at more
  simpa using congrArg List.length more

@[simp] lemma deleted_event (text : String) : (event out text job).2.deleted = job.deleted :=
  congrArg (·.2.1) ((keeps_event out text).keeps job)

@[simp] lemma deleted_update (status : JobStatus) (text : String) :
    (update out status text job).2.deleted = job.deleted :=
  congrArg (·.2.1) ((keeps_update out status text).keeps job)

lemma raised_enqueueScriptTask : raised (enqueueScriptTask out out.start) job = out.starting job.deleted := by
  unfold Outside.starting
  rcases out.start with ⟨e | taskId, recorded⟩ | ⟨e | script, written⟩
  · rfl
  · simp only [enqueueScriptTask, raised_answer_ok_bind, raised_write_bind, raised_meet_bind]
    simp only [raised_bind, raised_event, raised_update, deleted_event]
  · rfl
  · simp only [enqueueScriptTask, raised_answer_ok_bind, raised_write_bind]
    rw [raised_bind, raised_meet_bind, raised_update, raised_update, deleted_update]

lemma raised_generateScript (goes : job.status.halted = false) :
    raised (generateScript out) job = out.prompt.or (out.starting job.deleted) := by
  simp only [generateScript, raised_read_bind, goes, Bool.false_eq_true, if_false, raised_write_bind, raised_meet_bind]
  rw [raised_enqueueScriptTask]
  rfl

lemma regenerateScript_spec (requested : job.status = .scriptRevisionRequested) (revision : Option String) :
    (regenerateScript out revision job).2.fixed = (job.version + 1, job.deleted, job.videoRevisions) ∧
      raised (regenerateScript out revision) job = out.regenerating job.deleted := by
  have allowed : jobTransitionAllowed (job.cleared revision).status .scriptQueued = true := by
    show jobTransitionAllowed job.status _ = true
    rw [requested]
    decide
  have goes : (transition out .scriptQueued "SCRIPT REGENERATING" (job.cleared revision)).2.status.halted = false := by
    rw [transition_of_allowed out allowed]
    cases is : (job.cleared revision).deleted with
    | true =>
      rw [update_of_deleted out is]
      show job.status.halted = false
      rw [requested]
      rfl
    | false =>
      rw [state_update out is]
      rfl
  have open_ : ¬ job.status ≠ .scriptRevisionRequested := not_not.2 requested
  constructor
  · rw [regenerateScript, read_bind, if_neg open_, write_bind]
    exact Within.keeps (m := transition out .scriptQueued "SCRIPT REGENERATING" >>= fun _ => generateScript out)
      inferInstance (job.cleared revision)
  · rw [regenerateScript, raised_read_bind, if_neg open_, raised_write_bind, raised_bind, raised_transition out allowed,
      raised_generateScript out goes]
    have kept := (keeps_transition out .scriptQueued "SCRIPT REGENERATING").keeps (job.cleared revision)
    rw [show (transition out .scriptQueued "SCRIPT REGENERATING" (job.cleared revision)).2.deleted = job.deleted from
      congrArg (·.2.1) kept]
    rfl

end

/-! ## The actions -/

section
variable (job : Record)

lemma approveScript_untouched (actor : String) :
    Command.Untouched Raised.IsValueError (approveScript out actor) job ↔ (Action.approveScript actor).Sound out job := by
  by_cases pending : job.status = .scriptPendingApproval
  · have allowed : jobTransitionAllowed job.status .scriptApproved = true := by
      rw [pending]
      decide
    have open_ : ¬ (job.status ≠ .scriptPendingApproval ∧ job.status ≠ .scriptRevisionRequested) :=
      fun closed => closed.1 pending
    have changed : (approveScript out actor job).2 ≠ job := by
      apply changed_of_version
      rw [approveScript, read_bind, if_neg open_, write_bind]
      exact congrArg Prod.fst ((keeps_transition out _ _).keeps _)
    have raises : raised (approveScript out actor) job = out.saved job.deleted s!"SCRIPT APPROVED by {actor}" := by
      rw [approveScript, raised_read_bind, if_neg open_, raised_write_bind]
      exact raised_transition out allowed
    rw [untouched_of_changed changed, raises]
    exact ⟨fun fine => ⟨by rw [pending]; decide, fun _ => fine⟩, fun sound => sound.2 pending⟩
  · by_cases requested : job.status = .scriptRevisionRequested
    · -- the gate lets the call pass, the table does not
      have forbidden : jobTransitionAllowed job.status .scriptApproved = false := by
        rw [requested]
        decide
      have open_ : ¬ (job.status ≠ .scriptPendingApproval ∧ job.status ≠ .scriptRevisionRequested) :=
        fun closed => closed.2 requested
      refine iff_of_false ?_ fun sound => sound.1 requested
      intro untouched
      have run : ∃ job', approveScript out actor job = (.error (.invalidTransition job.status .scriptApproved), job') ∧
          job'.version = job.version + 1 := by
        rw [approveScript, read_bind, if_neg open_, write_bind]
        exact ⟨_, transition_of_forbidden out forbidden, rfl⟩
      obtain ⟨job', run, more⟩ := run
      apply changed_of_version more
      have same := untouched (.invalidTransition job.status .scriptApproved) (by rw [raised, run]) trivial
      rwa [run] at same
    · refine iff_of_true (untouched_of_same ?_) ⟨requested, fun is => absurd is pending⟩
      rw [approveScript, read_bind, if_pos ⟨pending, requested⟩]
      rfl

lemma requestScriptRevision_untouched (revision actor : String) :
    Command.Untouched Raised.IsValueError (requestScriptRevision out revision actor) job ↔
      (Action.requestScriptRevision revision actor).Sound out job := by
  by_cases pending : job.status = .scriptPendingApproval
  · have allowed : jobTransitionAllowed job.status .scriptRevisionRequested = true := by
      rw [pending]
      decide
    have changed : (requestScriptRevision out revision actor job).2 ≠ job := by
      apply changed_of_version
      rw [requestScriptRevision, read_bind, if_neg (not_not.2 pending), write_bind]
      exact congrArg Prod.fst ((keeps_transition out _ _).keeps _)
    have raises : raised (requestScriptRevision out revision actor) job =
        out.saved job.deleted s!"SCRIPT REVISION REQUESTED by {actor}: {revision}" := by
      rw [requestScriptRevision, raised_read_bind, if_neg (not_not.2 pending), raised_write_bind]
      exact raised_transition out allowed
    rw [untouched_of_changed changed, raises]
    exact ⟨fun fine _ => fine, fun sound => sound pending⟩
  · refine iff_of_true (untouched_of_same ?_) fun is => absurd is pending
    rw [requestScriptRevision, read_bind, if_pos pending]
    rfl

lemma regenerateScript_untouched (revision : Option String) :
    Command.Untouched Raised.IsValueError (regenerateScript out revision) job ↔
      (Action.regenerateScript revision).Sound out job := by
  by_cases requested : job.status = .scriptRevisionRequested
  · obtain ⟨fixed, raises⟩ := regenerateScript_spec out requested revision
    rw [untouched_of_changed (changed_of_version (congrArg Prod.fst fixed)), raises]
    exact ⟨fun fine _ => fine, fun sound => sound requested⟩
  · refine iff_of_true (untouched_of_same ?_) fun is => absurd is requested
    rw [regenerateScript, read_bind, if_pos requested]
    rfl

lemma regenerateVideo_untouched :
    Command.Untouched Raised.IsValueError (regenerateVideo out) job ↔ Action.regenerateVideo.Sound out job := by
  by_cases requested : job.status = .videoRevisionRequested
  · have allowed : jobTransitionAllowed job.status .assembly = true := by
      rw [requested]
      decide
    have open_ : ¬ job.status ≠ .videoRevisionRequested := not_not.2 requested
    have run : regenerateVideo out job = update out .assembly "VIDEO REGENERATING" job := by
      rw [regenerateVideo, read_bind, if_neg open_, transition_of_allowed out allowed]
    cases is : job.deleted with
    | true =>
      refine iff_of_true (untouched_of_same ?_) fun _ e raises => ?_
      · rw [run, update_of_deleted out is]
      · rw [is] at raises
        cases raises
    | false =>
      have changed : (regenerateVideo out job).2 ≠ job := by
        intro same
        have moved := congrArg (·.status) same
        rw [run, state_update out is, requested] at moved
        cases moved
      rw [untouched_of_changed changed, raised, run]
      rw [← raised, raised_update]
      exact ⟨fun fine _ => fine, fun sound => sound requested⟩
  · refine iff_of_true (untouched_of_same ?_) fun is => absurd is requested
    rw [regenerateVideo, read_bind, if_pos requested]
    rfl

/-- The checks of `expected_sha256` raise, or the file is the one that was reviewed. -/
lemma reviewed_cases (active : ℕ) (expected : Option String) :
    (∃ e, (Review.checkReviewed out.files active expected job.toJob).1 = .error e) ∧
      ¬ (∀ h, expected = some h → ∃ v, job.record active = some v ∧ v.sha256 = h ∧ out.files v.path = some h) ∨
    (Review.checkReviewed out.files active expected job.toJob).1 = .ok () ∧
      ∀ h, expected = some h → ∃ v, job.record active = some v ∧ v.sha256 = h ∧ out.files v.path = some h := by
  rcases Review.checkReviewed_cases out.files job.toJob active expected with ⟨⟨e, run⟩, bad⟩ | ⟨run, good⟩
  · exact .inl ⟨⟨e, by rw [run]⟩, bad⟩
  · exact .inr ⟨by rw [run], good⟩

lemma approved_of_present {job : Record} (actor : String) (active : ℕ) (pending : job.status = .videoPendingApproval)
    (present : job.deleted = false) : (approved out actor active job).2.status ≠ .videoPendingApproval ∧
      raised (approved out actor active) job = out.approving actor active := by
  unfold approved Outside.approving
  have first (text : String) : transition out .videoApproved text job =
      meet (out.saves text) { job with status := .videoApproved } := by
    rw [transition_of_allowed out (by rw [pending]; decide), update_of_present out present]
  have second (text : String) : transition out .videoReady text { job with status := .videoApproved } =
      meet (out.saves text) { job with status := .videoReady } :=
    (transition_of_allowed out rfl).trans (update_of_present out present)
  have third (text : String) : transition out .ready text { job with status := .videoReady } =
      meet (out.saves text) { job with status := .ready } :=
    (transition_of_allowed out rfl).trans (update_of_present out present)
  simp only [raised, bind_apply, first]
  cases out.saves s!"VIDEO APPROVED by {actor} (v{active})" with
  | some e => exact ⟨fun same => (by cases same), rfl⟩
  | none =>
    simp only [meet, pure_apply, second]
    cases out.saves s!"VIDEO READY (v{active})" with
    | some e => exact ⟨fun same => (by cases same), rfl⟩
    | none =>
      simp only [meet, pure_apply, third]
      cases out.saves s!"VIDEO APPROVED; JOB READY by {actor} (v{active})" with
      | some e | none => exact ⟨fun same => (by cases same), rfl⟩

lemma approved_of_deleted {job : Record} (actor : String) (active : ℕ) (pending : job.status = .videoPendingApproval)
    (deleted : job.deleted = true) :
    approved out actor active job = (.error (.invalidTransition job.status .videoReady), job) := by
  have first (text : String) : transition out .videoApproved text job = (.ok (), job) := by
    rw [transition_of_allowed out (by rw [pending]; decide), update_of_deleted out deleted]
  have forbidden : jobTransitionAllowed job.status .videoReady = false := by
    rw [pending]
    decide
  rw [approved, bind_of_ok (first _), bind_of_error (transition_of_forbidden out forbidden)]

lemma approveVideo_cases (actor : String) (expectedVersion : Option ℕ) (expectedSha256 : Option String) :
    (approveVideo out actor expectedVersion expectedSha256 job).2 = job ∧
      (∀ active, job.status = .videoPendingApproval → job.activeVideoVersion = some active →
        (∀ v, expectedVersion = some v → v = active) →
        ¬ ∀ h, expectedSha256 = some h → ∃ v, job.record active = some v ∧ v.sha256 = h ∧ out.files v.path = some h) ∨
    ∃ active, job.status = .videoPendingApproval ∧ job.activeVideoVersion = some active ∧
      (∀ v, expectedVersion = some v → v = active) ∧
      (∀ h, expectedSha256 = some h → ∃ v, job.record active = some v ∧ v.sha256 = h ∧ out.files v.path = some h) ∧
      approveVideo out actor expectedVersion expectedSha256 job =
        approved out actor active (job.marked active actor out.now) := by
  by_cases pending : job.status = .videoPendingApproval
  · have open_ : ¬ job.status ≠ .videoPendingApproval := not_not.2 pending
    cases is : job.activeVideoVersion with
    | none =>
      refine .inl ⟨?_, fun active _ other => by cases other⟩
      rw [approveVideo, read_bind, if_neg open_, is]
      rfl
    | some active =>
      by_cases stale : expectedVersion.isSome ∧ expectedVersion ≠ some active
      · refine .inl ⟨?_, fun active' _ other same => ?_⟩
        · rw [approveVideo, read_bind, if_neg open_, is]
          show ((if _ then _ else _ : JobM Unit) job).2 = _
          rw [if_pos stale]
          rfl
        · cases other
          obtain ⟨v, rfl⟩ := Option.isSome_iff_exists.1 stale.1
          exact absurd (congrArg some (same v rfl)) stale.2
      · have same : ∀ v, expectedVersion = some v → v = active := by
          intro v asked
          subst asked
          by_contra other
          exact stale ⟨rfl, by simpa using other⟩
        have run : approveVideo out actor expectedVersion expectedSha256 job =
            (answer ((Review.checkReviewed out.files active expectedSha256 job.toJob).1.mapError .review) >>= fun _ =>
              write (·.marked active actor out.now) >>= fun _ => approved out actor active : JobM Unit) job := by
          rw [approveVideo, read_bind, if_neg open_, is]
          show (if _ then _ else _ : JobM Unit) job = _
          rw [if_neg stale]
        rcases reviewed_cases out job active expectedSha256 with ⟨⟨e, refused⟩, bad⟩ | ⟨passed, good⟩
        · refine .inl ⟨?_, fun active' _ other _ => ?_⟩
          · rw [run, refused]
            rfl
          · cases other
            exact bad
        · rw [passed] at run
          exact .inr ⟨active, pending, rfl, same, good, run⟩
  · refine .inl ⟨?_, fun _ is => absurd is pending⟩
    rw [approveVideo, read_bind, if_pos pending]
    rfl

lemma approveVideo_untouched (actor : String) (expectedVersion : Option ℕ) (expectedSha256 : Option String) :
    Command.Untouched Raised.IsValueError (approveVideo out actor expectedVersion expectedSha256) job ↔
      (Action.approveVideo actor expectedVersion expectedSha256).Sound out job := by
  rcases approveVideo_cases out job actor expectedVersion expectedSha256 with
    ⟨same, closed⟩ | ⟨active, pending, is, asked, reviewed, run⟩
  · refine iff_of_true (untouched_of_same same) fun pending active is asked reviewed => ?_
    exact absurd reviewed (closed active pending is asked)
  have sound_iff {P : ℕ → Prop} : (job.status = .videoPendingApproval → ∀ active, job.activeVideoVersion = some active →
      (∀ v, expectedVersion = some v → v = active) →
      (∀ h, expectedSha256 = some h → ∃ v, job.record active = some v ∧ v.sha256 = h ∧ out.files v.path = some h) →
      P active) ↔ P active := by
    refine ⟨fun h => h pending active is asked reviewed, fun h _ active' other _ _ => ?_⟩
    cases is.symm.trans other
    exact h
  refine Iff.trans ?_ sound_iff.symm
  have marked : (job.marked active actor out.now).status = .videoPendingApproval := pending
  cases there : job.deleted with
  | true =>
    have run := run.trans (approved_of_deleted out actor active marked there)
    rw [if_pos rfl]
    refine ⟨fun untouched => ?_, fun same => untouched_of_same ?_⟩
    · have same := untouched (.invalidTransition job.status .videoReady) (by rw [raised, run]; rfl) trivial
      rwa [run] at same
    · rw [run]
      exact same
  | false =>
    obtain ⟨moved, raises⟩ := approved_of_present out actor active marked there
    have changed : (approveVideo out actor expectedVersion expectedSha256 job).2 ≠ job := by
      intro kept
      rw [run] at kept
      exact moved ((congrArg (·.status) kept).trans pending)
    have met : raised (approveVideo out actor expectedVersion expectedSha256) job = out.approving actor active := by
      rw [raised, run]
      exact raises
    rw [untouched_of_changed changed, met, if_neg Bool.false_ne_true]

lemma routedRevision_untouched {revision actor : String} (blank : strip revision ≠ "")
    (pending : job.status = .videoPendingApproval) (again : strip revision ≠ "regenerate") :
    Command.Untouched Raised.IsValueError (requestVideoRevision out revision actor) job ↔
      (Action.requestVideoRevision revision actor).Sound out job := by
  have open_ : ¬ job.status ≠ .videoPendingApproval := not_not.2 pending
  obtain ⟨noted, is⟩ : ∃ noted : Record, noted = { job with
      videoRevisions := job.videoRevisions ++ [⟨job.activeVideoVersion.getD 0, strip revision, actor⟩]
      videoRevisionUpstream := some (strip revision)
      approvalStatus := some "revision_requested" } := ⟨_, rfl⟩
  have run : requestVideoRevision out revision actor job =
      (transition out .scriptRevisionRequested
          s!"VIDEO REVISION ROUTED TO SCRIPT by {actor}: {strip revision}" >>= fun _ =>
        regenerateScript out (some (strip revision)) : JobM Unit) noted := by
    rw [requestVideoRevision, if_neg blank, read_bind, if_neg open_, write_bind, if_neg again, write_bind, is]
  have waits : noted.status = .videoPendingApproval := by
    rw [is]
    exact pending
  have allowed : jobTransitionAllowed noted.status .scriptRevisionRequested = true := by
    rw [waits]
    decide
  have more : noted.videoRevisions = job.videoRevisions ++
      [⟨job.activeVideoVersion.getD 0, strip revision, actor⟩] := by
    rw [is]
  have there : noted.deleted = job.deleted := by
    rw [is]
  cases gone : job.deleted with
  | true =>
    -- the status has not moved, so the regeneration that follows is refused
    have run : requestVideoRevision out revision actor job =
        (.error (.cannot "regenerate script" noted.status), noted) := by
      have first (text : String) : transition out .scriptRevisionRequested text noted = (.ok (), noted) := by
        rw [transition_of_allowed out allowed, update_of_deleted out (there.trans gone)]
      rw [run, bind_of_ok (first _), regenerateScript, read_bind, if_pos (by rw [waits]; decide)]
      rfl
    refine iff_of_false (fun untouched => ?_) fun sound => ?_
    · apply changed_of_revisions more
      have same := untouched (.cannot "regenerate script" noted.status) (by rw [raised, run]) trivial
      rwa [run] at same
    · have sound := sound blank pending
      rw [if_neg again, gone] at sound
      cases sound.1
  | false =>
    obtain ⟨moved, is'⟩ : ∃ moved : Record, moved = { noted with status := .scriptRevisionRequested } := ⟨_, rfl⟩
    have first (text : String) : transition out .scriptRevisionRequested text noted =
        meet (out.saves text) moved := by
      rw [transition_of_allowed out allowed, update_of_present out (there.trans gone), is']
    have run : requestVideoRevision out revision actor job =
        (meet (out.saves s!"VIDEO REVISION ROUTED TO SCRIPT by {actor}: {strip revision}") >>= fun _ =>
          regenerateScript out (some (strip revision)) : JobM Unit) moved := by
      rw [run, bind_apply, first, ← bind_apply]
    have requested : moved.status = .scriptRevisionRequested := by
      rw [is']
    have present : moved.deleted = false := by
      rw [is']
      exact there.trans gone
    have more : moved.videoRevisions = job.videoRevisions ++
        [⟨job.activeVideoVersion.getD 0, strip revision, actor⟩] := by
      rw [is']
      exact more
    obtain ⟨fixed, raises⟩ := regenerateScript_spec out requested (some (strip revision))
    have changed : (requestVideoRevision out revision actor job).2 ≠ job := by
      apply changed_of_revisions
      rw [run]
      cases out.saves s!"VIDEO REVISION ROUTED TO SCRIPT by {actor}: {strip revision}" with
      | some e => exact more
      | none => exact (congrArg (·.2.2) fixed).trans more
    have met : raised (requestVideoRevision out revision actor) job =
        (out.saves s!"VIDEO REVISION ROUTED TO SCRIPT by {actor}: {strip revision}").or
          (out.regenerating false) := by
      rw [raised, run, ← raised, raised_meet_bind, raises, present]
    rw [untouched_of_changed changed, met]
    refine ⟨fun fine _ _ => ?_, fun sound => ?_⟩
    · rw [if_neg again]
      exact ⟨gone, fine⟩
    · have sound := sound blank pending
      rw [if_neg again] at sound
      exact sound.2

lemma requestVideoRevision_untouched (revision actor : String) :
    Command.Untouched Raised.IsValueError (requestVideoRevision out revision actor) job ↔
      (Action.requestVideoRevision revision actor).Sound out job := by
  by_cases blank : strip revision = ""
  · refine iff_of_true (untouched_of_same ?_) fun text => absurd blank text
    rw [requestVideoRevision, if_pos blank]
    rfl
  by_cases pending : job.status = .videoPendingApproval
  · have open_ : ¬ job.status ≠ .videoPendingApproval := not_not.2 pending
    by_cases again : strip revision = "regenerate"
    · have allowed : jobTransitionAllowed job.status .videoRevisionRequested = true := by
        rw [pending]
        decide
      have changed : (requestVideoRevision out revision actor job).2 ≠ job := by
        apply changed_of_revisions
        rw [requestVideoRevision, if_neg blank, read_bind, if_neg open_, write_bind, if_pos again]
        exact congrArg (·.2.2) ((keeps_transition out _ _).keeps _)
      have raises : raised (requestVideoRevision out revision actor) job =
          out.saved job.deleted s!"VIDEO REVISION REQUESTED by {actor}: regenerate" := by
        rw [requestVideoRevision, if_neg blank, raised_read_bind, if_neg open_, raised_write_bind, if_pos again]
        exact raised_transition out allowed
      rw [untouched_of_changed changed, raises]
      refine ⟨fun fine _ _ => ?_, fun sound => ?_⟩
      · rwa [if_pos again]
      · have sound := sound blank pending
        rwa [if_pos again] at sound
    · exact routedRevision_untouched out job blank pending again
  · refine iff_of_true (untouched_of_same ?_) fun _ is => absurd is pending
    rw [requestVideoRevision, if_neg blank, read_bind, if_pos pending]
    rfl

/-- A refusal leaves the Job untouched exactly where the action is sound. -/
theorem refused_action_untouched (action : Action) :
    Command.Untouched Raised.IsValueError (action.run out) job ↔ action.Sound out job := by
  cases action with
  | approveScript actor => exact approveScript_untouched out job actor
  | requestScriptRevision revision actor => exact requestScriptRevision_untouched out job revision actor
  | regenerateScript revision => exact regenerateScript_untouched out job revision
  | approveVideo actor expectedVersion expectedSha256 =>
    exact approveVideo_untouched out job actor expectedVersion expectedSha256
  | requestVideoRevision revision actor => exact requestVideoRevision_untouched out job revision actor
  | regenerateVideo => exact regenerateVideo_untouched out job

end

end

/-- Nothing outside raises. -/
def quiet : Outside where
  files _ := none
  now := ""
  saves _ := none
  prompt := none
  start := .worker (.ok 1) none

/-- The check of the status lets an approval pass while a revision is requested; the table refuses it, and the Job is
approved. -/
theorem approval_refused_midway :
    ¬ Command.Untouched Raised.IsValueError (Action.run quiet (.approveScript "api"))
      { status := .scriptRevisionRequested } := by
  intro untouched
  have same := untouched (.invalidTransition .scriptRevisionRequested .scriptApproved) rfl trivial
  exact absurd (congrArg (·.version) same) (by decide)

/-! ## The review for any number of callers -/

/-- The steps end alike on the Job of `Core.VideoReview`. -/
def Mirrors (m : JobM Unit) (m' : Review.JobM Unit) : Prop := ∀ job : Record,
  ((m job).1 = .ok () ↔ (m' job.toJob).1 = .ok ()) ∧ (m job).2.toJob = (m' job.toJob).2

lemma Mirrors.bind {m n : JobM Unit} {m' n' : Review.JobM Unit} (h : Mirrors m m') (next : Mirrors n n') :
    Mirrors (m >>= fun _ => n) (m' >>= fun _ => n') := by
  intro job
  obtain ⟨ends, same⟩ := h job
  rw [bind_apply, bind_apply]
  generalize m job = x at ends same
  generalize m' job.toJob = x' at ends same
  obtain ⟨_ | _, s⟩ := x <;> obtain ⟨_ | _, s'⟩ := x' <;> simp at ends same <;> subst same
  · simp
  · exact next s

lemma raises_alike {e : Raised} {e' : Review.Refusal} :
    (Except.error e : Except Raised Unit) = .ok () ↔ (Except.error e' : Except Review.Refusal Unit) = .ok () :=
  iff_of_false (by rintro ⟨⟩) (by rintro ⟨⟩)

lemma transition_mirrors (out : Outside) (calm : ∀ text, out.saves text = none) (status : JobStatus) (text : String) :
    Mirrors (transition out status text) (Review.transition status) := by
  intro job
  rw [transition, Review.transition, update, Review.update, read_bind, read_bind]
  split
  · rw [read_bind, calm]
    cases gone : job.deleted <;> simp [gone, write, meet, bind_apply]
  · exact ⟨raises_alike, rfl⟩

/-- Where nothing raises on a save, an approval does what `Review.approveVideo` says. -/
theorem approveVideo_mirrors (out : Outside) (calm : ∀ text, out.saves text = none) (actor : String)
    (expectedVersion : Option ℕ) (expectedSha256 : Option String) :
    Mirrors (approveVideo out actor expectedVersion expectedSha256)
      (Review.approveVideo out.files actor expectedVersion expectedSha256 out.now) := by
  intro job
  rw [approveVideo, Review.approveVideo, read_bind, read_bind]
  split
  · exact ⟨raises_alike, rfl⟩
  cases job.activeVideoVersion with
  | none => exact ⟨raises_alike, rfl⟩
  | some active =>
    dsimp only
    split
    · exact ⟨raises_alike, rfl⟩
    rcases Review.checkReviewed_cases out.files job.toJob active expectedSha256 with ⟨⟨e, run⟩, _⟩ | ⟨run, _⟩
    · rw [bind_of_error run, run]
      exact ⟨raises_alike, rfl⟩
    · rw [bind_of_ok run, run]
      exact ((transition_mirrors out calm _ _).bind ((transition_mirrors out calm _ _).bind
        (transition_mirrors out calm _ _))) (job.marked active actor out.now)

end Vertep.Core.Reviewing
