import Vertep.Core.Actions
import Vertep.Core.Plan

/-!
# Reviews of a video

Embedding of `approve_video` and `request_video_revision` (`core/pipeline.py`) with all they write of the
approval, for any number of callers at once. A call holds the store lock for its critical section, so this
is one step; a revision by free text then runs `regenerate_script` without the lock, another step. What
the calls read of the disk is the digest of each file, by its path in the directory of the Job.

`update` does nothing for a Job that was deleted. Notifications are left out, and of `regenerate_script`
what it does to the status. `Core.Actions` has both reviews by their statuses only: see `approveVideo_same`.
-/

namespace Vertep.Core.Review
open Lib Command

abbrev Instant := String

structure VideoVersion where
  version : ℕ
  path : String
  sha256 : String
  approved : Bool := false
  approvedBy : Option String := none
  approvedAt : Option Instant := none
deriving DecidableEq

structure VideoRevision where
  version : ℕ
  text : String
  actor : String
deriving DecidableEq

structure Job where
  status : JobStatus
  deleted : Bool := false
  activeVideoVersion : Option ℕ := none
  videoVersions : List VideoVersion := []
  videoRevisions : List VideoRevision := []
  videoRevisionUpstream : Option String := none
  approved : Bool := false
  approvalStatus : Option String := none
deriving DecidableEq

/-- The errors of the calls; the constructors are in the order of the checks. -/
inductive Refusal where
  /-- `Cannot approve video in status ...` -/
  | cannotApprove (status : JobStatus)
  /-- `No active video version to approve` -/
  | noActiveVersion
  /-- `Stale video approval: expected v..., active is v...` -/
  | staleVersion (expected active : ℕ)
  /-- `Stale video approval: reviewed hash does not match active v...` -/
  | staleHash (active : ℕ)
  /-- `Reviewed video artifact for v... is missing` -/
  | missingArtifact (active : ℕ)
  /-- `Video artifact integrity mismatch for v...` -/
  | integrityMismatch (active : ℕ)
  /-- `Video revision text is required` -/
  | textRequired
  /-- `Cannot request video revision in status ...` -/
  | cannotRevise (status : JobStatus)
  /-- `Cannot regenerate script in status ...` -/
  | cannotRegenerate (status : JobStatus)
  /-- `Invalid job transition: ... -> ...` -/
  | invalidTransition (previous current : JobStatus)
  /-- What the start of the script raises. -/
  | script (message : String)
deriving DecidableEq

abbrev JobM (α : Type) := Command Job Refusal α

def update (status : JobStatus) : JobM Unit :=
  write fun job => if job.deleted then job else { job with status := status }

def transition (status : JobStatus) : JobM Unit := do
  let job ← read
  if jobTransitionAllowed job.status status then update status
  else raise (.invalidTransition job.status status)

abbrev Files := String → Option String

/-- `next((v for v in job.video_versions if v.version == active), None)`. -/
def Job.record (job : Job) (active : ℕ) : Option VideoVersion :=
  job.videoVersions.find? (·.version = active)

def VideoVersion.approve (v : VideoVersion) (actor : String) (now : Instant) : VideoVersion :=
  { v with approved := true, approvedBy := some actor, approvedAt := some now }

/-- The first record of the version is approved. -/
def Job.approve (job : Job) (active : ℕ) (actor : String) (now : Instant) : Job :=
  { job with
    videoVersions := job.videoVersions.modify (job.videoVersions.findIdx (·.version = active)) (·.approve actor now) }

/-- The checks of `expected_sha256`. -/
def checkReviewed (files : Files) (active : ℕ) : Option String → JobM Unit
  | none => pure ()
  | some expected => do
    let job ← read
    match job.record active with
    | none => raise (.staleHash active)
    | some v =>
      if v.sha256 ≠ expected then raise (.staleHash active)
      else match files v.path with
        | none => raise (.missingArtifact active)
        | some digest => when (digest ≠ expected) (raise (.integrityMismatch active))

def approveVideo (files : Files) (actor : String) (expectedVersion : Option ℕ) (expectedSha256 : Option String)
    (now : Instant) : JobM Unit := do
  let job ← read
  if job.status ≠ .videoPendingApproval then raise (.cannotApprove job.status)
  else match job.activeVideoVersion with
    | none => raise .noActiveVersion
    | some active =>
      if expectedVersion.isSome ∧ expectedVersion ≠ some active then
        raise (.staleVersion (expectedVersion.getD 0) active)
      else do
        checkReviewed files active expectedSha256
        write fun job => { job.approve active actor now with approved := true, approvalStatus := some "approved" }
        transition .videoApproved
        transition .videoReady
        transition .ready

/-- `request_video_revision` under the lock; the text that is left for `regenerate_script`. -/
def requestVideoRevision (revision actor : String) : JobM (Option String) := do
  let text := strip revision
  if text = "" then raise .textRequired
  else do
    let job ← read
    if job.status ≠ .videoPendingApproval then raise (.cannotRevise job.status)
    else do
      write fun job => { job with
        videoRevisions := job.videoRevisions ++ [⟨job.activeVideoVersion.getD 0, text, actor⟩] }
      if text = "regenerate" then do
        transition .videoRevisionRequested
        pure none
      else do
        write fun job =>
          { job with videoRevisionUpstream := some text, approvalStatus := some "revision_requested" }
        transition .scriptRevisionRequested
        pure (some text)

/-- How the script of a regeneration starts: as a task for a worker, or made here, which may raise before
the script is there or when its files are written. -/
inductive ScriptStart where
  | queued
  | made
  | unmade (message : String)
  | unwritten (message : String)

def regenerateScript (start : ScriptStart) : JobM Unit := do
  let job ← read
  if job.status ≠ .scriptRevisionRequested then raise (.cannotRegenerate job.status)
  else do
    transition .scriptQueued
    match start with
    | .queued => update .scriptQueued
    | .unmade message => raise (.script message)
    | .unwritten message => do
      update .scriptGenerating
      raise (.script message)
    | .made => do
      update .scriptGenerating
      update .scriptPendingApproval

/-! ## Callers -/

/-- `approve_video` or `request_video_revision`. -/
inductive Call where
  | approve (actor : String) (expectedVersion : Option ℕ) (expectedSha256 : Option String)
  | revise (text actor : String)

/-- The critical section of a call; whether `regenerate_script` follows. -/
def Call.enter (files : Files) (now : Instant) : Call → JobM Bool
  | .approve actor expectedVersion expectedSha256 => do
    approveVideo files actor expectedVersion expectedSha256 now
    pure false
  | .revise text actor => do
    let left ← requestVideoRevision text actor
    pure left.isSome

/-- Where a caller is: before its critical section, refused in it, or past it; then it has a regeneration
before it, returned, or failed in the regeneration. -/
inductive Phase where
  | waiting
  | raised (e : Refusal)
  | regenerating
  | returned
  | failed (e : Refusal)

/-- The critical section of the call succeeded. -/
def Phase.Won : Phase → Prop
  | .waiting | .raised _ => False
  | .regenerating | .returned | .failed _ => True

structure Caller where
  call : Call
  phase : Phase := .waiting

/-- A Job and the calls about it. -/
structure System where
  job : Job
  callers : List Caller

/-- Which caller goes on, at what time, and how its script starts. -/
structure Turn where
  caller : ℕ
  now : Instant
  start : ScriptStart := .queued

/-- What the caller does next. -/
def Caller.go (files : Files) (turn : Turn) (c : Caller) (job : Job) : Phase × Job :=
  match c.phase with
  | .waiting => match c.call.enter files turn.now job with
    | (.error e, job) => (.raised e, job)
    | (.ok true, job) => (.regenerating, job)
    | (.ok false, job) => (.returned, job)
  | .regenerating => match regenerateScript turn.start job with
    | (.error e, job) => (.failed e, job)
    | (.ok _, job) => (.returned, job)
  | phase => (phase, job)

def System.step (files : Files) (s : System) (turn : Turn) : System :=
  match s.callers[turn.caller]? with
  | none => s
  | some c =>
    { job := (c.go files turn s.job).2
      callers := s.callers.set turn.caller { c with phase := (c.go files turn s.job).1 } }

def System.run (files : Files) (s : System) (turns : List Turn) : System := turns.foldl (System.step files) s

def System.start (job : Job) (calls : List Call) : System := ⟨job, calls.map fun call => { call := call }⟩

/-- The checks of the call, but for that of the status. -/
def Call.Valid (files : Files) (job : Job) : Call → Prop
  | .approve _ expectedVersion expectedSha256 => ∃ active, job.activeVideoVersion = some active ∧
    (∀ v, expectedVersion = some v → v = active) ∧
    ∀ h, expectedSha256 = some h → ∃ v, job.record active = some v ∧ v.sha256 = h ∧ files v.path = some h
  | .revise text _ => strip text ≠ ""

/-! ## The critical sections -/

section
variable (files : Files) {job : Job} (now : Instant)

lemma transition_bind {α : Type} {status : JobStatus} (f : Unit → JobM α) (present : job.deleted = false)
    (allowed : jobTransitionAllowed job.status status = true) :
    (transition status >>= f) job = f () { job with status := status } := by
  have run : transition status job = (.ok (), { job with status := status }) := by
    simp only [transition, read_bind, if_pos allowed, update]
    show (Except.ok (), ite _ _ _) = _
    rw [if_neg (by simp [present])]
  rw [bind_of_ok run]

/-- An approved Job goes on to `READY`. -/
lemma transitions_ready (present : job.deleted = false) (pending : job.status = .videoPendingApproval) :
    (do transition .videoApproved; transition .videoReady; transition .ready : JobM Unit) job =
      (.ok (), { job with status := .ready }) := by
  rw [transition_bind _ present (by rw [pending]; decide)]
  refine (transition_bind _ ?_ ?_).trans ?_
  · exact present
  · rfl
  · simp only [transition, read_bind, update]
    show (ite _ _ _ : JobM Unit) _ = _
    rw [if_pos (by decide)]
    show (Except.ok (), ite _ _ _) = _
    rw [if_neg (by simp [present])]

lemma checkReviewed_cases (job : Job) (active : ℕ) (expected : Option String) :
    (∃ e, checkReviewed files active expected job = (.error e, job)) ∧
      ¬ (∀ h, expected = some h → ∃ v, job.record active = some v ∧ v.sha256 = h ∧ files v.path = some h) ∨
    checkReviewed files active expected job = (.ok (), job) ∧
      ∀ h, expected = some h → ∃ v, job.record active = some v ∧ v.sha256 = h ∧ files v.path = some h := by
  cases expected with
  | none => exact .inr ⟨rfl, nofun⟩
  | some h =>
    simp only [checkReviewed, read_bind, Option.some.injEq, forall_eq']
    cases job.record active with
    | none => exact .inl ⟨⟨_, rfl⟩, by simp⟩
    | some v =>
      by_cases same : v.sha256 = h
      · cases there : files v.path with
        | none =>
          refine .inl ⟨⟨.missingArtifact active, ?_⟩, by simp [there]⟩
          show (if _ then _ else _ : JobM Unit) job = _
          rw [if_neg (not_not.2 same), there]
          rfl
        | some digest =>
          by_cases equal : digest = h
          · refine .inr ⟨?_, v, rfl, same, by rw [there, equal]⟩
            show (if _ then _ else _ : JobM Unit) job = _
            rw [if_neg (not_not.2 same), there]
            show (if _ then _ else _ : JobM Unit) job = _
            rw [if_neg (not_not.2 equal)]
            rfl
          · refine .inl ⟨⟨.integrityMismatch active, ?_⟩, by simp [there, equal]⟩
            show (if _ then _ else _ : JobM Unit) job = _
            rw [if_neg (not_not.2 same), there]
            show (if _ then _ else _ : JobM Unit) job = _
            rw [if_pos equal]
            rfl
      · refine .inl ⟨⟨.staleHash active, ?_⟩, by simp [same]⟩
        show (if _ then _ else _ : JobM Unit) job = _
        rw [if_pos same]
        rfl

lemma approveVideo_cases (actor : String) (expectedVersion : Option ℕ) (expectedSha256 : Option String)
    (present : job.deleted = false) :
    (∃ e, approveVideo files actor expectedVersion expectedSha256 now job = (.error e, job)) ∧
      (job.status = .videoPendingApproval → ¬ (Call.approve actor expectedVersion expectedSha256).Valid files job) ∨
    job.status = .videoPendingApproval ∧ (Call.approve actor expectedVersion expectedSha256).Valid files job ∧
      ∃ active, job.activeVideoVersion = some active ∧
        approveVideo files actor expectedVersion expectedSha256 now job = (.ok (),
          { job.approve active actor now with
            approved := true
            approvalStatus := some "approved"
            status := .ready }) := by
  simp only [approveVideo, read_bind]
  by_cases pending : job.status = .videoPendingApproval
  · rw [if_neg (not_not.2 pending)]
    cases is : job.activeVideoVersion with
    | none =>
      refine .inl ⟨⟨_, rfl⟩, fun _ ⟨active, other, _⟩ => ?_⟩
      cases is.symm.trans other
    | some active =>
      by_cases stale : expectedVersion.isSome ∧ expectedVersion ≠ some active
      · refine .inl ⟨⟨.staleVersion (expectedVersion.getD 0) active, ?_⟩, fun _ ⟨_, other, same, _⟩ => ?_⟩
        · show (if _ then _ else _ : JobM Unit) job = _
          rw [if_pos stale]
          rfl
        · cases is.symm.trans other
          obtain ⟨v, rfl⟩ := Option.isSome_iff_exists.1 stale.1
          exact stale.2 (congrArg some (same v rfl))
      · have same : ∀ v, expectedVersion = some v → v = active := by
          rintro v rfl
          by_contra other
          exact stale ⟨rfl, by simpa using other⟩
        rcases checkReviewed_cases files job active expectedSha256 with
          ⟨⟨e, run⟩, bad⟩ | ⟨run, good⟩
        · refine .inl ⟨⟨e, ?_⟩, fun _ ⟨_, other, _, reviewed⟩ => ?_⟩
          · show (if _ then _ else _ : JobM Unit) job = _
            rw [if_neg stale, bind_of_error run]
          · cases is.symm.trans other
            exact bad reviewed
        · refine .inr ⟨pending, ⟨active, is, same, good⟩, active, rfl, ?_⟩
          show (if _ then _ else _ : JobM Unit) job = _
          rw [if_neg stale, bind_of_ok run, write_bind]
          exact transitions_ready present pending
  · rw [if_pos pending]
    exact .inl ⟨⟨_, rfl⟩, fun is => absurd is pending⟩

lemma requestVideoRevision_cases (text actor : String) (present : job.deleted = false) :
    (∃ e, requestVideoRevision text actor job = (.error e, job)) ∧
      (job.status = .videoPendingApproval → strip text = "") ∨
    job.status = .videoPendingApproval ∧ strip text ≠ "" ∧ ∃ left job',
      requestVideoRevision text actor job = (.ok left, job') ∧ job'.status ≠ .videoPendingApproval ∧
        job'.deleted = false ∧ job'.activeVideoVersion = job.activeVideoVersion ∧
        job'.videoVersions = job.videoVersions := by
  unfold requestVideoRevision
  by_cases blank : strip text = ""
  · rw [if_pos blank]
    exact .inl ⟨⟨_, rfl⟩, fun _ => blank⟩
  rw [if_neg blank, read_bind]
  by_cases pending : job.status = .videoPendingApproval
  · refine .inr ⟨pending, blank, ?_⟩
    rw [if_neg (not_not.2 pending), write_bind]
    by_cases again : strip text = "regenerate"
    · rw [if_pos again]
      refine ⟨_, _, transition_bind _ ?_ ?_, by simp, ?_, rfl, rfl⟩
      · exact present
      · rw [pending]
        decide
      · exact present
    · rw [if_neg again, write_bind]
      refine ⟨_, _, transition_bind _ ?_ ?_, by simp, ?_, rfl, rfl⟩
      · exact present
      · rw [pending]
        decide
      · exact present
  · rw [if_pos pending]
    exact .inl ⟨⟨_, rfl⟩, fun is => absurd is pending⟩

def Approves (job job' : Job) (actor : String) (now : Instant) : Prop :=
  ∃ active, job.activeVideoVersion = some active ∧ job'.videoVersions = (job.approve active actor now).videoVersions

/-- What a call that won did to the records. -/
def Call.Did (job job' : Job) : Call → Prop
  | .approve actor _ _ => ∃ now, Approves job job' actor now
  | .revise _ _ => job'.videoVersions = job.videoVersions

lemma enter_cases (call : Call) (present : job.deleted = false) :
    (∃ e, call.enter files now job = (.error e, job)) ∧
      (job.status = .videoPendingApproval → ¬ call.Valid files job) ∨
    job.status = .videoPendingApproval ∧ call.Valid files job ∧ ∃ more job',
      call.enter files now job = (.ok more, job') ∧ job'.status ≠ .videoPendingApproval ∧
        job'.deleted = false ∧ job'.activeVideoVersion = job.activeVideoVersion ∧ call.Did job job' := by
  cases call with
  | approve actor expectedVersion expectedSha256 =>
    rcases approveVideo_cases files now actor expectedVersion expectedSha256 present with
      ⟨⟨e, run⟩, bad⟩ | ⟨pending, valid, active, is, run⟩
    · exact .inl ⟨⟨e, by rw [Call.enter, bind_of_error run]⟩, bad⟩
    · refine .inr ⟨pending, valid, false, _, (bind_of_ok run _).trans rfl, by simp, present, rfl, ?_⟩
      exact ⟨now, active, is, rfl⟩
  | revise text actor =>
    rcases requestVideoRevision_cases text actor present with
      ⟨⟨e, run⟩, bad⟩ | ⟨pending, valid, left, job', run, moved, there, same, kept⟩
    · exact .inl ⟨⟨e, by rw [Call.enter, bind_of_error run]⟩, fun pending valid => valid (bad pending)⟩
    · exact .inr ⟨pending, valid, _, job', (bind_of_ok run _).trans rfl, moved, there, same, kept⟩

lemma regenerateScript_keeps (start : ScriptStart) (moved : job.status ≠ .videoPendingApproval)
    (present : job.deleted = false) :
    (regenerateScript start job).2.status ≠ .videoPendingApproval ∧
      (regenerateScript start job).2.deleted = false ∧
      (regenerateScript start job).2.activeVideoVersion = job.activeVideoVersion ∧
      (regenerateScript start job).2.videoVersions = job.videoVersions := by
  unfold regenerateScript
  rw [read_bind]
  by_cases requested : job.status = .scriptRevisionRequested
  · rw [if_neg (not_not.2 requested)]
    rw [transition_bind _ present (by rw [requested]; decide)]
    cases start <;> simp [update, present, write, raise, bind_apply]
  · rw [if_pos requested]
    exact ⟨moved, present, rfl, rfl⟩

end

/-! ## Any number of callers -/

/-- Nobody won yet and the Job is as it was, or one caller won. -/
inductive Standing (files : Files) (job : Job) (s : System) : Prop
  | undecided : s.job = job →
    (∀ c ∈ s.callers, c.phase = .waiting ∨ (∃ e, c.phase = .raised e) ∧ ¬ c.call.Valid files job) →
    Standing files job s
  | decided {w : ℕ} {winner : Caller} : s.callers[w]? = some winner → winner.phase.Won → winner.call.Valid files job →
    winner.call.Did job s.job → s.job.status ≠ .videoPendingApproval → s.job.deleted = false →
    s.job.activeVideoVersion = job.activeVideoVersion →
    (∀ (k : ℕ) (c : Caller), k ≠ w → s.callers[k]? = some c → c.phase = .waiting ∨ ∃ e, c.phase = .raised e) →
    Standing files job s

lemma Call.Did.congr {job j j' : Job} {call : Call} (h : call.Did job j) (same : j'.videoVersions = j.videoVersions) :
    call.Did job j' := by
  cases call with
  | approve actor expectedVersion expectedSha256 =>
    obtain ⟨now, active, is, records⟩ := h
    exact ⟨now, active, is, same.trans records⟩
  | revise text actor => exact same.trans h

lemma set_same {callers : List Caller} {i : ℕ} {c : Caller} (found : callers[i]? = some c) :
    callers.set i { c with phase := c.phase } = callers := by
  apply List.ext_getElem?
  intro k
  rw [List.getElem?_set]
  split
  · rename_i same
    subst same
    obtain ⟨below, _⟩ := List.getElem?_eq_some_iff.1 found
    rw [if_pos below, found]
  · rfl

lemma getElem?_set_cases {callers : List Caller} {i k : ℕ} {c c' : Caller}
    (found : (callers.set i c)[k]? = some c') : k = i ∧ c' = c ∨ k ≠ i ∧ callers[k]? = some c' := by
  rw [List.getElem?_set] at found
  split at found
  · rename_i same
    split at found
    · exact .inl ⟨same.symm, (Option.some.inj found).symm⟩
    · cases found
  · rename_i other
    exact .inr ⟨Ne.symm other, found⟩

lemma Standing.step {files : Files} {job : Job} (pending : job.status = .videoPendingApproval)
    (present : job.deleted = false) {s : System} (h : Standing files job s) (turn : Turn) :
    Standing files job (s.step files turn) := by
  unfold System.step
  cases found : s.callers[turn.caller]? with
  | none => exact h
  | some c =>
    obtain ⟨below, _⟩ := List.getElem?_eq_some_iff.1 found
    have here (c' : Caller) : (s.callers.set turn.caller c')[turn.caller]? = some c' := by
      rw [List.getElem?_set_self below]
    dsimp only
    cases h with
    | undecided same idle =>
      rcases idle c (List.mem_of_getElem? found) with waiting | ⟨⟨e, raised⟩, invalid⟩
      · rw [Caller.go, waiting, same]
        dsimp only
        rcases enter_cases files turn.now c.call present with
          ⟨⟨e, run⟩, refused⟩ | ⟨_, valid, more, job', run, moved, there, active, did⟩
        · rw [run]
          refine .undecided rfl fun c' member => ?_
          rcases List.mem_or_eq_of_mem_set member with member | rfl
          · exact idle c' member
          · exact .inr ⟨⟨e, rfl⟩, refused pending⟩
        · rw [run]
          cases more with
          | true =>
            refine .decided (here _) trivial valid did moved there active fun k c' other found' => ?_
            rcases getElem?_set_cases found' with ⟨is, _⟩ | ⟨_, found'⟩
            · exact absurd is other
            · exact (idle c' (List.mem_of_getElem? found')).imp_right And.left
          | false =>
            refine .decided (here _) trivial valid did moved there active fun k c' other found' => ?_
            rcases getElem?_set_cases found' with ⟨is, _⟩ | ⟨_, found'⟩
            · exact absurd is other
            · exact (idle c' (List.mem_of_getElem? found')).imp_right And.left
      · rw [show c.go files turn s.job = (c.phase, s.job) by rw [Caller.go, raised], set_same found]
        exact .undecided same idle
    | @decided w winner first won valid did moved there active others =>
      by_cases again : turn.caller = w
      · subst again
        cases found.symm.trans first
        -- the winner: only its regeneration is left
        have stays {phase : Phase} {job' : Job} (passed : phase.Won)
            (keeps : job'.status ≠ .videoPendingApproval ∧ job'.deleted = false ∧
              job'.activeVideoVersion = s.job.activeVideoVersion ∧ job'.videoVersions = s.job.videoVersions) :
            Standing files job ⟨job', s.callers.set turn.caller { c with phase := phase }⟩ := by
          obtain ⟨moved, there, same, kept⟩ := keeps
          refine .decided (here _) passed valid (did.congr kept) moved there (same.trans active) ?_
          intro k c' other found'
          rcases getElem?_set_cases found' with ⟨is, _⟩ | ⟨_, found'⟩
          · exact absurd is other
          · exact others k c' other found'
        have idle : s.job.status ≠ .videoPendingApproval ∧ s.job.deleted = false ∧
            s.job.activeVideoVersion = s.job.activeVideoVersion ∧ s.job.videoVersions = s.job.videoVersions :=
          ⟨moved, there, rfl, rfl⟩
        cases phase : c.phase with
        | waiting =>
          rw [phase] at won
          exact won.elim
        | raised e =>
          rw [phase] at won
          exact won.elim
        | returned =>
          rw [Caller.go, phase]
          exact stays trivial idle
        | failed e =>
          rw [Caller.go, phase]
          exact stays trivial idle
        | regenerating =>
          have keeps := regenerateScript_keeps turn.start moved there
          rw [Caller.go, phase]
          dsimp only
          rcases run : regenerateScript turn.start s.job with ⟨e | _, job'⟩
          · rw [run] at keeps
            exact stays trivial keeps
          · rw [run] at keeps
            exact stays trivial keeps
      · rcases others turn.caller c again found with waiting | ⟨e, raised⟩
        · rw [Caller.go, waiting]
          dsimp only
          rcases enter_cases files turn.now c.call there with
            ⟨⟨e, run⟩, _⟩ | ⟨open_, _⟩
          · have kept : (s.callers.set turn.caller { c with phase := .raised e })[w]? = some winner := by
              rw [List.getElem?_set_ne again]
              exact first
            rw [run]
            refine .decided kept won valid did moved there active fun k c' other found' => ?_
            rcases getElem?_set_cases found' with ⟨_, rfl⟩ | ⟨_, found'⟩
            · exact .inr ⟨e, rfl⟩
            · exact others k c' other found'
          · exact absurd open_ moved
        · rw [show c.go files turn s.job = (c.phase, s.job) by rw [Caller.go, raised], set_same found]
          exact .decided first won valid did moved there active others

lemma standing_start (files : Files) (job : Job) (calls : List Call) :
    Standing files job (System.start job calls) := by
  refine .undecided rfl fun c member => ?_
  obtain ⟨call, _, rfl⟩ := List.mem_map.1 member
  exact .inl rfl

lemma Standing.run {files : Files} {job : Job} (pending : job.status = .videoPendingApproval)
    (present : job.deleted = false) {s : System} (h : Standing files job s) (turns : List Turn) :
    Standing files job (s.run files turns) := by
  induction turns generalizing s with
  | nil => exact h
  | cons turn turns ih => exact ih (h.step pending present turn)

lemma calls_run (files : Files) (s : System) (turns : List Turn) :
    (s.run files turns).callers.map (·.call) = s.callers.map (·.call) := by
  induction turns generalizing s with
  | nil => rfl
  | cons turn turns ih =>
    rw [System.run, List.foldl_cons]
    refine (ih _).trans ?_
    unfold System.step
    cases found : s.callers[turn.caller]? with
    | none => rfl
    | some c =>
      rw [List.map_set]
      apply List.ext_getElem?
      intro k
      rw [List.getElem?_set]
      split
      · rename_i same
        subst same
        obtain ⟨below, _⟩ := List.getElem?_eq_some_iff.1 found
        rw [if_pos (by simpa using below), List.getElem?_map, found]
        rfl
      · rfl

lemma approves_reviewed {files : Files} {job job' : Job} {actor : String} {now : Instant} {version : ℕ}
    {sha256 : String} (valid : (Call.approve actor (some version) (some sha256)).Valid files job)
    (did : Approves job job' actor now) : job.activeVideoVersion = some version ∧
      ∃ (k : ℕ) (v : VideoVersion), job.videoVersions[k]? = some v ∧ v.version = version ∧ v.sha256 = sha256 ∧
        files v.path = some sha256 ∧ job'.videoVersions = job.videoVersions.set k (v.approve actor now) := by
  obtain ⟨active, is, same, reviewed⟩ := valid
  obtain ⟨v, record, digest, file⟩ := reviewed sha256 rfl
  obtain ⟨active', is', records⟩ := did
  cases is.symm.trans is'
  cases same version rfl
  have numbered := List.find?_some record
  have at_index : job.videoVersions[job.videoVersions.findIdx (·.version = version)]? = some v := by
    rw [← List.find?_eq_getElem?_findIdx]
    exact record
  refine ⟨is, _, v, at_index, of_decide_eq_true numbered, digest, file, ?_⟩
  rw [records, Job.approve, List.modify_eq_set_getElem?, at_index]
  rfl

/-- A Job whose first version is reviewed. -/
def inReview : Job where
  status := .videoPendingApproval
  activeVideoVersion := some 1
  videoVersions := [⟨1, "output/v1.mp4", "ab", false, none, none⟩]

lemma checkReviewed_same {name : Digest → String} (injective : Function.Injective name) {job : Job} {files : Files}
    {version : ℕ} {active : Option Core.VideoVersion} {delivered : Option Digest} (sha256 : Option Digest)
    (recorded : (job.record version).map VideoVersion.sha256 = active.map fun v => name v.sha256)
    (disk : ∀ v, job.record version = some v → files v.path = delivered.map name) :
    (checkReviewed files version (sha256.map name) job).2 = job ∧
      ((checkReviewed files version (sha256.map name) job).1 = .ok () ↔
        ¬ (sha256.isSome = true ∧ (¬ active.map Core.VideoVersion.sha256 = sha256 ∨ ¬ delivered = sha256))) := by
  cases sha256 with
  | none => exact ⟨rfl, by simp [checkReviewed]⟩
  | some digest =>
    rw [Option.map_some, checkReviewed, read_bind]
    cases found : job.record version <;> cases active <;> rw [found] at recorded
    case some.some v v' =>
      have own : v.sha256 = name v'.sha256 := Option.some.inj recorded
      cases delivered <;>
        by_cases same : v'.sha256 = digest <;>
        simp [own, disk v found, same, injective.eq_iff, Command.when, raise]
      rename_i digest'
      by_cases alike : digest' = digest <;> simp [alike]
    all_goals simp_all [raise]

/-- `Core.Act.approveVideo`, which has the digests as numbers and what a delivery reads as the file, takes the same
approvals and leaves the Job in the same status. -/
theorem approveVideo_same {name : Digest → String} (injective : Function.Injective name) {env : Env} {s : Ctx} {job : Job}
    {files : Files} {version : ℕ} (sha256 : Option Digest) (actor : String) (now : Instant) (there : job.deleted = false)
    (status : job.status = s.job.status) (active : job.activeVideoVersion = s.job.activeVideoVersion)
    (recorded : (job.record version).map VideoVersion.sha256 = (activeVideo s.job).map fun v => name v.sha256)
    (disk : ∀ v, job.record version = some v → files v.path = (env.deliveryContract s.jobId).map name) :
    ((approveVideo files actor (some version) (sha256.map name) now job).1 = .ok () ↔
      (Act.approveVideo env version sha256 s).1 = .ok ()) ∧
    (approveVideo files actor (some version) (sha256.map name) now job).2.status =
      (Act.approveVideo env version sha256 s).2.job.status := by
  rw [approveVideo, Act.approveVideo, read_bind, Act.theJob_bind, status, active]
  by_cases open_ : s.job.status = .videoPendingApproval
  swap
  · rw [if_pos open_, if_pos open_]
    exact ⟨⟨nofun, nofun⟩, status⟩
  rw [if_neg (not_not.2 open_), if_neg (not_not.2 open_)]
  by_cases current : s.job.activeVideoVersion = some version
  swap
  · rw [if_pos current]
    cases is : s.job.activeVideoVersion with
    | none => exact ⟨⟨nofun, nofun⟩, status⟩
    | some other =>
      rw [is] at current
      simp only [Option.isSome_some, ne_eq, Ne.symm current, not_false_eq_true, and_self, if_true]
      exact ⟨⟨nofun, nofun⟩, status⟩
  rw [current, if_neg (not_not.2 rfl), Act.theId_bind]
  simp only [Option.isSome_some, ne_eq, not_true_eq_false, and_false, if_false]
  -- both are past the checks, or neither is
  obtain ⟨kept, passes⟩ := checkReviewed_same injective sha256 recorded disk
  by_cases refused : sha256.isSome = true ∧
      (¬ (activeVideo s.job).map Core.VideoVersion.sha256 = sha256 ∨ ¬ env.deliveryContract s.jobId = sha256)
  · rw [if_pos refused, bind_apply]
    generalize checkReviewed files version (sha256.map name) job = x at kept passes
    obtain ⟨e | _, job'⟩ := x
    · exact ⟨⟨nofun, nofun⟩, (congrArg Job.status kept).trans status⟩
    · exact absurd refused (passes.1 rfl)
  · rw [if_neg refused, bind_of_ok (Prod.ext (passes.2 refused) kept)]
    have pending := status.trans open_
    constructor <;> simp [transition, update, Act.transition, Act.update, Act.modifyJob, Act.theJob, bind_apply, Command.read,
      write, Job.approve, Job.approveVersion, there, pending, open_, jobTransitionAllowed, JobStatus.next]

end Vertep.Core.Review
