import Vertep.Core.Models
import Vertep.Lib.Reach

/-!
# A pause or cancel against a running render

Embedding of `finalize_job` and `finalize_job_safe` (`core/pipeline.py`) and of `_finalize_and_notify`
(`core/api/job_helpers.py`) on the native route, as a thread: a program counter `Pc`, one value for
each store operation, stage transition, status test and call that may raise, and `step`, which takes
one of them. The `Route` says which of the three functions is running, and so what an exception does
and what follows a return. A pause or cancel (`halt`, the part of `_job_action` that this Job shows)
lands between any two steps.

Every call of a step may raise, the operations of the store as well: `store.update` has written the status by
then, and `store.event` shows in nothing else that the thread reads. The clock of the stages, the event log and
the messages to Telegram that swallow what they raise are left out.
-/

namespace Vertep.Core
open Lib Queue

/-- Which function is running. -/
inductive Route where
  | finalizeJob | finalizeJobSafe | finalizeAndNotify
deriving DecidableEq

/-- The next thing the thread does. -/
inductive Pc where
  | entryCheck | assetsReady | stageRunning | assemblyStarted | plan | render | registerSubtitles
  | recheck | discard | discardEvent | releaseRegeneration | registerVideo | finishVersion | videoReady | stageReady | pendingApproval
  | notify | failStage | updateFailed | loopTest | retryUpdate | done | raised
deriving DecidableEq

/-- What the outside answers to a step: whether the call raises (an operation of the store does so when the row
or the event is not saved), whether it put an artifact into the list first (there may be no subtitles, and the
manifest is written after the append), the id of a new artifact and the digest of the rendered file. -/
structure Input where
  fails : Bool
  appended : Bool
  artifactId : ArtifactId
  sha256 : ℕ

structure Thread where
  pc : Pc
  job : Job
  nextVersion : ℕ := 0

namespace Thread

variable (t : Thread)

def goto (pc : Pc) : Thread := { t with pc := pc }

/-- `store.update`: the status is written before anything is saved. -/
def update (status : JobStatus) (pc : Pc) : Thread :=
  { t with pc := pc, job := { t.job with status := status } }

/-- `finalize_job` returns. -/
def return_ : Route → Thread
  | .finalizeAndNotify => t.goto .loopTest
  | _ => t.goto .done

/-- An exception leaves `finalize_job`. -/
def raise_ : Route → Thread
  | .finalizeJob => t.goto .raised
  | _ => t.goto .failStage

/-- `store.update` of `finalize_job`. -/
def updateOr (route : Route) (i : Input) (status : JobStatus) (pc : Pc) : Thread :=
  if i.fails then (t.update status pc).raise_ route else t.update status pc

/-- `register_artifact`, as far as it gets. -/
def register (kind : ArtifactKind) (i : Input) (appended : Bool) : Thread :=
  { t with job := { t.job with
      artifacts := t.job.artifacts ++
        if appended then [⟨i.artifactId, kind, none, none, none⟩] else [] } }

/-- `transition_stage` of the assembly stage. -/
def transitionStage (route : Route) (status : StageStatus) (next : Thread → Thread) : Thread :=
  let planned := { t with job := t.job.initializePlan }
  if t.job.mayTransition .assembly status then
    next { planned with job := planned.job.setStage .assembly status }
  else planned.raise_ route

end Thread

def finishVideoVersion (job : Job) (version sha256 : ℕ) : Job :=
  { job with
    videoVersions := job.videoVersions ++
      [{ version := version, sha256 := sha256, revisionNote := job.videoRevisions.getLast? }]
    activeVideoVersion := some version
    outputPath := some version }

/-- The first record of a version takes the approval. -/
def Job.approveVersion (job : Job) (version : ℕ) : Job :=
  { job with
    videoVersions := job.videoVersions.modify (job.videoVersions.findIdx (·.version = version))
      ({ · with approved := true }) }

/-- `next((v for v in job.video_versions if v.version == job.active_video_version), None)`. -/
def activeVideo (job : Job) : Option VideoVersion :=
  job.videoVersions.find? fun v => job.activeVideoVersion = some v.version

/-- `max(existing, default=0) + 1`. -/
def planVersion (job : Job) : ℕ := (job.videoVersions.map VideoVersion.version).foldl max 0 + 1

/-- One step of the thread. -/
def step (route : Route) (i : Input) (t : Thread) : Thread :=
  match t.pc with
  | .entryCheck => if t.job.status.halted then t.return_ route else t.goto .assetsReady
  | .assetsReady => t.updateOr route i .assetsReady .stageRunning
  | .stageRunning => t.transitionStage route .running (·.goto .assemblyStarted)
  | .assemblyStarted => t.updateOr route i .assembly .plan
  | .plan =>
    if i.fails then t.raise_ route else { t with pc := .render, nextVersion := planVersion t.job }
  | .render => if i.fails then t.raise_ route else t.goto .registerSubtitles
  | .registerSubtitles =>
    let t' := t.register .subtitles i i.appended
    if i.fails then t'.raise_ route else t'.goto .recheck
  | .recheck => if t.job.status.halted then t.goto .discard else t.goto .registerVideo
  | .discard => t.transitionStage route .cancelled (·.goto .discardEvent)
  | .discardEvent => if i.fails then t.raise_ route else t.goto .releaseRegeneration
  | .releaseRegeneration =>
    -- a Job that is not being regenerated is not saved
    let released := { t with job := { t.job with videoRegenerating := false } }
    if t.job.videoRegenerating ∧ i.fails then released.raise_ route else released.return_ route
  | .registerVideo =>
    let t' := t.register (.video t.nextVersion) i (i.appended || !i.fails)
    if i.fails then t'.raise_ route else
      { t' with
        pc := .finishVersion
        job := { t'.job with videoEngineSnapshot := some ⟨.native, some t.nextVersion, none⟩ } }
  | .finishVersion =>
    if i.fails then t.raise_ route else
      { t with pc := .videoReady, job := finishVideoVersion t.job t.nextVersion i.sha256 }
  | .videoReady => t.updateOr route i .videoReady .stageReady
  | .stageReady => t.transitionStage route .ready (·.goto .pendingApproval)
  | .pendingApproval => t.updateOr route i .videoPendingApproval .notify
  | .notify => if i.fails then t.raise_ route else t.return_ route
  | .failStage =>
    -- `except ValueError: pass`
    let planned := { t with job := t.job.initializePlan, pc := Pc.updateFailed }
    if t.job.mayTransition .assembly .failed then
      { planned with job := planned.job.setStage .assembly .failed }
    else planned
  | .updateFailed =>
    let failed := t.update .failed .done
    if i.fails then failed.goto .raised else failed.return_ route
  | .loopTest =>
    if t.job.status ≠ .failed ∨ ¬ t.job.canRetry then t.goto .done
    else { t with pc := .retryUpdate, job := { t.job with retries := t.job.retries + 1 } }
  | .retryUpdate =>
    let again := t.update .assetsReady .entryCheck
    if i.fails then again.goto .raised else again
  | .done | .raised => t

/-- The thread after `n` steps. -/
def run (route : Route) (inputs : ℕ → Input) (t : Thread) : ℕ → Thread
  | 0 => t
  | n + 1 => step route (inputs n) (run route inputs t n)

/-- A pause or a cancel. -/
inductive Halt where
  | pause | cancel
deriving DecidableEq

def Halt.status : Halt → JobStatus
  | .pause => .paused
  | .cancel => .cancelled

def Halt.stageStatus : Halt → StageStatus
  | .pause => .paused
  | .cancel => .cancelled

/-- What `_job_action` writes into the fields the thread reads: the status and, when a Worker attempt
of the assembly is in flight as well, its stage. -/
def Halt.apply (a : Halt) (job : Job) : Job :=
  let job' := { job with status := a.status }
  if job.assemblyTaskIds.entries ≠ [] ∧ job.stages.isSome ∧ job.stage .assembly = .running then
    job'.setStage .assembly a.stageStatus
  else job'

def Halt.land (a : Halt) (t : Thread) : Thread := { t with job := a.apply t.job }

/-! ## What a request must find -/

/-- The Job is as the request left it: still paused or cancelled, with no new video version, the same
current version and output, and no further retry. -/
structure Held (t₀ t : Thread) : Prop where
  status : t.job.status = t₀.job.status
  versions : t.job.videoVersions = t₀.job.videoVersions
  active : t.job.activeVideoVersion = t₀.job.activeVideoVersion
  output : t.job.outputPath = t₀.job.outputPath
  retries : t.job.retries = t₀.job.retries

/-- The thread discards its render without an exception, when it comes to the event of that in `e` steps. -/
def Discards (t : Thread) (inputs : ℕ → Input) (e : ℕ) : Prop :=
  (inputs e).fails = false ∧ (t.job.videoRegenerating = true → (inputs (e + 1)).fails = false)

/-- Between the thread and its next write stands a test of the status, and nothing that raises on the
way there, or while the render is discarded, is caught. -/
def Unhindered (route : Route) (t : Thread) (inputs : ℕ → Input) : Prop :=
  match t.pc with
  | .entryCheck | .loopTest | .done | .raised => True
  | .plan => route = .finalizeJob ∨ (∀ n < 3, (inputs n).fails = false) ∧ Discards t inputs 5
  | .render => route = .finalizeJob ∨ (∀ n < 2, (inputs n).fails = false) ∧ Discards t inputs 4
  | .registerSubtitles => route = .finalizeJob ∨ (inputs 0).fails = false ∧ Discards t inputs 3
  | .recheck => route = .finalizeJob ∨ Discards t inputs 2
  | .discard => route = .finalizeJob ∨ Discards t inputs 1
  | .discardEvent => route = .finalizeJob ∨ Discards t inputs 0
  | .releaseRegeneration =>
    route = .finalizeJob ∨ (t.job.videoRegenerating = true → (inputs 0).fails = false)
  | .stageRunning => route = .finalizeJob ∧ t.job.mayTransition .assembly .running = false
  | .registerVideo => route = .finalizeJob ∧ ((inputs 0).fails = true ∨ (inputs 1).fails = true)
  | .finishVersion => route = .finalizeJob ∧ (inputs 0).fails = true
  | .stageReady => route = .finalizeJob ∧ t.job.mayTransition .assembly .ready = false
  | .notify => route = .finalizeJob ∨ (inputs 0).fails = false
  | _ => False

lemma Held.refl (t : Thread) : Held t t := ⟨rfl, rfl, rfl, rfl, rfl⟩

variable {t₁ t₂ t₀ : Thread}

lemma Held.trans {t₃ : Thread} (h : Held t₁ t₂) (h' : Held t₂ t₃) : Held t₁ t₃ :=
  ⟨h'.status.trans h.status, h'.versions.trans h.versions, h'.active.trans h.active,
    h'.output.trans h.output, h'.retries.trans h.retries⟩

variable {inputs : ℕ → Input}

section
variable {route : Route} {t : Thread}

lemma initializePlan_stage (job : Job) {name : StageName} (h : name ≠ .script) :
    job.initializePlan.stage name = job.stage name := by
  cases stages : job.stages with
  | some _ => simp [Job.stage, Job.initializePlan, stages]
  | none =>
    cases name with
    | script => exact absurd rfl h
    | _ => simp [Job.stage, Job.initializePlan, stages, Stages.get]

/-- On the way to the second test the assembly stage can be cancelled. -/
def Cancellable (t : Thread) : Prop :=
  match t.pc with
  | .plan | .render | .registerSubtitles | .recheck | .discard =>
    t.job.mayTransition .assembly .cancelled
  | _ => True

/-- What a step of an unhindered thread gives. -/
structure Calm (route : Route) (inputs : ℕ → Input) (t t' : Thread) : Prop where
  held : Held t t'
  cancellable : Cancellable t'
  unhindered : Unhindered route t' (fun n => inputs (n + 1))

lemma Calm.of_held (h : Held t t₁)
    (c : Calm route inputs t₁ t₂) : Calm route inputs t t₂ :=
  ⟨h.trans c.held, c.cancellable, c.unhindered⟩

lemma calm_return (inputs : ℕ → Input) (t : Thread) : Calm route inputs t (t.return_ route) := by
  cases route <;> exact ⟨⟨rfl, rfl, rfl, rfl, rfl⟩, trivial, trivial⟩

lemma calm_raise (inputs : ℕ → Input) (t : Thread) (h : route = .finalizeJob) :
    Calm route inputs t (t.raise_ route) := by
  subst h
  exact ⟨⟨rfl, rfl, rfl, rfl, rfl⟩, trivial, trivial⟩

lemma calm_refused (inputs : ℕ → Input) {status : StageStatus} (next : Thread → Thread)
    (h : route = .finalizeJob) (no : t.job.mayTransition .assembly status = false) :
    Calm route inputs t (t.transitionStage route status next) := by
  simp only [Thread.transitionStage, no, Bool.false_eq_true, if_false]
  refine Calm.of_held ?_ (calm_raise inputs _ h)
  exact ⟨rfl, rfl, rfl, rfl, rfl⟩

lemma unhindered_step (halted : t.job.status.halted) (can : Cancellable t)
    (u : Unhindered route t inputs) : Calm route inputs t (step route (inputs 0) t) := by
  obtain ⟨pc, job, version⟩ := t
  simp only at halted
  cases pc with
  | entryCheck =>
    simp only [step, halted, if_true]
    exact calm_return inputs _
  | recheck =>
    simp only [step, halted, if_true]
    exact ⟨⟨rfl, rfl, rfl, rfl, rfl⟩, can, u⟩
  | discard =>
    have ok : job.mayTransition .assembly .cancelled := can
    simp only [step, Thread.transitionStage, ok, if_true]
    refine ⟨⟨rfl, rfl, rfl, rfl, rfl⟩, trivial, u.imp_right fun h => ⟨h.1, fun regenerating => h.2 ?_⟩⟩
    simpa [Thread.goto, Job.setStage, Job.initializePlan] using regenerating
  | discardEvent =>
    simp only [step]
    split
    · rename_i raises
      exact calm_raise inputs _ (u.resolve_right fun h => absurd (h.1.symm.trans raises) (by decide))
    · exact ⟨⟨rfl, rfl, rfl, rfl, rfl⟩, trivial, u.imp_right And.right⟩
  | releaseRegeneration =>
    simp only [step]
    split
    · rename_i raises
      refine Calm.of_held ?_ (calm_raise inputs _ (u.resolve_right fun h => ?_))
      · exact ⟨rfl, rfl, rfl, rfl, rfl⟩
      · exact absurd ((h raises.1).symm.trans raises.2) (by decide)
    · refine Calm.of_held ?_ (calm_return inputs _)
      exact ⟨rfl, rfl, rfl, rfl, rfl⟩
  | loopTest =>
    have running : job.status ≠ .failed := by
      intro e
      rw [e] at halted
      cases halted
    simp only [step, running, ne_eq, not_false_eq_true, true_or, if_true]
    exact ⟨⟨rfl, rfl, rfl, rfl, rfl⟩, trivial, trivial⟩
  | done | raised => exact ⟨Held.refl _, trivial, trivial⟩
  | plan =>
    simp only [step]
    split
    · refine calm_raise inputs _ (u.resolve_right fun h => ?_)
      simp_all
    · refine ⟨⟨rfl, rfl, rfl, rfl, rfl⟩, can, u.imp_right fun h => ⟨fun n hn => ?_, h.2⟩⟩
      exact h.1 (n + 1) (by omega)
  | render =>
    simp only [step]
    split
    · refine calm_raise inputs _ (u.resolve_right fun h => ?_)
      simp_all
    · exact ⟨⟨rfl, rfl, rfl, rfl, rfl⟩, can, u.imp_right fun h => ⟨h.1 1 (by omega), h.2⟩⟩
  | registerSubtitles =>
    simp only [step]
    split
    · refine Calm.of_held ?_ (calm_raise inputs _ (u.resolve_right fun h => ?_))
      · exact ⟨rfl, rfl, rfl, rfl, rfl⟩
      · simp_all
    · exact ⟨⟨rfl, rfl, rfl, rfl, rfl⟩, can, u.imp_right And.right⟩
  | stageRunning => exact calm_refused inputs (·.goto .assemblyStarted) u.1 u.2
  | stageReady => exact calm_refused inputs (·.goto .pendingApproval) u.1 u.2
  | registerVideo =>
    obtain ⟨plain, fails⟩ := u
    simp only [step]
    split
    · refine Calm.of_held ?_ (calm_raise inputs _ plain)
      exact ⟨rfl, rfl, rfl, rfl, rfl⟩
    · refine ⟨⟨rfl, rfl, rfl, rfl, rfl⟩, trivial, plain, ?_⟩
      simp_all
  | finishVersion =>
    obtain ⟨plain, fails⟩ := u
    simp only [step, fails, if_true]
    exact calm_raise inputs _ plain
  | notify =>
    simp only [step]
    split
    · refine calm_raise inputs _ (u.resolve_right fun h => ?_)
      simp_all
    · exact calm_return inputs _
  | _ => exact u.elim

/-! ## Runs -/

lemma run_succ (route : Route) (inputs : ℕ → Input) (t : Thread) (n : ℕ) :
    run route inputs t (n + 1) = run route (fun k => inputs (k + 1)) (step route (inputs 0) t) n := by
  induction n with
  | zero => rfl
  | succ n ih =>
    change step route (inputs (n + 1)) (run route inputs t (n + 1)) = _
    rw [ih]
    rfl

lemma held_of_unhindered (halted : t.job.status.halted) (can : Cancellable t)
    (u : Unhindered route t inputs) (n : ℕ) : Held t (run route inputs t n) := by
  induction n generalizing t inputs with
  | zero => exact Held.refl t
  | succ n ih =>
    have c := unhindered_step halted can u
    rw [run_succ]
    refine c.held.trans (ih ?_ c.cancellable c.unhindered)
    rw [c.held.status]
    exact halted

/-- The request wins from `t` on. -/
def Wins (route : Route) (inputs : ℕ → Input) (t₀ t : Thread) : Prop :=
  ∀ n, Held t₀ (run route inputs t n)

lemma Wins.step (w : Wins route inputs t₀ t) :
    Wins route (fun n => inputs (n + 1)) t₀ (step route (inputs 0) t) := by
  intro n
  rw [← run_succ]
  exact w (n + 1)

lemma not_wins_of_status (halted : t₀.job.status.halted)
    (h : t.job.status.halted = false) : ¬ Wins route inputs t₀ t := by
  intro w
  have e := (w 0).status
  rw [← e] at halted
  exact absurd (h.symm.trans halted) (by decide)

lemma step_failStage (i : Input) (h : t.pc = .failStage) : (step route i t).pc = .updateFailed := by
  simp only [step, h]
  cases t.job.mayTransition .assembly .failed <;> rfl

lemma step_updateFailed (i : Input) (h : t.pc = .updateFailed) :
    (step route i t).job.status = .failed := by
  simp only [step, h]
  split
  · rfl
  · cases route <;> rfl

lemma status_raise : (t.raise_ route).job.status = t.job.status := by
  cases route <;> rfl

lemma status_updateOr (i : Input) (status : JobStatus) (pc : Pc) :
    (t.updateOr route i status pc).job.status = status := by
  unfold Thread.updateOr
  split
  · rw [status_raise]
    rfl
  · rfl

lemma not_wins_failStage (halted : t₀.job.status.halted)
    (h : t.pc = .failStage) : ¬ Wins route inputs t₀ t := by
  intro w
  refine not_wins_of_status halted ?_ w.step.step
  rw [step_updateFailed _ (step_failStage _ h)]
  rfl

/-- A caught exception ends in `FAILED`. -/
lemma not_wins_raise (halted : t₀.job.status.halted)
    (caught : route ≠ .finalizeJob) : ¬ Wins route inputs t₀ (t.raise_ route) := by
  cases route with
  | finalizeJob => exact absurd rfl caught
  | finalizeJobSafe | finalizeAndNotify => exact not_wins_failStage halted rfl

lemma Wins.not_fails (halted : t₀.job.status.halted)
    (caught : route ≠ .finalizeJob)
    (raises : (inputs 0).fails = true →
      ∃ t' : Thread, Vertep.Core.step route (inputs 0) t = t'.raise_ route)
    (w : Wins route inputs t₀ t) : (inputs 0).fails = false := by
  cases h : (inputs 0).fails with
  | false => rfl
  | true =>
    obtain ⟨t', e⟩ := raises h
    exact absurd (e ▸ w.step) (not_wins_raise halted caught)

lemma Wins.refused {status : StageStatus} {pc : Pc}
    {written : JobStatus} (halted : t₀.job.status.halted) (other : written.halted = false)
    (now : Vertep.Core.step route (inputs 0) t = t.transitionStage route status (·.goto pc))
    (next : ∀ i t', t'.pc = pc → (Vertep.Core.step route i t').job.status = written)
    (w : Wins route inputs t₀ t) :
    route = .finalizeJob ∧ t.job.mayTransition .assembly status = false := by
  have w' := now ▸ w.step
  cases allowed : t.job.mayTransition .assembly status with
  | true =>
    simp only [Thread.transitionStage, allowed, if_true] at w'
    refine (not_wins_of_status halted ?_ w'.step).elim
    rw [next]
    · exact other
    · rfl
  | false =>
    simp only [Thread.transitionStage, allowed, Bool.false_eq_true, if_false] at w'
    exact ⟨not_not.1 fun caught => not_wins_raise halted caught w', rfl⟩

lemma Wins.finishVersion (halted : t₀.job.status.halted)
    (pc : t.pc = .finishVersion) (same : t.job.videoVersions = t₀.job.videoVersions)
    (w : Wins route inputs t₀ t) : route = .finalizeJob ∧ (inputs 0).fails = true := by
  have fails : (inputs 0).fails = true := by
    by_contra ok
    have shown := (w 1).versions
    rw [← same] at shown
    simp [run, Vertep.Core.step, pc, ok, finishVideoVersion] at shown
  refine ⟨not_not.1 fun caught => ?_, fails⟩
  have ok := w.not_fails halted caught (fun h => ⟨t, by simp only [Vertep.Core.step, pc, h, if_true]⟩)
  exact absurd (ok.symm.trans fails) (by decide)

lemma unhindered_of_wins (halted : t₀.job.status.halted)
    (same : t.job.videoVersions = t₀.job.videoVersions)
    (w : Wins route inputs t₀ t) : Unhindered route t inputs := by
  obtain ⟨pc, job, version⟩ := t
  have written : ∀ {status : JobStatus}, status.halted = false →
      (step route (inputs 0) ⟨pc, job, version⟩).job.status = status → False := by
    intro status other e
    exact not_wins_of_status halted (by rw [e, other]) w.step
  -- the discarding of a render, from the release of the regeneration back
  have release : ∀ {inputs : ℕ → Input} {job : Job} {version : ℕ}, route ≠ .finalizeJob →
      Wins route inputs t₀ ⟨.releaseRegeneration, job, version⟩ →
      job.videoRegenerating = true → (inputs 0).fails = false :=
    fun caught w regenerating =>
      w.not_fails halted caught (fun h => ⟨_, by simp only [step, h, regenerating, and_self, if_true]; rfl⟩)
  have event : ∀ {inputs : ℕ → Input} {job : Job} {version : ℕ}, route ≠ .finalizeJob →
      Wins route inputs t₀ ⟨.discardEvent, job, version⟩ → Discards ⟨.discardEvent, job, version⟩ inputs 0 := by
    intro inputs job version caught w
    have ok := w.not_fails halted caught (fun h => ⟨_, by simp only [step, h, if_true]; rfl⟩)
    have w' := w.step
    simp only [step, ok, Bool.false_eq_true, if_false] at w'
    exact ⟨ok, release caught w'⟩
  have discard : ∀ {inputs : ℕ → Input} {job : Job} {version : ℕ}, route ≠ .finalizeJob →
      Wins route inputs t₀ ⟨.discard, job, version⟩ → Discards ⟨.discard, job, version⟩ inputs 1 := by
    intro inputs job version caught w
    have w' := w.step
    simp only [step, Thread.transitionStage] at w'
    split at w'
    · exact event caught w'
    · exact (not_wins_raise halted caught w').elim
  have recheck : ∀ {inputs : ℕ → Input} {job : Job} {version : ℕ}, route ≠ .finalizeJob →
      Wins route inputs t₀ ⟨.recheck, job, version⟩ → Discards ⟨.recheck, job, version⟩ inputs 2 := by
    intro inputs job version caught w
    have status := (w 0).status
    have w' := w.step
    simp only [step, show job.status = t₀.job.status from status, halted, if_true] at w'
    exact discard caught w'
  -- the three calls before the second test, from the last one back
  have subtitles : ∀ {inputs : ℕ → Input} {job : Job} {version : ℕ}, route ≠ .finalizeJob →
      Wins route inputs t₀ ⟨.registerSubtitles, job, version⟩ →
      (inputs 0).fails = false ∧ Discards ⟨.registerSubtitles, job, version⟩ inputs 3 := by
    intro inputs job version caught w
    have ok := w.not_fails halted caught (fun h => ⟨_, by simp only [step, h, if_true]; rfl⟩)
    have w' := w.step
    simp only [step, ok, Bool.false_eq_true, if_false] at w'
    exact ⟨ok, recheck caught w'⟩
  have render : ∀ {inputs : ℕ → Input} {job : Job} {version : ℕ}, route ≠ .finalizeJob →
      Wins route inputs t₀ ⟨.render, job, version⟩ →
      (∀ n < 2, (inputs n).fails = false) ∧ Discards ⟨.render, job, version⟩ inputs 4 := by
    intro inputs job version caught w
    have ok := w.not_fails halted caught (fun h => ⟨_, by simp only [step, h, if_true]; rfl⟩)
    have w' := w.step
    simp only [step, ok, Bool.false_eq_true, if_false] at w'
    obtain ⟨ok', discards⟩ := subtitles caught w'
    refine ⟨fun n hn => ?_, discards⟩
    cases n with
    | zero => exact ok
    | succ n =>
      obtain rfl : n = 0 := by omega
      exact ok'
  cases pc with
  | entryCheck | loopTest | done | raised => trivial
  | recheck => exact or_iff_not_imp_left.2 fun caught => recheck caught w
  | discard => exact or_iff_not_imp_left.2 fun caught => discard caught w
  | discardEvent => exact or_iff_not_imp_left.2 fun caught => event caught w
  | releaseRegeneration => exact or_iff_not_imp_left.2 fun caught => release caught w
  | assetsReady => exact (written rfl (status_updateOr _ .assetsReady _)).elim
  | assemblyStarted => exact (written rfl (status_updateOr _ .assembly _)).elim
  | videoReady => exact (written rfl (status_updateOr _ .videoReady _)).elim
  | pendingApproval => exact (written rfl (status_updateOr _ .videoPendingApproval _)).elim
  | retryUpdate =>
    refine (@written .assetsReady rfl ?_).elim
    simp only [step]
    split <;> rfl
  | notify =>
    exact or_iff_not_imp_left.2 fun caught =>
      w.not_fails halted caught (fun h => ⟨_, by simp only [step, h, if_true]; rfl⟩)
  | failStage => exact (not_wins_failStage halted rfl w).elim
  | updateFailed =>
    refine (not_wins_of_status halted ?_ w.step).elim
    rw [step_updateFailed _ rfl]
    rfl
  | registerSubtitles => exact or_iff_not_imp_left.2 fun caught => subtitles caught w
  | render => exact or_iff_not_imp_left.2 fun caught => render caught w
  | plan =>
    refine or_iff_not_imp_left.2 fun caught => ?_
    have ok := w.not_fails halted caught (fun h => ⟨_, by simp only [step, h, if_true]; rfl⟩)
    have w' := w.step
    simp only [step, ok, Bool.false_eq_true, if_false] at w'
    obtain ⟨later, discards⟩ := render caught w'
    refine ⟨fun n hn => ?_, discards⟩
    cases n with
    | zero => exact ok
    | succ n => exact later n (by omega)
  | stageRunning =>
    refine w.refused halted (rfl : JobStatus.assembly.halted = false) rfl fun i t' h => ?_
    simp only [step, h, status_updateOr]
  | stageReady =>
    refine w.refused halted (rfl : JobStatus.videoPendingApproval.halted = false) rfl fun i t' h => ?_
    simp only [step, h, status_updateOr]
  | finishVersion => exact w.finishVersion halted rfl same
  | registerVideo =>
    cases h : (inputs 0).fails with
    | true =>
      refine ⟨not_not.1 fun caught => ?_, .inl h⟩
      have ok := w.not_fails halted caught (fun h => ⟨_, by simp only [step, h, if_true]; rfl⟩)
      exact absurd (ok.symm.trans h) (by decide)
    | false =>
      have w' := w.step
      simp only [step, h, Bool.false_eq_true, if_false] at w'
      obtain ⟨plain, fails⟩ := w'.finishVersion halted rfl (by exact same)
      exact ⟨plain, .inr fails⟩

/-! ## Where a request can land -/

/-- A thread that no request has met yet: between the two tests the assembly runs. -/
def Undisturbed (t : Thread) : Prop :=
  match t.pc with
  | .assemblyStarted => t.job.stage .assembly = .running
  | .plan | .render | .registerSubtitles | .recheck =>
    t.job.stage .assembly = .running ∧ t.job.status = .assembly
  | .discard | .discardEvent | .releaseRegeneration => False
  | _ => True

lemma undisturbed_raise (t : Thread) : Undisturbed (t.raise_ route) := by
  cases route <;> trivial

lemma undisturbed_return (t : Thread) : Undisturbed (t.return_ route) := by
  cases route <;> trivial

lemma undisturbed_step (i : Input) (u : Undisturbed t) : Undisturbed (step route i t) := by
  obtain ⟨pc, job, version⟩ := t
  cases pc with
  | entryCheck =>
    simp only [step]
    split
    · exact undisturbed_return _
    · trivial
  | stageRunning =>
    simp only [step, Thread.transitionStage]
    split
    · exact Job.stage_setStage _ _ _
    · exact undisturbed_raise _
  | stageReady =>
    simp only [step, Thread.transitionStage]
    split
    · trivial
    · exact undisturbed_raise _
  | assemblyStarted =>
    simp only [step, Thread.updateOr]
    split
    · exact undisturbed_raise _
    · exact ⟨u, rfl⟩
  | plan | render | registerSubtitles =>
    simp only [step]
    split
    · exact undisturbed_raise _
    · exact u
  | recheck =>
    simp only [step, show job.status = .assembly from u.2]
    trivial
  | registerVideo | finishVersion =>
    simp only [step]
    split
    · exact undisturbed_raise _
    · trivial
  | notify =>
    simp only [step]
    split
    · exact undisturbed_raise _
    · exact undisturbed_return _
  | updateFailed =>
    simp only [step]
    split
    · trivial
    · exact undisturbed_return _
  | failStage | loopTest | retryUpdate =>
    simp only [step]
    split <;> trivial
  | discard | discardEvent | releaseRegeneration => exact u.elim
  | assetsReady | videoReady | pendingApproval =>
    simp only [step, Thread.updateOr]
    split
    · exact undisturbed_raise _
    · trivial
  | done | raised => trivial

def Thread.start (job : Job) : Thread := ⟨.entryCheck, job, 0⟩

lemma undisturbed_run (job : Job) (inputs : ℕ → Input) (n : ℕ) :
    Undisturbed (run route inputs (.start job) n) := by
  induction n with
  | zero => trivial
  | succ n ih => exact undisturbed_step _ ih

lemma land_halted (a : Halt) (t : Thread) : (a.land t).job.status.halted := by
  simp only [Halt.land, Halt.apply]
  split <;> cases a <;> rfl

lemma apply_mayTransition (a : Halt) {job : Job} (running : job.stage .assembly = .running) :
    (a.apply job).mayTransition .assembly .cancelled := by
  simp only [Job.mayTransition, Halt.apply, initializePlan_stage _ (by decide : StageName.assembly ≠ .script)]
  split
  · rw [Job.stage_setStage]
    cases a <;> rfl
  · change (job.stage .assembly).mayBecome .cancelled
    rw [running]
    rfl

lemma land_cancellable (a : Halt) (u : Undisturbed t) : Cancellable (a.land t) := by
  obtain ⟨pc, job, version⟩ := t
  cases pc with
  | plan | render | registerSubtitles | recheck => exact apply_mayTransition a u.1
  | discard | discardEvent | releaseRegeneration => exact u.elim
  | _ => trivial

end

/-- Wherever a pause or a cancel lands in a run of `finalize_job`, `finalize_job_safe` or
`_finalize_and_notify`, it is for good exactly when a test of the status comes before the next write,
with no caught exception on the way. -/
theorem halt_wins_iff (route : Route) (job : Job) (before after : ℕ → Input) (m : ℕ) (a : Halt) :
    (∀ n, Held (a.land (run route before (.start job) m))
        (run route after (a.land (run route before (.start job) m)) n)) ↔
      Unhindered route (a.land (run route before (.start job) m)) after := by
  constructor
  · intro wins
    exact unhindered_of_wins (land_halted a _) rfl wins
  · intro u n
    exact held_of_unhindered (land_halted a _) (land_cancellable a (undisturbed_run job before m)) u n

/-- A cancel accepted while the renderer works, and the renderer raises. -/
theorem cancelled_render_fails :
    ¬ ∀ (route : Route) (job : Job) (before after : ℕ → Input) (m : ℕ) (a : Halt),
      (∀ k ≤ m, (run route before (.start job) k).job.status ≠ .videoPendingApproval) →
        ∀ n, Held (a.land (run route before (.start job) m))
          (run route after (a.land (run route before (.start job) m)) n) := by
  intro wins
  have early : ∀ k ≤ 5, (run .finalizeAndNotify (fun _ => ⟨false, true, 0, 0⟩)
      (.start { status := .ttsReady }) k).job.status ≠ .videoPendingApproval := by decide
  have held := wins .finalizeAndNotify { status := .ttsReady }
    (fun _ => ⟨false, true, 0, 0⟩) (fun _ => ⟨true, false, 0, 0⟩) 5 .cancel early 3
  exact absurd held.status (by decide)

end Vertep.Core
