import Vertep.Update.Agent

/-!
# What an operation reports (`scripts/update-agent.py`)

A request is answered by a host, that is by any replies to the calls of the agent. What the agent reports is true
if a rollback is run, and an emergency is reported, only where the installation or the rollback of this request
had been started, and a request that was stopped before the installation is one that did not start it.
-/

namespace Vertep.Update
open Lib Script

abbrev Replies := (call : Call) → call.Reply

variable {e : Replies} {s : Status}

section
variable {γ : Type} {A : γ → Call → Prop} {step : γ → (call : Call) → call.Reply → γ} {g : γ}

lemma landed_eval (w : Written) :
    (landed w).eval e s = match w with
      | .done => (.ok (), s)
      | .lost error | .landed error => (.error error, s) := by
  cases w <;> rfl

@[simp] lemma landed_wp {Q : Unit → Status → γ → Prop} {X : Failure → Status → γ → Prop} (w : Written) :
    (landed w).wp A step Q X s g ↔
      (w = .done → Q () s g) ∧ ∀ error, w = .lost error ∨ w = .landed error → X error s g := by
  cases w <;> simp [landed]

end

/-! ## What is told -/

/-- The calls that start or tell what becomes of the operation. -/
def Call.Telling : Call → Prop
  | .spawn .rollback | .spawn (.applyUpdate _ _) | .status .outcome _ | .system .emergency _ => True
  | .status _ s => s.phase = .emergency
  | _ => False

instance : DecidablePred Call.Telling := fun call => by
  unfold Call.Telling
  split <;> infer_instance

abbrev told {α : Type} (e : Replies) (m : AgentM α) (s : Status) : List Call :=
  m.madeOf e (fun call => decide call.Telling) s

lemma mem_told {α : Type} {m : AgentM α} {call : Call} (telling : call.Telling) :
    call ∈ told e m s ↔ call ∈ m.made e s := by
  simp [told, madeOf, telling]

/-! ## Stages that tell nothing -/

/-- Whatever the replies, nothing is told; `Q` holds when it returns, and `X` when it raises. -/
abbrev Silent {α : Type} (m : AgentM α) (s : Status) (Q : α → Status → Prop) (X : Status → Prop) : Prop :=
  m.wp (fun (_ : Unit) call => ¬ call.Telling) (fun _ _ _ => ()) (fun a s' _ => Q a s') (fun _ s' _ => X s') s ()

lemma Silent.quiet {α : Type} {m : AgentM α} {Q : α → Status → Prop} {X : Status → Prop} (h : Silent m s Q X)
    (e : Replies) : told e m s = [] := by
  refine List.filter_eq_nil_iff.2 fun call mem => ?_
  simpa using (Script.wp.run h e).1 call mem

/-- The same operation, in a phase before the installation. -/
structure Status.Early (s s' : Status) : Prop where
  phase : s'.phase ≠ .updating ∧ s'.phase ≠ .recovering
  requestId : s'.requestId = s.requestId

def Status.At (s : Status) (phase : Phase) (s' : Status) : Prop := s'.phase = phase ∧ s'.requestId = s.requestId

lemma landed_silent (written : Written) : Silent (landed written) s (fun _ s' => s' = s) (fun s' => s' = s) := by
  cases written <;> simp [Silent, landed]

lemma setSystemState_silent {phase : Phase} {state : SystemState} (shown : phase.system = some state)
    (calm : phase ≠ .emergency) (reason : String) :
    Silent (setSystemState state reason) s (fun _ s' => s' = s) (fun s' => s' = s) := by
  have quiet : state ≠ .emergency := by
    rintro rfl
    cases phase <;> simp [Phase.system] at shown calm
  refine ⟨?_, landed_silent⟩
  cases state <;> simp [Call.Telling] at quiet ⊢

lemma transition_silent {phase : Phase} {message : String} {progress : Option ℤ}
    (calm : phase ≠ .emergency) :
    Silent (transition phase message progress) s (fun _ => s.At phase) (s.At phase) := by
  simp only [Silent, transition, note, trimLog, writeStatus, appendAudit, wp_bind, wp_modify, wp_ask, wp_get]
  refine ⟨calm, fun written => (landed_silent written).mono ?_ ?_⟩
  · rintro _ _ _ rfl
    refine ⟨id, fun written => (landed_silent written).mono ?_ ?_⟩
    · rintro _ _ _ rfl
      rcases shown : phase.system with _ | state
      · exact ⟨rfl, rfl⟩
      · refine (setSystemState_silent shown calm message).mono ?_ ?_ <;>
          · rintro _ _ _ rfl
            exact ⟨rfl, rfl⟩
    · rintro _ _ _ rfl
      exact ⟨rfl, rfl⟩
  · rintro _ _ _ rfl
    exact ⟨rfl, rfl⟩

lemma transition_after {phase : Phase} (message : String) (progress : Option ℤ) (calm : phase ≠ .emergency) :
    s.At phase ((transition phase message progress).eval e s).2 := by
  have after := (Script.wp.run (@transition_silent s phase message progress calm) e).2
  rcases ended : (transition phase message progress).eval e s with ⟨error | _, s'⟩ <;> rw [ended] at after <;> exact after

lemma transition_early {phase : Phase} {message : String} {progress : Option ℤ}
    (early : phase ≠ .updating ∧ phase ≠ .recovering) (calm : phase ≠ .emergency) :
    Silent (transition phase message progress) s (fun _ => s.Early) s.Early :=
  (transition_silent calm).mono (fun _ _ _ h => ⟨h.1 ▸ early, h.2⟩) fun _ _ _ h => ⟨h.1 ▸ early, h.2⟩

lemma assertMutationAllowed_silent (guard : Guard) :
    Silent (assertMutationAllowed guard) s (fun _ s' => s' = s) (fun s' => s' = s) := by
  simp only [Silent, assertMutationAllowed, wp_bind, wp_ask, wp_require]
  refine ⟨by rintro ⟨⟩, fun _ => ⟨fun _ _ => ⟨by rintro ⟨⟩, fun r => ?_⟩, fun _ _ => trivial⟩⟩
  cases r <;> simp

lemma Status.Early.trans {s₁ s₂ s₃ : Status} (h : s₁.Early s₂) (h' : s₂.Early s₃) : s₁.Early s₃ :=
  ⟨h'.phase, h'.requestId.trans h.requestId⟩

lemma drainRounds_early (early : s.phase ≠ .updating ∧ s.phase ≠ .recovering) (n i : ℕ) :
    Silent (drainRounds n i) s (fun _ => s.Early) s.Early := by
  induction n generalizing i with
  | zero => exact ⟨early, rfl⟩
  | succ n ih =>
    simp only [Silent, drainRounds, wp_bind, wp_ask, wp_require]
    refine (assertMutationAllowed_silent _).mono ?_ ?_
    · rintro _ _ _ rfl
      refine ⟨by rintro ⟨⟩, fun _ => ⟨by rintro ⟨⟩, fun r => ⟨fun ready _ => ?_, fun _ _ => ⟨early, rfl⟩⟩⟩⟩
      cases ready
      · exact ih (i + 1)
      · exact transition_early (by decide) (by decide)
    · rintro _ _ _ rfl
      exact ⟨early, rfl⟩

lemma waitForDrain_early : Silent waitForDrain s (fun _ => s.Early) s.Early := by
  simp only [Silent, waitForDrain, wp_bind, wp_ask]
  refine (transition_early (by decide) (by decide)).mono (fun _ s' _ h => ⟨by rintro ⟨⟩, fun n => ?_⟩) fun _ _ _ h => h
  exact (drainRounds_early h.phase n 0).mono (fun _ _ _ => h.trans) fun _ _ _ => h.trans

lemma prepareInstallation_early (offer : Offer) (skipDrain : Bool) :
    Silent (prepareInstallation offer skipDrain) s (fun _ => s.Early) s.Early := by
  simp only [Silent, prepareInstallation, wp_bind, wp_ask, wp_require]
  refine (transition_early (by decide) (by decide)).mono (fun _ s' _ h => ?_) fun _ _ _ h => h
  refine ⟨by rintro ⟨⟩, fun _ => ⟨fun _ _ => ?_, fun _ _ => h⟩⟩
  cases skipDrain
  · exact waitForDrain_early.mono (fun _ _ _ => h.trans) fun _ _ _ => h.trans
  · exact h

lemma store_early {write : String → Call} {reply : ∀ text, (write text).Reply = Written}
    (quiet : ∀ text, ¬ (write text).Telling) (early : s.phase ≠ .updating ∧ s.phase ≠ .recovering)
    (text : Option String) : Silent (store write reply text) s (fun _ => s.Early) s.Early := by
  cases text with
  | none => exact ⟨early, rfl⟩
  | some text => simp [Silent, store, quiet text, Status.Early.mk early rfl]

lemma verifyRelease_early (request : Request) (early : s.phase ≠ .updating ∧ s.phase ≠ .recovering) :
    Silent (verifyRelease request) s (fun _ => s.Early) s.Early := by
  have start : s.Early s := ⟨early, rfl⟩
  simp only [Silent, verifyRelease, wp_bind, wp_ask, wp_require]
  refine ⟨by rintro ⟨⟩, fun _ => ⟨fun offer _ => ?_, fun _ _ => start⟩⟩
  split
  · exact start
  · simp only [wp_bind, wp_ask, wp_require]
    refine (store_early (fun _ => id) early _).mono (fun _ s₁ _ h₁ => ?_) fun _ _ _ h => h
    refine ⟨by rintro ⟨⟩, fun _ => ⟨fun release _ => ?_, fun _ _ => h₁⟩⟩
    refine (store_early (fun _ => id) h₁.phase _).mono (fun _ s₂ _ h₂ => ?_) fun _ _ _ => h₁.trans
    exact (transition_early (by decide) (by decide)).mono (fun _ _ _ => (h₁.trans h₂).trans)
      fun _ _ _ => (h₁.trans h₂).trans

def Status.Done (s : Status) : Prop := s.phase = .normal ∧ s.state ≠ .failed

lemma succeed_silent {state : RunState} {message reason : String} (well : state ≠ .failed) :
    Silent (succeed state message reason) s (fun _ => Status.Done) fun s' => s'.phase = .normal := by
  simp [Silent, succeed, setSystemState, Call.Telling, Status.Done, well]

lemma healthRounds_silent (n i : ℕ) :
    Silent (healthRounds n i) s (fun _ s' => s' = s) (fun s' => s' = s) := by
  induction n generalizing i with
  | zero =>
    rw [healthRounds]
    simp only [Silent, wp_bind, wp_ask]
    refine ⟨id, fun r => ?_⟩
    cases r <;> exact rfl
  | succ n ih =>
    rw [healthRounds]
    simp only [Silent, wp_bind, wp_ask]
    refine ⟨id, fun r => ?_⟩
    cases r with
    | ok _ => exact rfl
    | error _ => exact ih (i + 1)

lemma verifyRestoredRelease_silent :
    Silent verifyRestoredRelease s (fun _ s' => s' = s) (fun s' => s' = s) := by
  simp only [Silent, verifyRestoredRelease, wp_bind, wp_ask]
  refine ⟨id, fun coordinated => ?_⟩
  cases coordinated with
  | true => exact rfl
  | false => exact ⟨id, fun n => healthRounds_silent n 0⟩

lemma watch_silent (command : HostCommand) (ticks : List Tick) (i : ℕ) :
    Silent (watch command ticks i) s (fun _ s' => s' = s) (fun s' => s' = s) := by
  induction ticks generalizing i with
  | nil => exact rfl
  | cons tick ticks ih =>
    cases tick with
    | report phase =>
      simp only [Silent, watch, wp_bind]
      exact ⟨id, fun _ => ih (i + 1)⟩
    | check =>
      simp only [Silent, watch, wp_bind, wp_rescue, wp_raise]
      refine (assertMutationAllowed_silent _).mono ?_ ?_
      · rintro _ _ _ rfl
        exact ih (i + 1)
      · rintro _ _ _ rfl
        exact ⟨id, fun _ => rfl⟩

lemma runFenced_silent {command : HostCommand} (harmless : ¬ (Call.spawn command).Telling) :
    Silent (runFenced command) s (fun _ s' => s' = s) (fun s' => s' = s) := by
  simp only [Silent, runFenced, wp_bind, wp_ask, wp_require]
  refine (assertMutationAllowed_silent _).mono ?_ fun _ _ _ h => h
  rintro _ _ _ rfl
  refine ⟨harmless, fun _ => ⟨fun work _ => ?_, fun _ _ => rfl⟩⟩
  refine (watch_silent command work.ticks 0).mono ?_ fun _ _ _ h => h
  rintro _ _ _ rfl
  exact ⟨fun _ _ => rfl, fun _ _ => rfl⟩

lemma restartServices_early :
    Silent restartServices s (fun _ => Status.Done)
      (fun s' => s'.phase ≠ .updating ∧ s'.phase ≠ .recovering) := by
  simp only [Silent, restartServices, mergeRuntimeProgress, noteOutput, wp_bind, wp_ask, wp_modify]
  refine (transition_early (by decide) (by decide)).mono (fun _ s₁ _ early => ?_) fun _ _ _ h => h.phase
  refine (assertMutationAllowed_silent _).mono ?_ ?_
  · rintro _ _ _ rfl
    refine (runFenced_silent id).mono ?_ ?_
    · rintro _ _ _ rfl
      refine ⟨id, fun r => ?_⟩
      cases r <;> exact (succeed_silent (by decide)).mono (fun _ _ _ h => h) fun _ s' _ h => by rw [h]; decide
    · rintro _ _ _ rfl
      exact early.phase
  · rintro _ _ _ rfl
    exact early.phase

/-! ## Commands on a host -/

def Allows (e : Replies) (guard : Guard) : Prop := e (.current guard) = .ok () ∧ e (.fence guard) = .absent

/-- The watchdog lets a command run to its end. -/
def Watched (e : Replies) (command : HostCommand) : List Tick → ℕ → Prop
  | [], _ => True
  | .report _ :: ticks, i => Watched e command ticks (i + 1)
  | .check :: ticks, i => Allows e (.watch command i) ∧ Watched e command ticks (i + 1)

def Started (e : Replies) (command : HostCommand) : Prop := ∃ work, e (.spawn command) = .ok work

def Ran (e : Replies) (command : HostCommand) (output : List String) : Prop :=
  ∃ work, e (.spawn command) = .ok work ∧ Watched e command work.ticks 0 ∧ work.result = .ok output

lemma Allows.eval {guard : Guard} (allows : Allows e guard) : (assertMutationAllowed guard).eval e s = (.ok (), s) := by
  simp [assertMutationAllowed, eval_bind, allows.1, allows.2, require]

lemma eval_of_not_allows {guard : Guard} (refused : ¬ Allows e guard) :
    ∃ error, (assertMutationAllowed guard).eval e s = (.error error, s) := by
  simp only [assertMutationAllowed, eval_bind, eval_ask]
  rcases current : e (.current guard) with error | _
  · exact ⟨error, rfl⟩
  · cases fence : e (.fence guard) with
    | absent => exact absurd ⟨current, fence⟩ refused
    | unreadable => exact ⟨_, rfl⟩
    | of operation => exact ⟨_, rfl⟩

lemma watch_eval {command : HostCommand} {ticks : List Tick} {i : ℕ} :
    (Watched e command ticks i → (watch command ticks i).eval e s = (.ok (), s)) ∧
      (¬ Watched e command ticks i → ∃ error, (watch command ticks i).eval e s = (.error error, s)) := by
  induction ticks generalizing i with
  | nil => exact ⟨fun _ => rfl, fun h => (h trivial).elim⟩
  | cons tick ticks ih =>
    cases tick with
    | report phase => simpa only [watch, Watched, eval_bind, eval_ask] using ih
    | check =>
      simp only [watch, Watched, eval_bind, eval_rescue]
      by_cases allows : Allows e (.watch command i)
      · simpa [allows, allows.eval] using ih
      · have ⟨error, raised⟩ := eval_of_not_allows (s := s) allows
        simp [allows, raised]

section
variable {command : HostCommand}

lemma Ran.eval {output : List String} (allows : Allows e (.start command)) (ran : Ran e command output) :
    (runFenced command).eval e s = (.ok output, s) := by
  obtain ⟨work, started, watched, result⟩ := ran
  simp [runFenced, eval_bind, allows.eval, started, require, watch_eval.1 watched, result]

lemma eval_of_not_ran (fails : ¬ (Allows e (.start command) ∧ ∃ output, Ran e command output)) :
    ∃ error, (runFenced command).eval e s = (.error error, s) := by
  by_cases allows : Allows e (.start command)
  · rcases started : e (.spawn command) with error | work
    · exact ⟨error, by simp [runFenced, eval_bind, allows.eval, started, require]⟩
    · by_cases watched : Watched e command work.ticks 0
      · rcases result : work.result with error | output
        · exact ⟨error, by simp [runFenced, eval_bind, allows.eval, started, require, watch_eval.1 watched, result]⟩
        · exact absurd ⟨allows, output, work, started, watched, result⟩ fails
      · obtain ⟨error, raised⟩ := (watch_eval (s := s)).2 watched
        exact ⟨error, by simp [runFenced, eval_bind, allows.eval, started, require, raised]⟩
  · obtain ⟨error, raised⟩ := eval_of_not_allows (s := s) allows
    exact ⟨error, by simp [runFenced, eval_bind, raised]⟩

lemma runFenced_told (telling : (Call.spawn command).Telling) (allows : Allows e (.start command)) :
    told e (runFenced command) s = [.spawn command] := by
  simp only [told, runFenced, madeOf_bind, allows.eval, (assertMutationAllowed_silent _).quiet, eval_ask, madeOf_ask,
    telling]
  rcases e (.spawn command) with error | work
  · simp [require]
  · simp only [require, eval_pure, madeOf_pure, (watch_silent _ _ _).quiet]
    rcases (watch command work.ticks 0).eval e s with ⟨error | _, s'⟩
    · simp
    · rcases work.result with error | output <;> simp

lemma runFenced_told_of_not_allows (refused : ¬ Allows e (.start command)) :
    told e (runFenced command) s = [] := by
  have ⟨error, raised⟩ := eval_of_not_allows (s := s) refused
  simp [told, runFenced, madeOf_bind, raised, (assertMutationAllowed_silent _).quiet]

/-- What precedes a command: the phase is written down, and the guard lets it pass, twice. -/
def Begins (e : Replies) (phase : Phase) (message : String) (progress : Option ℤ) (command : HostCommand) (s : Status) :
    Prop :=
  ((transition phase message progress).eval e s).1 = .ok () ∧ Allows e (.before command) ∧ Allows e (.start command)

/-- A command after its transition, and what follows it. -/
def begun {α : Type} (phase : Phase) (message : String) (progress : Option ℤ) (command : HostCommand)
    (f : List String → AgentM α) : AgentM α := do
  transition phase message progress
  assertMutationAllowed (.before command)
  let output ← runFenced command
  f output

variable {α : Type} {f : List String → AgentM α} {phase : Phase} {message : String} {progress : Option ℤ}

lemma Begins.eval {output : List String} (begins : Begins e phase message progress command s)
    (calm : phase ≠ .emergency) (telling : (Call.spawn command).Telling) (ran : Ran e command output) :
    ∃ s', s.At phase s' ∧ (begun phase message progress command f).eval e s = (f output).eval e s' ∧
      told e (begun phase message progress command f) s = .spawn command :: told e (f output) s' := by
  have after := transition_after (e := e) (s := s) message progress calm
  rcases turned : (transition phase message progress).eval e s with ⟨error | _, s'⟩
  · exact absurd begins.1 (by simp [turned])
  · rw [turned] at after
    refine ⟨s', after, ?_, ?_⟩
    · simp [begun, eval_bind, turned, begins.2.1.eval, ran.eval begins.2.2]
    · simp [told, begun, madeOf_bind, turned, begins.2.1.eval, ran.eval begins.2.2, (transition_silent calm).quiet,
        (assertMutationAllowed_silent _).quiet, runFenced_told telling begins.2.2]

lemma Begins.eval_of_not_ran (begins : Begins e phase message progress command s)
    (calm : phase ≠ .emergency) (telling : (Call.spawn command).Telling) (fails : ¬ ∃ output, Ran e command output) :
    ∃ error s', s.At phase s' ∧ (begun phase message progress command f).eval e s = (.error error, s') ∧
      told e (begun phase message progress command f) s = [.spawn command] := by
  have after := transition_after (e := e) (s := s) message progress calm
  rcases turned : (transition phase message progress).eval e s with ⟨error | _, s'⟩
  · exact absurd begins.1 (by simp [turned])
  · rw [turned] at after
    have ⟨error, raised⟩ := Vertep.Update.eval_of_not_ran (s := s') (fun h => fails h.2)
    refine ⟨error, s', after, ?_, ?_⟩
    · simp [begun, eval_bind, turned, begins.2.1.eval, raised]
    · simp [told, begun, madeOf_bind, turned, begins.2.1.eval, raised, (transition_silent calm).quiet,
        (assertMutationAllowed_silent _).quiet, runFenced_told telling begins.2.2]

lemma eval_of_not_begins (refused : ¬ Begins e phase message progress command s) (calm : phase ≠ .emergency) :
    ∃ error s', s.At phase s' ∧ (begun phase message progress command f).eval e s = (.error error, s') ∧
      told e (begun phase message progress command f) s = [] := by
  have after := transition_after (e := e) (s := s) message progress calm
  rcases turned : (transition phase message progress).eval e s with ⟨error | _, s'⟩ <;> rw [turned] at after
  · exact ⟨error, s', after, by simp [begun, eval_bind, turned],
      by simp [told, begun, madeOf_bind, turned, (transition_silent calm).quiet]⟩
  · by_cases before : Allows e (.before command)
    · have stopped : ¬ Allows e (.start command) := fun start => refused ⟨by rw [turned], before, start⟩
      have ⟨error, raised⟩ := Vertep.Update.eval_of_not_ran (s := s') (fun h => stopped h.1)
      exact ⟨error, s', after, by simp [begun, eval_bind, turned, before.eval, raised],
        by simp [told, begun, madeOf_bind, turned, before.eval, raised, (transition_silent calm).quiet,
          (assertMutationAllowed_silent _).quiet, runFenced_told_of_not_allows stopped]⟩
    · have ⟨error, raised⟩ := eval_of_not_allows (s := s') before
      exact ⟨error, s', after, by simp [begun, eval_bind, turned, raised],
        by simp [told, begun, madeOf_bind, turned, raised, (transition_silent calm).quiet,
          (assertMutationAllowed_silent _).quiet]⟩

end

/-! ## The body of the operation -/

def Applied (e : Replies) (calls : List Call) : Prop :=
  ∃ version safe, .spawn (.applyUpdate version safe) ∈ calls ∧ Started e (.applyUpdate version safe)

def RolledBack (e : Replies) (calls : List Call) : Prop := .spawn .rollback ∈ calls ∧ Started e .rollback

/-- The phase in which the body raised is one for what it had started. -/
def Matched (e : Replies) (calls : List Call) (phase : Phase) : Prop :=
  match phase with
  | .updating => Applied e calls
  | .recovering => Applied e calls ∨ RolledBack e calls
  | _ => ¬ Applied e calls

/-- The phase of an installation that ran, once the agent has read what the shell reported. -/
def runtimePhase (e : Replies) (command : HostCommand) (requestId : Option String) : Phase :=
  match e (.readStatus command) with
  | .error _ => .updating
  | .ok runtime => if runtime.requestId = requestId then runtime.phase else .updating

/-- After an installation that ran, the old releases are pruned and the system is back to normal, or the phase of the
installation is still there. -/
def Settles (e : Replies) (command : HostCommand) (requestId : Option String) : Prop :=
  match e .prune with
  | .ok _ => e (.system .normal "Update completed") = .done
  | .error _ => runtimePhase e command requestId = .updating ∨ runtimePhase e command requestId = .recovering

/-- A release that is to be installed is, once it is downloaded and the workers are drained. -/
def Installs (e : Replies) (skipDrain : Bool) (offer : Offer) (release : Release) (s : Status) : Prop :=
  (release.available ∨ e .forced) → ∀ s', (prepareInstallation offer skipDrain).eval e s = (.ok (), s') →
    Begins e .updating "Backup and package installation started" (some 50) (applyCommand offer release) s' ∧
      Started e (applyCommand offer release) ∧
      ((∃ output, Ran e (applyCommand offer release) output) → Settles e (applyCommand offer release) s.requestId)

/-- What was decided to be done is started. -/
def Proceeds (e : Replies) (request : Request) (action : Action) (skipDrain : Bool) (s : Status) : Prop :=
  match action with
  | .check | .restart => True
  | .rollback =>
    Begins e .recovering "Restoring the previous release" (some 40) .rollback s ∧ Started e .rollback
  | .update =>
    ∀ offer release s', (verifyRelease request).eval e s = (.ok (offer, release), s') →
      Installs e skipDrain offer release s'

/-- The body told only commands, and raised in a phase that matches them, if what was decided proceeds. -/
structure Ended (e : Replies) (action : Action) (calls : List Call) (last : Except Failure Unit × Status)
    (proceeds : Prop) : Prop where
  spawns : ∀ call ∈ calls, ∃ command, call = .spawn command ∧ (command = .rollback → action = .rollback)
  returned : ∀ s', last = (.ok (), s') → s'.Done
  updating : ∀ error s', last = (.error error, s') → s'.phase = .updating → action ≠ .rollback
  matched : (∀ error s', last = (.error error, s') → Matched e calls s'.phase) ↔ proceeds

lemma Matched.of_early {phase : Phase} (early : phase ≠ .updating ∧ phase ≠ .recovering) : Matched e [] phase := by
  unfold Matched
  split
  · exact absurd rfl early.1
  · exact absurd rfl early.2
  · rintro ⟨_, _, ⟨⟩, _⟩

section
variable {action : Action} {calls : List Call} {error : Failure} {s' : Status} {proceeds proceeds' : Prop}

lemma Ended.raised (spawns : ∀ call ∈ calls, ∃ command, call = .spawn command ∧ (command = .rollback → action = .rollback))
    (updating : s'.phase = .updating → action ≠ .rollback) (matched : Matched e calls s'.phase ↔ proceeds) :
    Ended e action calls (.error error, s') proceeds := by
  refine ⟨spawns, by rintro _ ⟨⟩, ?_, Iff.trans ⟨fun h => h error s' rfl, ?_⟩ matched⟩
  · rintro _ _ ⟨⟩
    exact updating
  · rintro h _ _ ⟨⟩
    exact h

lemma Ended.congr {last : Except Failure Unit × Status} (h : Ended e action calls last proceeds)
    (same : proceeds ↔ proceeds') : Ended e action calls last proceeds' :=
  ⟨h.spawns, h.returned, h.updating, h.matched.trans same⟩

lemma Silent.ended {m : AgentM Unit}
    (h : Silent m s (fun _ => Status.Done) fun s' => s'.phase ≠ .updating ∧ s'.phase ≠ .recovering) :
    Ended e action (told e m s) (m.eval e s) True := by
  have after := (h.run e).2
  rw [h.quiet]
  rcases ended : m.eval e s with ⟨error | _, s'⟩ <;> rw [ended] at after
  · exact .raised (List.forall_mem_nil _) (fun updating => absurd updating after.1)
      (iff_of_true (.of_early after) trivial)
  · refine ⟨List.forall_mem_nil _, ?_, by rintro _ _ ⟨⟩, iff_of_true (by rintro _ _ ⟨⟩) trivial⟩
    rintro _ ⟨⟩
    exact after

end

/-- What follows a rollback. -/
def restored (message reason : String) (output : List String) : AgentM Unit := do
  noteOutput 100 output
  verifyRestoredRelease
  succeed .rolledBack message reason

lemma restored_silent (message reason : String) (output : List String) (recovering : s.phase = .recovering) :
    Silent (restored message reason output) s (fun _ => Status.Done) (fun s' => s'.phase ≠ .updating) := by
  simp only [Silent, restored, noteOutput, wp_bind, wp_modify]
  refine verifyRestoredRelease_silent.mono ?_ ?_
  · rintro _ _ _ rfl
    exact (succeed_silent (by decide)).mono (fun _ _ _ h => h) fun _ _ _ h => by simp [h]
  · rintro _ _ _ rfl
    simp [recovering]

lemma rollBack_begun :
    rollBack = begun .recovering "Restoring the previous release" (some 40) .rollback
      (restored "Previous release restored" "Previous release restored") := rfl

lemma rollBackInstallation_begun :
    rollBackInstallation = begun .recovering "Health check failed; rolling back" none .rollback
      (restored "Попередню версію відновлено автоматично" "Automatic rollback completed") := rfl

lemma rollBack_ended :
    Ended e .rollback (told e rollBack s) (rollBack.eval e s)
      (Begins e .recovering "Restoring the previous release" (some 40) .rollback s ∧ Started e .rollback) := by
  have started_iff : Matched e [.spawn .rollback] .recovering ↔ Started e .rollback :=
    ⟨by
      rintro (⟨version, safe, mem, _⟩ | ⟨_, started⟩)
      · simp at mem
      · exact started, fun started => .inr ⟨List.mem_singleton_self _, started⟩⟩
  have alone : ∀ call ∈ [Call.spawn .rollback], ∃ command, call = .spawn command ∧ (command = .rollback →
      Action.rollback = .rollback) := by simp
  rw [rollBack_begun]
  by_cases begins : Begins e .recovering "Restoring the previous release" (some 40) .rollback s
  · by_cases ran : ∃ output, Ran e .rollback output
    · obtain ⟨output, ran⟩ := ran
      have started : Started e .rollback := ran.imp fun _ h => h.1
      obtain ⟨s', at_, ends, telling⟩ :=
        begins.eval (f := restored _ _) (by decide) trivial ran
      have silent := restored_silent "Previous release restored" "Previous release restored" output at_.1
      have after := (silent.run e).2
      rw [ends, telling, silent.quiet]
      rcases ended : Script.eval e _ s' with ⟨error | _, s''⟩ <;> rw [ended] at after
      · refine .raised alone (fun updating => absurd updating after) (iff_of_true ?_ ⟨begins, started⟩)
        unfold Matched
        split
        · exact absurd ‹_› after
        · exact .inr ⟨List.mem_singleton_self _, started⟩
        · rintro ⟨version, safe, mem, _⟩
          simp at mem
      · refine ⟨alone, ?_, by rintro _ _ ⟨⟩, iff_of_true (by rintro _ _ ⟨⟩) ⟨begins, started⟩⟩
        rintro _ ⟨⟩
        exact after
    · obtain ⟨error, s', at_, ends, telling⟩ :=
        begins.eval_of_not_ran (f := restored _ _) (by decide) trivial ran
      rw [ends, telling]
      refine .raised alone (fun updating => absurd (at_.1.symm.trans updating) (by decide)) ?_
      rw [at_.1, started_iff, and_iff_right begins]
  · obtain ⟨error, s', at_, ends, telling⟩ :=
      eval_of_not_begins (f := restored _ _) begins (by decide)
    rw [ends, telling]
    refine .raised (List.forall_mem_nil _) (fun updating => absurd (at_.1.symm.trans updating) (by decide)) ?_
    rw [at_.1]
    refine iff_of_false ?_ fun h => begins h.1
    rintro (⟨_, _, ⟨⟩, _⟩ | ⟨⟨⟩, _⟩)

/-- What follows an installation. -/
def installed (command : HostCommand) (output : List String) : AgentM Unit := do
  mergeRuntimeProgress command
  noteOutput 200 output
  let pruned ← require (← ask .prune)
  note s!"Immutable release retention: {pruned}"
  succeed .succeeded "Update completed"

lemma install_begun (command : HostCommand) :
    (do
      install command
      succeed .succeeded "Update completed") =
    begun .updating "Backup and package installation started" (some 50) command (installed command) := by
  simp only [install, begun, installed, Script.bind_assoc]

section
variable {command : HostCommand} {output : List String}

lemma installed_silent (command : HostCommand) (output : List String) : Silent (installed command output) s (fun _ => Status.Done) (fun _ => True) := by
  simp only [Silent, installed, mergeRuntimeProgress, noteOutput, note, wp_bind, wp_ask, wp_modify, wp_require]
  refine ⟨id, fun r => ?_⟩
  cases r <;>
    exact ⟨id, fun _ => ⟨fun _ _ => (succeed_silent (by decide)).mono (fun _ _ _ h => h) fun _ _ _ _ => trivial,
      fun _ _ => trivial⟩⟩

lemma installed_matched (updating : s.phase = .updating) (calls : List Call) (applied : Applied e calls) :
    (∀ error s', (installed command output).eval e s = (.error error, s') → Matched e calls s'.phase) ↔
      Settles e command s.requestId := by
  simp only [installed, mergeRuntimeProgress, noteOutput, note, succeed, setSystemState, eval_bind, eval_ask,
    eval_modify, Settles, runtimePhase]
  cases e .prune with
  | error error =>
    rcases e (.readStatus command) with _ | runtime
    · simp [require, updating, Matched, applied]
    · by_cases same : runtime.requestId = s.requestId <;> simp [require, same, updating, Matched, applied]
      cases runtime.phase <;> simp
  | ok pruned =>
    rcases e (.readStatus command) with _ | runtime <;>
    rcases e (.system .normal "Update completed") with _ | error | error <;>
    simp [require, landed_eval, Matched, applied]

end

lemma install_ended (version : String) (safe : Bool) :
    Ended e .update
      (told e (begun .updating "Backup and package installation started" (some 50) (.applyUpdate version safe)
        (installed (.applyUpdate version safe))) s)
      ((begun .updating "Backup and package installation started" (some 50) (.applyUpdate version safe)
        (installed (.applyUpdate version safe))).eval e s)
      (Begins e .updating "Backup and package installation started" (some 50) (.applyUpdate version safe) s ∧
        Started e (.applyUpdate version safe) ∧
        ((∃ output, Ran e (.applyUpdate version safe) output) →
          Settles e (.applyUpdate version safe) s.requestId)) := by
  have applied_iff : Applied e [.spawn (.applyUpdate version safe)] ↔ Started e (.applyUpdate version safe) := by
    refine ⟨?_, fun started => ⟨_, _, List.mem_singleton_self _, started⟩⟩
    rintro ⟨_, _, mem, started⟩
    cases List.mem_singleton.1 mem
    exact started
  have alone : ∀ call ∈ [Call.spawn (.applyUpdate version safe)], ∃ command, call = .spawn command ∧
      (command = .rollback → Action.update = .rollback) := by simp
  by_cases begins : Begins e .updating "Backup and package installation started" (some 50)
    (.applyUpdate version safe) s
  · by_cases ran : ∃ output, Ran e (.applyUpdate version safe) output
    · have ⟨output, ran'⟩ := ran
      have started : Started e (.applyUpdate version safe) := ran'.imp fun _ h => h.1
      obtain ⟨s', at_, ends, telling⟩ := begins.eval (f := installed _) (by decide) trivial ran'
      have after := (installed_silent (s := s') (.applyUpdate version safe) output).run e |>.2
      rw [ends, telling, (installed_silent _ _).quiet]
      refine ⟨alone, fun s'' returned => ?_, fun _ _ _ _ => nofun, ?_⟩
      · rwa [returned] at after
      · simp only [begins, started, ran, true_and, forall_const, ← at_.2]
        exact installed_matched at_.1 _ (applied_iff.2 started)
    · obtain ⟨error, s', at_, ends, telling⟩ := begins.eval_of_not_ran (f := installed _) (by decide) trivial ran
      rw [ends, telling]
      refine .raised alone (fun _ => nofun) ?_
      simp only [at_.1, Matched, begins, ran, true_and, IsEmpty.forall_iff, and_true, applied_iff]
  · obtain ⟨error, s', at_, ends, telling⟩ := eval_of_not_begins (f := installed _) begins (by decide)
    rw [ends, telling]
    refine .raised (List.forall_mem_nil _) (fun _ => nofun) ?_
    simp [at_.1, Matched, Applied, begins]

lemma Ended.after {α : Type} {action : Action} {m : AgentM α} {f : α → AgentM Unit} {Q : α → Status → Prop}
    {P : α → Status → Prop} (silent : Silent m s Q s.Early)
    (next : ∀ a s', Q a s' → Ended e action (told e (f a) s') ((f a).eval e s') (P a s')) :
    Ended e action (told e (m >>= f) s) ((m >>= f).eval e s) (∀ a s', m.eval e s = (.ok a, s') → P a s') := by
  have after := (silent.run e).2
  rcases ended : m.eval e s with ⟨error | a, s'⟩ <;> rw [ended] at after <;>
    simp only [told, madeOf_bind, eval_bind, ended, silent.quiet]
  · exact .raised (List.forall_mem_nil _) (fun updating => absurd updating after.phase.1)
      (iff_of_true (.of_early after.phase) (by rintro _ _ ⟨⟩))
  · refine (next a s' after).congr ⟨?_, fun h => h a s' rfl⟩
    rintro proceeds _ _ ⟨⟩
    exact proceeds

lemma succeed_ended {action : Action} {state : RunState} {message : String} (well : state ≠ .failed) :
    Ended e action (told e (succeed state message) s) ((succeed state message).eval e s) True :=
  Silent.ended (Script.wp.mono (succeed_silent well) (fun _ _ _ h => h) fun _ s' _ (normal : s'.phase = .normal) =>
    ⟨by simp [normal], by simp [normal]⟩)

lemma check_eq (request : Request) (skipDrain : Bool) :
    checkOrUpdate request .check skipDrain = (do
      let _ ← verifyRelease request
      succeed .succeeded "Update check completed") := rfl

/-- What an update does with a verified release. -/
def installIf (skipDrain : Bool) (offer : Offer) (release : Release) (forced : Bool) : AgentM Unit :=
  if release.available ∨ forced then do
    prepareInstallation offer skipDrain
    begun .updating "Backup and package installation started" (some 50) (applyCommand offer release)
      (installed (applyCommand offer release))
  else succeed .succeeded "Update completed"

lemma update_eq (request : Request) (skipDrain : Bool) :
    checkOrUpdate request .update skipDrain = (do
      let (offer, release) ← verifyRelease request
      installIf skipDrain offer release (← ask .forced)) := by
  simp only [checkOrUpdate, installIf, ← install_begun]
  refine congrArg (verifyRelease request >>= ·) (funext fun (offer, release) => ?_)
  simp

lemma installIf_ended (skipDrain : Bool) (offer : Offer) (release : Release) :
    Ended e .update (told e (do installIf skipDrain offer release (← ask .forced)) s)
      ((do installIf skipDrain offer release (← ask .forced)).eval e s) (Installs e skipDrain offer release s) := by
  have quiet : ¬ Call.forced.Telling := id
  simp only [told, madeOf_bind, eval_bind, eval_ask, madeOf_ask, quiet, decide_false, Bool.false_eq_true, if_false,
    List.nil_append, installIf, Installs]
  split
  · next wanted =>
    have rest := Ended.after (e := e) (prepareInstallation_early (s := s) offer skipDrain)
      fun (_ : Unit) s' h =>
        h.requestId ▸ install_ended (s := s') offer.version release.rollbackSafe
    exact rest.congr ⟨fun h _ s' => h () s', fun h _ s' => h wanted s'⟩
  · next unwanted =>
    exact (succeed_ended (by decide)).congr ⟨fun _ h => absurd h unwanted, fun _ => trivial⟩

lemma perform_ended (request : Request) (action : Action) (skipDrain : Bool)
    (phase : s.phase = initialPhase action) :
    Ended e action (told e (perform request action skipDrain) s) ((perform request action skipDrain).eval e s)
      (Proceeds e request action skipDrain s) := by
  cases action with
  | restart => exact restartServices_early.ended
  | rollback => exact rollBack_ended
  | check =>
    have early : s.phase ≠ .updating ∧ s.phase ≠ .recovering := by rw [phase]; decide
    rw [perform, check_eq]
    exact (Ended.after (verifyRelease_early request early) fun _ _ _ => succeed_ended (by decide)).congr
      ⟨fun _ => trivial, fun _ _ _ _ => trivial⟩
  | update =>
    have early : s.phase ≠ .updating ∧ s.phase ≠ .recovering := by rw [phase]; decide
    rw [perform, update_eq]
    refine (Ended.after (P := fun (offer, release) s' => Installs e skipDrain offer release s')
      (verifyRelease_early request early) fun (offer, release) s' _ => installIf_ended skipDrain offer release).congr ?_
    exact ⟨fun h offer release s' => h (offer, release) s', fun h (offer, release) s' => h offer release s'⟩

/-! ## The handler -/

/-- What the handler says of an operation that raised in a phase. -/
def Handled (phase : Phase) (calls : List Call) (s : Status) : Prop :=
  match phase with
  | .updating =>
    calls = [.spawn .rollback] ∧ s.Done ∨
      s.phase = .emergency ∧ ∃ reason, calls = [.system .emergency reason] ∨
        calls = [.spawn .rollback, .system .emergency reason]
  | .recovering => s.phase = .emergency ∧ ∃ reason, calls = [.system .emergency reason]
  | _ => s.phase = .normal ∧ s.state = .failed ∧ calls = []

lemma recordSystemState_eval (state : SystemState) (reason : String) :
    ∃ log, (recordSystemState state reason).eval e s = (.ok (), { s with log := log }) := by
  simp only [recordSystemState, setSystemState, note, eval_rescue, eval_bind, eval_ask, landed_eval, eval_modify]
  rcases e (.system state reason) with _ | error | error <;> exact ⟨_, rfl⟩

lemma recordSystemState_made (state : SystemState) (reason : String) :
    (recordSystemState state reason).made e s = [.system state reason] := by
  simp only [recordSystemState, setSystemState, note, made_rescue, made_bind, eval_bind, eval_ask, made_ask,
    landed_eval, made_modify]
  rcases e (.system state reason) with _ | error | error <;> rfl

lemma failWith_eval (phase : Phase) (state : SystemState) (reason : String) :
    (failWith phase state reason).made e s = [.system state reason] ∧
      ∃ s', (failWith phase state reason).eval e s = (.ok (), s') ∧ s'.phase = phase ∧ s'.state = .failed := by
  have ⟨log, recorded⟩ := recordSystemState_eval (e := e) (s := { s with state := .failed, phase := phase }) state reason
  simp only [failWith, eval_bind, eval_modify, recorded, made_bind, made_modify, recordSystemState_made]
  exact ⟨rfl, _, rfl, rfl, rfl⟩

/-- The cases of the handler. -/
def dispatch : Phase → AgentM Unit
  | .updating => rescue rollBackInstallation fun rollbackError => do
    modify fun s => { s with state := .failed, phase := .emergency }
    note s!"rollback failed: {rollbackError}"
    recordSystemState .emergency "Update and rollback failed"
  | .recovering => failWith .emergency .emergency "Rollback failed"
  | _ => failWith .normal .normal "Update stopped before installation"

lemma handleFailure_eq (error : Failure) :
    handleFailure error = (do
      note error
      dispatch (← get).phase
      modify fun s => { s with message := error }
      pure false) := by
  simp only [handleFailure, dispatch]
  refine congrArg (note error >>= ·) (funext fun _ => congrArg (get >>= ·) (funext fun s => ?_))
  cases s.phase <;> rfl

lemma rollBackInstallation_cases :
    (∃ s', rollBackInstallation.eval e s = (.ok (), s') ∧ s'.Done ∧ told e rollBackInstallation s = [.spawn .rollback]) ∨
      ∃ error s', rollBackInstallation.eval e s = (.error error, s') ∧
        (told e rollBackInstallation s = [] ∨ told e rollBackInstallation s = [.spawn .rollback]) := by
  rw [rollBackInstallation_begun]
  by_cases begins : Begins e .recovering "Health check failed; rolling back" none .rollback s
  · by_cases ran : ∃ output, Ran e .rollback output
    · obtain ⟨output, ran⟩ := ran
      obtain ⟨s', at_, ends, telling⟩ := begins.eval (f := restored _ _) (by decide) trivial ran
      have silent := restored_silent "Попередню версію відновлено автоматично" "Automatic rollback completed" output at_.1
      have after := (silent.run e).2
      rw [ends, telling, silent.quiet]
      rcases ended : Script.eval e _ s' with ⟨error | _, s''⟩ <;> rw [ended] at after
      · exact .inr ⟨error, s'', rfl, .inr rfl⟩
      · exact .inl ⟨s'', rfl, after, rfl⟩
    · obtain ⟨error, s', _, ends, telling⟩ := begins.eval_of_not_ran (f := restored _ _) (by decide) trivial ran
      exact .inr ⟨error, s', ends, .inr telling⟩
  · obtain ⟨error, s', _, ends, telling⟩ := eval_of_not_begins (f := restored _ _) begins (by decide)
    exact .inr ⟨error, s', ends, .inl telling⟩

lemma dispatch_handled (phase : Phase) :
    ∃ s', (dispatch phase).eval e s = (.ok (), s') ∧ Handled phase (told e (dispatch phase) s) s' := by
  cases phase with
  | updating =>
    simp only [dispatch, eval_rescue, told, madeOf_rescue]
    obtain ⟨s', ends, done, telling⟩ | ⟨error, s', ends, telling⟩ := rollBackInstallation_cases (e := e) (s := s)
    · simp only [told] at telling
      simp only [ends, telling]
      exact ⟨s', rfl, .inl ⟨rfl, done⟩⟩
    · obtain ⟨log, recorded⟩ := recordSystemState_eval (e := e)
        (s := { s' with state := .failed, phase := .emergency, log := s'.log ++ [s!"rollback failed: {error}"] })
        .emergency "Update and rollback failed"
      have said : ∀ s, (recordSystemState .emergency "Update and rollback failed").madeOf e
          (fun call => decide call.Telling) s = [.system .emergency "Update and rollback failed"] := fun s => by
        simp only [madeOf, recordSystemState_made]
        rfl
      simp only [told] at telling
      simp only [ends, note, eval_bind, eval_modify, recorded, madeOf_bind, madeOf_modify, said]
      refine ⟨_, rfl, .inr ⟨rfl, "Update and rollback failed", ?_⟩⟩
      rcases telling with telling | telling <;> rw [telling]
      · exact .inl rfl
      · exact .inr rfl
  | recovering =>
    obtain ⟨made, s', ends, phase, _⟩ := failWith_eval (e := e) (s := s) .emergency .emergency "Rollback failed"
    exact ⟨s', ends, phase, "Rollback failed", by simp only [told, madeOf, dispatch, made]; rfl⟩
  | _ =>
    obtain ⟨made, s', ends, phase, failed⟩ :=
      failWith_eval (e := e) (s := s) .normal .normal "Update stopped before installation"
    exact ⟨s', ends, phase, failed, by simp only [told, madeOf, dispatch, made]; rfl⟩

lemma handleFailure_handled (error : Failure) :
    ∃ s', (handleFailure error).eval e s = (.ok false, s') ∧ Handled s.phase (told e (handleFailure error) s) s' := by
  rw [handleFailure_eq]
  have ⟨s', ends, handled⟩ := dispatch_handled (e := e) (s := { s with log := s.log ++ [error] }) s.phase
  simp only [told] at handled
  simp only [note, told, eval_bind, madeOf_bind, eval_modify, eval_get, madeOf_modify, madeOf_get, ends]
  refine ⟨_, rfl, ?_⟩
  simpa [Handled, Status.Done] using handled

lemma handleFailure_system (error : Failure) (early : s.phase ≠ .updating ∧ s.phase ≠ .recovering) :
    .system .normal "Update stopped before installation" ∈ (handleFailure error).made e s := by
  have stopped : dispatch s.phase = failWith .normal .normal "Update stopped before installation" := by
    cases phase : s.phase <;> first | rfl | exact absurd phase early.1 | exact absurd phase early.2
  rw [handleFailure_eq]
  simp only [note, made_bind, eval_modify, eval_get, stopped]
  rw [(failWith_eval _ _ _).1]
  simp

/-- The state of an operation that has its lease. -/
def operating (request : Request) (action : Action) (epoch : Option ℕ) : Status where
  phase := initialPhase action
  action := some action
  requestId := some request.requestId
  message := initialMessage action
  progress := some 5
  fenceEpoch := epoch

/-- The request is written down, under its lease. -/
def Taken (e : Replies) (request : Request) (action : Action) (epoch : Option ℕ) : Prop :=
  request.WellNamed ∧ e (.status .received (operating request action none)) = .done ∧
    e (.acquire request.requestId) = .ok epoch ∧ e (.status .leased (operating request action epoch)) = .done

def underLease (name : String) (request : Request) (action : Action) (skipDrain : Bool) : AgentM Bool :=
  andFinally (rescue (do perform request action skipDrain; pure true) handleFailure) (closeRequest name request action)

lemma quiet_place {place : Place} {request : Request} {action : Action} {epoch : Option ℕ} (open_ : place ≠ .outcome) :
    ¬ (Call.status place (operating request action epoch)).Telling := by
  cases place <;> cases action <;> simp_all [Call.Telling, operating, initialPhase]

section
variable (place : Place)

lemma writeStatus_eval :
    (writeStatus place).eval e s =
      match e (.status place s) with
      | .done => (.ok (), s)
      | .lost error | .landed error => (.error error, s) := by
  simp only [writeStatus, eval_bind, eval_get, eval_ask, landed_eval]
  rcases e (.status place s) with _ | error | error <;> rfl

lemma writeStatus_made : (writeStatus place).made e s = [.status place s] := by
  simp only [writeStatus, made_bind, eval_get, made_get, eval_ask, made_ask, landed]
  rcases e (.status place s) with _ | error | error <;> rfl

end

section
variable (name : String) {request : Request} {action : Action} (skipDrain : Bool)

lemma processRequest_eq (kind : request.action = some action) (named : request.WellNamed) :
    processRequest name request skipDrain = (do
      modify fun _ => operating request action none
      writeStatus .received
      withLease request.requestId (operate name request action skipDrain)) := by
  simp only [processRequest, kind, named, not_true_eq_false, if_false]
  rfl

lemma operate_made (epoch : Option ℕ) :
    (operate name request action skipDrain epoch).made e (operating request action none) =
      .status .leased (operating request action epoch) ::
        if e (.status .leased (operating request action epoch)) = .done then
          (underLease name request action skipDrain).made e (operating request action epoch)
        else [] := by
  refine (made_bind (Script.modify fun s : Status => { s with fenceEpoch := epoch }) _).trans ?_
  change [] ++ (writeStatus .leased >>= fun _ => underLease name request action skipDrain).made e
    (operating request action epoch) = _
  rw [made_bind, writeStatus_made, writeStatus_eval]
  rcases e (.status .leased (operating request action epoch)) with _ | error | error <;> rfl

lemma processRequest_made (kind : request.action = some action) (named : request.WellNamed) :
    (processRequest name request skipDrain).made e s =
      .status .received (operating request action none) ::
        if e (.status .received (operating request action none)) = .done then
          .acquire request.requestId ::
            match e (.acquire request.requestId) with
            | .ok epoch =>
              (operate name request action skipDrain epoch).made e (operating request action none) ++ [.release]
            | .error _ => []
        else [] := by
  rw [processRequest_eq _ _ kind named]
  simp only [withLease, made_bind, made_modify, eval_modify, writeStatus_made, writeStatus_eval,
    made_andFinally, made_ask, eval_ask, List.nil_append, List.singleton_append]
  rcases e (.status .received (operating request action none)) with _ | error | error
  · rcases e (.acquire request.requestId) with error | epoch <;> simp [require]
  · rfl
  · rfl

lemma processRequest_of_not_taken (kind : request.action = some action)
    (refused : ∀ epoch, ¬ Taken e request action epoch) :
    ∀ call ∈ (processRequest name request skipDrain).made e s, ¬ call.Telling := by
  have quiet : ∀ place epoch, place ≠ .outcome → ¬ (Call.status place (operating request action epoch)).Telling :=
    fun _ _ => quiet_place
  by_cases named : request.WellNamed
  · rw [processRequest_made _ _ kind named]
    refine List.forall_mem_cons.2 ⟨quiet _ _ (by decide), ?_⟩
    split
    · next written =>
      refine List.forall_mem_cons.2 ⟨id, ?_⟩
      split
      · next epoch acquired =>
        rw [operate_made, if_neg fun leased => refused epoch ⟨named, written, acquired, leased⟩]
        simpa using ⟨quiet _ _ (by decide), id⟩
      · exact List.forall_mem_nil _
    · exact List.forall_mem_nil _
  · simp only [processRequest, kind, named, not_false_eq_true, if_true]
    exact List.forall_mem_nil _

lemma mem_processRequest (kind : request.action = some action) {epoch : Option ℕ} (taken : Taken e request action epoch)
    {call : Call} (telling : call.Telling ∨ ∃ state reason, call = .system state reason) :
    call ∈ (processRequest name request skipDrain).made e s ↔
      call ∈ (underLease name request action skipDrain).made e (operating request action epoch) := by
  obtain ⟨named, written, acquired, leased⟩ := taken
  rw [processRequest_made _ _ kind named, if_pos written, acquired]
  have other : ∀ place epoch', place ≠ .outcome → call ≠ .status place (operating request action epoch') := by
    rintro place epoch' open_ rfl
    obtain telling | ⟨_, _, ⟨⟩⟩ := telling
    exact quiet_place open_ telling
  have acquire : call ≠ .acquire request.requestId := by
    rintro rfl
    obtain telling | ⟨_, _, ⟨⟩⟩ := telling
    exact telling
  have release : call ≠ .release := by
    rintro rfl
    obtain telling | ⟨_, _, ⟨⟩⟩ := telling
    exact telling
  simp [operate_made, leased, other, acquire, release]

/-- What is left to do once the outcome is written. -/
def cleanUp (name : String) (request : Request) (action : Action) : AgentM Unit := do
  require (← ask (.unlink name))
  let s ← get
  if s.state = .failed then do
    let target := match request.targetVersion with
      | some target => if target = "" then "current" else target
      | none => "current"
    let expected := match action with
      | .update => target
      | .check => s!"check:{target}"
      | .restart => s!"restart:{target}"
      | .rollback => s!"rollback:{target}"
    ask (.dropMarker [expected, s!"{expected}:{request.requestId}"])
  else pure ()

lemma cleanUp_silent : Silent (cleanUp name request action) s (fun _ _ => True) (fun _ => True) := by
  simp only [Silent, cleanUp, wp_bind, wp_ask, wp_require, wp_get]
  refine ⟨id, fun _ => ⟨fun _ _ => ?_, fun _ _ => trivial⟩⟩
  split
  · exact ⟨id, fun _ => trivial⟩
  · exact trivial

/-- The outcome is written, and what is left to do is done. -/
def reportOutcome (name : String) (request : Request) (action : Action) : AgentM Unit := do
  writeStatus .outcome
  cleanUp name request action

lemma reportOutcome_told : told e (reportOutcome name request action) s = [.status .outcome s] := by
  have said : told e (writeStatus .outcome) s = [.status .outcome s] := by
    simp only [told, madeOf, writeStatus_made]
    rfl
  simp only [told] at said
  simp only [reportOutcome, told, madeOf_bind, said, (cleanUp_silent name).quiet]
  split <;> rfl

lemma closeRequest_eq :
    closeRequest name request action = (do
      let s ← get
      rescue (appendAudit (.outcome request.requestId s.state action s.message)) fun error =>
        note s!"outcome not journaled: {error}"
      trimLog
      reportOutcome name request action) := rfl

lemma closeRequest_told (name : String) (request : Request) (action : Action) :
    ∃ log, told e (closeRequest name request action) s = [.status .outcome { s with log := log }] := by
  have quiet : ¬ (Call.audit (.outcome request.requestId s.state action s.message)).Telling := id
  rw [closeRequest_eq]
  simp only [told, appendAudit, note, trimLog, madeOf_bind, madeOf_rescue, eval_bind, eval_rescue, eval_get, madeOf_get,
    eval_ask, madeOf_ask, eval_modify, madeOf_modify, landed_eval, quiet, reportOutcome_told]
  rcases e (.audit (.outcome request.requestId s.state action s.message)) with _ | error | error <;> exact ⟨_, rfl⟩

end

/-! ## What is reported -/

/-- An emergency is reported, in `status.json` or as the system state. -/
def Emergency (calls : List Call) : Prop :=
  (∃ place s, .status place s ∈ calls ∧ s.phase = .emergency) ∨ ∃ reason, .system .emergency reason ∈ calls

/-- The outcome `FAILED` is reported, with `NORMAL` as the phase and as the system state. -/
def StoppedBefore (calls : List Call) : Prop :=
  (∃ s, .status .outcome s ∈ calls ∧ s.state = .failed ∧ s.phase = .normal) ∧ ∃ reason, .system .normal reason ∈ calls

/-- What is run and reported for a request is true of it. -/
structure Truthful (e : Replies) (request : Request) (calls : List Call) : Prop where
  rolledBack : .spawn .rollback ∈ calls → Applied e calls ∨ request.action = some .rollback
  emergency : Emergency calls → Applied e calls ∨ RolledBack e calls
  stopped : StoppedBefore calls → ¬ Applied e calls

/-- A request that is taken proceeds. -/
def Sound (e : Replies) (request : Request) (skipDrain : Bool) : Prop :=
  ∀ action epoch, request.action = some action → Taken e request action epoch →
    Proceeds e request action skipDrain (operating request action epoch)

lemma Truthful.of_quiet {request : Request} {calls : List Call} (quiet : ∀ call ∈ calls, ¬ call.Telling) :
    Truthful e request calls where
  rolledBack mem := (quiet _ mem trivial).elim
  emergency := by
    rintro (⟨place, s, mem, phase⟩ | ⟨reason, mem⟩)
    · refine (quiet _ mem ?_).elim
      cases place <;> first | exact trivial | exact phase
    · exact (quiet _ mem trivial).elim
  stopped := by
    rintro ⟨⟨s, mem, _⟩, _⟩
    exact (quiet _ mem trivial).elim

lemma Truthful.congr {request : Request} {calls calls' : List Call}
    (same : ∀ call : Call, (call.Telling ∨ ∃ state reason, call = .system state reason) → (call ∈ calls ↔ call ∈ calls'))
    (h : Truthful e request calls) : Truthful e request calls' := by
  have applied : Applied e calls ↔ Applied e calls' :=
    exists_congr fun version => exists_congr fun safe => and_congr_left fun _ => same _ (.inl trivial)
  have rollback := same (.spawn .rollback) (.inl trivial)
  refine ⟨fun mem => (h.rolledBack (rollback.2 mem)).imp_left applied.1, fun reported => ?_, fun reported began => ?_⟩
  · refine (h.emergency ?_).imp applied.1 fun ⟨mem, started⟩ => ⟨rollback.1 mem, started⟩
    refine reported.imp (fun ⟨place, s, mem, phase⟩ => ⟨place, s, (same _ (.inl ?_)).2 mem, phase⟩)
      fun ⟨reason, mem⟩ => ⟨reason, (same (.system .emergency reason) (.inl trivial)).2 mem⟩
    cases place <;> first | exact trivial | exact phase
  · have ⟨⟨s, mem, outcome⟩, reason, mem'⟩ := reported
    exact h.stopped ⟨⟨s, (same (.status .outcome s) (.inl trivial)).2 mem, outcome⟩, reason, (same _ (.inr ⟨_, _, rfl⟩)).2 mem'⟩
      (applied.2 began)

section
variable (name : String) {request : Request} {action : Action} {skipDrain : Bool}

lemma underLease_told (name : String) (request : Request) (action : Action) (skipDrain : Bool) :
    ∃ after s', told e (underLease name request action skipDrain) s =
        told e (perform request action skipDrain) s ++ (after ++ [.status .outcome s']) ∧
      match (perform request action skipDrain).eval e s with
      | (.ok (), s₁) => after = [] ∧ s'.phase = s₁.phase ∧ s'.state = s₁.state
      | (.error _, s₁) => Handled s₁.phase after s' ∧
          (s₁.phase ≠ .updating ∧ s₁.phase ≠ .recovering →
            .system .normal "Update stopped before installation" ∈ (underLease name request action skipDrain).made e s) := by
  have ends : ∀ s, (do perform request action skipDrain; pure true : AgentM Bool).eval e s =
      match (perform request action skipDrain).eval e s with
      | (.ok (), s₁) => (.ok true, s₁)
      | (.error error, s₁) => (.error error, s₁) := fun s => by
    rw [eval_bind]
    split <;> simp_all
  have tells : ∀ s, told e (do perform request action skipDrain; pure true : AgentM Bool) s =
      told e (perform request action skipDrain) s := fun s => by
    rw [told, madeOf_bind]
    split <;> simp
  simp only [underLease, told, madeOf_andFinally, madeOf_rescue, made_andFinally, made_rescue, eval_rescue] at tells ⊢
  rw [tells, ends]
  rcases (perform request action skipDrain).eval e s with ⟨error | _, s₁⟩
  · obtain ⟨s₂, handledEnd, handled⟩ := handleFailure_handled (e := e) (s := s₁) error
    have ⟨log, closed⟩ := closeRequest_told (e := e) (s := s₂) name request action
    simp only [told] at closed handled
    refine ⟨told e (handleFailure error) s₁, { s₂ with log := log }, ?_, ?_, fun early => ?_⟩
    · simp only [handledEnd, closed, List.append_assoc]
    · unfold Handled at handled ⊢
      simpa [Status.Done] using handled
    · exact List.mem_append_left _ (List.mem_append_right _ (handleFailure_system error early))
  · have ⟨log, closed⟩ := closeRequest_told (e := e) (s := s₁) name request action
    simp only [told] at closed
    refine ⟨[], { s₁ with log := log }, ?_, rfl, rfl, rfl⟩
    simp only [closed, List.append_nil, List.nil_append]

lemma Handled.after {phase : Phase} {calls : List Call} (h : Handled phase calls s) :
    ∀ call ∈ calls, call = .spawn .rollback ∨ ∃ reason, call = .system .emergency reason := by
  unfold Handled at h
  split at h
  · obtain ⟨rfl, _⟩ | ⟨_, reason, rfl | rfl⟩ := h <;> simp
  · obtain ⟨_, reason, rfl⟩ := h
    simp
  · rw [h.2.2]
    exact List.forall_mem_nil _

/-- What is told under the lease, where the body told `calls`. -/
structure Tells (e : Replies) (calls after whole : List Call) (last : Status) : Prop where
  mem : ∀ call : Call, call.Telling → (call ∈ whole ↔ call ∈ calls ∨ call ∈ after ∨ call = .status .outcome last)
  after : ∀ call ∈ after, call = .spawn .rollback ∨ ∃ reason, call = .system .emergency reason

end

section
variable {request : Request} {action : Action} {calls after whole : List Call} {last : Status}

lemma Tells.of_spawn (h : Tells e calls after whole last) (command : HostCommand) (telling : (Call.spawn command).Telling) :
    .spawn command ∈ whole ↔ .spawn command ∈ calls ∨ .spawn command ∈ after := by
  simp [h.mem _ telling]

lemma Tells.applied (h : Tells e calls after whole last) : Applied e whole ↔ Applied e calls := by
  refine exists_congr fun version => exists_congr fun safe => and_congr_left fun _ => ?_
  refine (h.of_spawn (.applyUpdate version safe) trivial).trans (or_iff_left fun mem => ?_)
  obtain eq | ⟨_, eq⟩ := h.after _ mem <;> cases eq

variable (spawns : ∀ call ∈ calls, ∃ command, call = .spawn command ∧ (command = .rollback → action = .rollback))
include spawns

lemma Tells.of_system (h : Tells e calls after whole last) (reason : String) :
    .system .emergency reason ∈ whole ↔ .system .emergency reason ∈ after := by
  have elsewhere : .system .emergency reason ∉ calls := fun mem => by
    obtain ⟨_, eq, _⟩ := spawns _ mem
    cases eq
  simp [h.mem (.system .emergency reason) trivial, elsewhere]

lemma Tells.of_status (h : Tells e calls after whole last) (place : Place) {s : Status}
    (telling : (Call.status place s).Telling) (mem : .status place s ∈ whole) : s = last := by
  obtain mem | mem | eq := (h.mem _ telling).1 mem
  · obtain ⟨_, eq, _⟩ := spawns _ mem
    cases eq
  · obtain eq | ⟨_, eq⟩ := h.after _ mem <;> cases eq
  · cases eq
    rfl

lemma Tells.emergency (h : Tells e calls after whole last) :
    Emergency whole ↔ last.phase = .emergency ∨ ∃ reason, .system .emergency reason ∈ after := by
  refine or_congr ⟨?_, ?_⟩ (exists_congr (h.of_system spawns))
  · rintro ⟨place, s, mem, phase⟩
    have telling : (Call.status place s).Telling := by cases place <;> first | exact trivial | exact phase
    exact h.of_status spawns place telling mem ▸ phase
  · exact fun phase => ⟨.outcome, last, (h.mem (.status .outcome last) trivial).2 (.inr (.inr rfl)), phase⟩

lemma Tells.stopped (h : Tells e calls after whole last) (reported : StoppedBefore whole) :
    last.state = .failed ∧ last.phase = .normal := by
  obtain ⟨⟨s, mem, outcome⟩, _⟩ := reported
  exact h.of_status spawns .outcome trivial mem ▸ outcome

lemma Tells.rolledBack (h : Tells e calls after whole last) (mem : .spawn .rollback ∈ whole) :
    action = .rollback ∨ .spawn .rollback ∈ after := by
  refine ((h.of_spawn .rollback trivial).1 mem).imp_left fun mem => ?_
  obtain ⟨_, eq, rollback⟩ := spawns _ mem
  cases eq
  exact rollback rfl

lemma Tells.truthful_of_done (h : Tells e calls [] whole last) (kind : request.action = some action) (done : last.Done) :
    Truthful e request whole where
  rolledBack mem := .inr (kind.trans (congrArg some ((h.rolledBack spawns mem).resolve_right List.not_mem_nil)))
  emergency reported := by
    obtain phase | ⟨_, mem⟩ := (h.emergency spawns).1 reported
    · exact absurd (done.1.symm.trans phase) (by decide)
    · exact absurd mem List.not_mem_nil
  stopped reported := absurd (h.stopped spawns reported).1 done.2

lemma Tells.truthful_iff_of_raised (h : Tells e calls after whole last) (kind : request.action = some action)
    {phase : Phase} (updating : phase = .updating → action ≠ .rollback) (handled : Handled phase after last)
    (system : phase ≠ .updating ∧ phase ≠ .recovering →
      .system .normal "Update stopped before installation" ∈ whole) :
    Truthful e request whole ↔ Matched e calls phase := by
  have own : .spawn .rollback ∈ whole → .spawn .rollback ∉ after → request.action = some .rollback :=
    fun mem other => kind.trans (congrArg some ((h.rolledBack spawns mem).resolve_right other))
  by_cases installing : phase = .updating
  · subst installing
    have foreign : ¬ request.action = some .rollback := fun rollback =>
      updating rfl (Option.some.inj (kind.symm.trans rollback))
    refine ⟨fun truthful => h.applied.1 ?_, fun applied => ⟨fun _ => .inl (h.applied.2 applied),
      fun _ => .inl (h.applied.2 applied), fun reported => ?_⟩⟩
    · have run : .spawn .rollback ∈ after → Applied e whole := fun mem =>
        (truthful.rolledBack ((h.of_spawn .rollback trivial).2 (.inr mem))).resolve_right foreign
      obtain ⟨eq, _⟩ | ⟨emergency, reason, eq | eq⟩ := handled
      · exact run (by simp [eq])
      · refine (truthful.emergency ((h.emergency spawns).2 (.inl emergency))).resolve_right fun rolledBack => ?_
        exact foreign (own rolledBack.1 (by simp [eq]))
      · exact run (by simp [eq])
    · have ⟨failed, normal⟩ := h.stopped spawns reported
      obtain ⟨_, done⟩ | ⟨emergency, _⟩ := handled
      · exact absurd failed done.2
      · exact absurd (emergency.symm.trans normal) (by decide)
  by_cases recovering : phase = .recovering
  · subst recovering
    obtain ⟨emergency, reason, eq⟩ := handled
    have other : .spawn .rollback ∉ after := by simp [eq]
    refine ⟨fun truthful => ?_, fun started => ⟨fun mem => .inr (own mem other), fun _ => ?_, fun reported => ?_⟩⟩
    · refine (truthful.emergency ((h.emergency spawns).2 (.inl emergency))).imp h.applied.1 fun ⟨mem, started⟩ => ?_
      exact ⟨((h.of_spawn .rollback trivial).1 mem).resolve_right other, started⟩
    · exact started.imp h.applied.2 fun ⟨mem, started⟩ =>
        ⟨(h.of_spawn .rollback trivial).2 (.inl mem), started⟩
    · exact absurd (emergency.symm.trans (h.stopped spawns reported).2) (by decide)
  · have early : Matched e calls phase ↔ ¬ Applied e calls := by
      cases phase <;> first | exact Iff.rfl | exact absurd rfl installing | exact absurd rfl recovering
    have ⟨normal, failed, eq⟩ : last.phase = .normal ∧ last.state = .failed ∧ after = [] := by
      cases phase <;> first | exact handled | exact absurd rfl installing | exact absurd rfl recovering
    subst eq
    rw [early, ← h.applied]
    refine ⟨fun truthful => truthful.stopped ⟨⟨last, ?_, failed, normal⟩, _, system ⟨installing, recovering⟩⟩,
      fun idle => ⟨fun mem => .inr (own mem List.not_mem_nil), fun reported => ?_, fun _ => idle⟩⟩
    · exact (h.mem (.status .outcome last) trivial).2 (.inr (.inr rfl))
    · obtain emergency | ⟨_, mem⟩ := (h.emergency spawns).1 reported
      · exact absurd (normal.symm.trans emergency) (by decide)
      · exact absurd mem List.not_mem_nil

end

section
variable (name : String) {request : Request} {action : Action} {skipDrain : Bool}

lemma truthful_iff (kind : request.action = some action) (proceeds : Prop)
    (ended : Ended e action (told e (perform request action skipDrain) s) ((perform request action skipDrain).eval e s)
      proceeds) :
    Truthful e request ((underLease name request action skipDrain).made e s) ↔ proceeds := by
  obtain ⟨after, last, telling, handled⟩ := underLease_told (e := e) (s := s) name request action skipDrain
  have spawns := ended.spawns
  rcases raised : (perform request action skipDrain).eval e s with ⟨error | _, s₁⟩ <;>
    simp only [raised] at handled ended
  · have matched : Matched e (told e (perform request action skipDrain) s) s₁.phase ↔ proceeds :=
      Iff.trans ⟨fun h _ _ same => by cases same; exact h, fun h => h error s₁ rfl⟩ ended.matched
    have tells : Tells e (told e (perform request action skipDrain) s) after _ last :=
      ⟨fun call kind => by rw [← mem_told kind, telling]; simp, handled.1.after⟩
    rw [← matched]
    exact tells.truthful_iff_of_raised spawns kind (ended.updating error s₁ rfl) handled.1 handled.2
  · obtain ⟨rfl, phase, state⟩ := handled
    have tells : Tells e (told e (perform request action skipDrain) s) [] _ last :=
      ⟨fun call kind => by rw [← mem_told kind, telling]; simp, List.forall_mem_nil _⟩
    have done := ended.returned s₁ rfl
    exact iff_of_true (tells.truthful_of_done spawns kind ⟨phase.trans done.1, state ▸ done.2⟩)
      (ended.matched.1 (by rintro _ _ ⟨⟩))

end

/-- **What an update reports is true exactly if what it decided to do was started and settled.** -/
theorem outcome_is_truthful_iff (e : Replies) (name : String) (request : Request) (skipDrain : Bool) (s : Status) :
    Truthful e request ((processRequest name request skipDrain).made e s) ↔ Sound e request skipDrain := by
  cases kind : request.action with
  | none =>
    refine iff_of_true (.of_quiet ?_) ?_
    · simp only [processRequest, kind]
      exact List.forall_mem_nil _
    · intro action _ kind'
      exact absurd (kind.symm.trans kind') nofun
  | some action =>
    by_cases taken : ∃ epoch, Taken e request action epoch
    · have ⟨epoch, taken⟩ := taken
      have same : ∀ call : Call, (call.Telling ∨ ∃ state reason, call = .system state reason) → _ :=
        fun call telling => mem_processRequest (s := s) name skipDrain kind taken telling
      refine Iff.trans ⟨.congr same, .congr fun call telling => (same call telling).symm⟩ ?_
      refine (truthful_iff name kind _ (perform_ended request action skipDrain rfl)).trans ⟨?_, fun h => h action epoch kind taken⟩
      intro proceeds action' epoch' kind' taken'
      cases kind.symm.trans kind'
      have : epoch = epoch' := by
        have := taken.2.2.1.symm.trans taken'.2.2.1
        simpa using this
      exact this ▸ proceeds
    · have refused := not_exists.1 taken
      refine iff_of_true (.of_quiet (processRequest_of_not_taken name skipDrain kind refused)) ?_
      intro action' epoch kind' taken'
      cases kind.symm.trans kind'
      exact absurd taken' (refused epoch)

/-- A host where everything goes well, but for a rollout that was cancelled. -/
def cancelledHost : Replies
  | .request _ => .error "no such file"
  | .status _ _ | .audit _ | .system _ _ | .trustRoot _ | .trustRelease _ => .done
  | .readStatus _ => .error "no such file"
  | .coordinated => true
  | .forced => false
  | .acquire _ => .ok none
  | .release | .report _ | .kill _ | .drain _ | .dropMarker _ => ()
  | .current _ | .download _ | .health _ | .unlink _ => .ok ()
  | .fence _ => .of "rollout-1"
  | .spawn _ => .ok ⟨[], .ok []⟩
  | .manifest => .ok ⟨"1.2.0", none⟩
  | .validate => .ok ⟨true, none, false⟩
  | .drainPolls | .healthPolls => 1
  | .readiness _ => .ok true
  | .prune => .ok ""

/-- The status before a request: each request starts from its own. -/
def idleStatus : Status where
  phase := .normal
  action := none
  requestId := none
  message := ""

def workerUpdate : Request := ⟨"0123456789abcdef0123456789abcdef", some .update, some "1.2.0"⟩

/-- A worker that is refused before its installation reports that the update and its rollback failed. -/
theorem cancelled_update_is_an_emergency :
    ¬ Truthful cancelledHost workerUpdate
      ((processRequest "request.json" workerUpdate true).made cancelledHost idleStatus) := by
  intro truthful
  have idle : ∀ command, .spawn command ∉
      (processRequest "request.json" workerUpdate true).made cancelledHost idleStatus := by
    intro command mem
    have none_ : ((processRequest "request.json" workerUpdate true).made cancelledHost idleStatus).all
        (fun | .spawn _ => false | _ => true) = true := by decide +kernel
    exact absurd (List.all_eq_true.1 none_ _ mem) nofun
  obtain ⟨_, _, mem, _⟩ | ⟨mem, _⟩ := truthful.emergency (.inr ⟨"Update and rollback failed", by decide +kernel⟩)
  · exact idle _ mem
  · exact idle _ mem

end Vertep.Update
