import Vertep.Orchestration.Records

/-!
# The history of attempts (`core/orchestration.py`)

The attempts of a stage or scene are its history, and only the last of them should ever change, once,
when it ends. `cancel_scene` and `recover_after_restart` look at the last attempt before they write it;
`transition_stage`, `finish_scene` and `fail_scene` do not, and `start_scene` and a stage that leaves its
pause open an attempt beside one that still runs. The histories are append-only in exactly the runs that
take none of these steps.
-/

namespace Vertep.Orchestration
open Lib Command
open Core (StageName StageStatus)

/-! ## Lists whose last element changes -/

section
variable {α : Type} (f : α → α)

@[simp] lemma length_updateLast (l : List α) : (updateLast f l).length = l.length := by
  induction l with
  | nil => rfl
  | cons a l ih =>
    cases l with
    | nil => rfl
    | cons b l => exact congrArg (· + 1) ih

lemma getElem?_updateLast (l : List α) (i : ℕ) :
    (updateLast f l)[i]? = if i + 1 = l.length then l[i]?.map f else l[i]? := by
  induction l generalizing i with
  | nil => simp [updateLast]
  | cons a l ih =>
    cases l with
    | nil => cases i <;> simp [updateLast]
    | cons b l =>
      cases i with
      | zero => simp [updateLast]
      | succ i =>
        rw [updateLast, List.getElem?_cons_succ, ih, List.getElem?_cons_succ]
        simp

lemma getLast?_iff {l : List α} {a : α} : l.getLast? = some a ↔ ∃ i, i + 1 = l.length ∧ l[i]? = some a := by
  rw [List.getLast?_eq_getElem?]
  constructor
  · intro h
    have := List.getElem?_eq_some_iff.1 h
    obtain ⟨below, _⟩ := this
    exact ⟨l.length - 1, by omega, h⟩
  · rintro ⟨i, last, h⟩
    rwa [show l.length - 1 = i by omega]

end

/-! ## Histories -/

/-- Numbered from one, and only the last attempt may run. -/
structure WellFormed (attempts : List AttemptRecord) : Prop where
  numbered : ∀ (i : ℕ) (a : AttemptRecord), attempts[i]? = some a → a.attempt = i + 1
  running : ∀ (i : ℕ) (a : AttemptRecord), attempts[i]? = some a → a.status = .running → i + 1 = attempts.length

/-- Every attempt that was closed is still there as it was. -/
def Kept (before after : List AttemptRecord) : Prop :=
  ∀ (i : ℕ) (a : AttemptRecord), before[i]? = some a → a.completedAt ≠ none →
    ∃ a', after[i]? = some a' ∧ a'.status = a.status ∧ a'.completedAt = a.completedAt ∧ a'.error = a.error

/-- Well-formed, and an attempt runs as long as it is not closed. -/
structure Good (attempts : List AttemptRecord) : Prop where
  wellFormed : WellFormed attempts
  open_iff : ∀ a ∈ attempts, a.status = .running ↔ a.completedAt = none

def LastRuns (attempts : List AttemptRecord) : Prop :=
  ∃ a, attempts.getLast? = some a ∧ a.status = .running

/-- The last attempt, if there is one, would become what it is. -/
def LastIs (attempts : List AttemptRecord) (f : AttemptRecord → AttemptRecord) : Prop :=
  ∀ a, attempts.getLast? = some a → a.status = .running ∨
    (f a).status = a.status ∧ (f a).completedAt = a.completedAt ∧ (f a).error = a.error

lemma Kept.refl (attempts : List AttemptRecord) : Kept attempts attempts :=
  fun _ a found _ => ⟨a, found, rfl, rfl, rfl⟩

lemma Kept.trans {l l' l'' : List AttemptRecord} (h : Kept l l') (h' : Kept l' l'') : Kept l l'' := by
  intro i a found closed
  obtain ⟨a', found', status, completed, error⟩ := h i a found closed
  obtain ⟨a'', found'', status', completed', error'⟩ := h' i a' found' (by rwa [completed])
  exact ⟨a'', found'', status'.trans status, completed'.trans completed, error'.trans error⟩

lemma good_nil : Good [] := by
  constructor
  · constructor
    · intro i a found
      cases found
    · intro i a found
      cases found
  · intro a member
    cases member

section
variable {attempts : List AttemptRecord} {now : Instant} {node : Option String}

lemma getElem?_openAttempt {i : ℕ} {a : AttemptRecord} : (openAttempt attempts now node)[i]? = some a ↔
    attempts[i]? = some a ∨ i = attempts.length ∧
      a = { attempt := attempts.length + 1, status := .running, startedAt := now, nodeName := node } := by
  rw [openAttempt, List.getElem?_append]
  split
  · rename_i below
    constructor
    · exact .inl
    · rintro (h | ⟨is, _⟩)
      · exact h
      · omega
  · rename_i above
    rw [List.getElem?_singleton]
    constructor
    · intro h
      split at h
      · cases h
        exact .inr ⟨by omega, rfl⟩
      · cases h
    · rintro (h | ⟨rfl, rfl⟩)
      · obtain ⟨below, _⟩ := List.getElem?_eq_some_iff.1 h
        exact absurd below above
      · simp

lemma kept_openAttempt : Kept attempts (openAttempt attempts now node) :=
  fun _ a found _ => ⟨a, getElem?_openAttempt.2 (.inl found), rfl, rfl, rfl⟩

lemma Good.begin (h : Good attempts) (ended : ¬ LastRuns attempts) : Good (openAttempt attempts now node) := by
  have length : (openAttempt attempts now node).length = attempts.length + 1 := by
    simp [openAttempt]
  constructor
  · constructor
    · intro i a found
      rcases getElem?_openAttempt.1 found with before | ⟨rfl, rfl⟩
      · exact h.wellFormed.numbered i a before
      · rfl
    · intro i a found running
      rw [length]
      rcases getElem?_openAttempt.1 found with before | ⟨rfl, rfl⟩
      · have last := h.wellFormed.running i a before running
        exact absurd ⟨a, getLast?_iff.2 ⟨i, last, before⟩, running⟩ ended
      · rfl
  · intro a member
    obtain ⟨i, found⟩ := List.mem_iff_getElem?.1 member
    rcases getElem?_openAttempt.1 found with before | ⟨_, rfl⟩
    · exact h.open_iff a (List.mem_of_getElem? before)
    · simp

lemma not_wellFormed_openAttempt (runs : LastRuns attempts) : ¬ WellFormed (openAttempt attempts now node) := by
  rintro ⟨_, running⟩
  obtain ⟨a, last, is⟩ := runs
  obtain ⟨i, last, found⟩ := getLast?_iff.1 last
  have := running i a (getElem?_openAttempt.2 (.inl found)) is
  simp only [openAttempt, List.length_append, List.length_singleton] at this
  omega

end

section
variable {attempts : List AttemptRecord} {f : AttemptRecord → AttemptRecord}

lemma Good.finish (h : Good attempts) (number : ∀ a, (f a).attempt = a.attempt)
    (closes : ∀ a ∈ attempts, (f a).status = .running ↔ (f a).completedAt = none) :
    Good (updateLast f attempts) := by
  constructor
  · constructor
    · intro i a found
      rw [getElem?_updateLast] at found
      split at found
      · obtain ⟨b, before, rfl⟩ := Option.map_eq_some_iff.1 found
        rw [number]
        exact h.wellFormed.numbered i b before
      · exact h.wellFormed.numbered i a found
    · intro i a found running
      rw [length_updateLast]
      rw [getElem?_updateLast] at found
      split at found
      · assumption
      · exact h.wellFormed.running i a found running
  · intro a member
    obtain ⟨i, found⟩ := List.mem_iff_getElem?.1 member
    rw [getElem?_updateLast] at found
    split at found
    · obtain ⟨b, before, rfl⟩ := Option.map_eq_some_iff.1 found
      exact closes b (List.mem_of_getElem? before)
    · exact h.open_iff a (List.mem_of_getElem? found)

lemma Good.kept_updateLast_iff (h : Good attempts) : Kept attempts (updateLast f attempts) ↔ LastIs attempts f := by
  constructor
  · intro kept a last
    by_cases running : a.status = .running
    · exact .inl running
    · obtain ⟨i, last, found⟩ := getLast?_iff.1 last
      have closed : a.completedAt ≠ none := fun none =>
        running ((h.open_iff a (List.mem_of_getElem? found)).2 none)
      obtain ⟨a', found', is⟩ := kept i a found closed
      rw [getElem?_updateLast, if_pos last, found, Option.map_some] at found'
      cases found'
      exact .inr is
  · intro idle i a found closed
    rw [getElem?_updateLast]
    split
    · rename_i last
      refine ⟨f a, by rw [found, Option.map_some], ?_⟩
      rcases idle a (getLast?_iff.2 ⟨i, last, found⟩) with running | is
      · exact absurd ((h.open_iff a (List.mem_of_getElem? found)).1 running) closed
      · exact is
    · exact ⟨a, found, rfl, rfl, rfl⟩

end

lemma lastRuns_openAttempt (attempts : List AttemptRecord) (now : Instant) (node : Option String) :
    LastRuns (openAttempt attempts now node) :=
  ⟨_, List.getLast?_concat, rfl⟩

lemma getLast?_updateLast (f : AttemptRecord → AttemptRecord) (attempts : List AttemptRecord) :
    (updateLast f attempts).getLast? = attempts.getLast?.map f := by
  rw [List.getLast?_eq_getElem?, List.getLast?_eq_getElem?, getElem?_updateLast, length_updateLast]
  split
  · rfl
  · have empty : attempts.length = 0 := by omega
    rw [List.length_eq_zero_iff.1 empty]
    rfl

variable {status : StageStatus}

lemma not_lastRuns_close {attempts : List AttemptRecord} (ended : status ≠ .running)
    (error : AttemptRecord → Option String) (now : Instant) :
    ¬ LastRuns (updateLast (fun a => a.close status (error a) now) attempts) := by
  rintro ⟨a, last, runs⟩
  rw [getLast?_updateLast] at last
  obtain ⟨b, _, rfl⟩ := Option.map_eq_some_iff.1 last
  exact ended runs

lemma Good.close {attempts : List AttemptRecord} (h : Good attempts)
    (ended : status ≠ .running) (error : AttemptRecord → Option String) (now : Instant) :
    Good (updateLast (fun a => a.close status (error a) now) attempts) := by
  apply h.finish
  · intro a
    rfl
  · intro a _
    constructor
    · exact fun runs => absurd runs ended
    · intro none
      cases none

lemma Good.closeRunning {attempts : List AttemptRecord} (h : Good attempts) (status : StageStatus)
    (ended : status ≠ .running) (error : String) (now : Instant) :
    Good (closeRunning attempts status error now) ∧ Kept attempts (closeRunning attempts status error now) := by
  constructor
  · apply h.finish
    · intro a
      split <;> rfl
    · intro a member
      split
      · constructor
        · exact fun runs => absurd runs ended
        · intro none
          cases none
      · exact h.open_iff a member
  · apply h.kept_updateLast_iff.2
    intro a _
    by_cases runs : a.status = .running
    · exact .inl runs
    · simp [runs]

/-! ## Stages -/

/-- A stage and its history agree. -/
structure StageRecord.Sane (stage : StageRecord) : Prop where
  good : Good stage.attempts
  runs : LastRuns stage.attempts ↔ stage.status = .running ∨ stage.status = .paused
  waiting : stage.status = .pending → stage.attempts = []
  failed : stage.status = .failed → ∃ a, stage.attempts.getLast? = some a ∧ a.status = .failed

def StageRecord.Reopens (stage : StageRecord) (status : StageStatus) : Prop :=
  stage.status = .paused ∧ status = .running ∨ stage.status = .failed ∧ status = .cancelled

variable {stage : StageRecord}

lemma StageRecord.Sane.enter (h : stage.Sane)
    (error : Option String) (now : Instant) (changes : status ≠ stage.status) (allowed : status ∈ stage.status.next)
    (ok : ¬ stage.Reopens status) :
    (stage.enter status error now).Sane ∧ Kept stage.attempts (stage.enter status error now).attempts := by
  -- the last attempt runs, or there is none
  have closing (ends : stage.status = .running ∨ stage.status = .paused ∨ stage.status = .pending)
      (closed : AttemptRecord → AttemptRecord) : LastIs stage.attempts closed := by
    intro a last
    rcases ends with is | is | is
    · obtain ⟨b, last', runs⟩ := h.runs.2 (.inl is)
      cases last.symm.trans last'
      exact .inl runs
    · obtain ⟨b, last', runs⟩ := h.runs.2 (.inr is)
      cases last.symm.trans last'
      exact .inl runs
    · rw [h.waiting is] at last
      cases last
  cases status with
  | pending => cases is : stage.status <;> rw [is] at allowed <;> simp [StageStatus.next] at allowed
  | running =>
    have ended : ¬ LastRuns stage.attempts := by
      intro last
      rcases h.runs.1 last with is | is
      · exact changes is.symm
      · exact ok (.inl ⟨is, rfl⟩)
    refine ⟨⟨h.good.begin ended, ?_, nofun, nofun⟩, kept_openAttempt⟩
    exact iff_of_true (lastRuns_openAttempt _ _ _) (.inl rfl)
  | paused =>
    have running : stage.status = .running := by
      cases is : stage.status <;> rw [is] at allowed <;> simp [StageStatus.next] at allowed ⊢
    refine ⟨⟨h.good, ?_, nofun, nofun⟩, Kept.refl _⟩
    exact iff_of_true (h.runs.2 (.inl running)) (.inr rfl)
  | ready =>
    have running : stage.status = .running := by
      cases is : stage.status <;> rw [is] at allowed <;> simp [StageStatus.next] at allowed ⊢
    refine ⟨⟨h.good.close (by decide) _ now, ?_, nofun, nofun⟩, h.good.kept_updateLast_iff.2 (closing (.inl running) _)⟩
    exact iff_of_false (not_lastRuns_close (by decide) _ now) (by simp [StageRecord.enter])
  | failed =>
    have running : stage.status = .running := by
      cases is : stage.status <;> rw [is] at allowed <;> simp [StageStatus.next] at allowed ⊢
    refine ⟨⟨h.good.close (by decide) _ now, ?_, nofun, fun _ => ?_⟩,
      h.good.kept_updateLast_iff.2 (closing (.inl running) _)⟩
    · exact iff_of_false (not_lastRuns_close (by decide) _ now) (by simp [StageRecord.enter])
    · obtain ⟨a, last, _⟩ := h.runs.2 (.inl running)
      refine ⟨a.close .failed error now, ?_, rfl⟩
      show (updateLast _ _).getLast? = _
      rw [getLast?_updateLast, last, Option.map_some]
  | cancelled =>
    have ends : stage.status = .running ∨ stage.status = .paused ∨ stage.status = .pending := by
      cases is : stage.status with
      | failed => exact absurd (.inr ⟨is, rfl⟩) ok
      | ready => simp [is, StageStatus.next] at allowed
      | cancelled => exact absurd is.symm changes
      | running => exact .inl rfl
      | paused => exact .inr (.inl rfl)
      | pending => exact .inr (.inr rfl)
    refine ⟨⟨h.good.close (by decide) _ now, ?_, nofun, nofun⟩, h.good.kept_updateLast_iff.2 (closing ends _)⟩
    exact iff_of_false (not_lastRuns_close (by decide) _ now) (by simp [StageRecord.enter])

lemma StageRecord.Sane.reopens (h : stage.Sane)
    (error : Option String) (now : Instant) (bad : stage.Reopens status) :
    status ≠ stage.status ∧ status ∈ stage.status.next ∧
      (¬ WellFormed (stage.enter status error now).attempts ∨
        ¬ Kept stage.attempts (stage.enter status error now).attempts) := by
  rcases bad with ⟨is, rfl⟩ | ⟨is, rfl⟩
  · refine ⟨by rw [is]; decide, by rw [is]; decide, .inl ?_⟩
    exact not_wellFormed_openAttempt (h.runs.2 (.inr is))
  · refine ⟨by rw [is]; decide, by rw [is]; decide, .inr fun kept => ?_⟩
    obtain ⟨a, last, failed⟩ := h.failed is
    rcases h.good.kept_updateLast_iff.1 kept a last with runs | ⟨same, _⟩
    · exact absurd (failed.symm.trans runs) (by decide)
    · exact absurd (same.trans failed) (by simp [AttemptRecord.close])

lemma StageRecord.Sane.recover (h : stage.Sane) (now : Instant) :
    (stage.recover now).Sane ∧ Kept stage.attempts (stage.recover now).attempts := by
  unfold StageRecord.recover
  split
  · rename_i running
    obtain ⟨good, kept⟩ := h.good.closeRunning .failed (by decide)
      "CORE restarted while stage was running" now
    obtain ⟨a, last, runs⟩ := h.runs.2 (.inl running)
    have closed : (closeRunning stage.attempts .failed "CORE restarted while stage was running" now).getLast? =
        some (a.close .failed "CORE restarted while stage was running" now) := by
      rw [closeRunning, getLast?_updateLast, last, Option.map_some, if_pos runs]
    refine ⟨⟨good, ?_, nofun, fun _ => ⟨_, closed, rfl⟩⟩, kept⟩
    refine iff_of_false ?_ (by simp)
    rintro ⟨b, last', runs'⟩
    cases closed.symm.trans last'
    cases runs'
  · exact ⟨h, Kept.refl _⟩

end Vertep.Orchestration
