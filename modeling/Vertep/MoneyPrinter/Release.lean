import Vertep.MoneyPrinter.Renders

/-!
# The release of a key (`services/moneyprinter_service.py`)

`submit_status` reads the state of a key off the task that its record names. A record without a task is reported as
free, also where the upstream has a task of the key.
-/

namespace Vertep.MoneyPrinter
open Lib Relation

variable {env : Env} {key taskId : String} {w w' : World} {answer : Answer}

def World.Quiet (w : World) : Prop :=
  ∀ taskId, .aborted taskId ∈ w.log → taskId ∉ w.running ∧ ∃ t ∈ w.tasks, t.id = taskId

lemma World.Quiet.note {event : Event} (quiet : w.Quiet) (other : ∀ taskId, event ≠ .aborted taskId) :
    (w.note event).Quiet := by
  intro taskId mem
  obtain same | mem := List.mem_cons.1 mem
  · exact absurd same.symm (other taskId)
  · exact quiet taskId mem

lemma World.Quiet.stops (quiet : w.Quiet) (taskId : String) : (w.stops taskId).Quiet := fun id mem =>
  ⟨fun still => (quiet id mem).1 (List.mem_filter.1 still).1, (quiet id mem).2⟩

lemma Move.quiet {request : Request} (move : Move env key request w w') (quiet : w.Quiet) : w'.Quiet := by
  cases move with
  | post w₁ made refused _ creates _ =>
    refine World.Quiet.note ?_ (by simp)
    cases creates with
    | nothing => exact quiet
    | task id fresh =>
      intro taskId mem
      obtain ⟨stopped, t, known, rfl⟩ := quiet taskId mem
      refine ⟨?_, t, List.mem_cons_of_mem _ known, rfl⟩
      rintro (_ | ⟨_, still⟩)
      · exact fresh t known rfl
      · exact stopped still
  | stage id marker voices failed _ _ _ =>
    cases failed with
    | false => exact quiet
    | true => exact World.Quiet.note quiet (by simp)
  | stops taskId => exact quiet.stops taskId
  | aborts taskId known =>
    intro id mem
    obtain same | mem := List.mem_cons.1 mem
    · cases same
      exact ⟨by simp [World.stops, World.note], known⟩
    · exact quiet.stops taskId id mem
  | _ => exact quiet

lemma moves_quiet {request : Request} (moves : ReflTransGen (Move env key request) w w') (quiet : w.Quiet) : w'.Quiet := by
  induction moves with
  | refl => exact quiet
  | tail _ last ih => exact last.quiet ih

lemma Step.quiet {s s' : System} {act : Act} (step : Step env s act s') (sound : Sound s.world) (quiet : s.world.Quiet) :
    s'.world.Quiet := by
  cases step with
  | begins => exact quiet
  | asks w w' before after key call reply next ran =>
    cases ran with
    | submit key request _ w₁ out _ handles arrives =>
      have quiet := moves_quiet (handles.submits sound).1 quiet
      obtain same | ⟨_, _, -, -, -, noted⟩ := World.answered_cases w₁ (strip key) out
      · rw [same]
        exact quiet
      · rw [noted]
        exact quiet.note (by simp)
    | status key _ _ out _ handles arrives => exact handles.status_same ▸ quiet
  | polls w before after key id => exact World.Quiet.note quiet (by simp)
  | ends => exact quiet
  | status _ key out w' handles => exact handles.status_same ▸ quiet
  | abort _ key out w' handles => exact moves_quiet handles.aborts quiet
  | delete _ id reply w' ran =>
    have move : Move env "" .notJson s.world w' := (Call.Run.deleted_stops ran).move
    exact move.quiet quiet
  | stops _ id => exact World.Quiet.stops quiet id

def World.Free (w : World) (key : String) : Prop := ∀ t ∈ w.tasks, t.key = key → t.id ∉ w.running

/-- The record of the key names its task, or the abort of every task that was created under it was confirmed. -/
def World.Clear (w : World) (key : String) : Prop :=
  (∃ record taskId, w.records.get? key = some record ∧ record.taskId = some taskId) ∨
    ∀ t ∈ w.tasks, t.key = key → .aborted t.id ∈ w.log

lemma free_of_tells (sound : Sound w) (quiet : w.Quiet) (valid : SubmitKey key) (clear : w.Clear key)
    (tells : answer.Tells key w) (report : answer.SaysFree) : w.Free key := by
  obtain ⟨record, taskId, found, named⟩ | aborted := clear
  · have made := sound.task_mem valid found named
    intro t known same
    obtain rfl := sound.single ⟨taskId, key⟩ made t known valid same.symm
    obtain absent | ⟨record', found', unnamed | stopped⟩ := tells.free report
    · cases absent.symm.trans found
    · cases found.symm.trans found'
      obtain ⟨anonymous, -⟩ | ⟨taskId', named', filled, -⟩ := sound.named key record valid found
      · cases anonymous.symm.trans named
      · exact absurd (by simpa [named'] using unnamed) filled
    · cases found.symm.trans found'
      simpa [named] using stopped
  · exact fun t known same => (quiet t.id (aborted t known same)).1

/-- **A key is reported free if it is**, where its record names its task or its tasks were aborted. -/
theorem release_evidence_of_clear (env : Env) (s : System) (reach : Reach Init (StepWhere env fun _ _ _ => True) s)
    (key : String) (valid : SubmitKey key) (clear : s.world.Clear key) (out : Option Answer) (w' : World)
    (handles : Handles env (submitStatus key) s.world out w') :
    (∀ answer, out = some answer → answer.body.bind (·.runtimeState) = some "absent" → w'.Free key) ∧
      ∀ reply, (reply = none ∨ reply = out) → releaseState key reply = "released" → w'.Free key := by
  have kept : Sound s.world ∧ s.world.Quiet := by
    refine Reach.invariant (I := fun s : System => Sound s.world ∧ s.world.Quiet) ?_ ?_ reach
    · rintro s ⟨records, tasks, -, log, -⟩
      exact ⟨sound_init records tasks log, by simp [World.Quiet, log]⟩
    · rintro s s' ⟨sound, quiet⟩ ⟨act, step, -⟩
      exact ⟨(step.later sound).1, step.quiet sound quiet⟩
  have told := (handles.sure (submitStatus_sure env)).2
  obtain rfl := handles.status_same
  refine ⟨fun answer same absent => ?_, fun reply arrives released => ?_⟩
  · have tells := (told answer same).2
    refine free_of_tells kept.1 kept.2 valid clear tells (.inr ⟨tells.fine (by simp [absent]), "absent", by simp, absent⟩)
  · obtain ⟨answer, rfl, report⟩ := releaseState_released released
    obtain none | rfl := arrives
    · cases none
    exact free_of_tells kept.1 kept.2 valid clear (told answer rfl).2 report

def unansweredWorld : World := (submitted true none {}).2

lemma reach_submitted (lost : Bool) :
    ∃ engines, Reach Init (StepWhere plain fun _ _ _ => True) ⟨(submitted lost none {}).2, engines⟩ := by
  have init : Reach Init (StepWhere plain fun _ _ _ => True) ⟨{}, []⟩ := .init ⟨rfl, rfl, rfl, rfl, rfl⟩
  have begun := Reach.step init ⟨_, .begins _ "job" (.object payload), trivial⟩
  exact ⟨_, .step begun ⟨_, .asks _ _ [] [] "job" _ _ _ (submitted_run lost none {} none (.inl rfl)), trivial⟩⟩

/-- A task that runs is reported as absent: the record does not name it. -/
theorem running_task_reported_absent :
    ¬ ∀ (env : Env) (s : System), Reach Init (StepWhere env fun _ _ _ => True) s → ∀ key, SubmitKey key → ∀ out w',
      Handles env (submitStatus key) s.world out w' →
      (∀ answer, out = some answer → answer.body.bind (·.runtimeState) = some "absent" → w'.Free key) ∧
        ∀ reply, (reply = none ∨ reply = out) → releaseState key reply = "released" → w'.Free key := by
  intro free
  obtain ⟨engines, reach⟩ := reach_submitted true
  have handles := statusOf_handles none unansweredWorld
  have absent : (statusOf none unansweredWorld).bind (fun answer => answer.body.bind (·.runtimeState)) = some "absent" := by
    decide +kernel
  obtain ⟨answer, same, told⟩ := Option.bind_eq_some_iff.1 absent
  have now := (free plain _ reach "job" (by decide +kernel) _ _ handles).1 answer same told
  exact now ⟨"t", "job"⟩ (by decide +kernel) rfl (by decide +kernel)

theorem release_evidence_of_finished :
    statusOf (some 1) (stagedWorld.stops "t") ≠ none ∧ (stagedWorld.stops "t").Free "job" := by
  obtain ⟨engines, reach⟩ := reach_submitted false
  have stopped : Reach Init (StepWhere plain fun _ _ _ => True) ⟨stagedWorld.stops "t", engines⟩ :=
    .step reach ⟨_, .stops _ "t", trivial⟩
  have found : (stagedWorld.stops "t").records.get? "job" = some ⟨some "t", some "vertep-voice:d.wav", .staged⟩ := by
    decide +kernel
  have released : releaseState "job" (statusOf (some 1) (stagedWorld.stops "t")) = "released" := by decide +kernel
  refine ⟨by decide +kernel, ?_⟩
  exact (release_evidence_of_clear plain _ stopped "job" (by decide +kernel) (.inl ⟨_, "t", found, rfl⟩) _ _
    (statusOf_handles (some 1) (stagedWorld.stops "t"))).2 _ (.inr rfl) released

end Vertep.MoneyPrinter
