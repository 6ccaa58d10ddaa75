import Vertep.MoneyPrinter.Renders
import Vertep.MoneyPrinter.Stagings

/-!
# The voice of a render (`services/moneyprinter_service.py`)

A record that says that its voice is staged is right. An engine that reconciles a key takes a task from a record that
does not say so as well.
-/

namespace Vertep.MoneyPrinter
open Lib Relation

variable {env : Env} {key taskId : String} {w w' : World} {answer : Answer} {request : Request}
  {payloads : String → Payload}

def Payload.marker (payload : Payload) : String := strip payload.customAudioFile

/-- Each record has the marker of its key, and what it says is staged is. -/
structure Narrated (env : Env) (payloads : String → Payload) (w : World) : Prop where
  marked : ∀ key record, SubmitKey key → w.records.get? key = some record →
    record.voiceMarker = some (payloads key).marker
  voiced : ∀ key taskId, SubmitKey key → Staged w key taskId → Voiced env w.voices taskId (payloads key).marker

lemma Narrated.records (narrated : Narrated env payloads w) (key : String) {records : Dict String SubmitRecord}
    (others : ∀ key', key ≠ key' → records.get? key' = w.records.get? key')
    (marked : ∀ record, SubmitKey key → records.get? key = some record → record.voiceMarker = some (payloads key).marker)
    (voiced : ∀ taskId marker, SubmitKey key → records.get? key = some ⟨some taskId, marker, .staged⟩ →
      Voiced env w.voices taskId (payloads key).marker) :
    Narrated env payloads { w with records := records } where
  marked key' record valid found := by
    by_cases same : key = key'
    · subst same
      exact marked record valid found
    · exact narrated.marked key' record valid ((others key' same).symm.trans found)
  voiced key' taskId valid staged := by
    obtain ⟨marker, found⟩ := staged
    by_cases same : key = key'
    · subst same
      exact voiced taskId marker valid found
    · exact narrated.voiced key' taskId valid ⟨marker, (others key' same).symm.trans found⟩

lemma Narrated.write (narrated : Narrated env payloads w) {record : SubmitRecord} (open_ : record.state ≠ .staged)
    (marked : SubmitKey key → record.voiceMarker = some (payloads key).marker) :
    Narrated env payloads { w with records := w.records.set key record } := by
  refine narrated.records key (fun key' other => by simp [other]) ?_ ?_
  · intro record' valid found
    obtain rfl : record = record' := by simpa using found
    exact marked valid
  · intro taskId marker valid found
    obtain rfl : record = _ := by simpa using found
    exact absurd rfl open_

lemma Narrated.aside (narrated : Narrated env payloads w) (tasks : List Task) (running : List String) (log : List Event) :
    Narrated env payloads { w with tasks := tasks, running := running, log := log } :=
  ⟨narrated.marked, narrated.voiced⟩

lemma Narrated.place (narrated : Narrated env payloads w) (sound : Sound w) {marker : String} {voices : Voices}
    (made : ⟨taskId, key⟩ ∈ w.tasks) (found : SubmitKey key → w.records.get? key = some ⟨some taskId, some marker, .submitted⟩)
    (places : Places env taskId marker w.voices voices) : Narrated env payloads { w with voices := voices } where
  marked := narrated.marked
  voiced key' id valid staged := by
    obtain ⟨suffix, payload, suffixed, here, digest, accepted⟩ := narrated.voiced key' id valid staged
    refine ⟨suffix, payload, suffixed, ?_, digest, accepted⟩
    obtain same | ⟨suffix', payload', named, -⟩ := places (id, voiceFile suffix)
    · exact same.trans here
    · -- the task of a staged record is not the one that is staged now
      obtain ⟨marker', staged⟩ := staged
      obtain rfl : id = taskId := (Prod.mk.inj named).1
      have key_eq := congrArg Task.key (sound.ids ⟨id, key⟩ made ⟨id, key'⟩ (sound.task_mem valid staged rfl) rfl)
      cases key_eq
      cases (found valid).symm.trans staged

lemma Move.narrated (move : Move env key request w w') (sound : Sound w)
    (same : SubmitKey key → ∀ marker, request.Marks marker → marker = (payloads key).marker)
    (narrated : Narrated env payloads w) : Narrated env payloads w' := by
  cases move with
  | same => exact narrated
  | reserve marker valid marks absent => exact narrated.write (by simp) fun valid => congrArg some (same valid marker marks)
  | post w₁ made refused _ creates _ =>
    cases creates with
    | nothing => exact narrated.aside w.tasks w.running _
    | task id fresh => exact narrated.aside _ _ _
  | forget marker valid found _ =>
    exact narrated.records key (fun key' other => by simp [other]) (by simp) (by simp)
  | submitted taskId marker valid found _ _ =>
    have marked := narrated.marked key _ valid found
    exact narrated.write (by simp) fun _ => marked
  | stage taskId marker voices failed made found places =>
    have placed := narrated.place sound made found places
    cases failed with
    | false => exact placed
    | true => exact placed.aside w.tasks w.running _
  | staged taskId marker valid found voiced =>
    have marked := narrated.marked key _ valid found
    refine narrated.records key (fun key' other => by simp [other]) ?_ ?_
    · intro record valid found'
      obtain rfl : _ = record := by simpa using found'
      exact marked
    · intro id marker' valid found'
      cases marked
      obtain ⟨rfl, -⟩ : taskId = id ∧ _ := by simpa using found'
      exact voiced
  | refuse taskId marker valid found =>
    have marked := narrated.marked key _ valid found
    exact narrated.write (by simp) fun _ => marked
  | stops taskId => exact narrated.aside w.tasks _ w.log
  | aborts taskId _ => exact narrated.aside w.tasks _ _

lemma moves_narrated (moves : ReflTransGen (Move env key request) w w') (sound : Sound w)
    (same : SubmitKey key → ∀ marker, request.Marks marker → marker = (payloads key).marker)
    (narrated : Narrated env payloads w) : Narrated env payloads w' := by
  induction moves with
  | refl => exact narrated
  | tail first last ih => exact last.narrated (moves_sound first sound).1 same ih

def SamePayload (payloads : String → Payload) (act : Act) : Prop :=
  ∀ key request, act = .asks (.submit key request) → request = .object (payloads (strip key))

/-- A key is reconciled through its record only once its voice is staged. A submit in which a staging fails is handled
to its end, and its calls land. -/
structure Covered (env : Env) (payloads : String → Payload) (s : System) (act : Act) (s' : System) : Prop where
  payload : SamePayload payloads act
  reconciled : ∀ key, act = .asks (.status key) → ∀ record, s.world.records.get? key = some record →
    record.state ≠ .submitted
  lands : ∀ key request, act = .asks (.submit key request) → s.world.Clean (strip key) →
    .failed (strip key) ∈ s'.world.log → Lands env (strip key) request s.world s'.world

lemma Step.narrated {s s' : System} {act : Act} (step : Step env s act s') (sound : Sound s.world)
    (same : SamePayload payloads act) (narrated : Narrated env payloads s.world) : Narrated env payloads s'.world := by
  cases step with
  | begins => exact narrated
  | asks w w' before after key call reply next ran =>
    cases ran with
    | submit key request _ w₁ out _ handles arrives =>
      obtain rfl := same key request rfl
      have marks : ∀ marker, (Request.object (payloads (strip key))).Marks marker → marker = (payloads (strip key)).marker := by
        rintro marker ⟨payload, is, rfl⟩
        cases is
        rfl
      have narrated := moves_narrated (handles.submits sound).1 sound (fun _ => marks) narrated
      obtain same | ⟨_, _, -, -, -, noted⟩ := World.answered_cases w₁ (strip key) out
      · rw [same]
        exact narrated
      · rw [noted]
        exact narrated.aside _ _ _
    | status key _ _ out _ handles arrives => exact handles.status_same ▸ narrated
  | polls w before after key id => exact narrated.aside _ _ _
  | ends => exact narrated
  | status _ key out w' handles => exact handles.status_same ▸ narrated
  | abort _ key out w' handles => exact moves_narrated handles.aborts sound (by rintro _ _ ⟨_, ⟨⟩, _⟩) narrated
  | delete _ id reply w' ran =>
    have move : Move env "" .notJson s.world w' := (Call.Run.deleted_stops ran).move
    exact move.narrated sound (fun valid => absurd rfl valid.ne_empty) narrated
  | stops _ id => exact narrated.aside _ _ _

/-- What holds of every system whose keys are covered. -/
structure Assured (env : Env) (payloads : String → Payload) (s : System) : Prop where
  answered : Answered env (Covered env payloads) (fun key w taskId => SubmitKey key → Staged w key taskId) s
  narrated : Narrated env payloads s.world
  refused : ∀ key, SubmitKey key → s.world.Settled key
  accepted : ∀ key taskId, SubmitKey key → .accepted key taskId ∈ s.world.log → Staged s.world key taskId

lemma Assured.step {s s' : System} {act : Act} (sure : Assured env payloads s) (step : Step env s act s')
    (covered : Covered env payloads s act s') : Assured env payloads s' := by
  have later := (step.later sure.answered.sound).2
  refine ⟨sure.answered.step ?_ ?_ ?_ step covered, step.narrated sure.answered.sound covered.payload sure.narrated, ?_, ?_⟩
  · exact fun key w w' taskId later staged valid => later.staged (staged valid)
  · rintro key w w' request answer taskId ⟨sound, ran, -⟩ fine named valid
    exact ran.submit_staged sound fine named valid
  · rintro key w w' answer taskId ⟨sound, ran, engines, engines', covered⟩ named valid
    have sound' := (ran.later sound).1
    obtain ⟨record, found, named'⟩ := ran.status_named named
    obtain rfl : w' = w := by
      cases ran with
      | status _ _ _ out _ handles => exact handles.status_same
    have unstaged := covered.reconciled key rfl record found
    obtain ⟨taskId', marker, state⟩ := record
    obtain ⟨anonymous, -⟩ | ⟨_, -, -, -, submitted | staged⟩ := sound.named key _ valid found
    · cases anonymous.symm.trans named'
    · exact absurd submitted unstaged
    · cases named'
      cases staged
      exact ⟨marker, found⟩
  · intro key valid failed
    by_cases before : .failed key ∈ s.world.log
    · obtain ⟨record, found, state⟩ := sure.refused key valid before
      exact ⟨record, later.final key record found (.inr state), state⟩
    · obtain ⟨key', request, is, rfl⟩ := step.stages sure.answered.sound before failed
      exact (covered.lands key' request is before failed).refuses valid before failed
  · intro key taskId valid mem
    have late : (Event.accepted key taskId).Late := trivial
    obtain before | ⟨key', id, same, -⟩ | ⟨key', id, same, staged⟩ := step.late sure.answered.sound late mem
    · exact later.staged (sure.accepted key taskId valid before)
    · cases same
    · cases same
      exact staged valid

/-- **An accepted render carries the approved voice**, where a key is reconciled only once its voice is staged and a
submit whose staging fails is handled to its end. -/
theorem accepted_render_is_narrated (env : Env) (payloads : String → Payload) (s : System)
    (reach : Reach Init (StepWhere env (Covered env payloads)) s) :
    (∀ key taskId, SubmitKey key → .polls key taskId ∈ s.world.log →
      ∃ suffix payload, markerSuffix (payloads key).marker = .ok suffix ∧
        s.world.voices.get? (taskId, voiceFile suffix) = some payload ∧
        env.sha256 payload = markerDigest (payloads key).marker suffix ∧ env.accepts taskId (voiceFile suffix) = true) ∧
    ∀ key taskId, SubmitKey key → (.polls key taskId ∈ s.world.log ∨ .accepted key taskId ∈ s.world.log) →
      .failed key ∉ s.world.log := by
  have sure : Assured env payloads s := by
    refine Reach.invariant (I := Assured env payloads) ?_ ?_ reach
    · rintro s ⟨records, tasks, -, log, engines⟩
      refine ⟨⟨sound_init records tasks log, by simp [engines], by simp [log]⟩, ⟨?_, ?_⟩, by simp [World.Settled, log], by simp [log]⟩
      · simp [records]
      · rintro key taskId valid ⟨marker, found⟩
        simp [records] at found
    · rintro s s' sure ⟨act, step, covered⟩
      exact sure.step step covered
  refine ⟨fun key taskId valid polled => ?_, fun key taskId valid answered failed => ?_⟩
  · exact sure.narrated.voiced key taskId valid (sure.answered.polled key taskId polled valid)
  · obtain ⟨record, found, refused⟩ := sure.refused key valid failed
    have staged : Staged s.world key taskId := by
      obtain polled | accepted := answered
      · exact sure.answered.polled key taskId polled valid
      · exact sure.accepted key taskId valid accepted
    obtain ⟨marker, found'⟩ := staged
    cases found.symm.trans found'
    cases refused

/-- The world after a submit that was cut off in front of the staging. -/
def unstagedWorld : World := (submitted false (some 6) {}).2

/-- A task is polled whose voice was not staged: the record is read before a repeat of the submit repairs it. -/
theorem polled_task_not_narrated :
    ¬ ∀ (env : Env) (payloads : String → Payload) (s : System),
      Reach Init (StepWhere env fun _ act _ => SamePayload payloads act) s →
      (∀ key taskId, SubmitKey key → .polls key taskId ∈ s.world.log →
        ∃ suffix payload, markerSuffix (payloads key).marker = .ok suffix ∧
          s.world.voices.get? (taskId, voiceFile suffix) = some payload ∧
          env.sha256 payload = markerDigest (payloads key).marker suffix ∧ env.accepts taskId (voiceFile suffix) = true) ∧
      ∀ key taskId, SubmitKey key → (.polls key taskId ∈ s.world.log ∨ .accepted key taskId ∈ s.world.log) →
        .failed key ∉ s.world.log := by
  intro narrated
  have reach : Reach Init (StepWhere plain fun _ act _ => SamePayload (fun _ => payload) act)
      ⟨unstagedWorld.note (.polls "job" "t"), []⟩ := by
    refine lost_polls (some 6) "submitted" false rfl (by decide +kernel) ?_ ?_ ?_ ?_
    · rintro _ _ key request ⟨⟩
      rfl
    · rintro _ key request ⟨⟩
    · rintro _ _ key request ⟨⟩
    · rintro _ _ key request ⟨⟩
  obtain ⟨suffix, voice, -, found, -⟩ :=
    (narrated plain (fun _ => payload) _ reach).1 "job" "t" (by decide +kernel) List.mem_cons_self
  have empty : unstagedWorld.voices.entries = [] := by decide +kernel
  cases (Dict.get?_of_entries empty ("t", voiceFile suffix)).symm.trans found

/-- The resolver takes no voice. -/
def picky : Env := { plain with accepts := fun _ _ => false }

/-- The world after a submit whose staging failed. -/
def refusedWorld : World := ((route (proxySubmit "job" (.object payload)) ()).play (replies picky false none) {}).2

lemma refusedWorld_reach :
    ∃ engines, Reach Init (StepWhere picky (Covered picky fun _ => payload)) ⟨refusedWorld, engines⟩ := by
  have stripped : strip "job" = "job" := by decide +kernel
  have landed := Program.Exec.playWithin (M := landing picky) (e := replies picky false none)
    (fun c w (lands : decide (c.Lands (replies picky false none c w).1) = true) =>
      ⟨replies_run picky false none c w, of_decide_eq_true lands⟩)
    (route (proxySubmit "job" (.object payload)) ()) {} (by decide +kernel)
  have played := Program.Exec.play (replies_run picky false none) (route (proxySubmit "job" (.object payload)) ()) {}
  have told : ((route (proxySubmit "job" (.object payload)) ()).play (replies picky false none) {}).1.1.toOption.map
      (fun answer => answer.body.bind (·.taskId)) = some none := by decide +kernel
  have is : refusedWorld = ((route (proxySubmit "job" (.object payload)) ()).play (replies picky false none) {}).2 := rfl
  generalize (route (proxySubmit "job" (.object payload)) ()).play (replies picky false none) {} = out at landed played told is
  obtain ⟨⟨_ | answer, ⟨⟩⟩, w⟩ := out
  · cases told
  obtain rfl : refusedWorld = w := is
  have anonymous : answer.body.bind (·.taskId) = none := Option.some.inj told
  have same : refusedWorld.answered "job" (some answer) = refusedWorld := by simp [World.answered, anonymous]
  have run : EngineCall.Run picky (.submit "job" (.object payload)) {} (some answer) refusedWorld := by
    have run := @EngineCall.Run.submit picky "job" (.object payload) {} refusedWorld (some answer) (some answer)
      ⟨_, stripped.symm ▸ played, rfl⟩ (.inr rfl)
    rwa [stripped, same] at run
  have init : Reach Init (StepWhere picky (Covered picky fun _ => payload)) ⟨{}, []⟩ := .init ⟨rfl, rfl, rfl, rfl, rfl⟩
  have begun := Reach.step init ⟨_, .begins _ "job" (.object payload), ⟨by rintro key request ⟨⟩, by simp, nofun⟩⟩
  refine ⟨_, .step begun ⟨_, .asks _ _ [] [] "job" _ _ _ run, ⟨?_, by simp, ?_⟩⟩⟩
  · rintro key request ⟨⟩
    rfl
  · rintro key request ⟨⟩ - -
    rw [stripped]
    exact ⟨answer, _, landed, same.symm⟩

theorem accepted_render_is_narrated_of_lost_answer :
    (.polls "job" "t" ∈ (stagedWorld.note (.polls "job" "t")).log ∧
      .failed "job" ∉ (stagedWorld.note (.polls "job" "t")).log) ∧
    .failed "job" ∈ refusedWorld.log ∧
      ∀ taskId, .polls "job" taskId ∉ refusedWorld.log ∧ .accepted "job" taskId ∉ refusedWorld.log := by
  have valid : SubmitKey "job" := by decide +kernel
  have staged : stagedWorld.records.get? "job" = some ⟨some "t", some "vertep-voice:d.wav", .staged⟩ := by decide +kernel
  have log : stagedWorld.log = [.accepted "job" "t", .posted "job" false] := by decide +kernel
  have fine : ∀ key, .failed key ∉ (stagedWorld.note (.polls "job" "t")).log := by simp [World.note, log]
  have reach : Reach Init (StepWhere plain (Covered plain fun _ => payload)) ⟨stagedWorld.note (.polls "job" "t"), []⟩ := by
    refine lost_polls none "staged" true rfl staged_told ?_ ?_ ?_ ?_
    · refine fun _ _ => ⟨?_, by simp, fun _ _ _ _ failed => absurd (List.mem_cons_of_mem _ failed) (fine _)⟩
      rintro key request ⟨⟩
      rfl
    · exact fun _ => ⟨by rintro key request ⟨⟩, by simp, by simp⟩
    · refine fun _ _ => ⟨by rintro key request ⟨⟩, ?_, nofun⟩
      rintro key ⟨⟩ record found
      cases staged.symm.trans found
      simp
    · exact fun _ _ => ⟨by rintro key request ⟨⟩, by simp, nofun⟩
  refine ⟨⟨List.mem_cons_self, (accepted_render_is_narrated plain (fun _ => payload) _ reach).2 "job" "t" valid
    (.inl List.mem_cons_self)⟩, ?_⟩
  have failed : .failed "job" ∈ refusedWorld.log := by decide +kernel
  obtain ⟨engines, reach⟩ := refusedWorld_reach
  have narrated := (accepted_render_is_narrated picky (fun _ => payload) _ reach).2 "job"
  exact ⟨failed, fun taskId => ⟨fun polled => narrated taskId valid (.inl polled) failed,
    fun accepted => narrated taskId valid (.inr accepted) failed⟩⟩

end Vertep.MoneyPrinter
