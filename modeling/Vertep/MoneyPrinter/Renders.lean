import Vertep.MoneyPrinter.Runs

/-!
# Renders (`services/moneyprinter_service.py`)

A submit key has at most one task of the upstream, and an engine that returns a task for a key returns that one.
-/

namespace Vertep.MoneyPrinter
open Lib Relation

variable {env : Env} {cond : System → Act → System → Prop} {s : System}

lemma sound_init {w : World} (records : w.records = ∅) (tasks : w.tasks = []) (log : w.log = []) : Sound w where
  ids := by simp [tasks]
  once := by simp [log]
  single := by simp [tasks]
  unmade := by simp [tasks]
  unused := by simp [log, World.Unposted]
  named := by simp [records]

lemma reach_answered {P : String → World → String → Prop}
    (stable : ∀ key w w' taskId, Later w w' → P key w taskId → P key w' taskId)
    (submits : ∀ key w w' request answer taskId, (engineWhere env cond).run (.submit key request) w (some answer) w' →
      answer.status < 400 → answer.body.bind (·.taskId) = some taskId → P key w' taskId)
    (tells : ∀ key w w' answer taskId, (engineWhere env cond).run (.status key) w (some answer) w' →
      answer.body.bind (·.taskId) = some taskId → P key w' taskId)
    (reach : Reach Init (StepWhere env cond) s) : Answered env cond P s := by
  refine Reach.invariant (I := Answered env cond P) ?_ ?_ reach
  · rintro s ⟨records, tasks, -, log, engines⟩
    exact ⟨sound_init records tasks log, by simp [engines], by simp [log]⟩
  · rintro s s' answered ⟨act, step, met⟩
    exact answered.step stable submits tells step met

/-! ## What an engine is answered -/

lemma World.answered_records (w : World) (key : String) (out : Option Answer) :
    (w.answered key out).records = w.records := by
  obtain same | ⟨_, _, -, -, -, noted⟩ := w.answered_cases key out
  · rw [same]
  · rw [noted]
    rfl

variable {key taskId : String} {w w' : World} {answer : Answer}

lemma EngineCall.Run.submit_staged {request : Request} (ran : EngineCall.Run env (.submit key request) w (some answer) w')
    (sound : Sound w) (fine : answer.status < 400) (named : answer.body.bind (·.taskId) = some taskId)
    (valid : SubmitKey key) : Staged w' key taskId := by
  cases ran with
  | submit _ _ _ w₁ out _ handles arrives =>
    obtain none | rfl := arrives
    · cases none
    rw [valid.strip] at handles ⊢
    obtain ⟨marker, found⟩ := (handles.submits sound).2 answer rfl valid taskId named fine
    exact ⟨marker, (w₁.answered_records key _).symm ▸ found⟩

lemma EngineCall.Run.status_named (ran : EngineCall.Run env (.status key) w (some answer) w')
    (named : answer.body.bind (·.taskId) = some taskId) :
    ∃ record, w'.records.get? key = some record ∧ record.taskId = some taskId := by
  cases ran with
  | status _ _ _ out _ handles arrives =>
    obtain none | rfl := arrives
    · cases none
    obtain ⟨rfl, tells⟩ := (handles.sure (submitStatus_sure env)).2 answer rfl
    exact tells.named taskId named

lemma Sound.task_mem (sound : Sound w) (valid : SubmitKey key) {record : SubmitRecord}
    (found : w.records.get? key = some record) (named : record.taskId = some taskId) : ⟨taskId, key⟩ ∈ w.tasks := by
  obtain ⟨anonymous, -⟩ | ⟨taskId', named', -, made, -⟩ := sound.named key record valid found
  · cases anonymous.symm.trans named
  · cases named.symm.trans named'
    exact made

/-! ## Played runs -/

/-- An environment where every voice has one digest, and is taken. -/
def plain : Env := { sha256 := fun _ => "d", accepts := fun _ _ => true }

def voiceReplies (env : Env) : (c : VoiceCall) → Voices → c.Reply × Voices
  | .readVoice .., v => (.ok (some "voice"), v)
  | .place taskId name payload, v => (.ok (), v.set (taskId, name) payload)
  | .resolve taskId name, v => (.ok (env.accepts taskId name), v)

/-- The upstream creates the task `t`, and its answer is lost, or arrives. -/
def replies (env : Env) (lost : Bool) (state : Option ℤ) : (c : Call) → World → c.Reply × World
  | .gate, w => (.ok (), w)
  | .readRecord key, w => (.ok (w.records.get? key), w)
  | .writeRecord key record, w => (.ok (), { w with records := w.records.set key record })
  | .unlinkRecord key, w => ((), { w with records := w.records.pop key })
  | .verify marker, w =>
    let played := (verifiedStagedVoice env marker ()).play (voiceReplies env) w.voices
    (played.1.1, { w with voices := played.2 })
  | .stage key taskId marker, w =>
    let played := (stageTaskVoice env taskId marker ()).play (voiceReplies env) w.voices
    (played.1.1, w.staging key played.2 played.1.1)
  | .post key _, w =>
    if ∃ t ∈ w.tasks, t.id = "t" then (none, w.note (.posted key false))
    else
      let created := { w with tasks := ⟨"t", key⟩ :: w.tasks, running := "t" :: w.running }
      (if lost then none else some { status := 200, body := some { taskId := some "t" } }, created.note (.posted key false))
  | .deleteTask _, w => (none, w)
  | .getTask taskId, w =>
    let now := if taskId ∈ w.running then some 4 else state
    (some { status := 200, body := some { taskState := now } }, w)

lemma voiceReplies_run (env : Env) (c : VoiceCall) (v : Voices) :
    (voiceMachine env).run c v (voiceReplies env c v).1 (voiceReplies env c v).2 := by
  cases c with
  | readVoice digest suffix => exact .read digest suffix v _
  | place taskId name payload => exact .placed taskId name payload v
  | resolve taskId name => exact .resolved taskId name v

lemma replies_run (env : Env) (lost : Bool) (state : Option ℤ) (c : Call) (w : World) :
    (machine env).run c w (replies env lost state c w).1 (replies env lost state c w).2 := by
  cases c with
  | gate => exact .gate w _ (by rintro _ _ ⟨⟩)
  | readRecord key => exact .read key w
  | writeRecord key record => exact .wrote key record w
  | unlinkRecord key => exact .unlinked key w
  | verify marker =>
    have played := Program.Exec.play (voiceReplies_run env) (verifiedStagedVoice env marker ()) w.voices
    simp only [replies]
    generalize (verifiedStagedVoice env marker ()).play (voiceReplies env) w.voices = out at played ⊢
    obtain ⟨⟨reply, ⟨⟩⟩, voices⟩ := out
    exact .verify marker w reply voices played
  | stage key taskId marker =>
    have played := Program.Exec.play (voiceReplies_run env) (stageTaskVoice env taskId marker ()) w.voices
    simp only [replies]
    generalize (stageTaskVoice env taskId marker ()).play (voiceReplies env) w.voices = out at played ⊢
    obtain ⟨⟨reply, ⟨⟩⟩, voices⟩ := out
    exact .stage key taskId marker w reply voices played
  | post key payload =>
    simp only [replies]
    split
    · exact .unanswered key payload w w none .nothing
    · next fresh =>
      have creates : Creates key w (some "t") _ := .task "t" fun t mem same => fresh ⟨t, mem, same⟩
      cases lost with
      | true => exact .unanswered key payload w _ _ creates
      | false => exact .answered key payload w _ _ _ creates (by rintro ⟨h, -⟩; exact absurd h (by decide)) (by rintro - id ⟨⟩; rfl)
  | deleteTask taskId => exact .notDeleted taskId w w none (by simp) (.inl rfl)
  | getTask taskId =>
    refine .looked taskId w _ ?_
    rintro _ ⟨⟩ (unknown | ⟨-, ended⟩) running
    · exact absurd unknown (by decide : 200 ≠ 404)
    · simp [running] at ended

def payload : Payload :=
  { videoScript := "s", customAudioFile := "vertep-voice:d.wav", videoMaterials := some ["a.mp4"], bgmFile := "" }

/-- A submit that is played to its end, or cut off after a number of calls. -/
def submitted (lost : Bool) (calls : Option ℕ) (w : World) : Option Answer × World :=
  match calls with
  | none =>
    let played := (route (proxySubmit "job" (.object payload)) ()).play (replies plain lost none) w
    (played.1.1.toOption, played.2.answered "job" played.1.1.toOption)
  | some calls => (none, (route (proxySubmit "job" (.object payload)) ()).playFor (replies plain lost none) calls w)

def statusOf (state : Option ℤ) (w : World) : Option Answer :=
  ((route (submitStatus "job") ()).play (replies plain false state) w).1.1.toOption

lemma submitted_run (lost : Bool) (calls : Option ℕ) (w : World) (reply : Option Answer)
    (arrives : reply = none ∨ reply = (submitted lost calls w).1) :
    EngineCall.Run plain (.submit "job" (.object payload)) w reply (submitted lost calls w).2 := by
  have stripped : strip "job" = "job" := by decide +kernel
  cases calls with
  | none =>
    have played := Program.Exec.play (replies_run plain lost none) (route (proxySubmit "job" (.object payload)) ()) w
    simp only [submitted] at arrives ⊢
    generalize (route (proxySubmit "job" (.object payload)) ()).play (replies plain lost none) w = out at played arrives ⊢
    obtain ⟨⟨end_, ⟨⟩⟩, w'⟩ := out
    have run := EngineCall.Run.submit "job" (.object payload) w w' end_.toOption reply
      ⟨_, stripped.symm ▸ played, by cases end_ <;> rfl⟩ arrives
    rwa [stripped] at run
  | some calls =>
    have played := Program.Exec.playFor (replies_run plain lost none) calls (route (proxySubmit "job" (.object payload)) ()) w
    exact .submit "job" (.object payload) w _ none reply ⟨none, stripped.symm ▸ played, rfl⟩ arrives

lemma statusOf_handles (state : Option ℤ) (w : World) : Handles plain (submitStatus "job") w (statusOf state w) w := by
  have played := Program.Exec.play (replies_run plain false state) (route (submitStatus "job") ()) w
  unfold statusOf
  generalize (route (submitStatus "job") ()).play (replies plain false state) w = out at played ⊢
  obtain ⟨⟨end_, ⟨⟩⟩, w'⟩ := out
  have handles : Handles plain (submitStatus "job") w end_.toOption w' := ⟨_, played, by cases end_ <;> rfl⟩
  exact handles.status_same ▸ handles

/-- The answer of `submit_status` about the task. -/
def told (recordState : String) (voiceStaged : Bool) : Answer :=
  { status := 200
    body := some
      { taskId := some "t", state := some "submitted", recordState := some recordState, voiceStaged := some voiceStaged
        runtimeState := some "running" } }

lemma lost_polls {cond : System → Act → System → Prop} (calls : Option ℕ) (recordState : String) (voiceStaged : Bool)
    {w : World} (is : w = (submitted false calls {}).2)
    (tells : statusOf none w = some (told recordState voiceStaged))
    (submits : ∀ engines engines', cond ⟨{}, engines⟩ (.asks (.submit "job" (.object payload))) ⟨w, engines'⟩)
    (begins : ∀ engines, cond ⟨{}, []⟩ (.begins "job" (.object payload)) ⟨{}, engines⟩)
    (asks : ∀ engines engines', cond ⟨w, engines⟩ (.asks (.status "job")) ⟨w, engines'⟩)
    (polls : ∀ engines engines', cond ⟨w, engines⟩ (.polls "job" "t") ⟨w.note (.polls "job" "t"), engines'⟩) :
    Reach Init (StepWhere plain cond) ⟨w.note (.polls "job" "t"), []⟩ := by
  have init : Reach Init (StepWhere plain cond) ⟨{}, []⟩ := .init ⟨rfl, rfl, rfl, rfl, rfl⟩
  have begun := Reach.step init ⟨_, .begins _ "job" (.object payload), begins _⟩
  have submitted := Reach.step begun ⟨_, .asks _ _ [] [] "job" _ _ _ (is ▸ submitted_run false calls {} none (.inl rfl)), submits _ _⟩
  have asked : Reach Init (StepWhere plain cond) ⟨w, [⟨"job", .done (.ok (some "t"), ())⟩]⟩ := by
    refine Reach.step submitted ⟨_, .asks w w [] [] "job" (.status "job") (some (told recordState voiceStaged)) _
      (.status "job" w w _ _ (statusOf_handles none w) (.inr tells.symm)), asks _ _⟩
  exact .step asked ⟨_, .polls w [] [] "job" "t", polls _ _⟩

/-! ## One task a key -/

/-- **A key is rendered once.** -/
theorem one_render_per_key (env : Env) (s : System) (reach : Reach Init (StepWhere env fun _ _ _ => True) s) :
    (∀ key, SubmitKey key → ∀ later earlier refused, s.world.log = later ++ .posted key refused :: earlier →
      ∀ r, .posted key r ∈ earlier → r = true) ∧
    (∀ t ∈ s.world.tasks, ∀ t' ∈ s.world.tasks, SubmitKey t.key → t.key = t'.key → t = t') ∧
    ∀ key taskId, SubmitKey key → .polls key taskId ∈ s.world.log → ⟨taskId, key⟩ ∈ s.world.tasks := by
  have answered : Answered env (fun _ _ _ => True) (fun key w taskId => SubmitKey key → ⟨taskId, key⟩ ∈ w.tasks) s := by
    refine reach_answered ?_ ?_ ?_ reach
    · exact fun key w w' taskId later known valid => later.tasks _ (known valid)
    · rintro key w w' request answer taskId ⟨sound, ran, -⟩ fine named valid
      obtain ⟨marker, found⟩ := ran.submit_staged sound fine named valid
      exact (ran.later sound).1.task_mem valid found rfl
    · rintro key w w' answer taskId ⟨sound, ran, -⟩ named valid
      obtain ⟨record, found, named'⟩ := ran.status_named named
      exact (ran.later sound).1.task_mem valid found named'
  exact ⟨answered.sound.once, answered.sound.single, fun key taskId valid polled => answered.polled key taskId polled valid⟩

/-- The world after a submit that was staged, and whose answer did not arrive. -/
def stagedWorld : World := (submitted false none {}).2

lemma staged_told : statusOf none stagedWorld = some (told "staged" true) := by decide +kernel

theorem one_render_per_key_of_lost_answer :
    ⟨"t", "job"⟩ ∈ (stagedWorld.note (.polls "job" "t")).tasks ∧ SubmitKey "job" := by
  have valid : SubmitKey "job" := by decide +kernel
  have reach : Reach Init (StepWhere plain fun _ _ _ => True) ⟨stagedWorld.note (.polls "job" "t"), []⟩ :=
    lost_polls none "staged" true rfl staged_told (by simp) (by simp) (by simp) (by simp)
  exact ⟨(one_render_per_key plain _ reach).2.2 "job" "t" valid List.mem_cons_self, valid⟩

end Vertep.MoneyPrinter
