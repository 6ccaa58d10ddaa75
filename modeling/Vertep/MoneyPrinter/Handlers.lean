import Vertep.MoneyPrinter.Moves

/-!
# The handlers of the wrapper (`services/moneyprinter_service.py`)

One spec lemma a function: the calls of `proxy_submit` are moves of its key, and an answer with a task says that its
voice is staged; the other routes only stop tasks.
-/

namespace Vertep.MoneyPrinter
open Lib Relation

variable {key : String} {request : Request} {w : World}

/-- The record of the key says that the voice of the task is staged. -/
def Staged (w : World) (key taskId : String) : Prop :=
  ∃ marker, w.records.get? key = some ⟨some taskId, marker, .staged⟩

def Answer.Honest (answer : Answer) (key : String) (w : World) : Prop :=
  SubmitKey key → ∀ taskId, answer.body.bind (·.taskId) = some taskId → answer.status < 400 → Staged w key taskId

lemma Failure.answer_taskId (failure : Failure) : failure.answer.body.bind (·.taskId) = none := by
  cases failure <;> rfl

lemma Answer.Honest.of_none {answer : Answer} (none : answer.body.bind (·.taskId) = none) : answer.Honest key w := by
  intro _ taskId named
  cases none.symm.trans named

/-! ## Parts -/

/-- What raises is answered as an error, and not as an unknown key. -/
def Failure.Fails (failure : Failure) : Prop := ∀ status detail, failure = .http status detail → 400 ≤ status ∧ status ≠ 404

variable {X : Failure → Unit → World → Prop} {Q : Unit → Unit → World → Prop} {w' : World} {taskId marker : String}
  {env : Env}

section
variable {guar : World → World → Prop}

lemma ask_sure (env : Env) (c : Call) {Q : c.Reply → Unit → World → Prop}
    (torn : ∀ w', Call.Torn env c w w' → guar w w')
    (run : ∀ reply w', Call.Run env c w reply w' → guar w w' ∧ Q reply () w') :
    (ask c).Sure (machine env) Eq guar Q X () w := by
  refine (Script.sure_ask c).2 ?_
  rintro _ rfl
  refine ⟨torn, fun reply w' ran => ⟨(run reply w' ran).1, ?_⟩⟩
  rintro _ rfl
  exact (run reply w' ran).2

lemma rememberSubmit_sure (env : Env) (taskId : Option String) (marker : String) (state : Option SubmitState) {record : SubmitRecord} {new : World}
    (told : record = ⟨taskId, some marker, state.getD (if taskId.getD "" ≠ "" then .submitted else .submitting)⟩)
    (eq : new = { w with records := w.records.set key record }) (same : guar w w) (move : SubmitKey key → guar w new) (written : SubmitKey key → Q () () new)
    (keyless : key = "" → Q () () w) (raises : ∀ failure, X failure () w) :
    (rememberSubmit key taskId marker state).Sure (machine env) Eq guar Q X () w := by
  unfold rememberSubmit
  by_cases empty : key = ""
  · simpa [empty] using keyless empty
  by_cases valid : SubmitKey key
  · simp only [empty, valid, not_true_eq_false, if_false, Script.sure_bind, ask, Script.sure_ask, forall_eq', machine]
    refine ⟨by rintro _ ⟨⟩, fun reply w' ran => ?_⟩
    cases ran with
    | wrote =>
      rw [← told, ← eq]
      simpa [Script.require] using ⟨move valid, written valid⟩
    | notWritten => simpa [Script.require] using ⟨same, raises _⟩
  · simpa [empty, valid] using raises _

/-- Tasks were stopped, at most. -/
inductive World.Stops (w : World) (taskId : String) : World → Prop where
  | same : Stops w taskId w
  | stops : Stops w taskId (w.stops taskId)
  | aborts : (∃ t ∈ w.tasks, t.id = taskId) → Stops w taskId ((w.stops taskId).note (.aborted taskId))

lemma World.Stops.records (left : w.Stops taskId w') : w'.records = w.records := by
  cases left <;> rfl

lemma Call.Run.deleted_stops {reply : Option Answer}
    (ran : Call.Run env (.deleteTask taskId) w reply w') : w.Stops taskId w' := by
  cases ran with
  | deleted _ _ _ _ known => exact .aborts known
  | notDeleted _ _ _ _ _ left =>
    obtain rfl | rfl := left
    · exact .same
    · exact .stops

lemma World.Stops.move (left : w.Stops taskId w') : Move env key request w w' := by
  cases left with
  | same => exact .same w
  | stops => exact .stops w taskId
  | aborts known => exact .aborts w taskId known

lemma abortTask_sure (env : Env) (taskId : String) :
    (abortTask taskId).Sure (machine env) Eq (Move env key request) (fun _ _ w' => w.Stops taskId w') X () w := by
  simp only [abortTask, Script.sure_rescue, Script.sure_bind, ask, Script.sure_ask, forall_eq', machine]
  refine ⟨by rintro _ ⟨⟩, fun reply w' ran => ?_⟩
  have left := Call.Run.deleted_stops ran
  cases reply <;> simpa [upstream] using ⟨left.move, left⟩

lemma submitRecord_sure (env : Env) (same : guar w w)
    (raises : ∀ failure, failure.Fails → X failure () w) :
    (submitRecord key).Sure (machine env) Eq guar
      (fun record _ w' => w' = w ∧ SubmitKey key ∧ record = w.records.get? key) X () w := by
  unfold submitRecord
  by_cases valid : SubmitKey key
  · simp only [valid, not_true_eq_false, if_false, Script.sure_bind]
    refine ask_sure env (.readRecord key) (by rintro _ ⟨⟩) fun reply w' ran => ⟨?_, ?_⟩
    · cases ran <;> exact same
    · cases ran with
      | read => simp
      | notRead _ _ fault =>
        refine (Script.sure_raise _).2 ?_
        rintro _ rfl
        exact raises _ (by simp [Failure.Fails, recordUnreadable])
  · simp only [valid, not_false_eq_true, if_true]
    refine (Script.sure_raise _).2 ?_
    rintro _ rfl
    exact raises _ (by simp [Failure.Fails])

end

/-! ## Staging -/

lemma Call.Run.stage_cases {reply : Except Failure Unit}
    (ran : Call.Run env (.stage key taskId marker) w reply w') :
    ∃ voices failed, Places env taskId marker w.voices voices ∧
      w' = { w with voices := voices, log := if failed then .failed key :: w.log else w.log } ∧
      (reply = .ok () → failed = false ∧ Voiced env voices taskId marker) := by
  cases ran with
  | stage _ _ _ _ _ voices exec =>
    obtain ⟨path, returns, -⟩ := (stageTaskVoice_sure env taskId marker w.voices).exec exec
    cases reply with
    | ok => exact ⟨voices, false, .of_steps path, rfl, fun _ => ⟨rfl, returns () () rfl⟩⟩
    | error failure => exact ⟨voices, true, .of_steps path, rfl, by rintro ⟨⟩⟩

lemma Call.Torn.stage_cases (torn : Call.Torn env (.stage key taskId marker) w w') :
    ∃ voices, Places env taskId marker w.voices voices ∧ w' = { w with voices := voices } := by
  cases torn with
  | stage _ _ _ _ voices exec =>
    exact ⟨voices, .of_steps ((stageTaskVoice_sure env taskId marker w.voices).exec exec).1, rfl⟩

lemma Call.Run.verify_same {reply : Except Failure String}
    (ran : Call.Run env (.verify marker) w reply w') : w' = w := by
  cases ran with
  | verify _ _ _ voices exec =>
    obtain ⟨-, returns, raises⟩ := (verifiedStagedVoice_sure env marker w.voices).exec exec
    have same : voices = w.voices := by
      cases reply with
      | ok payload => exact (returns payload () rfl).1
      | error failure => exact raises failure () rfl
    rw [same]

lemma refuse_sure (env : Env) {X' : Failure → Unit → World → Prop}
    (taskId marker : String) (found : SubmitKey key → w.records.get? key = some ⟨some taskId, some marker, .submitted⟩)
    (returns : ∀ w', Q () () w') (raises : ∀ failure w', X failure () w') :
    (abortTask taskId).Sure (machine env) Eq (Move env key request)
      (fun _ l w' => (rememberSubmit key none marker (some .refused)).Sure (machine env) Eq (Move env key request) Q X l w')
      X' () w := by
  refine (abortTask_sure env taskId).mono (fun _ _ => id) ?_ (fun _ _ _ h => h)
  intro _ _ w' left
  refine rememberSubmit_sure env none marker (some .refused) rfl rfl (.same w') ?_ (fun _ => returns _) (fun _ => returns _)
    (fun failure => raises failure w')
  exact fun valid => .refuse w' taskId marker valid (left.records ▸ found valid)

lemma stage_sure (env : Env) {Q : Except Failure Unit → Unit → World → Prop}
    (taskId marker : String) (made : ⟨taskId, key⟩ ∈ w.tasks)
    (found : SubmitKey key → w.records.get? key = some ⟨some taskId, some marker, .submitted⟩)
    (failed : ∀ failure w', w'.records = w.records → Q (.error failure) () w')
    (staged : ∀ w', w'.records = w.records → Voiced env w'.voices taskId marker → Q (.ok ()) () w') :
    (ask (.stage key taskId marker)).Sure (machine env) Eq (Move env key request) Q X () w := by
  refine ask_sure env (.stage key taskId marker) (fun w' torn => ?_) fun reply w' ran => ?_
  · obtain ⟨voices, places, rfl⟩ := Call.Torn.stage_cases torn
    exact .stage w taskId marker voices false made found places
  · obtain ⟨voices, failed', places, rfl, done⟩ := Call.Run.stage_cases ran
    refine ⟨.stage w taskId marker voices failed' made found places, ?_⟩
    cases reply with
    | error failure => exact failed failure _ rfl
    | ok => exact staged _ rfl (done rfl).2

lemma rememberStaged_sure (env : Env) (taskId marker : String) (found : SubmitKey key → w.records.get? key = some ⟨some taskId, some marker, .submitted⟩)
    (voiced : Voiced env w.voices taskId marker) (returns : ∀ w', (SubmitKey key → Staged w' key taskId) → Q () () w')
    (raises : ∀ failure, X failure () w) :
    (rememberSubmit key (some taskId) marker (some .staged)).Sure (machine env) Eq (Move env key request) Q X () w := by
  refine rememberSubmit_sure env (some taskId) marker (some .staged) rfl rfl (.same w) ?_ ?_ ?_ raises
  · exact fun valid => .staged w taskId marker valid (found valid) voiced
  · exact fun valid => returns _ fun _ => ⟨some marker, by simp⟩
  · rintro rfl
    exact returns w fun valid => absurd rfl valid.ne_empty

/-! ## Submits -/

lemma completeRecordedStaging_sure (env : Env) (sound : Sound w) (record : SubmitRecord) (valid : SubmitKey key)
    (found : w.records.get? key = some record) (filled : record.taskId.getD "" ≠ "") :
    (completeRecordedStaging key record).Sure (machine env) Eq (Move env key request)
      (fun _ _ w' => Staged w' key (record.taskId.getD "")) (fun _ _ _ => True) () w := by
  unfold completeRecordedStaging
  obtain ⟨taskId, marker, state⟩ := record
  obtain ⟨rfl, -⟩ | ⟨taskId, rfl, _, made, state⟩ := sound.named key _ valid found
  · exact absurd rfl filled
  obtain rfl | rfl := state
  · by_cases missing : marker.getD "" = ""
    · simp [missing]
    obtain _ | marker := marker
    · exact absurd rfl missing
    simp only [Option.getD_some] at filled missing ⊢
    simp only [filled, missing, or_self, if_false, Script.sure_bind, reduceCtorEq]
    refine stage_sure env taskId marker made (fun _ => found) ?_ ?_
    · intro failure w' same
      cases failure with
      | selfTest code message =>
        simp only [Script.sure_bind]
        exact refuse_sure env taskId marker (fun _ => same ▸ found) (by simp) (by simp)
      | http => simp
      | other => simp
    · intro w' same voiced
      exact rememberStaged_sure env taskId marker (fun _ => same ▸ found) voiced (fun _ staged => staged valid)
        (fun _ => trivial)
  · simpa using ⟨marker, found⟩

def World.reserved (w : World) (key marker : String) : World :=
  if key = "" then w else { w with records := w.records.set key ⟨none, some marker, .submitting⟩ }

lemma reserve_sure (env : Env) (marker : String)
    (marks : request.Marks marker) (free : SubmitKey key → w.records.get? key = none) (returns : Q () () (w.reserved key marker))
    (raises : ∀ failure, X failure () w) :
    (rememberSubmit key none marker).Sure (machine env) Eq (Move env key request) Q X () w := by
  refine rememberSubmit_sure env none marker none (by simp; rfl) rfl (.same w) ?_ ?_ ?_ raises
  · exact fun valid => .reserve w marker valid marks (free valid)
  · intro valid
    simpa [World.reserved, valid.ne_empty] using returns
  · rintro rfl
    simpa [World.reserved] using returns

lemma World.reserved_unposted : (w.reserved key marker).Unposted key ↔ w.Unposted key := by
  unfold World.reserved
  split <;> exact Iff.rfl

lemma World.reserved_found (valid : SubmitKey key) :
    (w.reserved key marker).records.get? key = some ⟨none, some marker, .submitting⟩ := by
  simp [World.reserved, valid.ne_empty]

variable {made : Option String}

lemma Creates.records (creates : Creates key w made w') : w'.records = w.records := by
  cases creates <;> rfl

lemma Creates.mem {id : String} (creates : Creates key w (some id) w') : ⟨id, key⟩ ∈ w'.tasks := by
  cases creates
  exact List.mem_cons_self

lemma Creates.unposted (creates : Creates key w made w') (unposted : w.Unposted key) :
    (w'.note (.posted key true)).Unposted key := by
  intro refused mem
  obtain same | mem := List.mem_cons.1 mem
  · cases same
    rfl
  · cases creates <;> exact unposted refused mem

variable {response : Answer}

lemma submittedTaskId_ok (told : submittedTaskId response = .ok taskId) :
    response.body.bind (·.taskId) = some taskId ∧ taskId ≠ "" := by
  unfold submittedTaskId at told
  split at told
  · cases told
  · next body found =>
    split at told
    · cases told
    · next id named =>
      split at told
      · cases told
      · next filled =>
        cases told
        refine ⟨by simp [found, named], ?_⟩
        rintro rfl
        exact filled (by decide)

lemma stageSubmit_sure (env : Env) (named : response.body.bind (·.taskId) = some taskId) (mem : ⟨taskId, key⟩ ∈ w.tasks)
    (found : SubmitKey key → w.records.get? key = some ⟨some taskId, some marker, .submitted⟩) :
    (stageSubmit key taskId marker response).Sure (machine env) Eq (Move env key request) (fun answer _ w' => answer.Honest key w')
      (fun _ _ _ => True) () w := by
  unfold stageSubmit
  rw [Script.sure_bind]
  refine stage_sure env taskId marker mem found ?_ ?_
  · intro failure w₁ same
    cases failure with
    | selfTest code message =>
      simp only [Script.sure_bind]
      refine refuse_sure env taskId marker (fun valid => same ▸ found valid) ?_ (by simp)
      exact fun w₂ => (Script.sure_pure _).2 fun _ _ => .of_none rfl
    | http => simp
    | other => simp
  · intro w₁ same voiced
    rw [Script.sure_bind]
    refine rememberStaged_sure env taskId marker (fun valid => same ▸ found valid) voiced ?_ (by simp)
    refine fun w₂ staged => (Script.sure_pure _).2 ?_
    rintro _ rfl valid id named' _
    cases named.symm.trans named'
    exact staged valid

lemma afterSubmit_sure (env : Env) {w₁ : World} (found : SubmitKey key → w₁.records.get? key = some ⟨none, some marker, .submitting⟩)
    (unposted : SubmitKey key → w₁.Unposted key) (creates : Creates key w₁ made w')
    (names : response.status < 400 → ∀ id, response.body.bind (·.taskId) = some id → made = some id) :
    (answeredSubmit key marker response).Sure (machine env) Eq (Move env key request) (fun answer _ w'' => answer.Honest key w'')
      (fun _ _ _ => True) () (w'.note (.posted key response.Refuses)) := by
  have kept : SubmitKey key → w'.records.get? key = some ⟨none, some marker, .submitting⟩ := fun valid =>
    creates.records ▸ found valid
  unfold answeredSubmit
  by_cases refused : 400 ≤ response.status
  · have honest : ∀ w'', response.Honest key w'' := fun w'' _ _ _ fine => absurd fine (Nat.not_lt.2 refused)
    by_cases proved : response.status < 500
    · have answer : (decide response.Refuses) = true := decide_eq_true ⟨refused, proved⟩
      simp only [refused, proved, answer, if_true, Script.sure_bind, forgetSubmit]
      by_cases empty : key = ""
      · subst empty
        simp [honest]
      by_cases valid : SubmitKey key
      · simp only [empty, valid, not_true_eq_false, if_false]
        refine ask_sure env (.unlinkRecord key) (by rintro _ ⟨⟩) fun reply w'' ran => ?_
        cases ran with
        | unlinked =>
          have release : Move env key request (w'.note (.posted key true)) _ :=
            .forget _ (some marker) valid (kept valid) (creates.unposted (unposted valid))
          exact ⟨release, by simpa using honest _⟩
        | notUnlinked => exact ⟨.same _, by simpa using honest _⟩
      · simp [empty, valid]
    · simp [refused, proved, honest]
  · cases told : submittedTaskId response with
    | error => simp [refused, Script.require]
    | ok taskId =>
      obtain ⟨named, filled⟩ := submittedTaskId_ok told
      obtain rfl := names (Nat.not_le.1 refused) taskId named
      simp only [refused, if_false, Script.require, Script.sure_bind, Script.sure_pure, forall_eq']
      have mem : ⟨taskId, key⟩ ∈ (w'.note (.posted key (decide response.Refuses))).tasks := creates.mem
      refine rememberSubmit_sure env (some taskId) marker (some .submitted) rfl rfl (.same _) ?_ ?_ ?_ (by simp)
      · exact fun valid => .submitted _ taskId marker valid (kept valid) mem filled
      · exact fun valid => stageSubmit_sure env named mem fun _ => by simp
      · rintro rfl
        exact stageSubmit_sure env named mem fun valid => absurd rfl valid.ne_empty

lemma forwardSubmit_sure (env : Env) (sound : Sound w) (free : SubmitKey key → w.records.get? key = none) (marker : String)
    (marks : request.Marks marker) (payload : Payload) :
    (forwardSubmit key marker payload).Sure (machine env) Eq (Move env key request) (fun answer _ w' => answer.Honest key w')
      (fun _ _ _ => True) () w := by
  unfold forwardSubmit
  rw [Script.sure_bind]
  refine ask_sure env (.verify marker) (by rintro _ ⟨⟩) fun reply w' ran => ?_
  obtain rfl := Call.Run.verify_same ran
  refine ⟨.same w', ?_⟩
  cases reply with
  | error failure =>
    cases failure with
    | selfTest => exact (Script.sure_pure _).2 fun _ _ => .of_none rfl
    | http => simp
    | other => simp
  | ok voice =>
    simp only [Script.sure_bind]
    refine reserve_sure env marker marks free ?_ (by simp)
    cases markerSuffix marker with
    | error => simp [Script.require]
    | ok suffix =>
      simp only [Script.require, Script.sure_pure, forall_eq']
      refine ask_sure env (.post key _) (by rintro _ ⟨⟩) fun reply w'' ran => ?_
      have unposted : SubmitKey key → (w'.reserved key marker).Unposted key := fun valid =>
        World.reserved_unposted.2 (sound.unused key valid (free valid))
      have first : SubmitKey key → (w'.reserved key marker).Unposted key ∧
          ∃ m, (w'.reserved key marker).records.get? key = some ⟨none, m, .submitting⟩ := fun valid =>
        ⟨unposted valid, some marker, World.reserved_found valid⟩
      cases ran with
      | unanswered _ _ _ w₁ made creates =>
        exact ⟨.post _ w₁ made false first creates (by simp), by simp [upstream]⟩
      | answered _ _ _ w₁ made answer creates unmade names =>
        refine ⟨.post _ w₁ made _ first creates fun refused => unmade (of_decide_eq_true refused), ?_⟩
        simp only [upstream, Script.sure_pure, forall_eq']
        exact afterSubmit_sure env World.reserved_found unposted creates names

lemma requireSubmitInvariants_ok {payload : Payload}
    (checked : requireSubmitInvariants payload = .ok marker) : marker = strip payload.customAudioFile := by
  unfold requireSubmitInvariants at checked
  simp only [bind, Except.bind, pure, Except.pure] at checked
  repeat' split at checked
  all_goals first | cases checked; rfl | cases checked

lemma proxySubmit_sure (env : Env) (sound : Sound w) (request : Request) :
    (proxySubmit key request).Sure (machine env) Eq (Move env key request) (fun answer _ w' => answer.Honest key w')
      (fun _ _ _ => True) () w := by
  unfold proxySubmit
  rw [Script.sure_bind]
  refine ask_sure env .gate (by rintro _ ⟨⟩) fun reply w' ran => ?_
  cases ran
  refine ⟨.same w, ?_⟩
  rw [Script.sure_bind, Script.sure_require]
  refine ⟨?_, by simp⟩
  rintro - - _ rfl
  cases request with
  | notJson => simp
  | notObject => simp
  | object payload =>
    rw [Script.sure_bind, Script.sure_require]
    refine ⟨?_, by simp⟩
    rintro marker checked _ rfl
    have marks : (Request.object payload).Marks marker := ⟨payload, rfl, requireSubmitInvariants_ok checked⟩
    rw [Script.sure_bind]
    by_cases empty : key = ""
    · subst empty
      simpa using forwardSubmit_sure env sound (fun valid => absurd rfl valid.ne_empty) marker marks payload
    rw [if_neg empty]
    refine (submitRecord_sure env (Move.same w) (by simp)).mono (fun _ _ => id) ?_ (fun _ _ _ h => h)
    rintro record _ _ ⟨rfl, valid, found⟩
    cases record with
    | none => exact forwardSubmit_sure env sound (fun _ => found.symm) marker marks payload
    | some recorded =>
      by_cases refused : recorded.state = .refused
      · simpa [refused] using Answer.Honest.of_none rfl
      by_cases filled : recorded.taskId.getD "" ≠ ""
      · simp only [refused, filled, if_false, if_true, ne_eq, not_false_eq_true, Script.sure_bind]
        refine (completeRecordedStaging_sure env sound recorded valid found.symm filled).mono (fun _ _ => id) ?_ (by simp)
        refine fun _ _ w'' staged => (Script.sure_pure _).2 ?_
        rintro _ rfl _ taskId named -
        cases named
        exact staged
      · obtain ⟨-, submitting | refused'⟩ | ⟨taskId, named, filled', -⟩ := sound.named key recorded valid found.symm
        · simp only [filled, submitting, if_false, if_true]
          exact (Script.sure_pure _).2 fun _ _ => .of_none rfl
        · exact absurd refused' refused
        · exact absurd (by simpa [named] using filled') filled

/-! ## The other routes -/

lemma route_sure (env : Env) {guar : World → World → Prop} {Q : Answer → Unit → World → Prop} {handler : Handler Answer}
    (h : handler.Sure (machine env) Eq guar Q (fun failure _ w' => Q failure.answer () w') () w) :
    (route handler).Sure (machine env) Eq guar Q (fun _ _ _ => False) () w := by
  unfold route
  rw [Script.sure_rescue]
  refine h.mono (fun _ _ => id) ?_ ?_
  · rintro answer ⟨⟩ w' returns _ rfl
    exact returns
  · rintro failure ⟨⟩ w' raises
    exact (Script.sure_pure _).2 fun _ same => same ▸ raises

lemma Handles.sure {guar : World → World → Prop} {Q : Answer → Unit → World → Prop} {handler : Handler Answer}
    {out : Option Answer} (handles : Handles env handler w out w')
    (h : handler.Sure (machine env) Eq guar Q (fun failure _ w' => Q failure.answer () w') () w) :
    ReflTransGen guar w w' ∧ ∀ answer, out = some answer → Q answer () w' := by
  obtain ⟨end_, exec, rfl⟩ := handles
  obtain ⟨path, returns, raises⟩ := (route_sure env h).exec exec
  refine ⟨path, fun answer same => ?_⟩
  obtain _ | ⟨_ | answer', ⟨⟩⟩ := end_
  · cases same
  · cases same
  · cases same
    exact returns answer () rfl

/-- The answer that `release_state` reads as a free runtime. -/
def Answer.SaysFree (answer : Answer) : Prop :=
  answer.status = 404 ∨
    answer.status < 400 ∧ ∃ state ∈ ["finished", "failed", "absent"], answer.body.bind (·.runtimeState) = some state

lemma releaseState_released {reply : Option Answer} (released : releaseState key reply = "released") :
    ∃ answer, reply = some answer ∧ answer.SaysFree := by
  unfold releaseState at released
  split at released
  · exact absurd released (by decide)
  · cases reply with
    | none => exact absurd released (by decide)
    | some answer =>
      refine ⟨answer, rfl, ?_⟩
      dsimp only at released
      split at released
      · next unknown => exact .inl unknown
      · split at released
        · exact absurd released (by decide)
        · next fine =>
          split at released
          · exact absurd released (by decide)
          · next body found =>
            split at released
            · next states =>
              refine .inr ⟨Nat.not_le.1 fine, ?_⟩
              simpa [found, eq_comm] using states
            · exact absurd released (by decide)

lemma runtimeStates_free {state : ℤ} (free : runtimeStates state ∈ ["finished", "failed", "absent"]) :
    state = 1 ∨ state = -1 := by
  unfold runtimeStates at free
  split at free
  · next one => exact .inl one
  · split at free
    · next minus => exact .inr minus
    · split at free <;> exact absurd free (by decide)

lemma runtimeState_sure (env : Env) (taskId : Option String)
    (raises : ∀ failure, failure.Fails → X failure () w) :
    (runtimeState taskId).Sure (machine env) Eq Eq
      (fun state _ w' => w' = w ∧
        (state ∈ ["finished", "failed", "absent"] → taskId.getD "" = "" ∨ taskId.getD "" ∉ w.running)) X () w := by
  unfold runtimeState
  by_cases unnamed : taskId.getD "" = ""
  · simp [unnamed]
  simp only [unnamed, if_false, false_or, Script.sure_bind]
  refine ask_sure env .gate (by rintro _ ⟨⟩) fun reply w' ran => ?_
  cases ran with
  | gate _ _ closed =>
    refine ⟨rfl, (Script.sure_require _).2 ⟨?_, ?_⟩⟩
    · rintro - - _ rfl
      refine ask_sure env (.getTask (taskId.getD "")) (by rintro _ ⟨⟩) fun reply w'' ran => ?_
      cases ran with
      | looked _ _ _ truthful =>
        refine ⟨rfl, ?_⟩
        cases reply with
        | none => simpa [upstream] using raises _ (by simp [Failure.Fails])
        | some response =>
          simp only [upstream, Script.sure_pure, forall_eq']
          by_cases unknown : response.status = 404
          · simpa [unknown] using truthful response rfl (.inl unknown)
          by_cases failed : 400 ≤ response.status
          · simp [unknown, failed]
          simp only [unknown, failed, if_false]
          cases told : response.body.bind (·.taskState) with
          | none => simp
          | some state =>
            refine (Script.sure_pure _).2 ?_
            rintro _ rfl
            refine ⟨rfl, fun free => truthful response rfl (.inr ⟨Nat.not_le.1 failed, ?_⟩)⟩
            rw [told, Option.some.injEq, Option.some.injEq]
            exact runtimeStates_free free
    · rintro failure rfl _ rfl _ rfl
      exact raises failure fun status detail same => absurd (by rw [same]) (closed status detail)

/-- What `submit_status` answers of a key. -/
structure Answer.Tells (answer : Answer) (key : String) (w : World) : Prop where
  named : ∀ taskId, answer.body.bind (·.taskId) = some taskId →
    ∃ record, w.records.get? key = some record ∧ record.taskId = some taskId
  free : answer.SaysFree → w.records.get? key = none ∨
    ∃ record, w.records.get? key = some record ∧ (record.taskId.getD "" = "" ∨ record.taskId.getD "" ∉ w.running)
  fine : answer.body.bind (·.runtimeState) ≠ none → answer.status < 400

lemma Failure.tells {failure : Failure} (fails : failure.Fails) : failure.answer.Tells key w := by
  have error : 400 ≤ failure.answer.status ∧ failure.answer.status ≠ 404 := by
    cases failure with
    | http status detail => exact fails status detail rfl
    | selfTest => exact ⟨(by decide : 400 ≤ 503), (by decide : 503 ≠ 404)⟩
    | other => exact ⟨(by decide : 400 ≤ 500), (by decide : 500 ≠ 404)⟩
  refine ⟨fun taskId named => ?_, ?_, fun told => absurd ?_ told⟩
  · cases failure.answer_taskId.symm.trans named
  · rintro (unknown | ⟨fine, -⟩)
    · exact absurd unknown error.2
    · exact absurd fine (Nat.not_lt.2 error.1)
  · cases failure <;> rfl

lemma submitStatus_sure (env : Env) :
    (submitStatus key).Sure (machine env) Eq Eq (fun answer _ w' => w' = w ∧ answer.Tells key w)
      (fun failure _ w' => w' = w ∧ failure.answer.Tells key w) () w := by
  unfold submitStatus
  rw [Script.sure_bind]
  refine ask_sure env .gate (by rintro _ ⟨⟩) fun reply w' ran => ?_
  cases ran with
  | gate _ _ closed =>
    refine ⟨rfl, ?_⟩
    rw [Script.sure_bind, Script.sure_require]
    refine ⟨?_, ?_⟩
    · rintro - - _ rfl
      rw [Script.sure_bind]
      refine (submitRecord_sure env rfl ?_).mono (fun _ _ => id) ?_ (fun _ _ _ h => h)
      · rintro failure fails _ rfl
        exact ⟨rfl, Failure.tells fails⟩
      rintro record _ _ ⟨rfl, valid, found⟩
      cases record with
      | none =>
        refine (Script.sure_pure _).2 ?_
        rintro _ rfl
        exact ⟨rfl, by rintro _ ⟨⟩, fun _ => .inl found.symm, fun told => absurd rfl told⟩
      | some record =>
        rw [Script.sure_bind]
        refine (runtimeState_sure env record.taskId ?_).mono (fun _ _ => id) ?_ (fun _ _ _ h => h)
        · rintro failure fails _ rfl
          exact ⟨rfl, Failure.tells fails⟩
        rintro state _ _ ⟨rfl, free⟩
        refine (Script.sure_pure _).2 ?_
        rintro _ rfl
        refine ⟨rfl, fun taskId named => ⟨record, found.symm, ?_⟩, ?_, fun _ => (by decide : 200 < 400)⟩
        · exact (Option.filter_eq_some_iff.1 named).1
        · rintro (unknown | ⟨-, state', free', told⟩)
          · exact absurd unknown (by decide : 200 ≠ 404)
          · cases told
            exact .inr ⟨record, found.symm, free free'⟩
    · rintro failure rfl _ rfl _ rfl
      exact ⟨rfl, Failure.tells fun status detail same => absurd (by rw [same]) (closed status detail)⟩

lemma abortSubmittedTask_sure (env : Env) :
    (abortSubmittedTask key).Sure (machine env) Eq (Move env key request) (fun _ _ _ => True) (fun _ _ _ => True) () w := by
  unfold abortSubmittedTask
  rw [Script.sure_bind]
  refine ask_sure env .gate (by rintro _ ⟨⟩) fun reply w' ran => ?_
  cases ran
  refine ⟨.same w, ?_⟩
  rw [Script.sure_bind, Script.sure_require]
  refine ⟨?_, by simp⟩
  rintro - - _ rfl
  rw [Script.sure_bind]
  refine (submitRecord_sure env (Move.same w) (by simp)).mono (fun _ _ => id) ?_ (fun _ _ _ h => h)
  rintro record _ _ ⟨rfl, -, -⟩
  cases record with
  | none => simp
  | some record =>
    by_cases unnamed : record.taskId.getD "" = ""
    · simp [unnamed]
    simp only [unnamed, if_false, Script.sure_bind]
    refine ask_sure env (.deleteTask (record.taskId.getD "")) (by rintro _ ⟨⟩) fun reply w'' ran => ?_
    refine ⟨(Call.Run.deleted_stops ran).move, ?_⟩
    cases reply <;> simp [upstream]

end Vertep.MoneyPrinter
