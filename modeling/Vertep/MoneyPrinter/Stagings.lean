import Vertep.MoneyPrinter.Runs

/-!
# Stagings that fail

What `proxy_submit` and `_complete_recorded_staging` of `services/moneyprinter_service.py` leave of a staging that
fails: where it fails with a `SelfTestFailure`, the refusal is written and the handler is not cut off, the key is
refused. All other calls note no staging.
-/

namespace Vertep.MoneyPrinter
open Lib Relation

variable {env : Env} {key : String} {request : Request} {w w' : World} {α β : Type}

/-- No staging of the key has failed. -/
def World.Clean (w : World) (key : String) : Prop := .failed key ∉ w.log

def World.Refuses (w : World) (key : String) : Prop :=
  ∃ record, w.records.get? key = some record ∧ record.state = .refused

def World.Settled (w : World) (key : String) : Prop := .failed key ∈ w.log → w.Refuses key

/-- A record is written, and a staging fails with a `SelfTestFailure` only. -/
def Call.Lands : (c : Call) → c.Reply → Prop
  | .writeRecord _ _, .error _ => False
  | .stage _ _ _, .error (.http _ _) | .stage _ _ _, .error .other => False
  | _, _ => True

instance (c : Call) : DecidablePred c.Lands := fun reply => by
  unfold Call.Lands
  split <;> infer_instance

/-- The outside of a handler that is not cut off and whose calls land. -/
def landing (env : Env) : Machine Call Call.Reply World where
  run c w reply w' := Call.Run env c w reply w' ∧ c.Lands reply

/-- A submit was handled to its end, and its calls landed. -/
def Lands (env : Env) (key : String) (request : Request) (w w' : World) : Prop :=
  ∃ answer w₁, Program.Exec (landing env) (route (proxySubmit key request) ()) w (some (.ok answer, ())) w₁ ∧
    w' = w₁.answered key (some answer)

/-! ## Handlers that stage nothing -/

/-- The calls of the handler note no failed staging of the key. -/
class Calm (env : Env) (key : String) (m : Handler α) : Prop where
  sure : ∀ w, m.Sure (machine env) Eq (fun w w' => w.Clean key → w'.Clean key) (fun _ _ _ => True) (fun _ _ _ => True) () w

instance (a : α) : Calm env key (pure a : Handler α) := ⟨fun _ => by simp⟩

instance (failure : Failure) : Calm env key (Script.raise failure : Handler α) := ⟨fun _ => by simp⟩

instance (reply : Except Failure α) : Calm env key (Script.require reply : Handler α) := ⟨fun _ => by simp⟩

instance calm_bind (m : Handler α) (f : α → Handler β) [first : Calm env key m] [next : ∀ a, Calm env key (f a)] :
    Calm env key (m >>= f) := by
  refine ⟨fun w => (Script.sure_bind m f).2 ?_⟩
  exact (first.sure w).mono (fun _ _ => id) (fun a _ w' _ => (next a).sure w') (by simp)

instance (c : Prop) [Decidable c] (m m' : Handler α) [yes : Calm env key m] [no : Calm env key m'] :
    Calm env key (if c then m else m') := by
  split
  · exact yes
  · exact no

lemma clean_note {event : Event} (other : event ≠ .failed key) (clean : w.Clean key) : (w.note event).Clean key := fun mem =>
  (List.mem_cons.1 mem).elim (fun same => other same.symm) clean

lemma Creates.clean {made : Option String} {key' : String} (creates : Creates key' w made w') (clean : w.Clean key) :
    w'.Clean key := by
  cases creates <;> exact clean

lemma World.Stops.clean {taskId : String} (left : w.Stops taskId w') (clean : w.Clean key) : w'.Clean key := by
  cases left with
  | same => exact clean
  | stops => exact clean
  | aborts => exact clean_note (w := w.stops taskId) nofun clean

/-- Only a staging notes that it failed. -/
lemma calm_ask (env : Env) (key : String) {c : Call} (other : ∀ key' taskId marker, c ≠ .stage key' taskId marker) :
    Calm env key (ask c) := by
  refine ⟨fun w => ask_sure env c (fun w' torn => ?_) fun reply w' ran => ⟨fun clean => ?_, trivial⟩⟩
  · cases torn
    exact absurd rfl (other _ _ _)
  · cases ran with
    | stage => exact absurd rfl (other _ _ _)
    | unanswered _ _ _ w₁ made creates | answered _ _ _ w₁ made answer creates =>
      exact clean_note nofun (creates.clean clean)
    | deleted taskId _ answer _ known => exact (World.Stops.aborts known).clean clean
    | notDeleted taskId _ _ _ _ left =>
      obtain rfl | rfl := left
      · exact clean
      · exact clean
    | _ => exact clean

instance : Calm env key (ask .gate) := calm_ask env key nofun

instance (key' : String) : Calm env key (ask (.readRecord key')) := calm_ask env key nofun

instance (key' : String) (record : SubmitRecord) : Calm env key (ask (.writeRecord key' record)) := calm_ask env key nofun

instance (key' : String) : Calm env key (ask (.unlinkRecord key')) := calm_ask env key nofun

instance (marker : String) : Calm env key (ask (.verify marker)) := calm_ask env key nofun

instance (key' : String) (payload : Payload) : Calm env key (ask (.post key' payload)) := calm_ask env key nofun

instance (taskId : String) : Calm env key (ask (.deleteTask taskId)) := calm_ask env key nofun

instance (key' : String) : Calm env key (submitRecord key') := by
  unfold submitRecord
  split
  · infer_instance
  · refine @calm_bind _ _ _ _ _ _ _ fun reply => ?_
    cases reply <;> infer_instance

instance (key' : String) (taskId : Option String) (marker : String) (state : Option SubmitState) :
    Calm env key (rememberSubmit key' taskId marker state) := by
  unfold rememberSubmit
  infer_instance

instance (key' : String) : Calm env key (forgetSubmit key') := by
  unfold forgetSubmit
  infer_instance

instance (reply : Option Answer) : Calm env key (upstream reply) := by
  cases reply <;> unfold upstream <;> infer_instance

instance (key' : String) : Calm env key (abortSubmittedTask key') := by
  unfold abortSubmittedTask
  refine @calm_bind _ _ _ _ _ _ _ fun reply => @calm_bind _ _ _ _ _ _ _ fun _ => @calm_bind _ _ _ _ _ _ _ fun record => ?_
  cases record <;> infer_instance

/-! ## Handlers that stage -/

/-- Where its calls land, the handler leaves the key refused if a staging of it failed. -/
class Settles (env : Env) (key : String) (m : Handler α) : Prop where
  sure : ∀ w, w.Clean key → m.Sure (landing env) Eq (fun _ _ => True) (fun _ _ w' => w'.Settled key)
    (fun _ _ w' => w'.Settled key) () w

lemma landing_run (c : Call) (w : World) (reply : c.Reply) (w' : World) (ran : (landing env).run c w reply w') :
    (machine env).run c w reply w' := ran.1

lemma landing_torn (c : Call) (w w' : World) (torn : (landing env).torn c w w') : (machine env).torn c w w' := torn.elim

lemma Calm.landing {m : Handler α} (calm : Calm env key m) (clean : w.Clean key) :
    m.Sure (landing env) Eq (fun _ _ => True) (fun _ _ w' => w'.Clean key) (fun _ _ w' => w'.Clean key) () w := by
  have kept := (calm.sure w).frame (G := fun w => w.Clean key) (by rintro _ _ rfl clean; exact clean) (fun _ _ h => h) clean
  exact (kept.restrict landing_run landing_torn).mono (fun _ _ _ => trivial) (fun _ _ _ h => h.2) fun _ _ _ h => h.2

instance (priority := low) (m : Handler α) [calm : Calm env key m] : Settles env key m :=
  ⟨fun _ clean => (calm.landing clean).mono (fun _ _ => id) (fun _ _ _ clean mem => absurd mem clean)
    fun _ _ _ clean mem => absurd mem clean⟩

instance settles_bind (m : Handler α) (f : α → Handler β) [calm : Calm env key m] [next : ∀ a, Settles env key (f a)] :
    Settles env key (m >>= f) := by
  refine ⟨fun w clean => (Script.sure_bind m f).2 ?_⟩
  refine (calm.landing clean).mono (fun _ _ => id) (fun a _ w' clean => (next a).sure w' clean) ?_
  rintro _ _ w' clean _ rfl mem
  exact absurd mem clean

instance (m : Handler α) (b : β) [first : Settles env key m] : Settles env key (m >>= fun _ => pure b) :=
  ⟨fun w clean => (Script.sure_bind _ _).2 <| (first.sure w clean).mono (fun _ _ => id) (by simp) (by simp)⟩

instance (c : Prop) [Decidable c] (m m' : Handler α) [yes : Settles env key m] [no : Settles env key m'] :
    Settles env key (if c then m else m') := by
  split
  · exact yes
  · exact no

lemma refuse_landing (valid : SubmitKey key) (taskId marker : String) (last : Handler α)
    (ends : ∀ w, w.Settled key → last.Sure (landing env) Eq (fun _ _ => True) (fun _ _ w' => w'.Settled key)
      (fun _ _ w' => w'.Settled key) () w) :
    (abortTask taskId >>= fun _ => rememberSubmit key none marker (some .refused) >>= fun _ => last).Sure (landing env) Eq
      (fun _ _ => True) (fun _ _ w' => w'.Settled key) (fun _ _ w' => w'.Settled key) () w := by
  have abort := @abortTask_sure key .notJson w (fun _ _ _ => False) env taskId
  refine (Script.sure_bind _ _).2 ((abort.restrict landing_run landing_torn).mono (fun _ _ _ => trivial) ?_ (by simp))
  intro _ _ w' _
  simp only [rememberSubmit, valid, valid.ne_empty, not_true_eq_false, if_false, Script.sure_bind]
  refine (Script.sure_ask _).2 ?_
  rintro _ rfl
  refine ⟨by rintro _ ⟨⟩, fun reply w'' ran => ⟨trivial, ?_⟩⟩
  rintro _ rfl
  obtain ⟨ran, landed⟩ := ran
  cases ran with
  | notWritten => exact landed.elim
  | wrote =>
    refine (Script.sure_require _).2 ⟨?_, by rintro _ ⟨⟩⟩
    rintro _ - _ rfl
    exact ends _ fun _ => ⟨⟨none, some marker, .refused⟩, by simp, rfl⟩

/-- A staging, and what a handler does with its outcome. -/
lemma settles_stage (valid : SubmitKey key) (taskId marker : String) (f : Except Failure Unit → Handler α)
    [done : Calm env key (f (.ok ()))] (refuses : ∀ code message, ∃ last : Handler α,
      f (.error (.selfTest code message)) =
        (abortTask taskId >>= fun _ => rememberSubmit key none marker (some .refused) >>= fun _ => last) ∧
      ∀ w, w.Settled key → last.Sure (landing env) Eq (fun _ _ => True) (fun _ _ w' => w'.Settled key)
        (fun _ _ w' => w'.Settled key) () w) : Settles env key (ask (.stage key taskId marker) >>= f) := by
  refine ⟨fun w clean => (Script.sure_bind _ _).2 ((Script.sure_ask _).2 ?_)⟩
  rintro _ rfl
  refine ⟨nofun, fun reply w' ran => ⟨trivial, ?_⟩⟩
  rintro _ rfl
  obtain ⟨ran, lands⟩ := ran
  cases reply with
  | ok =>
    refine (done.landing ?_).mono (fun _ _ => id) (fun _ _ _ clean mem => absurd mem clean) fun _ _ _ clean mem =>
      absurd mem clean
    cases ran
    exact clean
  | error failure =>
    cases failure with
    | http | other => exact lands.elim
    | selfTest code message =>
      obtain ⟨last, is, ends⟩ := refuses code message
      rw [is]
      exact refuse_landing valid taskId marker last ends

section
variable (valid : SubmitKey key)
include valid

lemma settles_stageSubmit (taskId marker : String) (response : Answer) :
    Settles env key (stageSubmit key taskId marker response) := by
  unfold stageSubmit
  have : Calm env key (rememberSubmit key (some taskId) marker (some .staged) >>= fun _ => pure response : Handler Answer) :=
    inferInstance
  exact @settles_stage _ _ _ valid taskId marker _ this fun code message => ⟨_, rfl, fun w settled => by simpa using settled⟩

lemma settles_completeRecordedStaging (record : SubmitRecord) : Settles env key (completeRecordedStaging key record) := by
  unfold completeRecordedStaging
  have calm : Calm env key (rememberSubmit key (some (record.taskId.getD "")) (record.voiceMarker.getD "") (some .staged)) :=
    inferInstance
  dsimp only
  split
  · infer_instance
  split
  · infer_instance
  exact @settles_stage _ _ _ valid _ _ _ calm fun code message => ⟨_, rfl, fun w settled => by simpa using settled⟩

lemma settles_answeredSubmit (marker : String) (response : Answer) :
    Settles env key (answeredSubmit key marker response) := by
  unfold answeredSubmit
  have := @settles_stageSubmit env key valid
  infer_instance

lemma settles_forwardSubmit (marker : String) (payload : Payload) : Settles env key (forwardSubmit key marker payload) := by
  unfold forwardSubmit
  have := @settles_answeredSubmit env key valid
  refine @settles_bind _ _ _ _ _ _ _ fun reply => ?_
  cases reply with
  | ok => infer_instance
  | error failure => cases failure <;> infer_instance

lemma settles_proxySubmit (request : Request) : Settles env key (proxySubmit key request) := by
  unfold proxySubmit
  have forward := @settles_forwardSubmit env key valid
  have complete := @settles_completeRecordedStaging env key valid
  refine @settles_bind _ _ _ _ _ _ _ fun reply => @settles_bind _ _ _ _ _ _ _ fun _ => ?_
  cases request with
  | notJson | notObject => infer_instance
  | object payload =>
    refine @settles_bind _ _ _ _ _ _ _ fun marker => @settles_bind _ _ _ _ _ _ _ fun record => ?_
    cases record <;> infer_instance

end

/-- **A staging that fails is recorded**, where the calls of its handler land. -/
lemma Lands.refuses (lands : Lands env key request w w') (valid : SubmitKey key) (clean : w.Clean key)
    (failed : .failed key ∈ w'.log) : w'.Refuses key := by
  obtain ⟨answer, w₁, exec, rfl⟩ := lands
  have settled : w₁.Settled key := by
    have sure : (route (proxySubmit key request)).Sure (landing env) Eq (fun _ _ => True) (fun _ _ w' => w'.Settled key)
        (fun _ _ _ => True) () w := by
      refine (Script.sure_rescue _ _).2 (((settles_proxySubmit valid request).sure w clean).mono (fun _ _ => id) ?_ ?_)
      · rintro _ _ _ settled _ rfl
        exact settled
      · exact fun failure _ w' settled => (Script.sure_pure _).2 fun _ same => same ▸ settled
    exact (sure.exec exec).2.1 answer () rfl
  obtain same | ⟨_, taskId, -, -, -, noted⟩ := World.answered_cases w₁ key (some answer)
  · rw [same] at failed ⊢
    exact settled failed
  · rw [noted] at failed ⊢
    exact settled ((List.mem_cons.1 failed).resolve_left nofun)

lemma Move.clean {key' : String} (move : Move env key' request w w') (other : key ≠ key') (clean : w.Clean key) :
    w'.Clean key := by
  cases move with
  | post w₁ made refused _ creates _ => exact clean_note nofun (creates.clean clean)
  | stage taskId marker voices failed _ _ _ =>
    cases failed with
    | false => exact clean
    | true => exact clean_note (w := w) (by simpa using other.symm) clean
  | aborts taskId known => exact (World.Stops.aborts known).clean clean
  | _ => exact clean

lemma moves_clean {key' : String} (moves : ReflTransGen (Move env key' request) w w') (other : key ≠ key')
    (clean : w.Clean key) : w'.Clean key := by
  induction moves with
  | refl => exact clean
  | tail _ last ih => exact last.clean other ih

/-- Only a submit stages, and only under its key. -/
lemma Step.stages {s s' : System} {act : Act} (step : Step env s act s') (sound : Sound s.world)
    (clean : s.world.Clean key) (failed : .failed key ∈ s'.world.log) :
    ∃ key' request, act = .asks (.submit key' request) ∧ strip key' = key := by
  cases step with
  | begins => exact absurd failed clean
  | asks w w' before after key' call reply next ran =>
    cases ran with
    | submit key' request _ w₁ out _ handles arrives =>
      refine ⟨key', request, rfl, ?_⟩
      by_contra other
      have clean₁ := moves_clean (handles.submits sound).1 (Ne.symm other) clean
      obtain same | ⟨_, _, -, -, -, noted⟩ := World.answered_cases w₁ (strip key') out
      · exact clean₁ (same ▸ failed)
      · rw [noted] at failed
        exact clean_note (nofun : Event.accepted _ _ ≠ .failed _) clean₁ failed
    | status _ _ _ _ _ handles => exact absurd (handles.status_same ▸ failed) clean
  | polls w before after key' id => exact absurd failed (clean_note nofun clean)
  | ends => exact absurd failed clean
  | status _ key' out w' handles => exact absurd (handles.status_same ▸ failed) clean
  | abort _ key' out w' handles =>
    have calm : Calm env key (abortSubmittedTask key') := inferInstance
    have path := (handles.sure ((calm.sure s.world).mono (fun _ _ => id) (fun _ _ _ => id) fun _ _ _ => id)).1
    refine absurd failed ?_
    clear handles failed
    induction path with
    | refl => exact clean
    | tail _ last ih => exact last ih
  | delete _ id reply w' ran => exact absurd failed ((Call.Run.deleted_stops ran).clean clean)
  | stops _ id => exact absurd failed clean

end Vertep.MoneyPrinter
