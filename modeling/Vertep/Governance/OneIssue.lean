import Vertep.Governance.Runs

/-!
# One issue for a decision key (`lab/governance.py`)

An issue has been created for a key only if there is an intent of the key that is not free to be sent again; and a
record is written only of an issue that has had the body that it expects.
-/

namespace Vertep.Governance
open Lib Script Relation

variable {env : Env} {w w' : World}

/-- There is the issue, and it has had the body that is expected. -/
def World.Holds (env : Env) (w : World) (effect : Effect) : Prop :=
  ∃ issue, w.remote.get? effect.number = some issue ∧ ∃ body ∈ issue.bodies, env.sha256 body = effect.expectedBodySha256

def Free (intents : Dict String Intent) (key : String) : Prop :=
  ∀ intent, intents.get? key = some intent → intent.state = .reserved

/-- What holds between any two calls. -/
structure Sound (env : Env) (w : World) : Prop where
  posted : ∀ key number, (key, number) ∈ w.posted → ¬ Free w.intents key
  once : (w.posted.map Prod.fst).Nodup
  recorded : ∀ record ∈ w.created, w.Holds env record.issue

def Keeps (env : Env) (w w' : World) : Prop := Sound env w → Sound env w'

variable {key title body : String}

lemma Sound.not_posted (sound : Sound env w) (free : Free w.intents key) : key ∉ w.posted.map Prod.fst := by
  intro within
  obtain ⟨⟨_, number⟩, there, rfl⟩ := List.mem_map.1 within
  exact sound.posted _ number there free

/-! ## Others -/

lemma Grows.refl (remote : Dict ℕ Issue) : Grows remote remote := fun _ issue there => ⟨issue, there, List.Subset.refl _⟩

lemma World.Holds.grows {effect : Effect} (holds : w.Holds env effect) (grows : Grows w.remote w'.remote) :
    w'.Holds env effect := by
  obtain ⟨issue, there, body, had, same⟩ := holds
  obtain ⟨issue', there', more⟩ := grows _ issue there
  exact ⟨issue', there', body, more had, same⟩

lemma Sound.grows (sound : Sound env w) (remote : Dict ℕ Issue) (grows : Grows w.remote remote) :
    Sound env { w with remote := remote } :=
  ⟨sound.posted, sound.once, fun record within => (sound.recorded record within).grows grows⟩

lemma Drift.sound (drift : Drift w w') (sound : Sound env w) : Sound env w' := by
  obtain ⟨remote, grows, rfl⟩ := drift
  exact sound.grows remote grows

/-! ## Calls -/

lemma grows_set {remote : Dict ℕ Issue} {number : ℕ} {issue : Issue}
    (bodies : ∀ issue', remote.get? number = some issue' → issue'.bodies ⊆ issue.bodies) :
    Grows remote (remote.set number issue) := by
  intro other issue' there
  rw [Dict.get?_set]
  split
  · rename_i same
    subst same
    exact ⟨issue, rfl, bodies issue' there⟩
  · exact ⟨issue', there, List.Subset.refl _⟩

lemma Sound.post (sound : Sound env w) (first : key ∉ w.posted.map Prod.fst) (sending : ¬ Free w.intents key)
    {number : ℕ} (new : w.remote.get? number = none) (title body : String) : Sound env (w.post key title body number) where
  posted key' number' there := by
    rcases List.mem_cons.1 there with same | there
    · cases same
      exact sending
    · exact sound.posted key' number' there
  once := List.nodup_cons.2 ⟨first, sound.once⟩
  recorded record within := (sound.recorded record within).grows (grows_set fun issue' there => by rw [new] at there; cases there)

/-- The calls that neither write the intents or the records nor create an issue. -/
def Call.Quiet : Call → Prop
  | .writeIntents _ | .writeCreated _ | .createRemote .. => False
  | _ => True

lemma Call.Act.quiet {c : Call} {r : c.Reply} (act : c.Act w r w') (quiet : c.Quiet) :
    w'.intents = w.intents ∧ w'.created = w.created ∧ w'.posted = w.posted ∧ Grows w.remote w'.remote := by
  cases act with
  | writeIntents | keepIntents | writeCreated | keepCreated | createRemote | createdUnseen | notCreated =>
    exact False.elim quiet
  | closeRemote _ number comment closing issue reply there =>
    refine ⟨rfl, rfl, rfl, grows_set fun issue' there' => ?_⟩
    rw [Option.some.inj (there'.symm.trans there)]
    exact List.Subset.refl _
  | _ => exact ⟨rfl, rfl, rfl, Grows.refl _⟩

lemma Grows.trans {remote remote' remote'' : Dict ℕ Issue} (grows : Grows remote remote') (grows' : Grows remote' remote'') :
    Grows remote remote'' := by
  intro number issue there
  obtain ⟨issue', there', more⟩ := grows number issue there
  obtain ⟨issue'', there'', more'⟩ := grows' number issue' there'
  exact ⟨issue'', there'', List.Subset.trans more more'⟩

/-- What is left alone between two worlds. -/
structure Later (w w' : World) : Prop where
  intents : w'.intents = w.intents
  created : w'.created = w.created
  posted : w'.posted = w.posted
  remote : Grows w.remote w'.remote

lemma Later.trans {w'' : World} (later : Later w w') (later' : Later w' w'') : Later w w'' :=
  ⟨later'.intents.trans later.intents, later'.created.trans later.created, later'.posted.trans later.posted,
    later.remote.trans later'.remote⟩

lemma Drift.later (drift : Drift w w') : Later w w' := by
  obtain ⟨remote, grows, rfl⟩ := drift
  exact ⟨rfl, rfl, rfl, grows⟩

lemma Later.sound (later : Later w w') (sound : Sound env w) : Sound env w' where
  posted := by
    rw [later.posted, later.intents]
    exact sound.posted
  once := by
    rw [later.posted]
    exact sound.once
  recorded := by
    rw [later.created]
    exact fun record within => (sound.recorded record within).grows later.remote

lemma later_of_quiet {c : Call} {r : c.Reply} (ran : machine.run c w r w') (quiet : c.Quiet) : Later w w' := by
  obtain ⟨w₁, drift, act⟩ := ran
  obtain ⟨intents, created, posted, remote⟩ := act.quiet quiet
  exact drift.later.trans ⟨intents, created, posted, remote⟩

/-! ## Scripts -/

variable {α : Type} {Q : α → Unit → World → Prop} {X : Failure → Unit → World → Prop}

lemma sure_quiet {c : Call} (quiet : c.Quiet) {f : c.Reply → Process α}
    (rest : ∀ r w', machine.run c w r w' → Later w w' → (f r).Sure machine Eq (Keeps env) Q X () w') :
    (ask c >>= f).Sure machine Eq (Keeps env) Q X () w := by
  refine sure_ask_bind.2 ⟨fun _ torn => torn.elim, fun r w' ran => ?_⟩
  have later := later_of_quiet ran quiet
  exact ⟨later.sound, rest r w' ran later⟩

lemma sure_stopIf {guar : World → World → Prop} {condition : Prop} [Decidable condition] {failure : Failure}
    {f : Unit → Process α} :
    (stopIf condition failure >>= f).Sure machine Eq guar Q X () w ↔
      (¬ condition → (f ()).Sure machine Eq guar Q X () w) ∧ (condition → X failure () w) := by
  rw [stopIf]
  by_cases holds : condition
  · rw [if_pos holds]
    simp [holds]
  · rw [if_neg holds]
    simp [holds]

/-! ### Effects -/

lemma Sound.intent (sound : Sound env w) {intent : Intent}
    (allowed : key ∉ w.posted.map Prod.fst ∨ intent.state ≠ .reserved) :
    Sound env { w with intents := w.intents.set key intent } where
  posted key' number there := by
    intro free
    by_cases same : key = key'
    · subst same
      have state := free intent (by simp)
      exact allowed.elim (fun out => out (List.mem_map_of_mem there)) fun kept => kept state
    · refine sound.posted key' number there fun intent' is => free intent' ?_
      rw [Dict.get?_set, if_neg same]
      exact is
  once := sound.once
  recorded := sound.recorded

lemma holds_post (w : World) (key title body : String) (number : ℕ) :
    (w.post key title body number).Holds env ⟨number, env.sha256 body⟩ :=
  ⟨⟨title, body, [], false⟩, by simp [World.post], body, List.mem_cons_self, rfl⟩

variable {intents : Dict String Intent}

lemma sure_writeIntents {f : Except Failure Unit → Process α}
    (sound : ∀ w', Later w w' → Sound env w' → Sound env { w' with intents := intents })
    (rest : ∀ r w', Later w w' → (f r).Sure machine Eq (Keeps env) Q X () { w' with intents := intents })
    (kept : ∀ failure w', Later w w' → (f (.error failure)).Sure machine Eq (Keeps env) Q X () w') :
    (ask (.writeIntents intents) >>= f).Sure machine Eq (Keeps env) Q X () w := by
  refine sure_ask_bind.2 ⟨fun _ torn => torn.elim, fun r w' ⟨w₁, drift, act⟩ => ?_⟩
  cases act with
  | writeIntents => exact ⟨fun before => sound w₁ drift.later (drift.sound before), rest r w₁ drift.later⟩
  | keepIntents _ _ failure => exact ⟨drift.sound, kept failure _ drift.later⟩

lemma settle_sure {expected : String} {intent : Intent} {reply : Except Failure ℕ}
    (same : w.intents = intents)
    (holds : ∀ number, reply = .ok number → w.Holds env ⟨number, expected⟩)
    (allowed : ∀ failure, reply = .error failure → (∃ message, failure = .rejected message) → key ∉ w.posted.map Prod.fst) :
    (settle intents key intent expected reply).Sure machine Eq (Keeps env)
      (fun effect _ w' => ∀ e, effect = some e → w'.Holds env e) (fun _ _ _ => True) () w := by
  rcases reply with failure | number
  · refine sure_writeIntents (fun w' later sound => ?_) (fun r w' _ => ?_) fun failure w' _ => ?_
    · rw [← same, ← later.intents]
      refine sound.intent ?_
      rw [later.posted]
      rcases failure with _ | _ | _ | _ | _ | _
      case rejected message => exact .inl (allowed _ rfl ⟨message, rfl⟩)
      all_goals exact .inr (by simp)
    · exact sure_require_bind.2 (by simp)
    · exact sure_require_bind.2 (by simp)
  · refine (sure_pure _).2 ?_
    rintro _ rfl e is
    cases is
    exact holds number rfl

lemma send_sure {labels : List String} {intent : Intent}
    (sound : Sound env w) (same : w.intents = intents) (free : Free intents key) (sending : intent.state ≠ .reserved) :
    (send intents key title body (env.sha256 body) labels intent).Sure machine Eq (Keeps env)
      (fun effect _ w' => ∀ e, effect = some e → w'.Holds env e) (fun _ _ _ => True) () w := by
  subst same
  have first := sound.not_posted free
  refine sure_writeIntents (fun w' later sound' => ?_) (fun r w' later => ?_) fun failure w' _ =>
    sure_require_bind.2 (by simp)
  · rw [← later.intents]
    refine sound'.intent (.inl ?_)
    rwa [later.posted]
  · refine sure_require_bind.2 ⟨fun _ _ => ?_, by simp⟩
    refine sure_ask_bind.2 ⟨fun _ torn => torn.elim, fun r w₂ ⟨w₁, drift, act⟩ => ?_⟩
    obtain ⟨remote, grows, rfl⟩ := drift
    have first' : key ∉ w'.posted.map Prod.fst := by rwa [later.posted]
    have notFree : ¬ Free (w.intents.set key intent) key := fun free' => sending (free' intent (by simp))
    cases act with
    | createRemote _ _ _ _ _ number new =>
      refine ⟨fun before => (before.grows remote grows).post first' notFree new title body, ?_⟩
      refine settle_sure rfl (fun number' is => ?_) fun failure is => by cases is
      cases is
      exact holds_post _ key title body number
    | createdUnseen _ _ _ _ _ number failure new certain =>
      refine ⟨fun before => (before.grows remote grows).post first' notFree new title body, ?_⟩
      refine settle_sure rfl (fun number' is => by cases is) fun failure' is rejected => ?_
      cases is
      obtain ⟨message, is⟩ := rejected
      exact absurd is (certain message)
    | notCreated =>
      exact ⟨fun before => before.grows remote grows, settle_sure rfl (fun number' is => by cases is) fun _ _ _ => first'⟩

lemma resume_sure {duplicates : List Found} {marker : String}
    {labels : List String} {intent prior : Intent} (sound : Sound env w) (same : w.intents = intents)
    (found : ∀ issue ∈ duplicates, ∃ issue', w.remote.get? issue.number = some issue' ∧ issue'.body = issue.body)
    (is : intents.get? key = some prior) (sending : intent.state ≠ .reserved) :
    (resume env intents duplicates key title body marker (env.sha256 body) labels intent prior).Sure machine Eq (Keeps env)
      (fun effect _ w' => ∀ e, effect = some e → w'.Holds env e) (fun _ _ _ => True) () w := by
  rw [resume]
  split
  · rename_i issue recovers
    refine sure_stopIf.2 ⟨fun unchanged => (sure_pure _).2 ?_, fun _ => trivial⟩
    rintro _ rfl e is
    cases is
    obtain ⟨issue', there, body'⟩ := found issue (List.mem_of_find?_eq_some recovers)
    refine ⟨issue', there, issue'.body, List.mem_cons_self, ?_⟩
    rw [body']
    simpa using unchanged
  · refine sure_stopIf.2 ⟨fun reserved => ?_, fun _ => trivial⟩
    split
    · refine send_sure sound same (fun intent' is' => ?_) sending
      rw [← Option.some.inj (is.symm.trans is')]
      simpa using reserved
    · refine (sure_pure _).2 ?_
      rintro _ rfl e is
      cases is

lemma createEffect_sure (sound : Sound env w) (key title body : String) (labels : List String) (identifier link : String) :
    (createEffect env key title body labels identifier link).Sure machine Eq (Keeps env)
      (fun effect _ w' => ∀ e, effect = some e → w'.Holds env e) (fun _ _ _ => True) () w := by
  refine sure_ask_bind.2 ⟨fun _ torn => torn.elim, fun intents w₁ ⟨w₀, drift, act⟩ => ?_⟩
  cases act
  have sound := drift.sound sound
  refine ⟨drift.sound, sure_stopIf.2 ⟨fun _ => ?_, fun _ => trivial⟩⟩
  refine sure_ask_bind.2 ⟨fun _ torn => torn.elim, fun duplicates w₃ ⟨w₂, drift', act⟩ => ?_⟩
  have same : w₂.intents = w₁.intents := drift'.later.intents
  cases act with
  | notFound => exact ⟨drift'.sound, sure_require_bind.2 (by simp)⟩
  | findDuplicates _ _ found there =>
    refine ⟨drift'.sound, sure_require_bind.2 ⟨fun found' is => ?_, by simp⟩⟩
    cases is
    split
    · rename_i prior is
      refine resume_sure (drift'.sound sound) same (fun issue within => ?_) is (by simp)
      obtain ⟨issue', there', -, body'⟩ := there issue within
      exact ⟨issue', there', body'⟩
    · rename_i none
      split
      · refine send_sure (drift'.sound sound) same (fun intent is => ?_) (by simp)
        rw [none] at is
        cases is
      · refine (sure_pure _).2 ?_
        rintro _ rfl e is
        cases is

lemma record_sure {issue : Effect} {content : Content} (holds : w.Holds env issue) :
    (record key issue content).Sure machine Eq (Keeps env) (fun _ _ _ => True) (fun _ _ _ => True) () w := by
  refine sure_quiet (by trivial) fun created w₁ ran later => ?_
  obtain ⟨w₀, drift, act⟩ := ran
  cases act
  refine sure_ask_bind.2 ⟨fun _ torn => torn.elim, fun r w₃ ⟨w₂, drift', act⟩ => ?_⟩
  have added : Sound env w₂ → Sound env { w₂ with created := w₁.created ++ [⟨key, issue, content⟩] } := fun sound => by
    refine ⟨sound.posted, sound.once, fun record within => ?_⟩
    rcases List.mem_append.1 within with there | here
    · rw [← drift'.later.created] at there
      exact sound.recorded record there
    · rw [List.mem_singleton.1 here]
      exact holds.grows (later.trans drift'.later).remote
  have rest : ∀ {w₃ : World}, (do
      Script.require (← ask .audit)
      Script.require (← ask .audit)
      pure ⟨key, issue, content⟩ : Process Record).Sure machine Eq (Keeps env) (fun _ _ _ => True) (fun _ _ _ => True)
        () w₃ := by
    intro w₃
    refine sure_quiet (by trivial) fun _ _ _ _ => sure_require_bind.2 ⟨fun _ _ => ?_, by simp⟩
    exact sure_quiet (by trivial) fun _ _ _ _ => sure_require_bind.2 ⟨fun _ _ => by simp, by simp⟩
  cases act with
  | writeCreated => exact ⟨fun before => added (drift'.sound before), sure_require_bind.2 ⟨fun _ _ => rest, by simp⟩⟩
  | keepCreated => exact ⟨drift'.sound, sure_require_bind.2 (by simp)⟩

/-! ### Entry points -/

def Safe (env : Env) (m : Process α) : Prop :=
  ∀ w, Sound env w → m.Sure machine Eq (Keeps env) (fun _ _ w' => Sound env w') (fun _ _ w' => Sound env w') () w

variable {m : Process α}

lemma sure_sound (sure : m.Sure machine Eq (Keeps env) Q X () w) (sound : Sound env w) :
    m.Sure machine Eq (Keeps env) (fun a l w' => Q a l w' ∧ Sound env w') (fun x l w' => X x l w' ∧ Sound env w') () w := by
  refine Script.Sure.frame sure ?_ (fun _ _ keeps => keeps) sound
  rintro w _ rfl
  exact id

variable {β : Type}

lemma safe_pure (a : α) : Safe env (pure a) := by
  refine fun w sound => (sure_pure _).2 ?_
  rintro _ rfl
  exact sound

lemma safe_raise (failure : Failure) : Safe env (raise failure : Process α) := by
  refine fun w sound => (sure_raise _).2 ?_
  rintro _ rfl
  exact sound

lemma Safe.bind {f : α → Process β} (safe : Safe env m) (rest : ∀ a, Safe env (f a)) :
    Safe env (m >>= f) := by
  refine fun w sound => (sure_bind _ _).2 ((safe w sound).mono (fun _ _ => id) (fun a _ w' => rest a w') ?_)
  rintro _ _ w' sound' _ rfl
  exact sound'

lemma safe_ask {c : Call} (quiet : c.Quiet) : Safe env (ask c) := by
  refine fun w sound => (sure_ask _).2 ?_
  rintro _ rfl
  refine ⟨fun _ torn => torn.elim, fun r w' ran => ?_⟩
  have later := later_of_quiet ran quiet
  refine ⟨later.sound, ?_⟩
  rintro _ rfl
  exact later.sound sound

lemma safe_require (r : Except Failure α) : Safe env (Script.require r : Process α) := by
  cases r
  · exact safe_raise _
  · exact safe_pure _

lemma safe_stopIf (condition : Prop) [Decidable condition] (failure : Failure) : Safe env (stopIf condition failure) := by
  rw [stopIf]
  split
  · exact safe_raise _
  · exact safe_pure _

lemma Safe.rescue {f : Failure → Process α} (safe : Safe env m) (handler : ∀ failure, Safe env (f failure)) :
    Safe env (rescue m f) := by
  refine fun w sound => (sure_rescue _ _).2 ((safe w sound).mono (fun _ _ => id) ?_ fun failure _ w' => handler failure w')
  rintro _ _ w' sound' _ rfl
  exact sound'

lemma Safe.answered {body : Process Outcome} (safe : Safe env body) : Safe env (answered body) := by
  refine Safe.rescue safe fun failure => ?_
  cases failure <;> first | exact safe_pure _ | exact safe_raise _

lemma safe_publish (key title body : String) (labels : List String) (identifier : String) (content : Content)
    (duplicate : String) : Safe env (publish env key title body labels identifier content duplicate) := by
  refine fun w sound => (sure_bind _ _).2 ((sure_sound (createEffect_sure sound key title body labels identifier content.link) sound).mono
    (fun _ _ => id) ?_ ?_)
  · rintro (_ | effect) _ w' ⟨holds, sound'⟩
    · exact safe_pure _ w' sound'
    · refine (sure_bind _ _).2 ((sure_sound (record_sure (holds effect rfl)) sound').mono (fun _ _ => id) ?_ ?_)
      · exact fun made _ w'' ends => safe_pure _ w'' ends.2
      · rintro _ _ w'' ⟨-, sound''⟩ _ rfl
        exact sound''
  · rintro _ _ w' ⟨-, sound'⟩ _ rfl
    exact sound'

lemma safe_known : Safe env knownIdentifiers :=
  (safe_ask (by trivial)).bind fun _ => (safe_require _).bind fun _ => (safe_ask (by trivial)).bind fun _ =>
    (safe_ask (by trivial)).bind fun _ => safe_pure _

lemma safe_proposeLabIssue (finding : Finding) (key : String) : Safe env (proposeLabIssue env finding key) := by
  refine Safe.answered ((safe_ask (by trivial)).bind fun created => ?_)
  split
  · exact (safe_stopIf _ _).bind fun _ => (safe_ask (by trivial)).bind fun _ => (safe_require _).bind fun _ => safe_pure _
  · exact (safe_stopIf _ _).bind fun _ => (safe_ask (by trivial)).bind fun _ => (safe_require _).bind fun _ =>
      safe_known.bind fun _ => (safe_ask (by trivial)).bind fun _ => (safe_ask (by trivial)).bind fun _ =>
        safe_publish _ _ _ _ _ _ _

lemma safe_chooseIdentifier (kind : Kind) (identifier : String) (taken : List String) (pending : Option Intent) :
    Safe env (chooseIdentifier env kind identifier taken pending) := by
  rw [chooseIdentifier]
  split
  · exact (safe_require _).bind fun _ => safe_pure _
  · refine (safe_stopIf _ _).bind fun _ => ?_
    split
    · exact (safe_ask (by trivial)).bind fun _ => (safe_require _).bind fun _ => safe_pure _
    · exact safe_pure _

lemma safe_createIssue (kind : Kind) (title identifier key : String) (metadata : Metadata) :
    Safe env (createIssue env kind title identifier key metadata) := by
  refine Safe.answered ((safe_stopIf _ _).bind fun _ => (safe_stopIf _ _).bind fun _ => (safe_ask (by trivial)).bind
    fun created => ?_)
  split
  · exact (safe_stopIf _ _).bind fun _ => (safe_ask (by trivial)).bind fun _ => (safe_require _).bind fun _ => safe_pure _
  · refine (safe_ask (by trivial)).bind fun _ => (safe_require _).bind fun _ => safe_known.bind fun _ =>
      (safe_ask (by trivial)).bind fun _ => (safe_chooseIdentifier _ _ _ _).bind fun chosen => ?_
    cases chosen
    · exact safe_pure _
    · exact (safe_ask (by trivial)).bind fun _ => (safe_require _).bind fun _ => safe_publish _ _ _ _ _ _ _

/-! ### `consolidate_ir` -/

lemma safe_assignAll (sourceId : String) (entries : List Entry) (taken : List String) :
    Safe env (assignAll env sourceId entries taken) := by
  induction entries generalizing taken with
  | nil => exact safe_pure _
  | cons entry entries ih =>
    refine Safe.bind ?_ fun _ => (ih _).bind fun _ => safe_pure _
    rw [assign]
    split
    · exact safe_require _
    · refine (safe_stopIf _ _).bind fun _ => ?_
      split
      · refine Safe.bind ?_ fun _ => (safe_stopIf _ _).bind fun _ => safe_pure _
        exact (safe_ask (by trivial)).bind fun _ => (safe_ask (by trivial)).bind fun _ => safe_pure _
      · exact safe_pure _

lemma safe_authorise (sourceId : String) (actions : List String) : Safe env (authorise sourceId actions) := by
  induction actions with
  | nil => exact safe_pure _
  | cons action actions ih =>
    refine (safe_ask (by trivial)).bind fun _ => (safe_require _).bind fun refused => ?_
    cases refused
    · exact ih
    · exact (safe_ask (by trivial)).bind fun _ => (safe_require _).bind fun _ => safe_raise _

lemma safe_createAll (source : Source) (entries : List Entry) (created : List String) :
    Safe env (createAll env source entries created) := by
  induction entries generalizing created with
  | nil => exact safe_pure _
  | cons entry entries ih =>
    refine Safe.bind ((((safe_createIssue _ _ _ _ _).bind fun _ => safe_pure _).rescue fun _ => safe_pure _)) fun outcome => ?_
    cases outcome
    · exact safe_raise _
    · exact (safe_stopIf _ _).bind fun _ => ih _

lemma safe_verifyAll (sourceId : String) (created : List String) (successors : List Record) :
    Safe env (verifyAll env sourceId created successors) := by
  induction successors with
  | nil => exact safe_pure _
  | cons successor successors ih =>
    refine (safe_stopIf _ _).bind fun _ => (safe_ask (by trivial)).bind fun remote => ?_
    rcases (remote : Except Failure String) with _ | _
    · exact safe_raise _
    · exact (safe_stopIf _ _).bind fun _ => ih.bind fun _ => safe_pure _

lemma safe_closeSource (source : Source) (created : List String) (comment : String) (closing : Closing) :
    Safe env (closeSource source created comment closing) := by
  refine (safe_ask (by trivial)).bind fun records => ?_
  dsimp only
  split
  · exact safe_raise _
  · refine (safe_ask (by trivial)).bind fun close => ?_
    rcases (close : Except Failure Bool) with _ | _
    · exact safe_raise _
    · exact (safe_stopIf _ _).bind fun _ => (safe_ask (by trivial)).bind fun _ => (safe_ask (by trivial)).bind fun _ =>
        (safe_require _).bind fun _ => (safe_ask (by trivial)).bind fun _ => (safe_require _).bind fun _ =>
          (safe_ask (by trivial)).bind fun _ => (safe_require _).bind fun _ => safe_pure _

lemma safe_transfer (source : Source) (remaining : List String) (entries : List Entry) (reason : String) :
    Safe env (transfer env source remaining entries reason) := by
  refine (safe_createAll _ _ _).bind fun created => (safe_ask (by trivial)).bind fun records => ?_
  split
  · exact safe_raise _
  · exact (safe_verifyAll _ _ _).bind fun _ => (safe_stopIf _ _).bind fun _ => safe_closeSource _ _ _ _

lemma safe_consolidateIr (source : Source) (successors : List Successor) (reason : String) :
    Safe env (consolidateIr env source successors reason) := by
  refine Safe.rescue ?_ fun failure => by cases failure <;> first | exact safe_pure _ | exact safe_raise _
  exact (safe_stopIf _ _).bind fun _ => (safe_stopIf _ _).bind fun _ => (safe_stopIf _ _).bind fun _ =>
    (safe_ask (by trivial)).bind fun _ => (safe_stopIf _ _).bind fun _ => (safe_require _).bind fun _ =>
      (safe_ask (by trivial)).bind fun _ => (safe_stopIf _ _).bind fun _ => safe_known.bind fun _ =>
        (safe_assignAll _ _ _).bind fun _ => (safe_ask (by trivial)).bind fun _ => (safe_require _).bind fun _ =>
          (safe_authorise _ _).bind fun _ => safe_transfer _ _ _ _

/-! ## Runs -/

lemma Safe.exec (safe : Safe env m) (sound : Sound env w) {out : Option (Except Failure α × Unit)}
    (exec : Program.Exec machine (m ()) w out w') : Sound env w' := by
  have path := ((safe w sound).exec exec).1
  clear exec
  induction path with
  | refl => exact sound
  | tail _ call ih => exact call ih

lemma Step.sound {request : Request} (step : Step env request w w') (sound : Sound env w) : Sound env w' := by
  cases step with
  | propose finding key _ _ _ exec => exact (safe_proposeLabIssue finding key).exec sound exec
  | create kind title identifier key metadata _ _ _ exec =>
    exact (safe_createIssue kind title identifier key metadata).exec sound exec
  | consolidate source successors reason _ _ _ exec =>
    exact (safe_consolidateIr source successors reason).exec sound exec

lemma Runs.sound {C : Request → World → Prop} (runs : Runs env C w) : Sound env w := by
  refine runs.invariant ?_ ?_
  · rintro _ ⟨remote, rfl⟩
    exact ⟨fun _ _ there => (by cases there), List.nodup_nil, fun _ there => (by cases there)⟩
  · rintro w w' sound (drift | ⟨request, -, step⟩)
    · exact drift.sound sound
    · exact step.sound sound

/-- **At most one issue is ever created for a decision key**, and what is recorded as created is an issue that is there and
has had the body that is expected of it. -/
theorem one_issue (env : Env) : ∀ w, Runs env (fun _ _ => True) w →
    (∀ key number number', (key, number) ∈ w.posted → (key, number') ∈ w.posted → number = number') ∧
    (w.posted.map Prod.fst).Nodup ∧ ∀ record ∈ w.created, w.Holds env record.issue := by
  intro w runs
  have sound := Runs.sound runs
  refine ⟨fun key number number' there there' => ?_, sound.once, sound.recorded⟩
  exact (Prod.mk.inj (List.inj_on_of_nodup_map sound.once there there' rfl)).2

/-- What a request for an issue leaves. -/
def requested (w : World) : World := after (createIssue plain .i "T" "" "" {}) w

lemma Runs.requested {w : World} (runs : Runs plain (fun _ _ => True) w) : Runs plain (fun _ _ => True) (requested w) :=
  runs.step (.inr ⟨.create .i "T" "" "" {}, trivial, .create _ _ _ _ _ _ _ _ (exec_after _ _)⟩)

/-- The request is made twice; the second time the issue is found among those that were created. -/
theorem one_issue_requested_twice : (requested {}).posted = [("T", 1)] ∧
    (requested (requested {})).posted = [("T", 1)] ∧ (requested (requested {})).created.map Record.key = ["T"] ∧
    ∀ record ∈ (requested (requested {})).created, (requested (requested {})).Holds plain record.issue :=
  ⟨by decide +kernel, by decide +kernel, by decide +kernel,
    (one_issue plain _ (Runs.requested (Runs.requested (.init ⟨∅, rfl⟩)))).2.2⟩

end Vertep.Governance
