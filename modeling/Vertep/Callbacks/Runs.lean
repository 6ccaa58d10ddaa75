import Vertep.Callbacks.Records

/-!
# Deliveries of callbacks (`core/telegram_callbacks.py`)

Any number of deliveries are handled at once, each a call of the module after the other, and the process may crash
between any two of them. The records and the operations outlive a crash, the handlers do not. The log is kept for the
statements only.
-/

namespace Vertep.Callbacks
open Lib Vertep.Operations

/-- What a handler does next. -/
inductive Stage where
  | claims
  | acts
  | links
  | completes (status : CallbackStatus)
deriving DecidableEq

structure Delivery where
  callback : Callback
  stage : Stage := .claims
deriving DecidableEq

inductive Event where
  /-- A delivery was claimed; its record named this operation. -/
  | granted (callbackId : String) (operation : Option Operation)
  /-- The record became terminal. -/
  | settled (callbackId : String)
  /-- A claimed delivery ended without that. -/
  | abandoned (callbackId : String)
  | crashed
deriving DecidableEq

/-- The two files, the handlers in progress, and what took effect. -/
structure World where
  store : Store := {}
  records : Records := ∅
  handlers : Dict ℕ Delivery := ∅
  log : List Event := []

def World.operation (w : World) (callbackId : String) : Option Operation :=
  (w.records.get? callbackId).bind (·.operation w.store.operations)

/-- A handler claims its callback, and goes on or answers that it is processed. -/
def World.claim (w : World) (n : ℕ) (callback : Callback) (readable : Bool) (now : String) : World :=
  let ((_, claimed), records) :=
    claimCallback w.store.operations readable callback.id callback.actor callback.action callback.target none now
      w.records
  if claimed then
    { w with
      records := records, handlers := w.handlers.set n ⟨callback, .acts⟩
      log := .granted callback.id (w.operation callback.id) :: w.log }
  else { w with records := records, handlers := w.handlers.pop n }

/-- A handler completes its callback. -/
def World.complete (w : World) (n : ℕ) (callback : Callback) (status : CallbackStatus) (readable : Bool) (now : String) :
    World :=
  { w with
    records := completeCallback readable callback.id status now w.records, handlers := w.handlers.pop n
    log :=
      (if (readRecords readable w.records).get? callback.id = none then .abandoned callback.id
       else .settled callback.id) :: w.log }

inductive Act where
  | deliver (n : ℕ) (callback : Callback)
  /-- Some thread runs a section of `core/operations.py`. -/
  | operate (sec : Section)
  | claim (n : ℕ) (readable : Bool) (now : String)
  | target (n : ℕ) (readable : Bool) (target : Option String)
  /-- The side effect returns or raises. -/
  | acted (n : ℕ) (raised : Bool)
  | link (n : ℕ) (readable listed : Bool)
  | complete (n : ℕ) (readable : Bool) (now : String)
  /-- A file cannot be written, and the handler raises. -/
  | dies (n : ℕ)
  | crash

/-- `claim_callback` and its companions, one lock section a step. -/
inductive Step (env : Env) : Act → World → World → Prop where
  | deliver (w : World) (n : ℕ) (callback : Callback) :
    w.handlers.get? n = none →
    Step env (.deliver n callback) w { w with handlers := w.handlers.set n ⟨callback, .claims⟩ }
  | operate (w : World) (sec : Section) : Step env (.operate sec) w { w with store := (sec.run env w.store).2 }
  | claim (w : World) (n : ℕ) (callback : Callback) (readable : Bool) (now : String) :
    w.handlers.get? n = some ⟨callback, .claims⟩ →
    Step env (.claim n readable now) w (w.claim n callback readable now)
  | target (w : World) (n : ℕ) (callback : Callback) (readable : Bool) (target : Option String) :
    w.handlers.get? n = some ⟨callback, .acts⟩ →
    Step env (.target n readable target) w { w with records := setCallbackTarget readable callback.id target w.records }
  | acted (w : World) (n : ℕ) (callback : Callback) (raised : Bool) :
    w.handlers.get? n = some ⟨callback, .acts⟩ →
    Step env (.acted n raised) w
      { w with handlers := w.handlers.set n ⟨callback, if raised then .completes .failed else .links⟩ }
  | link (w : World) (n : ℕ) (callback : Callback) (readable listed : Bool) :
    w.handlers.get? n = some ⟨callback, .links⟩ →
    Step env (.link n readable listed) w
      { w with
        records := linkCallbackToOperation readable callback listed w.store.operations w.records
        handlers := w.handlers.set n ⟨callback, .completes .completed⟩ }
  | complete (w : World) (n : ℕ) (callback : Callback) (status : CallbackStatus) (readable : Bool) (now : String) :
    w.handlers.get? n = some ⟨callback, .completes status⟩ →
    Step env (.complete n readable now) w (w.complete n callback status readable now)
  | refuses (w : World) (n : ℕ) (callback : Callback) :
    w.handlers.get? n = some ⟨callback, .claims⟩ → Step env (.dies n) w { w with handlers := w.handlers.pop n }
  | dies (w : World) (n : ℕ) (callback : Callback) (stage : Stage) :
    w.handlers.get? n = some ⟨callback, stage⟩ → stage ≠ .claims → stage ≠ .acts →
    Step env (.dies n) w { w with handlers := w.handlers.pop n, log := .abandoned callback.id :: w.log }
  | crash (w : World) : Step env .crash w { w with handlers := ∅, log := .crashed :: w.log }

def Init (w : World) : Prop := w = {}

def Runs (env : Env) (w : World) : Prop := Reach Init (fun w w' => ∃ act, Step env act w w') w

/-! ## What is claimed, and when it holds -/

/-- A confirmation takes effect once: between two claims the process crashed or the record became terminal, the
operation of a record that is claimed again is not terminal, and a terminal record is never claimed again. -/
structure Once (log : List Event) : Prop where
  once : ∀ later between earlier callbackId op op',
    log = later ++ .granted callbackId op :: (between ++ .granted callbackId op' :: earlier) →
    .crashed ∈ between ∨ .settled callbackId ∈ between
  resumed : ∀ callbackId op, .granted callbackId (some op) ∈ log → ¬ op.status.Terminal
  final : ∀ later earlier callbackId op, log = later ++ .granted callbackId op :: earlier → .settled callbackId ∉ earlier

def sinceCrash (log : List Event) : List Event := log.takeWhile (· ≠ .crashed)

/-- A claim of a record that is still `CLAIMED` comes from a process that died. -/
structure World.Died (w : World) (callbackId : String) : Prop where
  /-- No other handler of the callback is past its claim. -/
  alone : ∀ m d, w.handlers.get? m = some d → d.callback.id = callbackId → d.stage = .claims
  /-- None of this process ended without completing it. -/
  completed : .abandoned callbackId ∉ sinceCrash w.log

/-- A claim finds its file and its id, and a record that it resumes is one of a process that died. -/
def Orderly (w : World) : Act → Prop
  | .claim n readable _ => ∀ callback, w.handlers.get? n = some ⟨callback, .claims⟩ →
    (callback.id = "" → ∀ op, .granted "" op ∉ sinceCrash w.log) ∧ (callback.id ≠ "" → readable) ∧
      ∀ record, w.records.get? callback.id = some record → record.status = .claimed →
        ¬ record.Done w.store.operations → w.Died callback.id
  | _ => True

def OrderlyRuns (env : Env) (w : World) : Prop := Reach Init (fun w w' => ∃ act, Orderly w act ∧ Step env act w w') w

/-! ## Logs -/

lemma Once.nil : Once [] := by
  refine ⟨?_, ?_, ?_⟩
  · intro later between earlier callbackId op op' same
    cases later <;> cases same
  · intro callbackId op mem
    cases mem
  · intro later earlier callbackId op same
    cases later <;> cases same

lemma Once.cons {log : List Event} (once : Once log) {event : Event}
    (granted : ∀ callbackId op, event = .granted callbackId op →
      (∀ op', .granted callbackId op' ∉ sinceCrash log) ∧ (∀ o, op = some o → ¬ o.status.Terminal) ∧
        .settled callbackId ∉ log) : Once (event :: log) := by
  refine ⟨?_, ?_, ?_⟩
  · intro later between earlier callbackId op op' same
    cases later with
    | cons _ later => exact once.once later between earlier callbackId op op' (List.cons.inj same).2
    | nil =>
      obtain ⟨rfl, rfl⟩ := List.cons.inj same
      by_contra! none_
      refine (granted callbackId op rfl).1 op' ?_
      rw [sinceCrash, List.takeWhile_append_of_pos]
      · exact List.mem_append_right _ (by simp)
      · exact fun event mem => decide_eq_true fun eq => none_.1 (eq ▸ mem)
  · intro callbackId op mem
    obtain rfl | mem := List.mem_cons.1 mem
    · exact (granted callbackId (some op) rfl).2.1 op rfl
    · exact once.resumed callbackId op mem
  · intro later earlier callbackId op same
    cases later with
    | cons _ later => exact once.final later earlier callbackId op (List.cons.inj same).2
    | nil =>
      obtain ⟨rfl, rfl⟩ := List.cons.inj same
      exact (granted callbackId op rfl).2.2

lemma sinceCrash_cons {event : Event} (live : event ≠ .crashed) (log : List Event) :
    sinceCrash (event :: log) = event :: sinceCrash log := by
  simp [sinceCrash, live]

/-! ## What the calls make of the records -/

/-- No record is lost, a terminal one stays terminal, and no record is without an id. -/
structure Later (records records' : Records) : Prop where
  kept : ∀ callbackId record, records.get? callbackId = some record →
    ∃ record', records'.get? callbackId = some record' ∧ (record.status ≠ .claimed → record'.status ≠ .claimed)
  empty : records.get? "" = none → records'.get? "" = none

lemma Later.refl (records : Records) : Later records records := ⟨fun _ record found => ⟨record, found, id⟩, id⟩

variable {records records' : Records} {callbackId now : String}

lemma Later.set (known : callbackId ≠ "") {new : CallbackRecord}
    (terminal : ∀ record, records.get? callbackId = some record → record.status ≠ .claimed → new.status ≠ .claimed) :
    Later records (records.set callbackId new) := by
  refine ⟨fun other record found => ?_, fun none_ => ?_⟩
  · rw [Dict.get?_set]
    split
    · next eq => exact ⟨new, rfl, terminal record (eq ▸ found)⟩
    · exact ⟨record, found, id⟩
  · rw [Dict.get?_set, if_neg known, none_]

variable {readable : Bool}

lemma change_later {may : CallbackRecord → Prop} [DecidablePred may]
    {f : CallbackRecord → CallbackRecord}
    (terminal : ∀ record, may record → record.status ≠ .claimed → (f record).status ≠ .claimed) :
    Later records (change readable callbackId may f records) := by
  unfold change
  split
  · exact .refl records
  · next known =>
    split
    · exact .refl records
    · next record found =>
      cases readable with
      | false => cases found
      | true =>
        have found : records.get? callbackId = some record := found
        split
        · next allowed =>
          refine .set known fun other found' => ?_
          cases found.symm.trans found'
          exact terminal record allowed
        · exact .refl records

lemma completeCallback_later {status : CallbackStatus}
    (terminal : status ≠ .claimed) : Later records (completeCallback readable callbackId status now records) :=
  change_later fun _ _ _ => terminal

lemma setCallbackTarget_later (readable : Bool) (callbackId : String) (target : Option String) (records : Records) :
    Later records (setCallbackTarget readable callbackId target records) := by
  unfold setCallbackTarget
  split
  · exact .refl records
  · exact change_later fun record claimed terminal => absurd claimed terminal

lemma linkCallbackToOperation_later (readable : Bool) (callback : Callback) (listed : Bool) (operations : Operations)
    (records : Records) : Later records (linkCallbackToOperation readable callback listed operations records) := by
  unfold linkCallbackToOperation
  split
  · exact .refl records
  · split
    · exact .refl records
    · split
      · exact .refl records
      · exact change_later fun record claimed terminal => absurd claimed terminal

/-- The spec of `claim_callback`, on a file that can be read. -/
lemma claimCallback_spec (operations : Operations) (known : callbackId ≠ "") (actor action : String)
    (target operationId : Option String) (now : String) (records : Records) :
    Later records (claimCallback operations true callbackId actor action target operationId now records).2 ∧
    ((claimCallback operations true callbackId actor action target operationId now records).1.2 = true →
      (∃ record, (claimCallback operations true callbackId actor action target operationId now records).2.get?
        callbackId = some record) ∧
      ∀ record, records.get? callbackId = some record → record.status = .claimed ∧ ¬ record.Done operations) := by
  unfold claimCallback
  rw [if_neg known, readRecords, if_pos rfl]
  cases found : records.get? callbackId with
  | none =>
    refine ⟨.set known fun record found' => ?_, fun _ => ⟨⟨_, (Dict.get?_set _ _ _ _).trans (if_pos rfl)⟩, fun record found' => ?_⟩⟩
    · cases found.symm.trans found'
    · cases found'
  | some existing =>
    by_cases claimed : existing.status = .claimed
    · by_cases done : existing.Done operations
      · simp only [claimed, done, ne_eq, not_true_eq_false, if_true, if_false]
        exact ⟨.refl records, fun granted => by cases granted⟩
      · simp only [claimed, done, ne_eq, not_true_eq_false, if_false]
        refine ⟨.set known fun record found' terminal => ?_, fun _ => ⟨⟨_, (Dict.get?_set _ _ _ _).trans (if_pos rfl)⟩, fun record found' => ?_⟩⟩
        · cases found.symm.trans found'
          exact absurd claimed terminal
        · cases found'
          exact ⟨claimed, done⟩
    · simp only [claimed, ne_eq, not_false_eq_true, if_true]
      exact ⟨.refl records, fun granted => by cases granted⟩

/-! ## The invariant -/

/-- A claim of this process that is not completed: its handler has died, or goes on. -/
def World.Open (w : World) (callbackId : String) : Prop :=
  .abandoned callbackId ∈ sinceCrash w.log ∨
    ∃ n d, w.handlers.get? n = some d ∧ d.callback.id = callbackId ∧ d.stage ≠ .claims

/-- A callback takes effect once, and what settled it is on record. -/
structure World.Sound (w : World) : Prop where
  once : Once w.log
  empty : w.records.get? "" = none
  settled : ∀ callbackId, .settled callbackId ∈ w.log →
    ∃ record, w.records.get? callbackId = some record ∧ record.status ≠ .claimed
  recorded : ∀ n d, w.handlers.get? n = some d → d.stage ≠ .claims → d.callback.id ≠ "" →
    ∃ record, w.records.get? d.callback.id = some record
  granted : ∀ callbackId op, callbackId ≠ "" → .granted callbackId op ∈ sinceCrash w.log →
    ∃ record, w.records.get? callbackId = some record ∧ (record.status = .claimed → w.Open callbackId)
  completes : ∀ n d status, w.handlers.get? n = some d → d.stage = .completes status → status ≠ .claimed

lemma Later.settled (later : Later records records')
    (settled : ∃ record, records.get? callbackId = some record ∧ record.status ≠ .claimed) :
    ∃ record, records'.get? callbackId = some record ∧ record.status ≠ .claimed := by
  obtain ⟨record, there, terminal⟩ := settled
  obtain ⟨record', there', keeps⟩ := later.kept callbackId record there
  exact ⟨record', there', keeps terminal⟩

lemma Later.recorded (later : Later records records')
    (recorded : ∃ record, records.get? callbackId = some record) :
    ∃ record, records'.get? callbackId = some record := by
  obtain ⟨record, there⟩ := recorded
  obtain ⟨record', there', _⟩ := later.kept callbackId record there
  exact ⟨record', there'⟩

lemma Later.claimed (later : Later records records') {p q : Prop}
    (claimed : ∃ record, records.get? callbackId = some record ∧ (record.status = .claimed → p))
    (open_ : (∀ record, records'.get? callbackId = some record → record.status = .claimed) → p → q) :
    ∃ record, records'.get? callbackId = some record ∧ (record.status = .claimed → q) := by
  obtain ⟨record, there, pending⟩ := claimed
  obtain ⟨record', there', keeps⟩ := later.kept callbackId record there
  refine ⟨record', there', fun claimed' => open_ (fun other found => ?_) (pending ?_)⟩
  · cases there'.symm.trans found
    exact claimed'
  · exact not_not.1 fun terminal => keeps terminal claimed'

variable {w : World} {n : ℕ} {callback : Callback}

lemma World.Sound.moves (sound : w.Sound) (later : Later w.records records)
    {stage stage' : Stage} (found : w.handlers.get? n = some ⟨callback, stage⟩)
    (claimed : stage ≠ .claims) (claimed' : stage' ≠ .claims)
    (completes : ∀ status, stage' = .completes status → status ≠ .claimed) :
    World.Sound { w with records := records, handlers := w.handlers.set n ⟨callback, stage'⟩ } := by
  refine ⟨sound.once, later.empty sound.empty, fun callbackId mem => later.settled (sound.settled callbackId mem), ?_, ?_, ?_⟩
  · intro m d there past known
    refine later.recorded ?_
    rw [Dict.get?_set] at there
    split at there
    · cases there
      exact sound.recorded n ⟨callback, stage⟩ found claimed known
    · exact sound.recorded m d there past known
  · intro callbackId op known mem
    refine later.claimed (sound.granted callbackId op known mem) ?_
    rintro - (abandoned | ⟨m, d, there, same, past⟩)
    · exact .inl abandoned
    · by_cases eq : n = m
      · subst eq
        cases found.symm.trans there
        exact .inr ⟨n, ⟨callback, stage'⟩, (Dict.get?_set _ _ _ _).trans (if_pos rfl), same, claimed'⟩
      · exact .inr ⟨m, d, (Dict.get?_set _ _ _ _).trans ((if_neg eq).trans there), same, past⟩
  · intro m d status there same
    rw [Dict.get?_set] at there
    split at there
    · cases there
      exact completes status same
    · exact sound.completes m d status there same

lemma World.Sound.ends (sound : w.Sound) (later : Later w.records records)
    {stage : Stage} (found : w.handlers.get? n = some ⟨callback, stage⟩) {log : List Event}
    (once : Once log) (settled : ∀ callbackId, .settled callbackId ∈ log → .settled callbackId ∈ w.log ∨
      ∃ record, records.get? callbackId = some record ∧ record.status ≠ .claimed)
    (granted : ∀ callbackId op, .granted callbackId op ∈ sinceCrash log → .granted callbackId op ∈ sinceCrash w.log)
    (abandoned : ∀ callbackId, .abandoned callbackId ∈ sinceCrash w.log → .abandoned callbackId ∈ sinceCrash log)
    (ended : stage ≠ .claims → (∀ record, records.get? callback.id = some record → record.status = .claimed) →
      .abandoned callback.id ∈ sinceCrash log) :
    World.Sound { w with records := records, handlers := w.handlers.pop n, log := log } := by
  refine ⟨once, later.empty sound.empty, fun callbackId mem => ?_, fun m d there past known => ?_,
    fun callbackId op known mem => ?_, fun m d status there same => ?_⟩
  · obtain mem | there := settled callbackId mem
    · exact later.settled (sound.settled callbackId mem)
    · exact there
  · rw [Dict.get?_pop] at there
    split at there
    · cases there
    · exact later.recorded (sound.recorded m d there past known)
  · refine later.claimed (sound.granted callbackId op known (granted callbackId op mem)) ?_
    rintro pending (gone | ⟨m, d, there, same, past⟩)
    · exact .inl (abandoned callbackId gone)
    · by_cases eq : n = m
      · subst eq
        cases found.symm.trans there
        exact .inl (same ▸ ended past (same ▸ pending))
      · exact .inr ⟨m, d, (Dict.get?_pop _ _ _).trans ((if_neg eq).trans there), same, past⟩
  · rw [Dict.get?_pop] at there
    split at there
    · cases there
    · exact sound.completes m d status there same

lemma World.Sound.grants (sound : w.Sound) (later : Later w.records records)
    (fresh : ∀ op, .granted callback.id op ∉ sinceCrash w.log) (unsettled : .settled callback.id ∉ w.log)
    (resumed : ∀ op, w.operation callback.id = some op → ¬ op.status.Terminal)
    (found : w.handlers.get? n = some ⟨callback, .claims⟩)
    (recorded : callback.id ≠ "" → ∃ record, records.get? callback.id = some record) :
    World.Sound
      { w with
        records := records, handlers := w.handlers.set n ⟨callback, .acts⟩
        log := .granted callback.id (w.operation callback.id) :: w.log } := by
  have others : ∀ m d, w.handlers.get? m = some d → d.stage ≠ .claims →
      (w.handlers.set n ⟨callback, .acts⟩).get? m = some d := by
    intro m d there past
    have other : n ≠ m := by
      rintro rfl
      cases found.symm.trans there
      exact past rfl
    exact (Dict.get?_set _ _ _ _).trans ((if_neg other).trans there)
  refine ⟨sound.once.cons ?_, later.empty sound.empty, fun callbackId mem => ?_, fun m d there past known => ?_,
    fun callbackId op known mem => ?_, fun m d status there same => ?_⟩
  · intro callbackId op same
    cases same
    exact ⟨fresh, resumed, unsettled⟩
  · obtain eq | mem := List.mem_cons.1 mem
    · cases eq
    · exact later.settled (sound.settled callbackId mem)
  · rw [Dict.get?_set] at there
    split at there
    · cases there
      exact recorded known
    · exact later.recorded (sound.recorded m d there past known)
  · rw [sinceCrash_cons (by simp)] at mem
    obtain eq | mem := List.mem_cons.1 mem
    · cases eq
      obtain ⟨record, there⟩ := recorded known
      exact ⟨record, there, fun _ => .inr ⟨n, ⟨callback, .acts⟩, (Dict.get?_set _ _ _ _).trans (if_pos rfl), rfl, by simp⟩⟩
    · refine later.claimed (sound.granted callbackId op known mem) ?_
      rintro - (abandoned | ⟨m, d, there, same, past⟩)
      · refine .inl ?_
        rw [sinceCrash_cons (by simp)]
        exact List.mem_cons_of_mem _ abandoned
      · exact .inr ⟨m, d, others m d there past, same, past⟩
  · rw [Dict.get?_set] at there
    split at there
    · cases there
      cases same
    · exact sound.completes m d status there same

lemma World.Sound.claim (sound : w.Sound) (found : w.handlers.get? n = some ⟨callback, .claims⟩) (orderly : Orderly w (.claim n readable now)) :
    (w.claim n callback readable now).Sound := by
  obtain ⟨single, readable_, resumes⟩ := orderly callback found
  by_cases known : callback.id = ""
  · have claimed : w.claim n callback readable now =
        { w with
          records := w.records, handlers := w.handlers.set n ⟨callback, .acts⟩
          log := .granted callback.id (w.operation callback.id) :: w.log } := by
      simp [World.claim, claimCallback, known]
    rw [claimed]
    refine sound.grants (.refl w.records) (known ▸ single known) (fun mem => ?_) (fun op same => ?_) found
      (absurd known)
    · obtain ⟨record, there, _⟩ := sound.settled _ mem
      rw [known, sound.empty] at there
      cases there
    · rw [World.operation, known, sound.empty] at same
      cases same
  · obtain rfl : readable = true := readable_ known
    have ⟨later, grants⟩ := claimCallback_spec w.store.operations known callback.actor callback.action callback.target
      none now w.records
    unfold World.claim
    generalize claimCallback w.store.operations true callback.id callback.actor callback.action callback.target none now
      w.records = reply at later grants
    obtain ⟨⟨record, claimed⟩, records⟩ := reply
    cases claimed with
    | true =>
      obtain ⟨recorded, pending⟩ := grants rfl
      refine sound.grants later (fun op mem => ?_) (fun mem => ?_) (fun op same => ?_) found (fun _ => recorded)
      · obtain ⟨existing, there, open_⟩ := sound.granted _ op known mem
        have ⟨status, running⟩ := pending existing there
        have died := resumes existing there status running
        obtain abandoned | ⟨m, d, live, same, past⟩ := open_ status
        · exact died.completed abandoned
        · exact past (died.alone m d live same)
      · obtain ⟨existing, there, terminal⟩ := sound.settled _ mem
        exact terminal (pending existing there).1
      · obtain ⟨existing, there, named⟩ := Option.bind_eq_some_iff.1 same
        exact fun terminal => (pending existing there).2 ⟨op, named, terminal⟩
    | false =>
      exact sound.ends later found sound.once (fun _ mem => .inl mem) (fun _ _ mem => mem) (fun _ mem => mem)
        fun past => absurd rfl past

lemma World.Sound.endsWith (sound : w.Sound) (later : Later w.records records)
    {stage : Stage} (found : w.handlers.get? n = some ⟨callback, stage⟩) {event : Event}
    (granted : ∀ callbackId op, event ≠ .granted callbackId op) (live : event ≠ .crashed)
    (settled : ∀ callbackId, event = .settled callbackId →
      ∃ record, records.get? callbackId = some record ∧ record.status ≠ .claimed)
    (ended : (∀ record, records.get? callback.id = some record → record.status = .claimed) →
      event = .abandoned callback.id) :
    World.Sound { w with records := records, handlers := w.handlers.pop n, log := event :: w.log } := by
  refine sound.ends later found (sound.once.cons fun callbackId op eq => absurd eq (granted callbackId op))
    (fun callbackId mem => ?_) (fun callbackId op mem => ?_) (fun callbackId mem => ?_) fun _ pending => ?_
  · obtain eq | mem := List.mem_cons.1 mem
    · exact .inr (settled callbackId eq.symm)
    · exact .inl mem
  · rw [sinceCrash_cons live] at mem
    obtain eq | mem := List.mem_cons.1 mem
    · exact absurd eq.symm (granted callbackId op)
    · exact mem
  · rw [sinceCrash_cons live]
    exact List.mem_cons_of_mem _ mem
  · rw [sinceCrash_cons live, ended pending]
    exact List.mem_cons_self

lemma World.Sound.complete (sound : w.Sound) {status : CallbackStatus}
    (found : w.handlers.get? n = some ⟨callback, .completes status⟩) (readable : Bool) (now : String) :
    (w.complete n callback status readable now).Sound := by
  have terminal := sound.completes n _ status found rfl
  have later : Later w.records (completeCallback readable callback.id status now w.records) :=
    completeCallback_later terminal
  unfold World.complete
  cases there : (readRecords readable w.records).get? callback.id with
  | none =>
    rw [if_pos rfl]
    exact sound.endsWith later found (by simp) (by simp) (by simp) fun _ => rfl
  | some record =>
    have known : callback.id ≠ "" := by
      intro eq
      cases readable with
      | false => cases there
      | true =>
        rw [eq] at there
        exact Option.some_ne_none _ (there.symm.trans sound.empty)
    have completed : ∃ record, (completeCallback readable callback.id status now w.records).get? callback.id = some record ∧
        record.status ≠ .claimed := by
      refine ⟨{ record with status := status, completedAt := some now }, ?_, terminal⟩
      simp only [completeCallback, change, if_neg known, there, if_true]
      exact (Dict.get?_set _ _ _ _).trans (if_pos rfl)
    rw [if_neg (Option.some_ne_none record)]
    refine sound.endsWith later found (by simp) (by simp) (fun callbackId same => ?_) fun pending => ?_
    · cases same
      exact completed
    · obtain ⟨record', there', done⟩ := completed
      exact absurd (pending record' there') done

lemma Step.sound {env : Env} {act : Act} {w' : World} (step : Step env act w w') (orderly : Orderly w act)
    (sound : w.Sound) : w'.Sound := by
  cases step with
  | deliver _ n callback absent =>
    refine ⟨sound.once, sound.empty, sound.settled, fun m d there past known => ?_, fun callbackId op known mem => ?_,
      fun m d status there same => ?_⟩
    · rw [Dict.get?_set] at there
      split at there
      · cases there
        exact absurd rfl past
      · exact sound.recorded m d there past known
    · refine (Later.refl w.records).claimed (sound.granted callbackId op known mem) ?_
      rintro - (abandoned | ⟨m, d, there, same, past⟩)
      · exact .inl abandoned
      · have other : n ≠ m := by
          rintro rfl
          cases absent.symm.trans there
        exact .inr ⟨m, d, (Dict.get?_set _ _ _ _).trans ((if_neg other).trans there), same, past⟩
    · rw [Dict.get?_set] at there
      split at there
      · cases there
        cases same
      · exact sound.completes m d status there same
  | operate _ sec => exact ⟨sound.once, sound.empty, sound.settled, sound.recorded, sound.granted, sound.completes⟩
  | claim _ n callback readable now found => exact sound.claim found orderly
  | target _ n callback readable target found =>
    have later := setCallbackTarget_later readable callback.id target w.records
    exact ⟨sound.once, later.empty sound.empty, fun callbackId mem => later.settled (sound.settled callbackId mem),
      fun m d there past known => later.recorded (sound.recorded m d there past known),
      fun callbackId op known mem => later.claimed (sound.granted callbackId op known mem) fun _ => id, sound.completes⟩
  | acted _ n callback raised found =>
    refine sound.moves (.refl w.records) found (by simp) ?_ ?_ <;> cases raised <;> simp
  | link _ n callback readable listed found =>
    exact sound.moves (linkCallbackToOperation_later readable callback listed _ _) found (by simp) (by simp) (by simp)
  | complete _ n callback status readable now found => exact sound.complete found readable now
  | refuses _ n callback found =>
    exact sound.ends (.refl w.records) found sound.once (fun _ mem => .inl mem) (fun _ _ mem => mem) (fun _ mem => mem)
      fun past => absurd rfl past
  | dies _ n callback stage found _ _ =>
    exact sound.endsWith (.refl w.records) found (by simp) (by simp) (by simp) fun _ => rfl
  | crash =>
    refine ⟨sound.once.cons (by simp), sound.empty, fun callbackId mem => ?_, fun m d there => ?_,
      fun callbackId op known mem => ?_, fun m d status there => ?_⟩
    · obtain eq | mem := List.mem_cons.1 mem
      · cases eq
      · exact sound.settled callbackId mem
    · cases there
    · simp [sinceCrash] at mem
    · cases there

/-! ## Callbacks take effect once -/

lemma World.Sound.init : World.Sound {} := by
  refine ⟨.nil, rfl, fun _ mem => ?_, fun _ _ there => ?_, fun _ _ _ mem => ?_, fun _ _ _ there => ?_⟩
  · cases mem
  · cases there
  · cases mem
  · cases there

def confirmation : Callback := ⟨"cb1", "42", "sys_update_confirm", ""⟩

def World.delivered (w : World) (n : ℕ) : World :=
  World.claim { w with handlers := w.handlers.set n ⟨confirmation, .claims⟩ } n confirmation true "12:00"

def died : World := { World.delivered {} 0 with handlers := ∅, log := .crashed :: (World.delivered {} 0).log }

end Vertep.Callbacks
