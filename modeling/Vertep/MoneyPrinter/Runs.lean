import Vertep.MoneyPrinter.Handlers

/-!
# Runs of the wrapper and its engines (`services/moneyprinter_service.py`)

What every step of the system keeps, and what an engine that returns a task has seen: `reach_polls` carries what the
wrapper's answers tell of a task to every task that an engine polls.
-/

namespace Vertep.MoneyPrinter
open Lib Relation

variable {env : Env} {key : String} {request : Request} {w w' : World}

/-! ## What stays -/

/-- Tasks are not forgotten, and a record that is staged or refused stays as it is. -/
structure Later (w w' : World) : Prop where
  tasks : ∀ t ∈ w.tasks, t ∈ w'.tasks
  final : ∀ key record, w.records.get? key = some record → (record.state = .staged ∨ record.state = .refused) →
    w'.records.get? key = some record

instance : Std.Refl Later := ⟨fun _ => ⟨fun _ => id, fun _ _ found _ => found⟩⟩

instance : IsTrans World Later where
  trans _ _ _ first next :=
    ⟨fun t mem => next.tasks t (first.tasks t mem), fun key record found state =>
      next.final key record (first.final key record found state) state⟩

lemma Later.staged {taskId : String} (later : Later w w') (staged : Staged w key taskId) : Staged w' key taskId := by
  obtain ⟨marker, found⟩ := staged
  exact ⟨marker, later.final key _ found (.inl rfl)⟩

lemma Later.of_records {records : Dict String SubmitRecord} {record : Option SubmitRecord}
    (found : w.records.get? key = record) (open_ : ∀ r, record = some r → r.state = .submitting ∨ r.state = .submitted)
    (others : ∀ key', key ≠ key' → records.get? key' = w.records.get? key') : Later w { w with records := records } := by
  refine ⟨fun _ => id, fun key' r found' state => ?_⟩
  by_cases same : key = key'
  · subst same
    obtain now | now := open_ r (found ▸ found') <;> obtain state | state := state <;> cases now.symm.trans state
  · exact (others key' same).trans found'

lemma Move.later (move : Move env key request w w') : Later w w' := by
  cases move with
  | same => exact refl_of Later w
  | reserve marker valid marks absent => exact .of_records absent (by simp) (fun key' other => by simp [other])
  | post w₁ made refused _ creates _ =>
    cases creates with
    | nothing => exact ⟨fun _ => id, fun _ _ found _ => found⟩
    | task id fresh => exact ⟨fun _ mem => List.mem_cons_of_mem _ mem, fun _ _ found _ => found⟩
  | forget marker valid found _ | submitted taskId marker valid found =>
    exact .of_records found (by simp) (fun key' other => by simp [other])
  | stage taskId marker voices failed _ _ _ => exact ⟨fun _ => id, fun _ _ found _ => found⟩
  | staged taskId marker valid found _ | refuse taskId marker valid found =>
    exact .of_records found (by simp) (fun key' other => by simp [other])
  | stops taskId | aborts taskId _ => exact ⟨fun _ => id, fun _ _ found _ => found⟩

lemma moves_sound (moves : ReflTransGen (Move env key request) w w') (sound : Sound w) : Sound w' ∧ Later w w' := by
  induction moves with
  | refl => exact ⟨sound, refl_of Later w⟩
  | tail _ last ih => exact ⟨last.sound ih.1, trans_of Later ih.2 last.later⟩

/-! ## The calls of an engine -/

lemma Space.not_alphanum {c : Char} (space : Space c) : ¬ c.isAlphanum = true := by
  have all : ∀ n ∈ [9, 10, 11, 12, 13, 28, 29, 30, 31, 32, 133, 160, 5760, 8192, 8193, 8194, 8195, 8196, 8197, 8198, 8199,
      8200, 8201, 8202, 8232, 8233, 8239, 8287, 12288], ¬ (Char.ofNat n).isAlphanum = true := by decide
  exact Char.ofNat_toNat c ▸ all c.toNat space

lemma SubmitKey.not_space {key : String} (valid : SubmitKey key) : ∀ c ∈ key.toList, ¬ Space c := by
  unfold SubmitKey at valid
  intro c mem space
  have punctuation : ∀ c ∈ "._:-".toList, ¬ Space c := by decide
  cases listed : key.toList with
  | nil => simp [listed] at mem
  | cons first rest =>
    rw [listed] at valid mem
    obtain ⟨alphanum, -, others⟩ := valid
    obtain rfl | mem := List.mem_cons.1 mem
    · exact Space.not_alphanum space alphanum
    · obtain alphanum | other := others c mem
      · exact Space.not_alphanum space alphanum
      · exact punctuation c other space

lemma dropWhile_space {characters : List Char} (none : ∀ c ∈ characters, ¬ Space c) :
    characters.dropWhile (fun c => decide (Space c)) = characters := by
  cases characters with
  | nil => rfl
  | cons c rest => simp [List.dropWhile, none c List.mem_cons_self]

lemma SubmitKey.strip {key : String} (valid : SubmitKey key) : strip key = key := by
  unfold MoneyPrinter.strip
  rw [dropWhile_space valid.not_space, dropWhile_space fun c mem => valid.not_space c (List.mem_reverse.1 mem),
    List.reverse_reverse, String.ofList_toList]

lemma World.answered_cases (w : World) (key : String) (out : Option Answer) :
    w.answered key out = w ∨
      ∃ answer taskId, out = some answer ∧ answer.body.bind (·.taskId) = some taskId ∧ answer.status < 400 ∧
        w.answered key out = w.note (.accepted key taskId) := by
  unfold World.answered
  split
  · next answer =>
    split
    · next taskId named =>
      split
      · next fine => exact .inr ⟨answer, taskId, rfl, named, fine, rfl⟩
      · exact .inl rfl
    · exact .inl rfl
  · exact .inl rfl

lemma Later.note (w : World) (event : Event) : Later w (w.note event) := ⟨fun _ => id, fun _ _ found _ => found⟩

variable {out : Option Answer}

lemma Handles.status_same (handles : Handles env (submitStatus key) w out w') : w' = w := by
  have path := (handles.sure (submitStatus_sure env)).1
  clear handles
  induction path with
  | refl => rfl
  | tail _ last ih => exact last ▸ ih

lemma Handles.aborts (handles : Handles env (abortSubmittedTask key) w out w') :
    ReflTransGen (Move env key .notJson) w w' := (handles.sure (abortSubmittedTask_sure env)).1

lemma Handles.submits (handles : Handles env (proxySubmit key request) w out w') (sound : Sound w) :
    ReflTransGen (Move env key request) w w' ∧ ∀ answer, out = some answer → answer.Honest key w' :=
  handles.sure ((proxySubmit_sure env sound request).mono (fun _ _ => id) (fun _ _ _ h => h)
    fun failure _ _ _ => .of_none failure.answer_taskId)

lemma EngineCall.Run.later {call : EngineCall} {reply : call.Reply} (ran : EngineCall.Run env call w reply w')
    (sound : Sound w) : Sound w' ∧ Later w w' := by
  cases ran with
  | submit key request _ w₁ out _ handles arrives =>
    obtain ⟨sound, later⟩ := moves_sound (handles.submits sound).1 sound
    obtain same | ⟨answer, taskId, -, -, -, noted⟩ := World.answered_cases w₁ (strip key) out
    · rw [same]
      exact ⟨sound, later⟩
    · rw [noted]
      exact ⟨sound.note trivial, trans_of Later later (.note w₁ _)⟩
  | status key _ _ out _ handles arrives =>
    obtain rfl := handles.status_same
    exact ⟨sound, refl_of Later w'⟩

/-! ## Engines -/

lemma submitTask_sure {M : Machine EngineCall EngineCall.Reply World} (P : World → String → Prop)
    (stable : ∀ w w' taskId, Later w w' → P w taskId → P w' taskId) (untorn : ∀ c w w', ¬ M.torn c w w')
    (submits : ∀ w w' request answer taskId, M.run (.submit key request) w (some answer) w' → answer.status < 400 →
      answer.body.bind (·.taskId) = some taskId → P w' taskId)
    (tells : ∀ w w' answer taskId, M.run (.status key) w (some answer) w' → answer.body.bind (·.taskId) = some taskId →
      P w' taskId) (request : Request) (w : World) :
    (submitTask key request).Sure M Later (fun _ _ => True) (fun made _ w' => ∀ taskId, made = some taskId → P w' taskId)
      (fun _ _ _ => True) () w := by
  have reconcile : ∀ w, (reconcileSubmit key).Sure M Later (fun _ _ => True)
      (fun made _ w' => ∀ taskId, made = some taskId → P w' taskId) (fun _ _ _ => True) () w := by
    intro w
    unfold reconcileSubmit
    by_cases empty : key = ""
    · simp [empty]
    simp only [empty, if_false, Script.sure_bind]
    refine (Script.sure_ask _).2 fun w₁ _ => ⟨fun w₂ torn => absurd torn (untorn _ w₁ w₂), fun reply w₂ ran => ?_⟩
    refine ⟨trivial, fun w₃ later => ?_⟩
    cases reply with
    | none => simp
    | some response =>
      by_cases fine : response.status = 200
      · cases body : response.body with
        | none => simp [fine, body]
        | some body' =>
          by_cases submitted : body'.state = some "submitted"
          · simp only [fine, body, submitted, ne_eq, not_true_eq_false, if_false]
            refine (Script.sure_pure _).2 fun w₄ later' taskId named => ?_
            have told : response.body.bind (·.taskId) = some taskId := by
              simpa [body] using (Option.filter_eq_some_iff.1 named).1
            exact stable w₂ w₄ taskId (trans_of Later later later') (tells w₁ w₂ response taskId ran told)
          · simp [fine, body, submitted]
      · simp [fine]
  unfold submitTask
  rw [Script.sure_bind]
  refine (Script.sure_ask _).2 fun w₁ _ => ⟨fun w₂ torn => absurd torn (untorn _ w₁ w₂), fun reply w₂ ran => ?_⟩
  refine ⟨trivial, fun w₃ later => ?_⟩
  cases reply with
  | none =>
    simp only [Script.sure_bind]
    refine (reconcile w₃).mono (fun _ _ => id) ?_ (by simp)
    intro made _ w₄ resolved
    cases made with
    | none => simp
    | some taskId =>
      refine (Script.sure_pure _).2 fun w₅ later' id same => ?_
      exact stable w₄ w₅ id later' (resolved id same)
  | some submit =>
    by_cases busy : submit.status = 409 ∧ key ≠ ""
    · simp only [busy, ne_eq, not_false_eq_true, and_self, if_true, Script.sure_bind]
      refine (reconcile w₃).mono (fun _ _ => id) ?_ (by simp)
      intro made _ w₄ resolved
      cases made with
      | none => simp
      | some taskId =>
        refine (Script.sure_pure _).2 fun w₅ later' id same => ?_
        exact stable w₄ w₅ id later' (resolved id same)
    by_cases failed : 400 ≤ submit.status
    · simp [busy, failed]
    simp only [busy, failed, if_false]
    refine (Script.sure_pure _).2 fun w₄ later' taskId named => ?_
    have told := (Option.filter_eq_some_iff.1 named).1
    exact stable w₂ w₄ taskId (trans_of Later later later') (submits w₁ w₂ request submit taskId ran (Nat.not_le.1 failed) told)

/-! ## The system -/

lemma Step.later {s s' : System} {act : Act} (step : Step env s act s') (sound : Sound s.world) :
    Sound s'.world ∧ Later s.world s'.world := by
  cases step with
  | begins => exact ⟨sound, refl_of Later _⟩
  | asks w w' before after key call reply next ran => exact ran.later sound
  | polls w before after key taskId => exact ⟨sound.note trivial, .note w _⟩
  | ends => exact ⟨sound, refl_of Later _⟩
  | status _ key out w' handles =>
    obtain rfl := handles.status_same
    exact ⟨sound, refl_of Later _⟩
  | abort _ key out w' handles => exact moves_sound handles.aborts sound
  | delete _ taskId reply w' ran =>
    have move : Move env "" .notJson s.world w' := (Call.Run.deleted_stops ran).move
    exact ⟨move.sound sound, move.later⟩
  | stops _ taskId =>
    have move : Move env "" .notJson s.world _ := .stops s.world taskId
    exact ⟨move.sound sound, move.later⟩

/-- The engine's calls, in a system that is sound and where the step meets the condition. -/
def engineWhere (env : Env) (cond : System → Act → System → Prop) : Machine EngineCall EngineCall.Reply World where
  run c w reply w' := Sound w ∧ EngineCall.Run env c w reply w' ∧
    ∃ engines engines', cond ⟨w, engines⟩ (.asks c) ⟨w', engines'⟩

/-- What holds of a system where an engine that returns a task has seen `P` of it. -/
structure Answered (env : Env) (cond : System → Act → System → Prop) (P : String → World → String → Prop) (s : System) :
    Prop where
  sound : Sound s.world
  engines : ∀ engine ∈ s.engines, engine.program.Sure (engineWhere env cond) Later (fun _ _ => True)
    (Script.Ends (fun made _ w => ∀ taskId, made = some taskId → P engine.key w taskId) fun _ _ _ => True) s.world
  polled : ∀ key taskId, .polls key taskId ∈ s.world.log → P key s.world taskId

/-- An event of an answer. -/
def Event.Late : Event → Prop
  | .accepted _ _ | .polls _ _ => True
  | _ => False

variable {event : Event}

lemma Event.Late.mem {noted : Event} {log : List Event} (late : event.Late) (early : ¬ noted.Late)
    (mem : event ∈ noted :: log) : event ∈ log := by
  obtain rfl | mem := List.mem_cons.1 mem
  · exact absurd late early
  · exact mem

lemma Move.late (late : event.Late) (move : Move env key request w w') (mem : event ∈ w'.log) :
    event ∈ w.log := by
  cases move with
  | post w₁ made refused _ creates _ =>
    have mem := late.mem id mem
    cases creates <;> exact mem
  | stage taskId marker voices failed _ _ _ =>
    cases failed with
    | false => exact mem
    | true => exact late.mem id mem
  | aborts taskId _ => exact late.mem id mem
  | _ => exact mem

lemma moves_late (late : event.Late) (moves : ReflTransGen (Move env key request) w w')
    (mem : event ∈ w'.log) : event ∈ w.log := by
  induction moves with
  | refl => exact mem
  | tail _ last ih => exact ih (last.late late mem)

lemma Step.late {s s' : System} {act : Act} (step : Step env s act s') (sound : Sound s.world)
    (late : event.Late) (mem : event ∈ s'.world.log) :
    event ∈ s.world.log ∨ (∃ key taskId, event = .polls key taskId ∧ act = .polls key taskId) ∨
      ∃ key taskId, event = .accepted key taskId ∧ (SubmitKey key → Staged s'.world key taskId) := by
  cases step with
  | begins => exact .inl mem
  | asks w w' before after key call reply next ran =>
    cases ran with
    | submit key request _ w₁ out _ handles arrives =>
      obtain ⟨path, honest⟩ := handles.submits sound
      obtain same | ⟨answer, taskId, rfl, named, fine, noted⟩ := World.answered_cases w₁ (strip key) out
      · exact .inl (moves_late late path (same ▸ mem))
      · rw [noted] at mem ⊢
        obtain rfl | mem := List.mem_cons.1 mem
        · exact .inr (.inr ⟨strip key, taskId, rfl, fun valid => honest answer rfl valid taskId named fine⟩)
        · exact .inl (moves_late late path mem)
    | status key _ _ out _ handles arrives =>
      obtain rfl := handles.status_same
      exact .inl mem
  | polls w before after key id =>
    obtain rfl | mem := List.mem_cons.1 mem
    · exact .inr (.inl ⟨key, id, rfl, rfl⟩)
    · exact .inl mem
  | ends => exact .inl mem
  | status _ key out w' handles =>
    obtain rfl := handles.status_same
    exact .inl mem
  | abort _ key out w' handles =>
    exact .inl (moves_late late handles.aborts mem)
  | delete _ id reply w' ran =>
    have move : Move env "" .notJson s.world w' := (Call.Run.deleted_stops ran).move
    exact .inl (move.late late mem)
  | stops _ id => exact .inl mem

lemma Answered.step {cond : System → Act → System → Prop} {P : String → World → String → Prop} {s s' : System} {act : Act}
    (stable : ∀ key w w' taskId, Later w w' → P key w taskId → P key w' taskId)
    (submits : ∀ key w w' request answer taskId, (engineWhere env cond).run (.submit key request) w (some answer) w' →
      answer.status < 400 → answer.body.bind (·.taskId) = some taskId → P key w' taskId)
    (tells : ∀ key w w' answer taskId, (engineWhere env cond).run (.status key) w (some answer) w' →
      answer.body.bind (·.taskId) = some taskId → P key w' taskId)
    (answered : Answered env cond P s) (step : Step env s act s') (met : cond s act s') : Answered env cond P s' := by
  obtain ⟨sound', later⟩ := step.later answered.sound
  have others : ∀ engine ∈ s.engines, engine.program.Sure (engineWhere env cond) Later (fun _ _ => True)
      (Script.Ends (fun made _ w => ∀ taskId, made = some taskId → P engine.key w taskId) fun _ _ _ => True) s'.world :=
    fun engine mem => (answered.engines engine mem).later later
  refine ⟨sound', ?_, ?_⟩
  · cases step with
    | begins _ key request =>
      intro engine mem
      obtain rfl | mem := List.mem_cons.1 mem
      · exact Script.sure_iff.1 (submitTask_sure (P key) (stable key) (fun _ _ _ => id) (submits key) (tells key) request _)
      · exact others engine mem
    | asks w w' before after key call reply next ran =>
      intro engine mem
      have now := answered.engines ⟨key, .call call next⟩ (by simp)
      obtain mem | rfl | mem := by simpa using mem
      · exact others engine (by simp [mem])
      · exact ((now w (refl_of Later w)).2 reply w' ⟨answered.sound, ran, _, _, met⟩).2
      · exact others engine (by simp [mem])
    | polls w before after key id =>
      intro engine mem
      refine others engine ?_
      obtain mem | mem := List.mem_append.1 mem <;> simp [mem]
    | ends w before after engine' =>
      intro engine mem
      refine others engine ?_
      obtain mem | mem := List.mem_append.1 mem <;> simp [mem]
    | status | abort | delete | stops => exact others
  · intro key taskId mem
    have late : (Event.polls key taskId).Late := trivial
    obtain before | ⟨key', id, same, rfl⟩ | ⟨key', id, same, -⟩ := step.late answered.sound late mem
    · exact stable key _ _ taskId later (answered.polled key taskId before)
    · cases same
      cases step with
      | polls w before after =>
        have done := answered.engines ⟨key, .done (.ok (some taskId), ())⟩ (by simp)
        exact done _ later taskId rfl
    · cases same

end Vertep.MoneyPrinter
