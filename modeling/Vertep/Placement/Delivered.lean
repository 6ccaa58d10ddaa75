import Vertep.Placement.Runtime

/-!
# Commands are neither lost nor misattributed (`core/pull_executor.py`)

What every call keeps of the world where it is orderly, then what the scripts keep and return, then the runs.
-/

namespace Vertep.Placement
open Lib Vertep.Operations

variable {env : Env} {w w' : World} {operationId nodeName : String}

/-! ## What holds of every world -/

/-- The node holds the command of an operation, and has not acknowledged it. -/
def World.Holds (w : World) (operationId : String) (request : Request) (nodeName : String) : Prop :=
  ∃ worker command, w.workers.get? nodeName = some worker ∧ worker.modelCommand = some command ∧
    command.operationId = operationId ∧ command.model = request.model ∧
      (command.action = request.action ∨ command.action = .cancel ∧ operationId ∈ w.cancelling) ∧
        worker.modelCommandAck ≠ some operationId

/-- An operation that waits is the command of the worker it was placed on. -/
structure World.Sound (w : World) : Prop where
  known : ∀ operationId, w.store.operations.get? operationId = none ↔ w.requests.get? operationId = none
  ids : ∀ operationId op, w.store.operations.get? operationId = some op →
    op.operationId = operationId ∧ WellFormedId operationId
  holds : ∀ operationId request nodeName, w.requests.get? operationId = some request → request.node = some nodeName →
    w.Waits operationId → operationId ∉ w.placing → w.Holds operationId request nodeName
  reported : w.misattributed = []

/-- What a script may do, and what the others may. -/
structure Within (w w' : World) : Prop where
  sound : w.Sound → w'.Sound
  grows : ∀ operationId request, w.requests.get? operationId = some request → w'.requests.get? operationId = some request
  nodes : ∀ nodeName, w.workers.get? nodeName ≠ none → w'.workers.get? nodeName ≠ none

instance : Std.Refl Within := ⟨fun _ => ⟨id, fun _ _ => id, fun _ => id⟩⟩

instance : IsTrans World Within where
  trans _ _ _ first next :=
    ⟨next.sound ∘ first.sound, fun id request => next.grows id request ∘ first.grows id request,
      fun node => next.nodes node ∘ first.nodes node⟩

/-! ## Sections -/

/-- What a section makes of the operations. -/
structure Kept (ops ops' : Operations) : Prop where
  known : ∀ id, ops'.get? id = none ↔ ops.get? id = none
  ids : ∀ id op', ops'.get? id = some op' → ∃ op, ops.get? id = some op ∧ op'.operationId = op.operationId ∧
    (op'.status.Live → op.status.Live)

lemma Kept.refl (ops : Operations) : Kept ops ops := ⟨fun _ => Iff.rfl, fun _ op found => ⟨op, found, rfl, id⟩⟩

lemma Kept.set {ops : Operations} {op op' : Operation} (found : ops.get? operationId = some op)
    (same : op'.operationId = op.operationId) (live : op'.status.Live → op.status.Live) :
    Kept ops (ops.set operationId op') := by
  refine ⟨fun id => ?_, fun id op'' there => ?_⟩
  · rw [Dict.get?_set]
    split
    · next eq => simp [← eq, found]
    · exact Iff.rfl
  · rw [Dict.get?_set] at there
    split at there
    · next eq =>
      cases there
      exact ⟨op, eq ▸ found, same, live⟩
    · exact ⟨op'', there, rfl, fun live => live⟩

/-- What a writer does, which changes the operation `operationId` at most. -/
lemma wrote_kept {s : Store} {may : OperationStatus → Prop} [DecidablePred may] {f : Operation → Operation}
    (same : ∀ op, (f op).operationId = op.operationId)
    (live : ∀ op, may op.status → (f op).status.Live → op.status.Live) :
    Kept s.operations (s.wrote (change operationId may f s.operations)).2.operations ∧
      ∀ id, id ≠ operationId →
        (s.wrote (change operationId may f s.operations)).2.operations.get? id = s.operations.get? id := by
  unfold Vertep.Operations.change
  cases found : s.operations.get? operationId with
  | none => exact ⟨.refl _, fun _ _ => rfl⟩
  | some op =>
    by_cases allowed : may op.status
    · simp only [allowed, if_true]
      exact ⟨.set found (same op) (live op allowed), fun id ne => (Dict.get?_set _ _ _ _).trans (if_neg (Ne.symm ne))⟩
    · simp only [allowed, if_false]
      exact ⟨.refl _, fun _ _ => rfl⟩

lemma finished_not_live {status : OperationStatus} {P : Prop} (finished : status.Terminal) (live : status.Live) : P :=
  absurd finished live.not_terminal

variable {sec : Section}

lemma Section.Of.kept (of : Section.Of operationId sec) (env : Operations.Env) (s : Store) :
    Kept s.operations (sec.run env s).2.operations ∧
      ∀ id, id ≠ operationId → (sec.run env s).2.operations.get? id = s.operations.get? id := by
  cases of with
  | get | setError | popError => exact ⟨.refl _, fun _ _ => rfl⟩
  | begin phase now => exact wrote_kept (fun _ => rfl) fun op live _ => live
  | advance phase progress message => exact wrote_kept (fun _ => rfl) fun op _ => id
  | complete result now | fail error now | cancel reason now =>
    exact wrote_kept (fun _ => rfl) fun op _ => finished_not_live trivial

lemma World.Sound.store (sound : w.Sound) {store : Store} (kept : Kept w.store.operations store.operations) :
    ({ w with store := store } : World).Sound := by
  refine ⟨fun id => (kept.known id).trans (sound.known id), fun id op found => ?_, fun id request node asked at_ waits new => ?_,
    sound.reported⟩
  · obtain ⟨old, there, same, _⟩ := kept.ids id op found
    exact ⟨same.trans (sound.ids id old there).1, (sound.ids id old there).2⟩
  · obtain ⟨⟨op, found, live⟩, unacknowledged⟩ := waits
    obtain ⟨old, there, _, before⟩ := kept.ids id op found
    exact sound.holds id request node asked at_ ⟨⟨old, there, before live⟩, unacknowledged⟩ new

lemma section_within (of : Section.Of operationId sec) :
    Within w { w with store := (sec.run env.toEnv w.store).2 } :=
  ⟨fun sound => sound.store (of.kept _ _).1, fun _ _ => id, fun _ => id⟩

def World.Mine (w : World) (nodeName operationId : String) : Prop :=
  ∃ request, w.requests.get? operationId = some request ∧ request.node = some nodeName

lemma report_within (of : Section.Of operationId sec)
    (mine : w.Mine nodeName operationId ∨ (sec.run env.toEnv w.store).2.operations = w.store.operations) :
    Within w
      { w with
        store := (sec.run env.toEnv w.store).2
        misattributed := w.foreign nodeName (sec.run env.toEnv w.store).2 ++ w.misattributed } := by
  have own : w.foreign nodeName (sec.run env.toEnv w.store).2 = [] := by
    refine List.filter_eq_nil_iff.2 fun id _ => ?_
    simp only [decide_eq_true_eq, not_and, not_not]
    intro changed
    obtain ⟨request, asked, at_⟩ | same := mine
    · by_cases eq : id = operationId
      · rw [eq, asked]
        exact at_
      · exact absurd (congrArg _ ((of.kept _ _).2 id eq)) changed
    · exact absurd (congrArg (fun ops : Operations => (ops.get? id).map Operation.status) same) changed
  refine ⟨fun sound => ?_, fun _ _ => id, fun _ => id⟩
  have stored := sound.store (of.kept env.toEnv w.store).1
  exact ⟨stored.known, stored.ids, stored.holds, by rw [own]; exact sound.reported⟩

/-! ## The commands -/

lemma World.get?_change (w : World) (nodeName other : String) (f : Worker → Worker) :
    (w.change nodeName f).workers.get? other =
      (w.workers.get? other).map fun worker => if other = nodeName then f worker else worker :=
  Dict.get?_map _ _ _

lemma nodes_change {other : String} {f : Worker → Worker} (there : w.workers.get? other ≠ none) :
    (w.change nodeName f).workers.get? other ≠ none := by
  rw [World.get?_change]
  simpa using there

lemma World.Holds.same {request : Request} (holds : w.Holds operationId request nodeName)
    (kept : ∀ worker, w.workers.get? nodeName = some worker → ∃ worker', w'.workers.get? nodeName = some worker' ∧
      worker'.modelCommand = worker.modelCommand ∧ worker'.modelCommandAck = worker.modelCommandAck)
    (cancelling : operationId ∈ w.cancelling → operationId ∈ w'.cancelling) : w'.Holds operationId request nodeName := by
  obtain ⟨worker, command, found, there, id, model, action, ack⟩ := holds
  obtain ⟨worker', found', same, sameAck⟩ := kept worker found
  refine ⟨worker', command, found', same.trans there, id, model, action.imp_right fun cancel => ?_, sameAck ▸ ack⟩
  exact ⟨cancel.1, cancelling cancel.2⟩

lemma World.Holds.other {request : Request} {f : Worker → Worker} {other : String}
    (holds : w.Holds operationId request nodeName) (ne : nodeName ≠ other)
    (workers : w'.workers = (w.change other f).workers)
    (cancelling : operationId ∈ w.cancelling → operationId ∈ w'.cancelling) : w'.Holds operationId request nodeName := by
  refine holds.same (fun worker found => ⟨worker, ?_, rfl, rfl⟩) cancelling
  rw [workers, World.get?_change, found]
  simp [ne]

lemma World.Holds.not_free {request : Request} {own : Option String} (holds : w.Holds operationId request nodeName)
    (free : w.Free nodeName own) (waits : w.Waits operationId) : own = some operationId := by
  obtain ⟨worker, command, found, there, id, _⟩ := holds
  by_contra ne
  exact free worker command found there (id ▸ ne) (id ▸ waits)

lemma clear_within (free : w.Free nodeName none) : Within w (w.change nodeName Worker.clear) := by
  refine ⟨fun sound => ⟨sound.known, sound.ids, fun id request node asked at_ waits new => ?_, sound.reported⟩, fun _ _ => id,
    fun _ => nodes_change⟩
  have holds := sound.holds id request node asked at_ waits new
  by_cases here : node = nodeName
  · cases (here ▸ holds).not_free free waits
  · exact holds.other here rfl fun mem => mem

lemma acknowledge_within : Within w
    { w.change nodeName (Worker.acknowledge operationId) with acknowledged := operationId :: w.acknowledged } := by
  refine ⟨fun sound => ⟨sound.known, sound.ids, fun id request node asked at_ waits new => ?_, sound.reported⟩, fun _ _ => id,
    fun _ => nodes_change⟩
  have unacknowledged := waits.2
  simp only [List.mem_cons, not_or] at unacknowledged
  have holds := sound.holds id request node asked at_ ⟨waits.1, unacknowledged.2⟩ new
  by_cases here : node = nodeName
  · subst here
    obtain ⟨worker, command, found, there, same, model, action, _⟩ := holds
    refine ⟨worker.acknowledge operationId, command, ?_, there, same, model, action, ?_⟩
    · exact (World.get?_change _ _ _ _).trans (by simp [found])
    · exact fun eq => unacknowledged.1 (Option.some.inj eq).symm
  · exact holds.other here rfl fun mem => mem

lemma override_within (free : w.Free nodeName (some operationId)) : Within w
    { w.change nodeName Worker.cancel with cancelling := operationId :: w.cancelling } := by
  refine ⟨fun sound => ⟨sound.known, sound.ids, fun id request node asked at_ waits new => ?_, sound.reported⟩, fun _ _ => id,
    fun _ => nodes_change⟩
  have holds := sound.holds id request node asked at_ waits new
  by_cases here : node = nodeName
  · subst here
    have own := Option.some.inj (holds.not_free free waits)
    obtain ⟨worker, command, found, there, same, model, _, ack⟩ := holds
    refine ⟨worker.cancel, { command with action := .cancel }, ?_, by simp [Worker.cancel, there], same, model, ?_, ack⟩
    · exact (World.get?_change _ _ _ _).trans (by simp [found])
    · exact .inr ⟨rfl, by simp [own]⟩
  · exact holds.other here rfl (List.mem_cons_of_mem _)

lemma issue_within {command : Command} {request : Request}
    (asked : w.requests.get? command.operationId = some request) (at_ : request.node = some nodeName)
    (model : command.model = request.model) (action : command.action = request.action)
    (there : w.workers.get? nodeName ≠ none) (free : w.Free nodeName (some command.operationId)) : Within w
      { w.change nodeName (Worker.issue command) with placing := w.placing.filter (· ≠ command.operationId) } := by
  refine ⟨fun sound => ⟨sound.known, sound.ids, fun id request' node asked' at_' waits new => ?_, sound.reported⟩, fun _ _ => id,
    fun _ => nodes_change⟩
  by_cases own : id = command.operationId
  · subst own
    cases asked.symm.trans asked'
    cases at_.symm.trans at_'
    obtain ⟨worker, found⟩ := Option.ne_none_iff_exists'.1 there
    refine ⟨worker.issue command, command, ?_, rfl, rfl, model, .inl action, by simp [Worker.issue]⟩
    exact (World.get?_change _ _ _ _).trans (by simp [found])
  · have before : id ∉ w.placing := fun mem => new (by simp [mem, own])
    have holds := sound.holds id request' node asked' at_' waits before
    by_cases here : node = nodeName
    · cases own (Option.some.inj ((here ▸ holds).not_free free waits)).symm
    · exact holds.other here rfl fun mem => mem

lemma noNode_within {waiting : Option String} (gone : ∀ id, waiting = some id → ¬ w.Waits id) :
    Within w { w with placing := w.placing.filter (waiting ≠ some ·) } := by
  refine ⟨fun sound => ⟨sound.known, sound.ids, fun id request node asked at_ waits new => ?_, sound.reported⟩,
    fun _ _ => id, fun _ => id⟩
  refine sound.holds id request node asked at_ waits fun mem => ?_
  refine gone id (by_contra fun ne => new ?_) waits
  simp [mem, ne]

/-! ## Creations -/

variable {request : Request} {requestedBy now : String}

/-- What `get_or_create_operation` returns: a new operation, or an active one for the same key, or type and target. -/
lemma creation_spec (request : Request) (operationId requestedBy now : String) (env : Operations.Env) (s : Store) :
    (∃ op : Operation, ((request.creation operationId requestedBy now).run env s).1 = .ok (op, true) ∧
      op.operationId = operationId ∧
        ((request.creation operationId requestedBy now).run env s).2.operations = s.operations.set operationId op) ∨
    ∃ op ∈ s.operations.values, op.Answers (some request.type) (some request.target) (some request.key) ∧
      ((request.creation operationId requestedBy now).run env s).1 = .ok (op, false) := by
  simp only [Request.creation, Section.run, getOrCreateOperation]
  cases found : s.operations.values.find? fun op =>
      decide (op.Answers (some request.type) (some request.target) (some request.key)) with
  | none => exact .inl ⟨_, rfl, rfl, rfl⟩
  | some op => exact .inr ⟨op, List.mem_of_find?_eq_some found, by simpa using List.find?_some found, rfl⟩

lemma create_within {op : Operation} (fresh : w.store.operations.get? operationId = none)
    (formed : WellFormedId operationId)
    (created : ((request.creation operationId requestedBy now).run env.toEnv w.store).1 = .ok (op, true)) (sound : w.Sound) :
    Within w (w.create request operationId ((request.creation operationId requestedBy now).run env.toEnv w.store).2) ∧
      op.operationId = operationId := by
  obtain ⟨op', made, id, stored⟩ | ⟨op', _, _, old⟩ := creation_spec request operationId requestedBy now
    env.toEnv w.store
  · cases made.symm.trans created
    generalize ((request.creation operationId requestedBy now).run env.toEnv w.store).2 = store at stored
    have unasked := (sound.known operationId).1 fresh
    refine ⟨⟨fun _ => ⟨fun key => ?_, fun key op' found => ?_, fun key request' node asked at_ waits new => ?_,
      sound.reported⟩, fun key request' asked => ?_, fun _ there => there⟩, id⟩
    · simp only [World.create, stored, Dict.get?_set]
      split
      · simp
      · exact sound.known key
    · simp only [World.create, stored, Dict.get?_set] at found
      split at found
      · next eq =>
        cases found
        exact ⟨id.trans eq, eq ▸ formed⟩
      · exact sound.ids key op' found
    · simp only [World.create, Dict.get?_set] at asked
      split at asked
      · next eq =>
        cases asked
        exact absurd (by simp [World.create, at_, eq]) new
      · next ne =>
        obtain ⟨⟨op', found, live⟩, unacknowledged⟩ := waits
        simp only [World.create, stored, Dict.get?_set, if_neg ne] at found
        have before : key ∉ w.placing := fun mem => new (by
          simp only [World.create]
          split <;> simp [mem])
        exact sound.holds key request' node asked at_ ⟨⟨op', found, live⟩, unacknowledged⟩ before
    · refine (Dict.get?_set _ _ _ _).trans ?_
      split
      · next eq => cases unasked.symm.trans (eq ▸ asked)
      · exact asked
  · cases old.symm.trans created

lemma found_spec {op : Operation}
    (found : ((request.creation operationId requestedBy now).run env.toEnv w.store).1 = .ok (op, false)) (sound : w.Sound)
    (clear : ∀ operationId op, w.store.operations.get? operationId = some op →
      op.Answers (some request.type) (some request.target) (some request.key) →
      w.requests.get? operationId = some request) : w.requests.get? op.operationId = some request := by
  obtain ⟨op', made, _⟩ | ⟨op', mem, answers, old⟩ := creation_spec request operationId requestedBy now
    env.toEnv w.store
  · cases made.symm.trans found
  · cases old.symm.trans found
    obtain ⟨key, there⟩ := Dict.mem_values_iff.1 mem
    exact (sound.ids key op there).1 ▸ clear key op there answers

/-! ## Scripts -/

/-- A script keeps to what it may do, and returns with `Q`. -/
abbrev Keeps (env : Env) {α : Type} (m : Thread α) (Q : α → World → Prop) (w : World) : Prop :=
  m.Sure (orderly env) Within Within (fun a _ => Q a) (fun _ _ _ => True) () w

def Stable (G : World → Prop) : Prop := ∀ w w', Within w w' → G w → G w'

lemma stable_asked (operationId : String) (request : Request) :
    Stable fun w => w.requests.get? operationId = some request :=
  fun _ _ within => within.grows operationId request

lemma stable_mine (nodeName operationId : String) : Stable fun w => w.Mine nodeName operationId :=
  fun _ _ within ⟨request, asked, at_⟩ => ⟨request, within.grows operationId request asked, at_⟩

lemma Stable.and {G H : World → Prop} (first : Stable G) (second : Stable H) : Stable fun w => G w ∧ H w :=
  fun w w' within ⟨g, h⟩ => ⟨first w w' within g, second w w' within h⟩

lemma stable_true : Stable fun _ => True := fun _ _ _ => id

section
variable {α β : Type} {G : World → Prop} {Q : β → World → Prop}

lemma ask_bind {c : Call} {H : c.Reply → World → Prop} {f : c.Reply → Thread β} (stable : Stable G)
    (stable' : ∀ r, Stable (H r)) (sound : w.Sound) (holds : G w)
    (run : ∀ w r w', w.Sound → G w → Call.Run env c w r w' → c.Orderly env w → Within w w' ∧ H r w')
    (next : ∀ r w', w'.Sound → H r w' → Keeps env (f r) Q w') : Keeps env (ask c >>= f) Q w := by
  refine (Script.sure_bind _ _).2 ((Script.sure_ask c).2 fun w₁ later => ⟨fun _ torn => torn.elim, fun r w₂ ran => ?_⟩)
  obtain ⟨within, known⟩ := run w₁ r w₂ (later.sound sound) (stable w w₁ later holds) ran.1 ran.2
  refine ⟨within, fun w₃ later₃ => ?_⟩
  exact next r w₃ (later₃.sound (within.sound (later.sound sound))) (stable' r w₂ w₃ later₃ known)

lemma call_bind {c : Call} {f : c.Reply → Thread β} (stable : Stable G) (sound : w.Sound) (holds : G w)
    (run : ∀ w r w', w.Sound → G w → Call.Run env c w r w' → c.Orderly env w → Within w w')
    (next : ∀ r w', w'.Sound → G w' → Keeps env (f r) Q w') : Keeps env (ask c >>= f) Q w := by
  refine ask_bind (H := fun _ => G) stable (fun _ => stable) sound holds (fun w r w' sound holds ran fine => ?_) next
  have within := run w r w' sound holds ran fine
  exact ⟨within, stable w w' within holds⟩

lemma require_bind {reply : Except Failure α} {f : α → Thread β} (stable : Stable G) (sound : w.Sound) (holds : G w)
    (next : ∀ a w', reply = .ok a → w'.Sound → G w' → Keeps env (f a) Q w') :
    Keeps env (Script.require reply >>= f) Q w := by
  refine (Script.sure_bind _ _).2 ((Script.sure_require _).2 ⟨fun a same w₁ later => ?_, by simp⟩)
  exact next a w₁ same (later.sound sound) (stable w w₁ later holds)

lemma operated_bind {reply : Except Operations.Failure α} {f : α → Thread β} (stable : Stable G) (sound : w.Sound)
    (holds : G w) (next : ∀ a w', reply = .ok a → w'.Sound → G w' → Keeps env (f a) Q w') :
    Keeps env (operated reply >>= f) Q w := by
  refine require_bind stable sound holds fun a w' same => next a w' ?_
  cases reply with
  | error => cases same
  | ok b => exact congrArg Except.ok (Except.ok.inj same)

lemma placed_bind {reply : Except PlacementError Unit} {f : Unit → Thread β} (stable : Stable G) (sound : w.Sound)
    (holds : G w) (next : ∀ a w', reply = .ok () → w'.Sound → G w' → Keeps env (f a) Q w') :
    Keeps env (placed reply >>= f) Q w := by
  refine require_bind stable sound holds fun a w' same => next a w' ?_
  cases reply with
  | error => cases same
  | ok b => rfl

lemma keeps_pure {a : α} {Q : α → World → Prop} (stable : Stable (Q a)) (holds : Q a w) : Keeps env (pure a) Q w :=
  (Script.sure_pure a).2 fun w' later => stable w w' later holds

lemma keeps_bind {Q' : α → World → Prop} {m : Thread α} {f : α → Thread β}
    (first : Keeps env m Q' w) (next : ∀ a w', Q' a w' → Keeps env (f a) Q w') : Keeps env (m >>= f) Q w :=
  (Script.sure_bind _ _).2 (first.mono (fun _ _ => id) (fun a _ w' known => next a w' known) (by simp))

lemma keeps_raise {failure : Failure} : Keeps env (Script.raise failure : Thread β) Q w :=
  (Script.sure_raise _).2 (by simp)

end

lemma run_section (of : Section.Of operationId sec) {r : sec.Reply}
    (ran : Call.Run env (.section sec) w r w') : Within w w' := by
  cases ran
  exact section_within of

/-! ## `start_pull` and `start_delete` -/

def For (request : Request) (operation : Operation) (w : World) : Prop :=
  w.requests.get? operation.operationId = some request

/-- What is known once `_node_or_raise` has passed. -/
lemma node_passed {clock : ℤ} {workers : Dict String Worker} (passed : nodeOrRaise env workers nodeName clock = .ok ()) :
    workers.get? nodeName ≠ none := by
  intro missing
  simp [nodeOrRaise, missing] at passed

lemma issueCommand_keeps {command : Command} (clock : ℤ) (sound : w.Sound)
    (asked : w.requests.get? command.operationId = some request) (at_ : request.node = some nodeName)
    (model : command.model = request.model) (action : command.action = request.action) :
    Keeps env (issueCommand nodeName command clock)
      (fun _ w => w.Sound ∧ w.requests.get? command.operationId = some request) w := by
  have stable := stable_asked command.operationId request
  have stable' : ∀ r : Except PlacementError Unit, Stable fun w =>
      w.requests.get? command.operationId = some request ∧ (r = .ok () → w.workers.get? nodeName ≠ none) :=
    fun r => stable.and fun w w' within there ok => within.nodes nodeName (there ok)
  refine ask_bind stable stable' sound asked (fun w r w' sound asked ran fine => ?_) fun r w₁ sound known => ?_
  · cases ran with
    | node _ _ _ _ passed => exact ⟨refl_of Within w, asked, fun _ => node_passed passed⟩
    | noNode _ _ _ _ error failed =>
      refine ⟨noNode_within fun id same => ?_, asked, fun ok => by cases ok⟩
      cases same
      exact fine (by simp [failed])
  · refine placed_bind (stable' r) sound known fun _ w₂ passed sound known => ?_
    refine (Script.sure_ask (Call.issue nodeName command)).2 fun w₃ later => ⟨fun _ torn => False.elim torn, fun _ w₄ ran => ?_⟩
    have known := stable' r w₂ w₃ later known
    have within : Within w₃ w₄ := by
      obtain ⟨ran, free⟩ := ran
      cases ran
      exact issue_within known.1 at_ model action (known.2 passed) free
    refine ⟨within, fun w₅ later' => ⟨later'.sound (within.sound (later.sound sound)), ?_⟩⟩
    exact later'.grows _ _ (within.grows _ _ known.1)

lemma checkNode_keeps (clock : ℤ) (sound : w.Sound) :
    Keeps env (checkNode request clock) (fun _ w => w.Sound) w := by
  unfold checkNode
  cases request.node with
  | none => exact keeps_pure (fun _ _ within => within.sound) sound
  | some node =>
    refine call_bind stable_true sound trivial (fun w r w' sound _ ran _ => ?_) fun r w₁ sound _ => ?_
    · cases ran with
      | node => exact refl_of Within w
      | noNode => exact noNode_within fun id same => by cases same
    · refine (Script.sure_require _).2 ⟨fun _ _ w₂ later => later.sound sound, by simp⟩

lemma place_keeps (now : String) (clock : ℤ) (sound : w.Sound) (asked : w.requests.get? operationId = some request) :
    Keeps env (place request operationId now clock)
      (fun _ w => w.Sound ∧ w.requests.get? operationId = some request) w := by
  have stable := stable_asked operationId request
  have stable' : Stable fun w => w.Sound ∧ w.requests.get? operationId = some request :=
    Stable.and (fun _ _ within => within.sound) stable
  unfold place
  cases at_ : request.node with
  | none => exact keeps_pure stable' ⟨sound, asked⟩
  | some node =>
    refine call_bind stable sound asked (fun w r w' _ _ ran _ => run_section (.begin _ _) ran) fun r w₁ sound asked => ?_
    refine operated_bind stable sound asked fun _ w₂ _ sound asked => ?_
    refine issueCommand_keeps clock sound ?_ at_ ?_ ?_
    · exact asked
    · rfl
    · rfl

/-- What `start_pull` and `start_delete` have in common. -/
lemma start_keeps (requestedBy now : String) (clock clock' : ℤ) (sound : w.Sound) :
    Keeps env (start request operationId requestedBy now clock clock') (For request) w := by
  refine keeps_bind (checkNode_keeps clock sound) fun _ w₁ sound => ?_
  have stable : ∀ r : Except Operations.Failure (Operation × Bool), Stable fun w =>
      ∀ op created, r = .ok (op, created) → w.requests.get? op.operationId = some request :=
    fun r w w' within known op created same => within.grows _ _ (known op created same)
  refine ask_bind stable_true stable sound trivial (fun w r w' sound _ ran fine => ?_) fun r w₂ sound known => ?_
  · cases ran with
    | create _ _ _ _ _ op fresh formed created =>
      obtain ⟨within, id⟩ := create_within fresh formed created sound
      refine ⟨within, fun op' flag same => ?_⟩
      cases same
      exact (Dict.get?_set _ _ _ _).trans (if_pos id.symm)
    | found _ _ _ _ _ op there =>
      refine ⟨refl_of Within w, fun op' flag same => ?_⟩
      cases same
      exact found_spec there sound fine
  refine operated_bind (stable r) sound known fun found w₃ same sound known => ?_
  have asked := known found.1 found.2 same
  have stable := stable_asked found.1.operationId request
  cases found.2 with
  | false => exact keeps_pure (Q := For request) stable asked
  | true =>
    refine call_bind stable sound asked (fun w r w' sound asked ran _ => ?_) fun r w₄ sound asked => ?_
    · cases ran <;> exact ⟨fun sound => ⟨sound.known, sound.ids, sound.holds, sound.reported⟩, fun _ _ => id, fun _ => id⟩
    refine operated_bind stable sound asked fun _ w₅ _ sound asked => ?_
    refine keeps_bind (place_keeps now clock' sound asked) fun _ w₆ known => ?_
    have stable' : ∀ r : Option Operation, Stable fun w => w.requests.get? found.1.operationId = some request ∧
        ∀ op, r = some op → op.operationId = found.1.operationId :=
      fun r => stable.and fun _ _ _ same => same
    refine ask_bind stable stable' known.1 known.2 (fun w r w' sound asked ran _ => ?_) fun r w₇ _ known => ?_
    · refine ⟨run_section .get ran, ?_⟩
      cases ran
      refine ⟨asked, fun op there => ?_⟩
      obtain ⟨_, there⟩ := Option.ite_none_right_eq_some.1 there
      exact (sound.ids _ op there).1
    · refine keeps_pure (Q := For request) (stable_asked _ request) ?_
      cases r with
      | none => exact known.1
      | some op => exact (congrArg w₇.requests.get? (known.2 op rfl)).trans known.1

lemma startDelete_keeps (model requestedBy node operationId now : String) (clock clock' : ℤ) (sound : w.Sound) :
    Keeps env (startDelete model requestedBy node operationId now clock clock')
      (For { type := .modelDelete, node := nodeOf (some node), model := model }) w := by
  unfold startDelete
  cases nodeOf (some node) with
  | none => exact keeps_raise
  | some node => exact start_keeps requestedBy now clock clock' sound

/-! ## `cancel_pull` and `pending_model_command` -/

lemma worker_within (ran : Call.Run env (.worker nodeName) w r w') : Within w w' := by
  cases ran
  exact refl_of Within w

lemma cancelCommand_keeps (operation : Operation) (node : Option String) (sound : w.Sound) :
    Keeps env (cancelCommand operationId operation node) (fun _ w => w.Sound) w := by
  have stable : Stable World.Sound := fun _ _ within => within.sound
  unfold cancelCommand
  split
  · exact keeps_pure stable sound
  · refine call_bind stable_true sound trivial (fun w r w' _ _ ran _ => worker_within ran) fun found w₁ sound _ => ?_
    cases found with
    | none => exact keeps_pure stable sound
    | some worker =>
      simp only
      split
      · refine call_bind stable_true sound trivial (fun w r w' _ _ ran free => ?_) fun r w₂ sound _ => ?_
        · cases ran with
          | «override» => exact override_within free
          | noCommand => exact refl_of Within w
        · exact (Script.sure_require _).2 ⟨fun _ _ w₃ later => later.sound sound, by simp⟩
      · exact keeps_pure stable sound

lemma cancelPull_keeps (reason : Option String) (now : String) (sound : w.Sound) :
    Keeps env (cancelPull operationId reason now) (fun _ _ => True) w := by
  refine call_bind stable_true sound trivial (fun w r w' _ _ ran _ => by cases ran; exact refl_of Within w)
    fun found w₁ sound _ => ?_
  cases found with
  | none => exact keeps_pure stable_true trivial
  | some found =>
    refine keeps_bind (cancelCommand_keeps found.1 found.2 sound) fun _ w₂ sound => ?_
    refine call_bind stable_true sound trivial (fun w r w' _ _ ran _ => run_section (.cancel _ _) ran) fun r w₃ _ _ => ?_
    exact keeps_pure stable_true trivial

lemma clear_last {α : Type} {Q : α → World → Prop} {a : α} (sound : w.Sound) (stable : Stable (Q a))
    (holds : ∀ w, Q a w) : Keeps env (do ask (.clear nodeName); pure a) Q w := by
  refine call_bind stable_true sound trivial (fun w r w' _ _ ran free => ?_) fun r w₁ _ _ => keeps_pure stable (holds w₁)
  cases ran
  exact clear_within free

lemma pendingModelCommand_keeps (sound : w.Sound) :
    Keeps env (pendingModelCommand nodeName) (fun _ _ => True) w := by
  refine call_bind stable_true sound trivial (fun w r w' _ _ ran _ => worker_within ran) fun found w₁ sound _ => ?_
  cases found with
  | none => exact keeps_pure stable_true trivial
  | some worker =>
    simp only
    split
    · exact keeps_pure stable_true trivial
    · next command _ =>
      split
      · exact keeps_pure stable_true trivial
      · refine call_bind stable_true sound trivial (fun w r w' _ _ ran _ => run_section .get ran) fun r w₂ sound _ => ?_
        cases r with
        | none => exact clear_last sound stable_true fun _ => trivial
        | some operation =>
          simp only
          split
          · exact clear_last sound stable_true fun _ => trivial
          · split <;> exact keeps_pure stable_true trivial

/-! ## `ingest_model_progress` -/

lemma acknowledgeCommand_keeps (report : Report) (sound : w.Sound) :
    Keeps env (acknowledgeCommand nodeName report) (fun _ w => w.Sound) w := by
  have stable : Stable World.Sound := fun _ _ within => within.sound
  refine call_bind stable_true sound trivial (fun w r w' _ _ ran _ => worker_within ran) fun found w₁ sound _ => ?_
  cases found with
  | none => exact keeps_pure stable sound
  | some worker =>
    simp only
    split
    · refine call_bind stable_true sound trivial (fun w r w' _ _ ran _ => ?_) fun r w₂ sound _ => ?_
      · cases ran
        exact acknowledge_within
      · split
        · refine (Script.sure_ask (Call.clear nodeName)).2 fun w₃ later => ⟨fun _ torn => False.elim torn, fun r w₄ ran => ?_⟩
          have within : Within w₃ w₄ := by
            obtain ⟨ran, free⟩ := ran
            cases ran
            exact clear_within free
          exact ⟨within, fun w₅ later' => later'.sound (within.sound (later.sound sound))⟩
        · exact keeps_pure stable sound
    · exact keeps_pure stable sound

lemma report_bind {α : Type} {f : sec.Reply → Thread α} {Q : α → World → Prop}
    (of : Section.Of operationId sec) (sound : w.Sound) (mine : w.Mine nodeName operationId)
    (next : ∀ r w', w'.Sound → w'.Mine nodeName operationId → Keeps env (f r) Q w') :
    Keeps env (ask (.report nodeName sec) >>= f) Q w := by
  refine call_bind (stable_mine nodeName operationId) sound mine (fun w r w' _ mine ran _ => ?_) next
  cases ran
  exact report_within of (.inl mine)

lemma report_last (reply : sec.Reply → Except Operations.Failure Operation)
    (of : Section.Of operationId sec) (sound : w.Sound) (mine : w.Mine nodeName operationId) :
    Keeps env (do let _ ← operated (reply (← ask (.report nodeName sec)))) (fun _ w => w.Sound) w := by
  refine report_bind of sound mine fun r w₁ sound mine => ?_
  refine operated_bind stable_true sound trivial fun _ w₂ _ sound _ => ?_
  exact keeps_pure (fun _ _ within => within.sound) sound

lemma settle_keeps (report : Report) (phase now : String) (operation : Operation) (sound : w.Sound)
    (mine : w.Mine nodeName report.operationId) :
    Keeps env (settle nodeName report phase now operation) (fun _ w => w.Sound) w := by
  have stable : Stable World.Sound := fun _ _ within => within.sound
  unfold settle
  split
  · refine report_bind .popError sound mine fun had w₁ sound mine => ?_
    cases had with
    | true => exact report_last id (.fail _ _) sound mine
    | false => exact report_last id (.complete _ _) sound mine
  · split
    · refine report_bind .setError sound mine fun _ w₁ sound mine => ?_
      exact report_last id (.fail _ _) sound mine
    · split
      · refine report_bind .popError sound mine fun _ w₁ sound mine => ?_
        refine report_bind (.cancel _ _) sound mine fun _ w₂ sound _ => ?_
        exact keeps_pure stable sound
      · have notes : Keeps env (noteError nodeName report.operationId (report.error.filter (· ≠ "")))
            (fun _ w => w.Sound ∧ w.Mine nodeName report.operationId) w := by
          have stable' := stable.and (stable_mine nodeName report.operationId)
          unfold noteError
          split
          · refine (Script.sure_ask (Call.report nodeName (.setError report.operationId))).2
              fun w₁ later => ⟨fun _ torn => False.elim torn, fun r w₂ ran => ?_⟩
            have within : Within w₁ w₂ := by
              cases ran.1
              exact report_within .setError (.inr rfl)
            exact ⟨within, fun w₃ later' => stable' _ _ later' (stable' _ _ within (stable' _ _ later ⟨sound, mine⟩))⟩
          · exact keeps_pure stable' ⟨sound, mine⟩
        refine keeps_bind notes fun _ w₁ known => ?_
        exact report_last id (.advance _ _ _) known.1 known.2

lemma applyReport_keeps (report : Report) (now : String) (operation : Operation) (sound : w.Sound)
    (mine : w.Mine nodeName report.operationId) :
    Keeps env (applyReport nodeName report now operation) (fun _ w => w.Sound) w := by
  unfold applyReport
  simp only
  split
  · refine report_bind (.begin _ _) sound mine fun r w₁ sound mine => ?_
    refine operated_bind (stable_mine nodeName report.operationId) sound mine fun _ w₂ _ sound mine => ?_
    exact settle_keeps report _ now operation sound mine
  · exact settle_keeps report _ now operation sound mine

lemma ingestModelProgress_keeps (report : Report) (now : String) (sound : w.Sound) :
    Keeps env (ingestModelProgress nodeName report now) (fun _ _ => True) w := by
  have stable : ∀ r : Option Operation, Stable fun w =>
      ∀ op, r = some op → ¬ op.status.Terminal → w.Mine nodeName report.operationId :=
    fun r w w' within mine op same open_ => stable_mine _ _ w w' within (mine op same open_)
  refine ask_bind stable_true stable sound trivial (fun w r w' sound _ ran fine => ?_) fun found w₁ sound mine => ?_
  · cases ran
    refine ⟨refl_of Within w, fun op same open_ => ?_⟩
    obtain ⟨_, there⟩ := Option.ite_none_right_eq_some.1 same
    obtain ⟨request, asked⟩ := Option.ne_none_iff_exists'.1 fun unasked =>
      absurd (((sound.known _).2 unasked).symm.trans there) (by simp)
    exact ⟨request, asked, fine op request there open_ asked⟩
  · cases found with
    | none => exact keeps_pure stable_true trivial
    | some operation =>
      simp only
      split
      · have mine' := mine operation rfl
        have acks : Keeps env (acknowledgeCommand nodeName report) (fun _ w => w.Sound ∧
            (¬ operation.status.Terminal → w.Mine nodeName report.operationId)) w₁ := by
          have stays : Stable fun w => ¬ operation.status.Terminal → w.Mine nodeName report.operationId :=
            fun w w' within mine open_ => stable_mine _ _ w w' within (mine open_)
          exact ((acknowledgeCommand_keeps report sound).frame stays stays mine').mono (fun _ _ => id)
            (fun _ _ _ known => known) (by simp)
        refine keeps_bind acks fun _ w₂ known => ?_
        split
        · refine call_bind stable_true known.1 trivial (fun w r w' _ _ ran _ => ?_)
            fun r w₃ sound _ => keeps_pure stable_true trivial
          cases ran
          exact report_within .popError (.inr rfl)
        · next open_ =>
          refine keeps_bind (applyReport_keeps report now operation known.1 (known.2 open_)) fun _ w₃ sound => ?_
          refine call_bind stable_true sound trivial (fun w r w' _ _ ran _ => run_section .get ran)
            fun r w₄ sound _ => keeps_pure stable_true trivial
      · exact keeps_pure stable_true trivial

/-! ## Runs -/

/-- What a script returns: a start, an operation for what was asked. -/
def Answer.Right : Answer → World → Prop
  | .started request operation, w => For request operation w
  | _, _ => True

lemma stable_right (answer : Answer) : Stable answer.Right := by
  cases answer with
  | started request operation => exact stable_asked _ request
  | _ => exact stable_true

lemma answered {α : Type} {m : Thread α} {f : α → Answer} {Q : α → World → Prop} (keeps : Keeps env m Q w)
    (right : ∀ a w, Q a w → (f a).Right w) : Keeps env (do let a ← m; pure (f a)) Answer.Right w :=
  keeps_bind keeps fun a w' known => keeps_pure (stable_right (f a)) (right a w' known)

lemma Entry.keeps {script : Thread Answer} (entry : Entry script) (sound : w.Sound) :
    Keeps env script Answer.Right w := by
  cases entry with
  | startPull model requestedBy node operationId now clock clock' =>
    exact answered (start_keeps requestedBy now clock clock' sound) fun _ _ => id
  | startDelete model requestedBy node operationId now clock clock' =>
    exact answered (startDelete_keeps model requestedBy node operationId now clock clock' sound) fun _ _ => id
  | cancel operationId reason now => exact answered (cancelPull_keeps reason now sound) fun _ _ _ => trivial
  | heartbeat nodeName => exact answered (pendingModelCommand_keeps sound) fun _ _ _ => trivial
  | report nodeName report now => exact answered (ingestModelProgress_keeps report now sound) fun _ _ _ => trivial

/-- The world is sound, and so are the scripts. -/
structure System.Sound (env : Env) (s : System) : Prop where
  world : s.world.Sound
  threads : Program.Pool (orderly env) (fun _ => Within) (fun _ => Within)
    (Script.Ends (fun answer _ => answer.Right) fun _ _ _ => True) s.threads s.world

variable {s : System}

lemma System.Sound.later (sound : s.Sound env) (within : Within s.world w) :
    System.Sound env { s with world := w } :=
  ⟨within.sound sound.world, fun n program found => (sound.threads n program found).later within⟩

lemma System.Step.sound {s' : System} (step : System.Step env (orderly env) s s') (sound : s.Sound env) :
    s'.Sound env := by
  cases step with
  | begin n script free entry => exact ⟨sound.world, sound.threads.set (Script.sure_iff.1 (entry.keeps sound.world))⟩
  | call calls =>
    cases calls with
    | call n c next r world found ran =>
      have others : ∀ k k' : ℕ, ∀ w w', k ≠ k' → Within w w' → Within w w' := fun _ _ _ _ _ within => within
      obtain ⟨within, threads⟩ := Program.Pool.call others sound.threads found ran
      exact ⟨within.sound sound.world, threads⟩
  | localPull operationId request sec asked local_ of => exact sound.later (section_within of)
  | join node worker absent command ack =>
    have other : ∀ other, s.world.workers.get? other ≠ none →
        (s.world.workers.set node worker).get? other = s.world.workers.get? other := by
      intro other there
      rw [Dict.get?_set, if_neg]
      rintro rfl
      exact there absent
    refine sound.later ⟨fun sound => ⟨sound.known, sound.ids, fun id request at_ asked place waits new => ?_, sound.reported⟩,
      fun _ _ => id, fun name there => by rw [other name there]; exact there⟩
    refine (sound.holds id request at_ asked place waits new).same (fun worker' found => ?_) fun mem => mem
    exact ⟨worker', (other at_ (by simp [found])).trans found, rfl, rfl⟩
  | update node text desired status seen =>
    refine sound.later ⟨fun sound => ⟨sound.known, sound.ids, fun id request at_ asked place waits new => ?_, sound.reported⟩,
      fun _ _ => id, fun _ => nodes_change⟩
    refine (sound.holds id request at_ asked place waits new).same (fun worker found => ?_) fun mem => mem
    rw [World.get?_change, found]
    refine ⟨_, rfl, ?_⟩
    split <;> exact ⟨rfl, rfl⟩

lemma pendingCommand_of_holds {request : Request} (holds : w.Holds operationId request nodeName)
    (waits : w.Waits operationId) (sound : w.Sound) :
    ∃ command, w.pendingCommand env nodeName = some command ∧ command.operationId = operationId ∧
      command.model = request.model ∧
        (command.action = request.action ∨ command.action = .cancel ∧ operationId ∈ w.cancelling) := by
  obtain ⟨worker, command, found, there, rfl, model, action, ack⟩ := holds
  obtain ⟨⟨op, stored, live⟩, _⟩ := waits
  refine ⟨command, ?_, rfl, model, action⟩
  have get : ((Section.get command.operationId).run env.toEnv w.store).1 = some op :=
    (if_pos (sound.ids _ op stored).2).trans stored
  have going : op.status ≠ .completed ∧ ¬ (op.status = .failed ∨ op.status = .cancelled) := by
    obtain queued | running := live <;> simp [*]
  have delivered : (pendingModelCommand nodeName ()).play (Call.plays env) w = ((.ok (some command), ()), w) := by
    refine (Script.play_ask_bind _ (Call.worker nodeName) _).trans ?_
    simp only [Call.plays, found, there, if_neg ack]
    refine (Script.play_ask_bind _ (Call.section (.get command.operationId)) _).trans ?_
    simp only [Call.plays, get, if_neg going.1, if_neg going.2]
    rfl
  rw [World.pendingCommand, delivered]
  rfl

/-- **Commands are neither lost nor misattributed** in every run whose calls are orderly. -/
theorem commands_attributed (env : Env) (s : System) (run : OrderlyRuns env s) : s.Attributed env := by
  have sound : s.Sound env := by
    refine Reach.invariant (I := System.Sound env) ?_ (fun _ _ sound step => step.sound sound) run
    rintro s rfl
    refine ⟨⟨fun id => by simp, fun id op found => ?_, fun id request node asked => ?_, rfl⟩, fun n program found => ?_⟩
    · cases found
    · cases asked
    · cases found
  refine ⟨fun id request node asked at_ waits new => ?_, fun n request operation found => ?_, sound.world.reported⟩
  · exact pendingCommand_of_holds (sound.world.holds id request node asked at_ waits new) waits sound.world
  · exact sound.threads n _ found s.world (refl_of Within s.world)

/-! ## Played runs -/

/-- The call may be made. -/
def Call.may : Call → World → Bool
  | .create _ operationId _ _, w => w.store.operations.get? operationId = none ∧ WellFormedId operationId
  | _, _ => true

lemma Call.plays_run (env : Env) (c : Call) (w : World) (may : c.may w = true) :
    Call.Run env c w (c.plays env w).1 (c.plays env w).2 := by
  cases c with
  | node nodeName clock waiting =>
    simp only [Call.plays]
    split
    · next passed => exact .node w nodeName clock waiting passed
    · next error failed => exact .noNode w nodeName clock waiting error failed
  | create request operationId requestedBy now =>
    obtain ⟨fresh, formed⟩ := of_decide_eq_true may
    simp only [Call.plays]
    split
    · next op store ran =>
      have created : Call.Run env (.create request operationId requestedBy now) w (.ok (op, true))
          (w.create request operationId ((request.creation operationId requestedBy now).run env.toEnv w.store).2) :=
        .create w request operationId requestedBy now op fresh formed (congrArg Prod.fst ran)
      rwa [congrArg Prod.snd ran] at created
    · next reply store other ran =>
      obtain ⟨op, made, _⟩ | ⟨op, _, _, old⟩ := creation_spec request operationId requestedBy now env.toEnv w.store
      · exact (other op ((congrArg Prod.fst ran).symm.trans made)).elim
      · rw [← (congrArg Prod.fst ran : _ = reply), old]
        exact .found w request operationId requestedBy now op old
  | setFields operationId nodeName model =>
    simp only [Call.plays]
    split
    · next missing => exact .noFields w operationId nodeName model missing
    · next there =>
      obtain ⟨op, found⟩ := Option.ne_none_iff_exists'.1 there
      exact .setFields w operationId nodeName model op found
  | «section» sec => exact .section w sec
  | report nodeName sec => exact .report w nodeName sec
  | lookup operationId => exact .lookup w operationId
  | reported nodeName operationId => exact .reported w nodeName operationId
  | worker nodeName => exact .worker w nodeName
  | issue nodeName command => exact .issue w nodeName command
  | clear nodeName => exact .clear w nodeName
  | acknowledge nodeName operationId => exact .acknowledge w nodeName operationId
  | «override» nodeName operationId =>
    simp only [Call.plays]
    split
    · next missing => exact .noCommand w nodeName operationId missing
    · next there => exact .override w nodeName operationId there

/-- A call that is orderly whatever else there is. -/
def Call.harmless (env : Env) : Call → World → Bool
  | .create request operationId _ _, w =>
    (w.store.operations.get? operationId = none ∧ WellFormedId operationId) ∧
      ∀ op ∈ w.store.operations.values, ¬ op.Answers (some request.type) (some request.target) (some request.key)
  | .node nodeName clock (some _), w => (nodeOrRaise env w.workers nodeName clock).isOk
  | .issue nodeName _, w => (w.workers.get? nodeName).bind Worker.modelCommand = none
  | .override .., _ => false
  | .clear _, _ => false
  | .reported nodeName operationId, w => (w.requests.get? operationId).bind Request.node = some nodeName
  | _, _ => true

lemma Call.harmless_orderly {c : Call} (harmless : c.harmless env w = true) :
    (orderly env).run c w (c.plays env w).1 (c.plays env w).2 := by
  cases c with
  | create request operationId requestedBy now =>
    obtain ⟨may, clear⟩ := of_decide_eq_true harmless
    refine ⟨Call.plays_run env _ w (decide_eq_true may), fun id op found answers => ?_⟩
    exact absurd answers (clear op (Dict.mem_values_iff.2 ⟨id, found⟩))
  | node nodeName clock waiting =>
    refine ⟨Call.plays_run env _ w rfl, ?_⟩
    cases waiting with
    | none => trivial
    | some id =>
      intro failed
      simp only [Call.harmless] at harmless
      cases passed : nodeOrRaise env w.workers nodeName clock with
      | ok => exact absurd passed failed
      | error error => simp [passed, Except.isOk, Except.toBool] at harmless
  | issue nodeName command =>
    refine ⟨Call.plays_run env _ w rfl, fun worker command found there => ?_⟩
    have none_ := of_decide_eq_true harmless
    simp [found, there] at none_
  | reported nodeName operationId =>
    refine ⟨Call.plays_run env _ w rfl, fun op request _ _ asked => ?_⟩
    have mine := of_decide_eq_true harmless
    rwa [asked] at mine
  | «override» => cases harmless
  | clear => cases harmless
  | _ => exact ⟨Call.plays_run env _ w rfl, trivial⟩

def System.plays (env : Env) (n count : ℕ) (s : System) : System :=
  Program.Pooled.advances (Call.plays env) Call.may n count s

def System.playsOrderly (env : Env) (n count : ℕ) (s : System) : System :=
  Program.Pooled.advances (Call.plays env) (Call.harmless env) n count s

lemma System.plays_run {n count : ℕ} (run : Runs env s) : Runs env (s.plays env n count) :=
  Program.Pooled.advances_keeps (M := machine env) (Call.plays_run env) (fun _ _ run calls => run.step (.call calls)) n
    count run

lemma System.playsOrderly_run {n count : ℕ} (run : OrderlyRuns env s) :
    OrderlyRuns env (s.playsOrderly env n count) :=
  Program.Pooled.advances_keeps (M := orderly env) (fun _ _ => Call.harmless_orderly)
    (fun _ _ run calls => run.step (.call calls)) n count run

/-- The script `n` begins. -/
def System.begins (s : System) (n : ℕ) (script : Thread Answer) : System :=
  { s with threads := s.threads.set n (script ()) }

variable {M : Machine Call Call.Reply World}

lemma begins_run {n : ℕ} {script : Thread Answer}
    (run : Reach System.Init (System.Step env M) s) (free : s.threads.get? n = none) (entry : Entry script) :
    Reach System.Init (System.Step env M) (s.begins n script) :=
  run.step (.begin s n script free entry)

/-- The operation that a script has returned. -/
def returnedBy : Program Call Call.Reply (Except Failure Answer × Unit) → Option (Request × Operation)
  | .done (.ok (.started request operation), ()) => some (request, operation)
  | _ => none

lemma done_of_returnedBy {program : Program Call Call.Reply (Except Failure Answer × Unit)} {request : Request}
    {operation : Operation} (returned : returnedBy program = some (request, operation)) :
    program = .done (.ok (.started request operation), ()) := by
  unfold returnedBy at returned
  split at returned
  · cases returned
    rfl
  · cases returned

def anEnv : Env := { redact := id, heartbeatTimeout := 45 }

def firstId : String := "0123456789abcdef0123456789abcdef"

def secondId : String := "fedcba9876543210fedcba9876543210"

def textNode : Worker := { text := true, desiredState := none, status := some "READY", lastSeen := some 0 }

def joined (nodeName : String) : System := { world := { workers := (∅ : Dict String Worker).set nodeName textNode } }

lemma joined_run (nodeName : String) :
    Reach System.Init (System.Step anEnv M) (joined nodeName) :=
  have start : Reach System.Init (System.Step anEnv M) { world := {} } := .init rfl
  start.step (.join _ nodeName textNode rfl rfl rfl)

/-- `start_pull` for a model and a node. -/
def pullOf (model : String) (nodeName : Option String) (operationId : String) : Thread Answer := do
  let operation ← startPull model "web" nodeName operationId "12:00" 0 0
  pure (.started { type := .modelPull, node := nodeOf nodeName, model := model } operation)

/-- A report of a node that a pull has failed. -/
def failureOf (nodeName operationId : String) : Thread Answer := do
  let answer ← ingestModelProgress nodeName
    { operationId := operationId, status := "FAILED", phase := none, progress := 0, error := none } "12:00"
  pure (.ingested answer)

def asked : System := (joined "text-1").begins 0 (pullOf "llama3" (some "text-1") firstId)

lemma asked_run : Reach System.Init (System.Step anEnv M) asked :=
  begins_run (joined_run "text-1") rfl (.startPull "llama3" "web" (some "text-1") firstId "12:00" 0 0)

def placedPull : System := asked.plays anEnv 0 7

def overwrittenPull : System := (placedPull.begins 1 (pullOf "qwen3" (some "text-1") secondId)).plays anEnv 1 7

/-- A local pull, then one on a node of the name `local`. -/
def localPull : System :=
  (((joined "local").begins 0 (pullOf "llama3" none firstId)).plays anEnv 0 3).begins 1
    (pullOf "llama3" (some "local") secondId) |>.plays anEnv 1 2

def foreignReport : System := (placedPull.begins 1 (failureOf "text-2" firstId)).plays anEnv 1 6

/-- A pull that waits for its node is the pending command there. -/
theorem commands_attributed_once :
    (asked.playsOrderly anEnv 0 7).world.Waits firstId ∧ firstId ∉ (asked.playsOrderly anEnv 0 7).world.placing ∧
      (asked.playsOrderly anEnv 0 7).Attributed anEnv := by
  refine ⟨⟨⟨_, rfl, .inr rfl⟩, by decide +kernel⟩, by decide +kernel, ?_⟩
  exact commands_attributed anEnv (asked.playsOrderly anEnv 0 7) (System.playsOrderly_run asked_run)

/-- A second pull takes the place of the first one, the operation of a pull is returned for another one, and a report
of another node fails a pull. -/
theorem commands_go_astray :
    (∃ s, Runs anEnv s ∧ s.world.Waits firstId ∧ firstId ∉ s.world.placing ∧
      (s.world.pendingCommand anEnv "text-1").map Command.operationId = some secondId ∧ ¬ s.Attributed anEnv) ∧
    (∃ s, Runs anEnv s ∧ s.world.misattributed = [] ∧ ¬ s.Attributed anEnv) ∧
    ∃ s, Runs anEnv s ∧ s.world.misattributed = [firstId] ∧ ¬ s.Attributed anEnv := by
  have placed : Runs anEnv placedPull := System.plays_run asked_run
  refine ⟨⟨overwrittenPull, ?_⟩, ⟨localPull, ?_⟩, ⟨foreignReport, ?_⟩⟩
  · have run : Runs anEnv overwrittenPull :=
      System.plays_run (begins_run placed rfl (.startPull "qwen3" "web" (some "text-1") secondId "12:00" 0 0))
    have waits : overwrittenPull.world.Waits firstId := ⟨⟨_, rfl, .inr rfl⟩, by decide +kernel⟩
    have pending : (overwrittenPull.world.pendingCommand anEnv "text-1").map Command.operationId = some secondId := by
      decide +kernel
    have unplaced : firstId ∉ overwrittenPull.world.placing := by decide +kernel
    refine ⟨run, waits, unplaced, pending, fun attributed => ?_⟩
    have asked : overwrittenPull.world.requests.get? firstId =
        some { type := .modelPull, node := some "text-1", model := "llama3" } := by decide +kernel
    obtain ⟨command, delivered, own, _⟩ := attributed.pending firstId _ "text-1" asked rfl waits unplaced
    rw [delivered] at pending
    exact absurd (own.symm.trans (Option.some.inj pending)) (by decide +kernel)
  · have first : Runs anEnv (((joined "local").begins 0 (pullOf "llama3" none firstId)).plays anEnv 0 3) :=
      System.plays_run (begins_run (joined_run "local") rfl (.startPull "llama3" "web" none firstId "12:00" 0 0))
    have run : Runs anEnv localPull :=
      System.plays_run (begins_run first rfl (.startPull "llama3" "web" (some "local") secondId "12:00" 0 0))
    refine ⟨run, by decide +kernel, fun attributed => ?_⟩
    -- the operation of the local pull answers the second request
    have answer : ∃ request operation, (localPull.threads.get? 1).bind returnedBy = some (request, operation) ∧
        localPull.world.requests.get? operation.operationId ≠ some request := by
      refine ⟨_, _, rfl, by decide +kernel⟩
    obtain ⟨request, operation, returned, other⟩ := answer
    obtain ⟨program, found, done⟩ := Option.bind_eq_some_iff.1 returned
    exact other (attributed.returned 1 request operation (found.trans (congrArg some (done_of_returnedBy done))))
  · have run : Runs anEnv foreignReport :=
      System.plays_run (begins_run placed rfl (.report "text-2" _ "12:00"))
    refine ⟨run, by decide +kernel, fun attributed => ?_⟩
    exact absurd attributed.reported (by decide +kernel)

end Vertep.Placement
