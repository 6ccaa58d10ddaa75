import Mathlib.Tactic.Linarith
import Vertep.Lib.Reach
import Vertep.Operations.Records

/-!
# Operations are final and unique

Any number of threads call the functions of `core/operations.py`, and their sections interleave in any order. A section
creates an operation, or it changes one that is there in a way that `Operation.Follows` describes; what every run keeps
is read off that.
-/

namespace Vertep.Operations
open Lib

/-! ## What a section does -/

/-- `QUEUED` or `RUNNING`. -/
def OperationStatus.Live (status : OperationStatus) : Prop := status = .queued ∨ status = .running

/-- An operation that nothing may change has not changed. -/
structure Operation.Same (op op' : Operation) : Prop where
  status : op'.status = op.status
  progress : op'.progress = op.progress
  currentPhase : op'.currentPhase = op.currentPhase
  result : op'.result = op.result
  error : op'.error = op.error

/-- What a section makes of an operation. -/
structure Operation.Follows (op op' : Operation) : Prop where
  type : op'.type = op.type
  target : op'.target = op.target
  live : op'.status.Live → op.status.Live
  final : op.status.Terminal → op.Same op'
  progress : op'.progress = op.progress ∨ 0 ≤ op'.progress ∧ op'.progress ≤ 100

lemma Operation.Same.refl (op : Operation) : op.Same op := ⟨rfl, rfl, rfl, rfl, rfl⟩

lemma Operation.Same.trans {op₁ op₂ op₃ : Operation} (h : op₁.Same op₂) (h' : op₂.Same op₃) : op₁.Same op₃ :=
  ⟨h'.status.trans h.status, h'.progress.trans h.progress, h'.currentPhase.trans h.currentPhase,
    h'.result.trans h.result, h'.error.trans h.error⟩

/-- A section leaves the operations as they are, changes one of them, or creates one. -/
inductive Store.Change (s : Store) : Store → Prop where
  | same (errors : List String) : s.Change { s with errors := errors }
  | change (operationId : String) (op op' : Operation) :
    s.operations.get? operationId = some op → op.Follows op' →
    s.Change { s with operations := s.operations.set operationId op' }
  | create (operationId : String) (op : Operation) :
    s.operations.get? operationId = none → op.progress = 0 → op.status = .queued →
    s.Change { s with operations := s.operations.set operationId op }
  | createFirst (operationId : String) (op : Operation) :
    s.operations.get? operationId = none → op.progress = 0 → op.status = .queued →
    (∀ other ∈ s.operations.values, other.status.Active → other.type = op.type → other.target ≠ op.target) →
    s.Change { s with operations := s.operations.set operationId op, created := operationId :: s.created }

variable {s s' : Store} {operationId : String}

lemma Store.wrote_change {may : OperationStatus → Prop} [DecidablePred may]
    {f : Operation → Operation} (follows : ∀ op : Operation, may op.status → op.Follows (f op)) :
    s.Change (s.wrote (change operationId may f s.operations)).2 := by
  unfold Vertep.Operations.change
  cases found : s.operations.get? operationId with
  | none => exact .same s.errors
  | some op =>
    by_cases allowed : may op.status
    · simp only [allowed, if_true]
      exact .change operationId op (f op) found (follows op allowed)
    · simp only [allowed, if_false]
      exact .same s.errors

/-- An id that is drawn is new. -/
def Section.Fresh (s : Store) : Section → Prop
  | .create operationId .. | .getOrCreate operationId .. => s.operations.get? operationId = none
  | _ => True

lemma OperationStatus.Live.active {status : OperationStatus} (live : status.Live) : status.Active := by
  obtain rfl | rfl := live <;> trivial

lemma OperationStatus.Live.not_terminal {status : OperationStatus} (live : status.Live) : ¬ status.Terminal := by
  obtain rfl | rfl := live <;> exact id

lemma Operation.Follows.of_not_terminal {op op' : Operation} (open_ : ¬ op.status.Terminal) (type : op'.type = op.type)
    (target : op'.target = op.target) (live : op'.status.Live → op.status.Live)
    (progress : op'.progress = op.progress ∨ 0 ≤ op'.progress ∧ op'.progress ≤ 100) : op.Follows op' :=
  ⟨type, target, live, fun terminal => absurd terminal open_, progress⟩

lemma Section.run_change (env : Env) (s : Store) (sec : Section) (fresh : sec.Fresh s) :
    s.Change (sec.run env s).2 := by
  cases sec with
  | create operationId type requestedBy target key now =>
    cases type with
    | none => exact .same s.errors
    | some type => exact .create operationId _ fresh rfl rfl
  | getOrCreate operationId type requestedBy target key now =>
    simp only [Section.run, getOrCreateOperation]
    cases found : s.operations.values.find? fun op => decide (op.Answers type target key) with
    | some op => exact .same s.errors
    | none =>
      cases type with
      | none => exact .same s.errors
      | some type =>
        refine .createFirst operationId _ fresh rfl rfl fun other mem active sameType sameTarget => ?_
        have answers := List.find?_eq_none.1 found other mem
        exact answers (decide_eq_true ⟨active, .inr ⟨congrArg some sameType, sameTarget⟩⟩)
  | get operationId => exact .same s.errors
  | begin operationId phase now =>
    exact s.wrote_change fun op live => .of_not_terminal (OperationStatus.Live.not_terminal live) rfl rfl
      (fun _ => live) (.inl rfl)
  | advance operationId phase progress message =>
    refine s.wrote_change fun op open_ => .of_not_terminal open_ rfl rfl id (.inr ⟨?_, ?_⟩)
    · exact le_max_left 0 _
    · exact max_le (by decide) (min_le_left _ _)
  | complete operationId result now =>
    refine s.wrote_change fun op open_ => .of_not_terminal open_ rfl rfl ?_ (.inr ⟨(by decide : (0 : ℤ) ≤ 100), le_refl _⟩)
    rintro (live | live) <;> cases live
  | fail operationId error now =>
    refine s.wrote_change fun op open_ => .of_not_terminal open_ rfl rfl ?_ (.inl rfl)
    rintro (live | live) <;> cases live
  | link operationId requestId action now =>
    exact s.wrote_change fun op _ => ⟨rfl, rfl, id, fun _ => ⟨rfl, rfl, rfl, rfl, rfl⟩, .inl rfl⟩
  | cancel operationId reason now =>
    refine s.wrote_change fun op open_ => .of_not_terminal open_ rfl rfl ?_ (.inl rfl)
    rintro (live | live) <;> cases live
  | setError operationId => exact .same _
  | popError operationId => exact .same _

/-! ## What a change keeps -/

/-- What holds of every store. -/
structure Store.Sound (s : Store) : Prop where
  progress : ∀ operationId op, s.operations.get? operationId = some op → 0 ≤ op.progress ∧ op.progress ≤ 100
  unique : ∀ operationId operationId' op op', operationId ∈ s.created → operationId' ∈ s.created →
    s.operations.get? operationId = some op → s.operations.get? operationId' = some op' →
    op.type = op'.type → op.target = op'.target → op.status.Live → op'.status.Live → operationId = operationId'

lemma Store.Sound.progress_set (sound : s.Sound) {new : Operation}
    (bounded : 0 ≤ new.progress ∧ new.progress ≤ 100) (id' : String) (op : Operation)
    (found : (s.operations.set operationId new).get? id' = some op) : 0 ≤ op.progress ∧ op.progress ≤ 100 := by
  rw [Dict.get?_set] at found
  split at found
  · cases found
    exact bounded
  · exact sound.progress id' op found

lemma Store.Change.sound (change : s.Change s') (sound : s.Sound)
    (known : ∀ operationId ∈ s.created, s.operations.get? operationId ≠ none) : s'.Sound := by
  cases change with
  | same errors => exact ⟨sound.progress, sound.unique⟩
  | change id₀ old new found follows =>
    refine ⟨sound.progress_set ?_, ?_⟩
    · obtain same | bounded := follows.progress
      · exact same ▸ sound.progress id₀ old found
      · exact bounded
    · have before : ∀ id' op, (s.operations.set id₀ new).get? id' = some op → ∃ op', s.operations.get? id' = some op' ∧
          op.type = op'.type ∧ op.target = op'.target ∧ (op.status.Live → op'.status.Live) := by
        intro id' op found'
        rw [Dict.get?_set] at found'
        split at found'
        · next eq =>
          cases found'
          exact ⟨old, eq ▸ found, follows.type, follows.target, follows.live⟩
        · exact ⟨op, found', rfl, rfl, id⟩
      intro id₁ id₂ op₁ op₂ mem₁ mem₂ found₁ found₂ type target live₁ live₂
      obtain ⟨op₁', found₁', type₁, target₁, lives₁⟩ := before id₁ op₁ found₁
      obtain ⟨op₂', found₂', type₂, target₂, lives₂⟩ := before id₂ op₂ found₂
      exact sound.unique id₁ id₂ op₁' op₂' mem₁ mem₂ found₁' found₂' (type₁ ▸ type₂ ▸ type)
        (target₁ ▸ target₂ ▸ target) (lives₁ live₁) (lives₂ live₂)
  | create id₀ new absent progress status =>
    refine ⟨sound.progress_set (by rw [progress]; decide), ?_⟩
    have before : ∀ id' ∈ s.created, (s.operations.set id₀ new).get? id' = s.operations.get? id' := by
      intro id' mem
      have other : id₀ ≠ id' := fun eq => known id' mem (eq ▸ absent)
      simp [other]
    intro id₁ id₂ op₁ op₂ mem₁ mem₂ found₁ found₂
    exact sound.unique id₁ id₂ op₁ op₂ mem₁ mem₂ (before id₁ mem₁ ▸ found₁) (before id₂ mem₂ ▸ found₂)
  | createFirst id₀ new absent progress status first =>
    refine ⟨sound.progress_set (by rw [progress]; decide), ?_⟩
    have before : ∀ id' ∈ s.created, (s.operations.set id₀ new).get? id' = s.operations.get? id' := by
      intro id' mem
      have other : id₀ ≠ id' := fun eq => known id' mem (eq ▸ absent)
      simp [other]
    have alone : ∀ id' ∈ s.created, ∀ op, (s.operations.set id₀ new).get? id' = some op → op.status.Live →
        op.type = new.type → op.target ≠ new.target := fun id' mem op found live =>
      first op (Dict.mem_values_iff.2 ⟨id', before id' mem ▸ found⟩) live.active
    have own : (s.operations.set id₀ new).get? id₀ = some new := by simp
    intro id₁ id₂ op₁ op₂ mem₁ mem₂ found₁ found₂ type target live₁ live₂
    obtain rfl | old₁ := List.mem_cons.1 mem₁ <;> obtain rfl | old₂ := List.mem_cons.1 mem₂
    · rfl
    · cases own.symm.trans found₁
      exact absurd target.symm (alone id₂ old₂ op₂ found₂ live₂ type.symm)
    · cases own.symm.trans found₂
      exact absurd target (alone id₁ old₁ op₁ found₁ live₁ type)
    · exact sound.unique id₁ id₂ op₁ op₂ old₁ old₂ (before id₁ old₁ ▸ found₁) (before id₂ old₂ ▸ found₂) type target
        live₁ live₂

lemma Store.Change.final (change : s.Change s') {op : Operation}
    (found : s.operations.get? operationId = some op) (terminal : op.status.Terminal) :
    ∃ op', s'.operations.get? operationId = some op' ∧ op.Same op' := by
  cases change with
  | same errors => exact ⟨op, found, .refl op⟩
  | change id' old new found' follows =>
    by_cases eq : id' = operationId
    · subst eq
      cases found.symm.trans found'
      exact ⟨new, by simp, follows.final terminal⟩
    · exact ⟨op, by simp [eq, found], .refl op⟩
  | create id' new absent _ _ =>
    have eq : id' ≠ operationId := fun eq => by simp [eq, found] at absent
    exact ⟨op, by simp [eq, found], .refl op⟩
  | createFirst id' new absent _ _ _ =>
    have eq : id' ≠ operationId := fun eq => by simp [eq, found] at absent
    exact ⟨op, by simp [eq, found], .refl op⟩

lemma Store.Change.known (change : s.Change s')
    (known : ∀ operationId ∈ s.created, s.operations.get? operationId ≠ none) :
    ∀ operationId ∈ s'.created, s'.operations.get? operationId ≠ none := by
  have kept : ∀ (id₀ : String) (op : Operation), ∀ id' ∈ s.created, (s.operations.set id₀ op).get? id' ≠ none := by
    intro id₀ op id' mem
    rw [Dict.get?_set]
    split
    · exact Option.some_ne_none op
    · exact known id' mem
  cases change with
  | same errors => exact known
  | change id₀ old new found follows | create id₀ new absent progress status => exact kept id₀ new
  | createFirst id₀ new absent progress status first =>
    intro id' mem
    obtain rfl | mem := List.mem_cons.1 mem
    · simp
    · exact kept id₀ new id' mem

/-! ## Runs -/

/-- The store, and the threads that are in a call. -/
structure World where
  store : Store
  threads : List (Program Section Section.Reply (Except Failure Unit × Unit))

def single (sec : Section) : Thread Unit := do let _ ← ask sec

/-- The calls: the functions of `core/operations.py`, and `ingest_model_progress`. -/
inductive Calls : Thread Unit → Prop where
  | create (operationId type requestedBy target key now) : Calls (single (.create operationId type requestedBy target key now))
  | getOrCreate (operationId type requestedBy target key now) :
    Calls (single (.getOrCreate operationId type requestedBy target key now))
  | begin (operationId phase now) : Calls (single (.begin operationId phase now))
  | advance (operationId phase progress message) : Calls (single (.advance operationId phase progress message))
  | complete (operationId result now) : Calls (single (.complete operationId result now))
  | fail (operationId error now) : Calls (single (.fail operationId error now))
  | link (operationId requestId action now) : Calls (single (.link operationId requestId action now))
  | cancel (operationId reason now) : Calls (single (.cancel operationId reason now))
  | ingest (nodeName report now) : Calls (ingestModelProgress nodeName report now)

/-- A call begins, the next section of a thread runs, or a thread dies before it. -/
inductive Step (env : Env) : World → World → Prop where
  | call (w : World) (thread : Thread Unit) :
    Calls thread → Step env w { w with threads := thread () :: w.threads }
  | section (s : Store) (before after : List (Program Section Section.Reply (Except Failure Unit × Unit))) (sec : Section)
      (next : sec.Reply → Program Section Section.Reply (Except Failure Unit × Unit)) :
    sec.Fresh s →
    Step env ⟨s, before ++ .call sec next :: after⟩
      ⟨(sec.run env s).2, before ++ next (sec.run env s).1 :: after⟩
  | dies (s : Store) (before after : List (Program Section Section.Reply (Except Failure Unit × Unit))) (sec : Section)
      (next : sec.Reply → Program Section Section.Reply (Except Failure Unit × Unit)) :
    Step env ⟨s, before ++ .call sec next :: after⟩ ⟨s, before ++ after⟩

def Init (w : World) : Prop := w.store = {} ∧ w.threads = []

lemma Step.change {env : Env} {w w' : World} (step : Step env w w') : w.store.Change w'.store := by
  cases step with
  | call thread _ => exact .same w.store.errors
  | «section» s before after sec next fresh => exact sec.run_change env s fresh
  | dies s before after sec next => exact .same s.errors

lemma reach_sound {env : Env} {w : World} (reach : Reach Init (Step env) w) :
    w.store.Sound ∧ ∀ operationId ∈ w.store.created, w.store.operations.get? operationId ≠ none := by
  refine Reach.invariant (I := fun w : World => w.store.Sound ∧
    ∀ operationId ∈ w.store.created, w.store.operations.get? operationId ≠ none) ?_ ?_ reach
  · rintro w ⟨store, _⟩
    rw [store]
    exact ⟨⟨by simp, by simp⟩, by simp⟩
  · rintro w w' ⟨sound, known⟩ step
    exact ⟨step.change.sound sound known, step.change.known known⟩

lemma steps_final {env : Env} {w w' : World} (steps : Relation.ReflTransGen (Step env) w w')
    {op : Operation} (found : w.store.operations.get? operationId = some op) (terminal : op.status.Terminal) :
    ∃ op', w'.store.operations.get? operationId = some op' ∧ op.Same op' := by
  induction steps with
  | refl => exact ⟨op, found, .refl op⟩
  | tail _ step ih =>
    obtain ⟨op₁, found₁, same₁⟩ := ih
    obtain ⟨op₂, found₂, same₂⟩ := step.change.final found₁ (same₁.status ▸ terminal)
    exact ⟨op₂, found₂, same₁.trans same₂⟩

/-- **Operations are final and unique.** -/
theorem operations_are_final_and_unique (env : Env) (w : World) (reach : Reach Init (Step env) w) :
    (∀ operationId op, w.store.operations.get? operationId = some op → 0 ≤ op.progress ∧ op.progress ≤ 100) ∧
    (∀ operationId operationId' op op', operationId ∈ w.store.created → operationId' ∈ w.store.created →
      w.store.operations.get? operationId = some op → w.store.operations.get? operationId' = some op' →
      op.type = op'.type → op.target = op'.target →
      (op.status = .queued ∨ op.status = .running) → (op'.status = .queued ∨ op'.status = .running) →
      operationId = operationId') ∧
    ∀ w', Relation.ReflTransGen (Step env) w w' → ∀ operationId op,
      w.store.operations.get? operationId = some op → op.status.Terminal →
      ∃ op', w'.store.operations.get? operationId = some op' ∧ op'.status = op.status ∧ op'.progress = op.progress ∧
        op'.currentPhase = op.currentPhase ∧ op'.result = op.result ∧ op'.error = op.error := by
  have ⟨sound, _⟩ := reach_sound reach
  refine ⟨sound.progress, sound.unique, fun w' steps operationId op found terminal => ?_⟩
  obtain ⟨op', found', same⟩ := steps_final steps found terminal
  exact ⟨op', found', same.status, same.progress, same.currentPhase, same.result, same.error⟩

/-- A call of a single section is served. -/
def served (w : World) (sec : Section) : World := ⟨(sec.run ⟨id⟩ w.store).2, .done (.ok (), ()) :: w.threads⟩

lemma steps_served {w : World} (sec : Section) (calls : Calls (single sec)) (fresh : sec.Fresh w.store) :
    Relation.ReflTransGen (Step ⟨id⟩) w (served w sec) :=
  (Relation.ReflTransGen.single (.call w _ calls)).tail (.section w.store [] w.threads sec _ fresh)

lemma reach_served {w : World} (sec : Section) (reach : Reach Init (Step ⟨id⟩) w) (calls : Calls (single sec))
    (fresh : sec.Fresh w.store) : Reach Init (Step ⟨id⟩) (served w sec) :=
  (reach.step (.call w _ calls)).step (.section w.store [] w.threads sec _ fresh)

def asked (operationId : String) : Section := .getOrCreate operationId (some .update) "web" none none "12:00"

/-- An update was asked for twice, and is complete. -/
def completed : World := served (served (served ⟨{}, []⟩ (asked "00")) (asked "01")) (.complete "00" none "12:02")

/-- A cancel that comes late leaves it as it was. -/
theorem operations_are_final_and_unique_completed : completed.store.created = ["00"] ∧
    ∃ op op', completed.store.operations.get? "00" = some op ∧ op.status = .completed ∧
      (served completed (.cancel "00" none "12:03")).store.operations.get? "00" = some op' ∧ op'.status = op.status := by
  have reach : Reach Init (Step ⟨id⟩) completed := by
    have start : Reach Init (Step ⟨id⟩) ⟨{}, []⟩ := .init ⟨rfl, rfl⟩
    have first := reach_served (asked "00") start (.getOrCreate ..) rfl
    have second := reach_served (asked "01") first (.getOrCreate ..) (by unfold asked Section.Fresh; decide +kernel)
    exact reach_served _ second (.complete ..) trivial
  have status : (completed.store.operations.get? "00").map Operation.status = some .completed := by decide +kernel
  obtain ⟨op, found, is⟩ := Option.map_eq_some_iff.1 status
  obtain ⟨op', found', same, _⟩ := (operations_are_final_and_unique ⟨id⟩ completed reach).2.2 _
    (steps_served (.cancel "00" none "12:03") (.cancel ..) trivial) "00" op found (by rw [is]; trivial)
  exact ⟨by decide +kernel, op, op', found, is, found', same⟩

end Vertep.Operations
