import Vertep.Pulls.Runtime

/-!
# A cancelled pull stops (`core/pull_executor.py`)

What a pull knows of its own record and event is stable under what all the others do, and it is enough for a cancel
that is recorded when the pull has heard of it.
-/

namespace Vertep.Pulls
open Lib Vertep.Operations

variable {env : Env} {operationId : String} {w w' : World}

/-! ## What the others do -/

/-- What the others may do between two calls of the pull of an operation. -/
structure Others (operationId : String) (w w' : World) : Prop where
  pull : ∀ pull, w.pulls.get? operationId = some pull → ∃ recorded,
    w'.pulls.get? operationId = some { pull with recorded := recorded } ∧
      (recorded = true → pull.recorded = true ∨ pull.over = true ∨
        pull.posted = true ∧ w'.events.get? operationId = some true)
  set : w.events.get? operationId = some true → w'.events.get? operationId = some true

lemma Others.of_same (pulls : w'.pulls.get? operationId = w.pulls.get? operationId)
    (events : w'.events.get? operationId = w.events.get? operationId) : Others operationId w w' :=
  ⟨fun pull found => ⟨pull.recorded, pulls.trans found, .inl⟩, events.trans⟩

instance (operationId : String) : Std.Refl (Others operationId) := ⟨fun _ => .of_same rfl rfl⟩

instance (operationId : String) : IsTrans World (Others operationId) where
  trans _ _ _ first next := by
    refine ⟨fun pull found => ?_, fun there => next.set (first.set there)⟩
    obtain ⟨recorded, found', heard⟩ := first.pull pull found
    obtain ⟨recorded', found'', heard'⟩ := next.pull _ found'
    refine ⟨recorded', found'', fun now => ?_⟩
    obtain now | gone | sent := heard' now
    · obtain before | gone | sent := heard now
      · exact .inl before
      · exact .inr (.inl gone)
      · exact .inr (.inr ⟨sent.1, next.set sent.2⟩)
    · exact .inr (.inl gone)
    · exact .inr (.inr sent)

/-- What holds of every world. -/
structure World.Sound (w : World) : Prop where
  stops : Stops w
  known : ∀ operationId pull, w.pulls.get? operationId = some pull → w.store.operations.get? operationId ≠ none

/-- What a script of the system may do. -/
structure Within (name : Name) (w w' : World) : Prop where
  sound : w.Sound → w'.Sound
  others : ∀ operationId, name ≠ .pull operationId → Others operationId w w'

/-- What the others may do, for any script. -/
def Rely : Name → World → World → Prop
  | .pull operationId => Others operationId
  | .cancel _ => fun _ _ => True

instance (name : Name) : Std.Refl (Rely name) := by
  cases name with
  | pull operationId => exact inferInstanceAs (Std.Refl (Others operationId))
  | cancel => exact ⟨fun _ => trivial⟩

instance (name : Name) : IsTrans World (Rely name) := by
  cases name with
  | pull operationId => exact inferInstanceAs (IsTrans World (Others operationId))
  | cancel => exact ⟨fun _ _ _ _ _ => trivial⟩

/-! ## What a pull knows -/

/-- A pull that goes on: whether its request is sent, and whether it may have read a line since the cancel. -/
def Goes (operationId : String) (posted late : Bool) (w : World) : Prop :=
  ∃ pull, w.pulls.get? operationId = some pull ∧ pull.posted = posted ∧ pull.over = false ∧ pull.lateRequests = 0 ∧
    (pull.recorded = true → posted = true ∧ w.events.get? operationId = some true) ∧
      (pull.lateLines = 0 ∨ late = true ∧ pull.lateLines = 1 ∧ w.events.get? operationId = some true)

variable {posted late : Bool}

lemma Goes.later (goes : Goes operationId posted late w) (later : Others operationId w w') :
    Goes operationId posted late w' := by
  obtain ⟨pull, found, sent, going, requests, heard, lines⟩ := goes
  obtain ⟨recorded, found', now⟩ := later.pull pull found
  refine ⟨_, found', sent, going, requests, fun recorded' => ?_, ?_⟩
  · obtain before | gone | sent' := now recorded'
    · exact ⟨(heard before).1, later.set (heard before).2⟩
    · cases going.symm.trans gone
    · exact ⟨sent.symm.trans sent'.1, sent'.2⟩
  · obtain none_ | ⟨late, one, flag⟩ := lines
    · exact .inl none_
    · exact .inr ⟨late, one, later.set flag⟩

lemma World.get?_note (w : World) (operationId other : String) (f : Pull → Pull) :
    (w.note operationId f).pulls.get? other =
      (w.pulls.get? other).map fun pull => if other = operationId then f pull else pull :=
  Dict.get?_map _ _ _

lemma refl_within (name : Name) (w : World) : Within name w w := ⟨id, fun other _ => refl_of (Others other) w⟩

lemma Others.note {f : Pull → Pull} {other : String} (ne : other ≠ operationId)
    (pulls : w'.pulls = (w.note operationId f).pulls) (events : w'.events.get? other = w.events.get? other) :
    Others other w w' := by
  refine .of_same ?_ events
  rw [pulls, World.get?_note]
  simp [ne]

lemma within_note {f : Pull → Pull} {pull : Pull} (found : w.pulls.get? operationId = some pull)
    (fine : (f pull).lateRequests = 0 ∧ (f pull).lateLines ≤ 1) (pulls : w'.pulls = (w.note operationId f).pulls)
    (store : w'.store = w.store) (events : ∀ other, other ≠ operationId → w'.events.get? other = w.events.get? other) :
    Within (.pull operationId) w w' := by
  refine ⟨fun sound => ⟨fun other pull' found' => ?_, fun other pull' found' => ?_⟩, fun other ne => ?_⟩
  · rw [pulls, World.get?_note] at found'
    obtain ⟨old, there, same⟩ := Option.map_eq_some_iff.1 found'
    split at same
    · next eq =>
      subst eq
      cases found.symm.trans there
      exact same ▸ fine
    · exact same ▸ sound.stops other old there
  · rw [pulls, World.get?_note] at found'
    obtain ⟨old, there, _⟩ := Option.map_eq_some_iff.1 found'
    exact store ▸ sound.known other old there
  · have ne : other ≠ operationId := fun eq => ne (eq ▸ rfl)
    exact .note ne pulls (events other ne)

/-! ## Calls that leave the pulls alone -/

lemma Section.run_known (env : Env) (s : Store) (sec : Section) (fresh : sec.Fresh s) {id : String}
    (known : s.operations.get? id ≠ none) : (sec.run env s).2.operations.get? id ≠ none := by
  have change := sec.run_change env s fresh
  generalize (sec.run env s).2 = s' at change
  have kept : ∀ (id₀ : String) (op : Operation), (s.operations.set id₀ op).get? id ≠ none := by
    intro id₀ op
    rw [Dict.get?_set]
    split
    · simp
    · exact known
  cases change with
  | same errors => exact known
  | change id₀ _ op _ _ | create id₀ op _ _ _ | createFirst id₀ op _ _ _ _ => exact kept id₀ op

/-- A call that changes the operations at most. -/
def Call.Quiet (env : Env) (c : Call) : Prop := ∀ w r w', Call.Run env c w r w' →
  w'.pulls = w.pulls ∧ w'.events = w.events ∧
    ∀ id, w.store.operations.get? id ≠ none → w'.store.operations.get? id ≠ none

lemma quiet_section (sec : Section) : (Call.section sec).Quiet env := by
  intro w r w' ran
  cases ran with
  | «section» _ _ fresh => exact ⟨rfl, rfl, fun _ known => Section.run_known env w.store sec fresh known⟩

lemma quiet_isSet (operationId : String) : (Call.isSet operationId).Quiet env := by
  intro w r w' ran
  cases ran
  exact ⟨rfl, rfl, fun _ => id⟩

lemma quiet_readBody (operationId : String) : (Call.readBody operationId).Quiet env := by
  intro w r w' ran
  cases ran
  exact ⟨rfl, rfl, fun _ => id⟩

lemma Call.Quiet.within {c : Call} (quiet : c.Quiet env) {r : c.Reply} (ran : Call.Run env c w r w') (name : Name) :
    Within name w w' ∧ ∀ other, Others other w w' := by
  obtain ⟨pulls, events, known⟩ := quiet w r w' ran
  have others : ∀ other, Others other w w' := fun other => .of_same (by rw [pulls]) (by rw [events])
  refine ⟨⟨fun sound => ⟨fun id pull found => ?_, fun id pull found => ?_⟩, fun other _ => others other⟩, others⟩
  · exact sound.stops id pull (pulls ▸ found)
  · exact known id (sound.known id pull (pulls ▸ found))

/-! ## Spec lemmas -/

def Ended (operationId : String) (w : World) : Prop := ∃ late, Goes operationId true late w ∨ Goes operationId false late w

lemma Goes.ended (goes : Goes operationId posted late w) : Ended operationId w := by
  cases posted with
  | true => exact ⟨late, .inl goes⟩
  | false => exact ⟨late, .inr goes⟩

lemma Ended.later (ended : Ended operationId w) (later : Others operationId w w') : Ended operationId w' := by
  obtain ⟨late, goes | goes⟩ := ended
  · exact (goes.later later).ended
  · exact (goes.later later).ended

lemma Goes.unheard (goes : Goes operationId posted late w)
    (unset : w.events.get? operationId ≠ some true) : Goes operationId posted false w := by
  obtain ⟨pull, found, sent, going, requests, heard, lines⟩ := goes
  exact ⟨pull, found, sent, going, requests, heard, .inl (lines.resolve_right fun late => unset late.2.2)⟩

lemma Ended.counts (ended : Ended operationId w) :
    ∃ pull, w.pulls.get? operationId = some pull ∧ pull.lateRequests = 0 ∧ pull.lateLines ≤ 1 := by
  have counts : ∀ posted late, Goes operationId posted late w →
      ∃ pull, w.pulls.get? operationId = some pull ∧ pull.lateRequests = 0 ∧ pull.lateLines ≤ 1 := by
    rintro posted late ⟨pull, found, _, _, requests, _, none_ | ⟨_, one, _⟩⟩
    · exact ⟨pull, found, requests, none_.le.trans (Nat.zero_le 1)⟩
    · exact ⟨pull, found, requests, one.le⟩
  obtain ⟨late, goes | goes⟩ := ended
  · exact counts _ _ goes
  · exact counts _ _ goes

/-- The script of a pull is within what it may do, and ends with `E`. -/
abbrev Keeps (env : Env) (operationId : String) {α : Type} (m : Thread α) (E : World → Prop) (w : World) : Prop :=
  m.Sure (orderly env) (Others operationId) (Within (.pull operationId)) (fun _ _ => E) (fun _ _ => E) () w

section
variable {α β : Type} {P : World → Prop}

lemma quiet_bind (stable : ∀ w w', Others operationId w w' → P w → P w') {c : Call} {f : c.Reply → Thread α}
    {Q : α → Unit → World → Prop} {X : Failure → Unit → World → Prop} (quiet : c.Quiet env) (holds : P w)
    (next : ∀ r w', P w' → (f r).Sure (orderly env) (Others operationId) (Within (.pull operationId)) Q X () w') :
    (ask c >>= f).Sure (orderly env) (Others operationId) (Within (.pull operationId)) Q X () w := by
  refine (Script.sure_bind _ _).2 ((Script.sure_ask c).2 fun w₁ later => ⟨fun _ torn => torn.elim, fun r w₂ ran => ?_⟩)
  obtain ⟨within, others⟩ := quiet.within ran.1 (.pull operationId)
  exact ⟨within, fun w₃ later₃ =>
    next r w₃ (stable w₂ w₃ later₃ (stable w₁ w₂ (others operationId) (stable w w₁ later holds)))⟩

lemma operated_bind {reply : Except Operations.Failure α} {f : α → Thread β} (ended : Ended operationId w)
    (next : ∀ a w', Others operationId w w' → Keeps env operationId (f a) (Ended operationId) w') :
    Keeps env operationId (operated reply >>= f) (Ended operationId) w := by
  refine (Script.sure_bind _ _).2 ((Script.sure_require _).2 ⟨fun a _ w₁ later => next a w₁ later, ?_⟩)
  exact fun _ _ w₁ later w₂ later' => (ended.later later).later later'

lemma require_bind {reply : Except Failure α} {f : α → Thread β} (ended : Ended operationId w)
    (next : ∀ a w', reply = .ok a → Others operationId w w' → Keeps env operationId (f a) (Ended operationId) w') :
    Keeps env operationId (Script.require reply >>= f) (Ended operationId) w := by
  refine (Script.sure_bind _ _).2 ((Script.sure_require _).2 ⟨fun a same w₁ later => next a w₁ same later, ?_⟩)
  exact fun _ _ w₁ later w₂ later' => (ended.later later).later later'

lemma keeps_pure {a : α} (ended : Ended operationId w) : Keeps env operationId (pure a) (Ended operationId) w :=
  (Script.sure_pure a).2 fun _ later => ended.later later

lemma section_bind {sec : Section} {f : sec.Reply → Thread α} (ended : Ended operationId w)
    (next : ∀ r w', Ended operationId w' → Keeps env operationId (f r) (Ended operationId) w') :
    Keeps env operationId (ask (.section sec) >>= f) (Ended operationId) w :=
  quiet_bind (fun _ _ later ended => ended.later later) (quiet_section sec) ended next

end

/-- What `stream_pull` does with the status of a line, and what follows. -/
def readStatus (operationId : String) (status : Option String) (rest : Thread (Option Bool)) : Thread (Option Bool) := do
  match status.filter (· ≠ "") with
  | some status => do
    let current ← ask (.section (.get operationId))
    let progress := (current.map Operation.progress).getD 0
    let _ ← operated (← ask (.section (.advance operationId status progress (some status))))
  | none => pure ()
  rest

lemma readLines_keeps (now : String) (lines : ℕ) (sawSuccess : Bool) (goes : Goes operationId true false w) :
    Keeps env operationId (readLines operationId now lines sawSuccess) (Ended operationId) w := by
  induction lines generalizing sawSuccess w with
  | zero => exact keeps_pure goes.ended
  | succ lines ih =>
    refine (Script.sure_bind _ _).2 ((Script.sure_ask _).2 fun w₁ later₁ => ⟨fun _ torn => torn.elim, fun reply w₂ ran => ?_⟩)
    have goes₁ := goes.later later₁
    have read : Within (.pull operationId) w₁ w₂ ∧ Goes operationId true true w₂ := by
      obtain ⟨pull, found, sent, going, requests, heard, none_⟩ := goes₁
      have none_ : pull.lateLines = 0 := none_.resolve_right fun late => by cases late.1
      cases ran.1 with
      | read _ _ line =>
        have there : (w₁.note operationId Pull.reads).pulls.get? operationId = some pull.reads := by
          rw [World.get?_note, found]
          simp
        have counted : pull.reads.lateLines = if pull.recorded then 1 else 0 := by simp [Pull.reads, none_]
        refine ⟨within_note found ⟨requests, ?_⟩ rfl rfl fun _ _ => rfl, _, there, sent, going, requests, heard, ?_⟩
        · rw [counted]
          split <;> decide
        · rw [counted]
          cases recorded : pull.recorded with
          | true => exact .inr ⟨rfl, rfl, (heard recorded).2⟩
          | false => exact .inl rfl
      | ends | notRead => exact ⟨(refl_within _ _), _, found, sent, going, requests, heard, .inl none_⟩
    refine ⟨read.1, fun w₃ later₃ => ?_⟩
    have goes₃ := read.2.later later₃
    refine require_bind goes₃.ended fun line w₄ _ later₄ => ?_
    have goes₄ := goes₃.later later₄
    cases line with
    | none => exact keeps_pure goes₄.ended
    | some line =>
      refine (Script.sure_bind _ _).2 ((Script.sure_ask _).2 fun w₅ later₅ => ⟨fun _ torn => torn.elim, fun set w₆ ran => ?_⟩)
      have goes₅ := goes₄.later later₅
      have looked : w₆ = w₅ ∧ set = (w₅.events.get? operationId).getD false := by
        cases ran.1
        exact ⟨rfl, rfl⟩
      obtain ⟨rfl, rfl⟩ := looked
      refine ⟨refl_within _ _, fun w₇ later₇ => ?_⟩
      cases flag : (w₆.events.get? operationId).getD false with
      | true =>
        refine section_bind (goes₅.later later₇).ended fun reply w₈ ended => operated_bind ended fun _ w₉ later₉ => ?_
        exact keeps_pure (ended.later later₉)
      | false =>
        have unset : w₆.events.get? operationId ≠ some true := fun same => by simp [same] at flag
        have goes₇ := (goes₅.unheard unset).later later₇
        simp only [Bool.false_eq_true, if_false]
        cases line with
        | empty | garbled => exact ih sawSuccess goes₇
        | other => exact (Script.sure_raise _).2 fun _ later => (goes₇.later later).ended
        | event error status completed total =>
          have stable : ∀ w w', Others operationId w w' → Goes operationId true false w → Goes operationId true false w' :=
            fun _ _ later goes => goes.later later
          simp only
          split
          · refine section_bind goes₇.ended fun reply w₈ ended => operated_bind ended fun _ w₉ later₉ => ?_
            exact keeps_pure (ended.later later₉)
          · have rest : ∀ w, Goes operationId true false w → Keeps env operationId (readStatus operationId status
                (readLines operationId now lines (sawSuccess || succeeds status))) (Ended operationId) w := by
              intro w goes
              unfold readStatus
              cases status.filter (· ≠ "") with
              | none => exact ih _ goes
              | some status =>
                refine quiet_bind stable (quiet_section _) goes fun current w₁ goes => ?_
                refine quiet_bind stable (quiet_section _) goes fun reply w₂ goes => ?_
                exact operated_bind goes.ended fun _ w₃ later => ih _ (goes.later later)
            cases lineProgress completed total with
            | none => exact rest w₇ goes₇
            | some progress =>
              refine quiet_bind stable (quiet_section _) goes₇ fun reply w₈ goes => ?_
              exact operated_bind goes.ended fun _ w₉ later => rest w₉ (goes.later later)

lemma operated_last {α : Type} {reply : Except Operations.Failure α} (ended : Ended operationId w) :
    Keeps env operationId (do let _ ← operated reply) (Ended operationId) w :=
  operated_bind ended fun _ _ later => keeps_pure (ended.later later)

lemma streamPull_keeps (lines : ℕ) (model now : String) (goes : Goes operationId false false w) :
    Keeps env operationId (streamPull lines operationId model now) (Ended operationId) w := by
  refine (Script.sure_bind _ _).2 ((Script.sure_ask _).2 fun w₁ later₁ => ⟨fun _ torn => torn.elim, fun reply w₂ ran => ?_⟩)
  have goes₁ := goes.later later₁
  have sent : Within (.pull operationId) w₁ w₂ ∧
      (Goes operationId true false w₂ ∨ Goes operationId false false w₂ ∧ ∀ status, reply ≠ .ok status) := by
    cases ran.1 with
    | notPosted => exact ⟨refl_within _ _, .inr ⟨goes₁, by simp⟩⟩
    | post =>
      obtain ⟨pull, found, sent, going, requests, heard, lines⟩ := goes₁
      have lines : pull.lateLines = 0 := lines.resolve_right fun late => by cases late.1
      have unheard : pull.recorded = false := by
        cases recorded : pull.recorded with
        | false => rfl
        | true => cases (heard recorded).1
      have there : (w₁.note operationId Pull.posts).pulls.get? operationId = some pull.posts := by
        rw [World.get?_note, found]
        simp
      have none_ : pull.posts.lateRequests = 0 := by simp [Pull.posts, unheard, requests]
      refine ⟨within_note found ⟨none_, lines.le.trans (Nat.zero_le 1)⟩ rfl rfl fun _ _ => rfl, .inl ?_⟩
      refine ⟨_, there, rfl, going, none_, fun recorded => ?_, .inl lines⟩
      cases unheard.symm.trans recorded
  obtain ⟨within, sent⟩ := sent
  refine ⟨within, fun w₃ later₃ => ?_⟩
  obtain goes | ⟨goes, raised⟩ := sent
  · have goes := goes.later later₃
    refine require_bind goes.ended fun status w₄ _ later₄ => ?_
    have goes := goes.later later₄
    split
    · refine quiet_bind (fun _ _ later ended => ended.later later) (quiet_readBody operationId) goes.ended fun body w₅ ended => ?_
      refine require_bind ended fun body w₆ _ later₆ => ?_
      exact section_bind (ended.later later₆) fun _ _ => operated_last
    · refine (Script.sure_bind _ _).2 ((readLines_keeps now lines false goes).mono (fun _ _ => id) ?_
        fun _ _ _ ended _ later => ended.later later)
      rintro result _ w₅ ended
      cases result with
      | none => exact keeps_pure ended
      | some sawSuccess =>
        refine quiet_bind (fun _ _ later ended => ended.later later) (quiet_isSet operationId) ended fun set w₆ ended => ?_
        split
        · exact section_bind ended fun _ _ => operated_last
        · refine section_bind ended fun operation w₇ ended => ?_
          split
          · exact keeps_pure ended
          · split
            · exact section_bind ended fun _ _ => operated_last
            · exact section_bind ended fun _ _ => operated_last
  · refine require_bind (goes.later later₃).ended fun status _ same _ => absurd same (raised status)

lemma pullFailed_keeps (now : String) (failure : Failure) (ended : Ended operationId w) :
    Keeps env operationId (pullFailed operationId now failure) (Ended operationId) w := by
  refine quiet_bind (fun _ _ later ended => ended.later later) (quiet_isSet operationId) ended fun set w₁ ended => ?_
  cases set with
  | true =>
    refine section_bind ended fun operation w₂ ended => ?_
    cases operation with
    | some operation => exact keeps_pure ended
    | none => exact section_bind ended fun _ _ => operated_last
  | false =>
    refine (Script.sure_bind _ _).2 ((Script.sure_pure _).2 fun w₂ later => ?_)
    exact section_bind (ended.later later) fun _ _ => operated_last

lemma pullModel_sure (lines : ℕ) (model now : String) (goes : Goes operationId false false w) :
    (pullModel lines operationId model now).Sure (orderly env) (Others operationId) (Within (.pull operationId))
      (fun _ _ _ => True) (fun _ _ _ => True) () w := by
  have script : Keeps env operationId (pullModel lines operationId model now) (fun _ => True) w := by
    have stable : ∀ w w', Others operationId w w' → Goes operationId false false w → Goes operationId false false w' :=
      fun _ _ later goes => goes.later later
    refine quiet_bind stable (quiet_section _) goes fun reply w₁ goes => ?_
    refine (Script.sure_bind _ _).2 ((Script.sure_require _).2 ⟨fun _ _ w₂ later₂ => ?_, by simp⟩)
    have goes := goes.later later₂
    refine (Script.sure_bind _ _).2 ((Script.sure_ask _).2 fun w₃ later₃ => ⟨fun _ torn => torn.elim, fun reply w₄ ran => ?_⟩)
    have goes := goes.later later₃
    cases ran.1 with
    | notConfigured =>
      obtain ⟨pull, found, sent, going, requests, heard, none_⟩ := goes
      have lines : pull.lateLines ≤ 1 := (none_.resolve_right fun late => by cases late.1).le.trans (Nat.zero_le 1)
      refine ⟨within_note found ⟨requests, lines⟩ rfl rfl fun _ _ => rfl, fun w₅ later₅ => ?_⟩
      refine quiet_bind (P := fun _ => True) (fun _ _ _ => id) (quiet_section _) trivial fun reply w₆ _ => ?_
      exact (Script.sure_bind _ _).2 ((Script.sure_require _).2 (by simp))
    | configured =>
      refine ⟨refl_within _ _, fun w₅ later₅ => ?_⟩
      have goes := goes.later later₅
      simp only [if_true]
      refine (Script.sure_bind (ask (.register operationId)) _).2 ?_
      refine (Script.sure_ask _).2 fun w₆ later₆ => ⟨fun _ torn => torn.elim, fun reply w₇ ran => ?_⟩
      have goes := goes.later later₆
      have registers : Within (.pull operationId) w₆ w₇ ∧ Goes operationId false false w₇ := by
        cases ran.1
        obtain ⟨pull, found, sent, going, requests, heard, none_⟩ := goes
        refine ⟨⟨fun sound => ⟨sound.stops, sound.known⟩, fun other ne => .of_same rfl ?_⟩, pull, found, sent, going,
          requests, fun recorded => ?_, .inl (none_.resolve_right fun late => by cases late.1)⟩
        · have ne : operationId ≠ other := fun eq => ne (eq ▸ rfl)
          exact (Dict.get?_set _ _ _ _).trans (if_neg ne)
        · cases (heard recorded).1
      refine ⟨registers.1, fun w₈ later₈ => ?_⟩
      have goes := registers.2.later later₈
      have last : ∀ w, Ended operationId w → Keeps env operationId (ask (.unregister operationId)) (fun _ => True) w := by
        intro w ended
        refine (Script.sure_ask _).2 fun w₁ later₁ => ⟨fun _ torn => torn.elim, fun reply w₂ ran => ⟨?_, fun _ _ => trivial⟩⟩
        obtain ⟨pull, found, requests, lines⟩ := (ended.later later₁).counts
        cases ran.1
        refine within_note found ⟨requests, lines⟩ rfl rfl fun other ne => ?_
        exact (Dict.get?_pop _ _ _).trans (if_neg ne.symm)
      have body : Keeps env operationId (Script.rescue (streamPull lines operationId model now)
          (pullFailed operationId now)) (Ended operationId) w₈ := by
        refine (Script.sure_rescue _ _).2 ((streamPull_keeps lines model now goes).mono (fun _ _ => id) ?_ ?_)
        · exact fun _ _ w' ended t later => ended.later later
        · exact fun failure _ w' ended => pullFailed_keeps now failure ended
      refine (Script.sure_andFinally _ _).2 (body.mono (fun _ _ => id) (fun _ _ w' ended => ?_) fun _ _ w' ended => ?_)
      · exact (last w' ended).mono (fun _ _ => id) (by simp) (by simp)
      · exact (last w' ended).mono (fun _ _ => id) (by simp) (by simp)
  exact script

lemma set_within {r : (Call.set operationId).Reply} (ran : Call.Run env (.set operationId) w r w') (n : ℕ) :
    Within (.cancel n) w w' := by
  cases ran
  refine ⟨fun sound => ⟨sound.stops, sound.known⟩, fun other _ => ⟨fun pull found => ⟨pull.recorded, found, .inl⟩, ?_⟩⟩
  intro there
  simp [there]

lemma record_within {reason : Option String} {now : String} {r : (Call.record operationId reason now).Reply}
    (ran : (orderly env).run (.record operationId reason now) w r w') (n : ℕ) : Within (.cancel n) w w' := by
  obtain ⟨ran, orderly⟩ := ran
  have heard := orderly operationId reason now rfl
  clear orderly
  cases ran
  refine ⟨fun sound => ⟨fun other pull found => ?_, fun other pull found => ?_⟩, fun other _ => ⟨fun pull found => ?_, id⟩⟩
  · rw [World.get?_note] at found
    obtain ⟨old, there, same⟩ := Option.map_eq_some_iff.1 found
    have fine := sound.stops other old there
    subst same
    split
    · split <;> exact fine
    · exact fine
  · rw [World.get?_note] at found
    obtain ⟨old, there, _⟩ := Option.map_eq_some_iff.1 found
    exact Section.run_known env w.store (.cancel operationId reason now) trivial (sound.known other old there)
  · rw [World.get?_note]
    by_cases own : other = operationId
    · subst own
      by_cases cancels : w.Cancels env other reason now
      · exact ⟨true, by simp [found, cancels, Pull.records], fun _ => .inr (heard cancels pull found)⟩
      · exact ⟨pull.recorded, by simp [found, cancels], .inl⟩
    · exact ⟨pull.recorded, by simp [found, own], .inl⟩

/-- `cancel_pull`, once the flag is set. -/
def recordCancel (operationId : String) (reason : Option String) (now : String) : Thread Unit := do
  match ← ask (.section (.get operationId)) with
  | none => pure ()
  | some _ => do
    let _ ← ask (.record operationId reason now)

/-- `cancel_pull` touches the event, and records what the pull has heard of. -/
lemma cancelPull_sure (n : ℕ) (reason : Option String) (now : String) :
    (cancelPull operationId reason now).Sure (orderly env) (Rely (.cancel n)) (Within (.cancel n))
      (fun _ _ _ => True) (fun _ _ _ => True) () w := by
  have step : ∀ {α : Type} {c : Call} {f : c.Reply → Thread α} {w : World}, (∀ w r w', (orderly env).run c w r w' →
      Within (.cancel n) w w') → (∀ r w, (f r).Sure (orderly env) (Rely (.cancel n)) (Within (.cancel n))
        (fun _ _ _ => True) (fun _ _ _ => True) () w) →
      (ask c >>= f).Sure (orderly env) (Rely (.cancel n)) (Within (.cancel n)) (fun _ _ _ => True) (fun _ _ _ => True)
        () w := by
    intro α c f w within next
    refine (Script.sure_bind _ _).2 ((Script.sure_ask _).2 fun w₁ _ => ⟨fun _ torn => torn.elim, fun r w₂ ran => ?_⟩)
    exact ⟨within w₁ r w₂ ran, fun w₃ _ => next r w₃⟩
  refine step (fun w r w' ran => ?_) fun found w => ?_
  · cases ran.1
    exact refl_within _ _
  have rest : ∀ w, (recordCancel operationId reason now).Sure (orderly env) (Rely (.cancel n)) (Within (.cancel n))
      (fun _ _ _ => True) (fun _ _ _ => True) () w := by
    intro w
    refine step (fun w r w' ran => ((quiet_section _).within ran.1 _).1) fun operation w => ?_
    cases operation with
    | none => simp
    | some operation =>
      refine step (fun w r w' ran => ?_) (by simp)
      exact record_within ran n
  cases found with
  | false => exact rest w
  | true =>
    refine step (fun w r w' ran => ?_) fun _ w => rest w
    exact set_within ran.1 n

/-! ## Runs -/

/-- The world is sound, and the scripts keep to what they may do. -/
structure System.Sound (env : Env) (s : System) : Prop where
  world : s.world.Sound
  threads : Program.Pool (orderly env) Rely Within (fun _ _ => True) s.threads s.world
  /-- A pull belongs to an operation. -/
  pulls : ∀ operationId program, s.threads.get? (.pull operationId) = some program →
    s.world.store.operations.get? operationId ≠ none

lemma pool_store {threads : Dict Name (Program Call Call.Reply (Except Failure Unit × Unit))} {store : Store}
    (sure : Program.Pool (orderly env) Rely Within (fun _ _ => True) threads w) :
    Program.Pool (orderly env) Rely Within (fun _ _ => True) threads { w with store := store } := by
  intro name program found
  refine (sure name program found).later ?_
  cases name with
  | pull operationId => exact .of_same rfl rfl
  | cancel => trivial

lemma others_of_within (name other : Name) (w w' : World) (ne : name ≠ other) (within : Within name w w') :
    Rely other w w' := by
  cases other with
  | pull operationId => exact within.others operationId ne
  | cancel => trivial

lemma Call.Run.known {c : Call} {r : c.Reply} (ran : Call.Run env c w r w') {id : String}
    (known : w.store.operations.get? id ≠ none) : w'.store.operations.get? id ≠ none := by
  cases ran with
  | «section» _ sec fresh => exact Section.run_known env w.store sec fresh known
  | record _ operationId reason now =>
    exact Section.run_known env w.store (.cancel operationId reason now) trivial known
  | _ => exact known

variable {s : System}

lemma System.Step.sound {s' : System} (step : System.Step env (orderly env) s s') (sound : s.Sound env) :
    s'.Sound env := by
  cases step with
  | start operationId model requestedBy target key now lines operation fresh created =>
    have absent : s.world.store.operations.get? operationId = none := fresh
    have unknown : s.world.pulls.get? operationId = none := by
      by_contra there
      obtain ⟨pull, found⟩ := Option.ne_none_iff_exists'.1 there
      exact sound.world.known operationId pull found absent
    have kept : ∀ id, s.world.store.operations.get? id ≠ none →
        ((Section.getOrCreate operationId (some .modelPull) requestedBy target key now).run env
          s.world.store).2.operations.get? id ≠ none := fun id => Section.run_known env _ _ fresh
    have here : ((Section.getOrCreate operationId (some .modelPull) requestedBy target key now).run env
        s.world.store).2.operations.get? operationId ≠ none := by
      simp only [Section.run, getOrCreateOperation] at created ⊢
      cases active : s.world.store.operations.values.find? fun op => decide (op.Answers (some .modelPull) target key) with
      | some op => simp [active] at created
      | none => simp [createOperation]
    refine ⟨⟨fun id pull found => ?_, fun id pull found => ?_⟩, ?_, fun id program found => ?_⟩
    · rw [Dict.get?_set] at found
      split at found
      · cases found
        exact ⟨rfl, Nat.zero_le 1⟩
      · exact sound.world.stops id pull found
    · rw [Dict.get?_set] at found
      split at found
      · next eq => exact eq ▸ here
      · exact kept id (sound.world.known id pull found)
    · refine Program.Pool.set (fun name program found => (sound.threads name program found).later ?_) ?_
      · cases name with
        | cancel => trivial
        | pull id =>
          have other : operationId ≠ id := fun eq => sound.pulls id program found (eq ▸ absent)
          exact .of_same ((Dict.get?_set _ _ _ _).trans (if_neg other)) rfl
      · refine (Script.sure_iff.1 (pullModel_sure lines model now ?_)).mono (fun _ _ => id) fun _ _ _ => trivial
        exact ⟨{}, (Dict.get?_set _ _ _ _).trans (if_pos rfl), rfl, rfl, rfl, by simp, .inl rfl⟩
    · rw [Dict.get?_set] at found
      split at found
      · next eq =>
        cases eq
        exact here
      · exact kept id (sound.pulls id program found)
  | operate sec fresh =>
    exact ⟨⟨sound.world.stops, fun id pull found => Section.run_known env _ sec fresh (sound.world.known id pull found)⟩,
      pool_store sound.threads, fun id program found => Section.run_known env _ sec fresh (sound.pulls id program found)⟩
  | cancel n operationId reason now absent =>
    refine ⟨sound.world, sound.threads.set ?_, fun id program found => ?_⟩
    · exact (Script.sure_iff.1 (cancelPull_sure n reason now)).mono (fun _ _ => id) fun _ _ _ => trivial
    · exact sound.pulls id program (((Dict.get?_set _ _ _ _).trans (if_neg (by simp))).symm.trans found)
  | call name c next reply world found ran =>
    obtain ⟨within, threads⟩ := sound.threads.call others_of_within found ran
    refine ⟨within.sound sound.world, threads, fun id program found' => Call.Run.known ran.1 ?_⟩
    by_cases own : name = .pull id
    · subst own
      exact sound.pulls id _ found
    · exact sound.pulls id program (((Dict.get?_set _ _ _ _).trans (if_neg own)).symm.trans found')

/-- **A cancelled pull stops** in every run whose cancels are heard of when they are recorded. -/
theorem cancelled_pull_stops (env : Env) (s : System) (run : OrderlyRuns env s) : Stops s.world := by
  have sound : s.Sound env := by
    refine Reach.invariant (I := System.Sound env) ?_ (fun _ _ sound step => step.sound sound) run
    rintro s rfl
    refine ⟨⟨fun id pull found => ?_, fun id pull found => ?_⟩, fun name program found => ?_, fun id program found => ?_⟩ <;>
      cases found
  exact sound.world.stops

/-! ## Played runs -/

/-- What a call answers and leaves where the server sends empty lines. -/
def Call.plays (env : Env) : (c : Call) → World → c.Reply × World
  | .section sec, w => ((sec.run env w.store).1, { w with store := (sec.run env w.store).2 })
  | .configured _, w => (true, w)
  | .register operationId, w => ((), { w with events := w.events.set operationId false })
  | .isSet operationId, w => ((w.events.get? operationId).getD false, w)
  | .unregister operationId, w =>
    ((), { w with events := w.events.pop operationId }.note operationId Pull.ends)
  | .post operationId _, w => (.ok 200, w.note operationId Pull.posts)
  | .readBody _, w => (.ok "", w)
  | .read operationId, w => (.ok (some .empty), w.note operationId Pull.reads)
  | .lookup operationId, w => ((w.events.get? operationId).isSome, w)
  | .set operationId, w =>
    ((), { w with events := w.events.map fun id flag => if id = operationId then true else flag })
  | .record operationId reason now, w =>
    (((Section.cancel operationId reason now).run env w.store).1,
      { w with store := w.cancelled env operationId reason now }.note operationId fun pull =>
        if w.Cancels env operationId reason now then pull.records else pull)

/-- The call creates no operation. -/
def Call.plain : Call → Bool
  | .section (.create ..) | .section (.getOrCreate ..) => false
  | _ => true

lemma Call.plays_run (env : Env) (c : Call) (plain : c.plain = true) (w : World) :
    Call.Run env c w (c.plays env w).1 (c.plays env w).2 := by
  cases c with
  | «section» sec =>
    refine .section w sec ?_
    cases sec with
    | create => cases plain
    | getOrCreate => cases plain
    | _ => trivial
  | configured operationId => exact .configured w operationId
  | register operationId => exact .register w operationId
  | isSet operationId => exact .isSet w operationId
  | unregister operationId => exact .unregister w operationId
  | post operationId model => exact .post w operationId model (.ok 200)
  | readBody operationId => exact .readBody w operationId (.ok "")
  | read operationId => exact .read w operationId .empty
  | lookup operationId => exact .lookup w operationId
  | set operationId => exact .set w operationId
  | record operationId reason now => exact .record w operationId reason now

/-- A script makes its next call. -/
def System.advance (env : Env) (name : Name) (s : System) : System :=
  match s.threads.get? name with
  | some (.call c next) =>
    if c.plain then { world := (c.plays env s.world).2, threads := s.threads.set name (next (c.plays env s.world).1) }
    else s
  | _ => s

variable {M : Machine Call Call.Reply World} {name : Name}

lemma System.advance_run (may : ∀ c next, s.threads.get? name = some (.call c next) → c.plain = true →
      M.run c s.world (c.plays env s.world).1 (c.plays env s.world).2)
    (run : Reach System.Init (System.Step env M) s) : Reach System.Init (System.Step env M) (s.advance env name) := by
  unfold System.advance
  split
  · next c next found =>
    split
    · next plain => exact run.step (.call s name c next _ _ found (may c next found plain))
    · exact run
  · exact run

/-- The next call of the script is orderly. -/
def System.heard (name : Name) (s : System) : Bool :=
  match s.threads.get? name with
  | some (.call (.record operationId _ _) _) =>
    match s.world.pulls.get? operationId with
    | none => true
    | some pull => pull.over || (pull.posted && s.world.events.get? operationId = some true)
  | _ => true

lemma System.heard_orderly (heard : s.heard name = true) {c : Call}
    {next : c.Reply → Program Call Call.Reply (Except Failure Unit × Unit)}
    (found : s.threads.get? name = some (.call c next)) (plain : c.plain = true) :
    (orderly env).run c s.world (c.plays env s.world).1 (c.plays env s.world).2 := by
  refine ⟨c.plays_run env plain s.world, ?_⟩
  rintro operationId reason now rfl _ pull there
  simpa [System.heard, found, there] using heard

def System.advances (env : Env) (name : Name) (n : ℕ) (s : System) : System := (System.advance env name)^[n] s

lemma System.advances_run {n : ℕ} (run : Runs env s) : Runs env (s.advances env name n) := by
  induction n with
  | zero => exact run
  | succ n ih =>
    rw [System.advances, Function.iterate_succ_apply']
    exact System.advance_run (fun c _ _ plain => c.plays_run env plain _) ih

lemma System.advances_orderly {n : ℕ} (run : OrderlyRuns env s)
    (heard : ∀ k < n, (s.advances env name k).heard name = true) : OrderlyRuns env (s.advances env name n) := by
  induction n with
  | zero => exact run
  | succ n ih =>
    rw [System.advances, Function.iterate_succ_apply']
    have before := ih fun k lt => heard k (Nat.lt_succ_of_lt lt)
    exact System.advance_run (fun c next found => System.heard_orderly (heard n (Nat.lt_succ_self n)) found) before

def anId : String := "0123456789abcdef0123456789abcdef"

def creation : Section := .getOrCreate anId (some .modelPull) "web" (some "llama3") (some "pull:local:llama3") "12:00"

/-- A pull is created, and `cancel_pull` is called for it. -/
def pullAndCancel : System where
  world := { store := (creation.run ⟨id⟩ {}).2, pulls := (∅ : Dict String Pull).set anId {} }
  threads := ((∅ : Dict Name _).set (.pull anId) (pullModel 9 anId "llama3" "12:00" ())).set (.cancel 0)
    (cancelPull anId none "12:00" ())

/-- The pull sends its request, the cancel is recorded, and the pull goes on. -/
def cancelledPull : System :=
  ((pullAndCancel.advances ⟨id⟩ (.pull anId) 5).advances ⟨id⟩ (.cancel 0) 4).advances ⟨id⟩ (.pull anId) 9

def unheardPull : System := (pullAndCancel.advances ⟨id⟩ (.cancel 0) 4).advances ⟨id⟩ (.pull anId) 20

/-- The operation of the pull. -/
def created : Operation :=
  { operationId := anId, type := .modelPull, requestedBy := "web", target := some "llama3"
    idempotencyKey := some "pull:local:llama3", createdAt := "12:00", updatedAt := "12:00" }

lemma pullAndCancel_run : Reach System.Init (System.Step ⟨id⟩ M) pullAndCancel := by
  have begins : Reach System.Init (System.Step ⟨id⟩ M) {} := .init rfl
  have pulls := begins.step (.start {} anId "llama3" "web" (some "llama3") (some "pull:local:llama3") "12:00" 9 created
    rfl (by decide +kernel))
  exact pulls.step (.cancel _ 0 anId none "12:00" (by decide +kernel))

/-- A pull that is cancelled after it has sent its request. -/
theorem cancelled_pull_stops_once : cancelledPull.world.pulls.get? anId =
    some { posted := true, «over» := true, recorded := true, lateRequests := 0, lateLines := 0 } ∧
      Stops cancelledPull.world := by
  refine ⟨by decide +kernel, cancelled_pull_stops ⟨id⟩ cancelledPull ?_⟩
  have posted : OrderlyRuns ⟨id⟩ (pullAndCancel.advances ⟨id⟩ (.pull anId) 5) :=
    System.advances_orderly pullAndCancel_run (by decide +kernel)
  exact System.advances_orderly (System.advances_orderly posted (by decide +kernel)) (by decide +kernel)

/-- Whoever cancels a pull before it has begun is not heard: it sends its request, and it reads on. -/
theorem cancelled_pull_goes_on : ∃ s, Runs ⟨id⟩ s ∧
    s.world.pulls.get? anId = some { posted := true, recorded := true, lateRequests := 1, lateLines := 8 } ∧
      ¬ Stops s.world := by
  have here : unheardPull.world.pulls.get? anId =
      some { posted := true, recorded := true, lateRequests := 1, lateLines := 8 } := by decide +kernel
  refine ⟨unheardPull, System.advances_run (System.advances_run pullAndCancel_run), here, fun stops => ?_⟩
  cases (stops anId _ here).1

end Vertep.Pulls
