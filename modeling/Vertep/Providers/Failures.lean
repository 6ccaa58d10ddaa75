import Vertep.Providers.Outcomes

/-!
# Failed switches (`core/provider_switch.py`)

When a call of `switch_provider` that raises leaves the overrides, the environment and the pending activation as they
were, or rolled back to the selection that was confirmed last.
-/

namespace Vertep.Providers
open Lib Command

def AsBefore (w w' : World) : Prop :=
  w'.overrides = w.overrides ∧ w'.environ = w.environ ∧ w'.activation = w.activation

def Transaction.Open (tx : Transaction) : Prop := tx.status = .applying ∨ tx.status = .awaitingWorker

instance : DecidablePred Transaction.Open := fun tx => by unfold Transaction.Open; infer_instance

/-- The overrides that were confirmed last, by the record. -/
def World.lastConfirmed (w : World) : Vars :=
  match w.activation with
  | some tx => if tx.Open then tx.previous else w.overrides
  | none => w.overrides

/-- The environment with them. -/
def World.lastEnviron (w : World) : Vars :=
  match w.activation with
  | some tx => if tx.Open then restoreEnvironment tx.environment w.environ else w.environ
  | none => w.environ

/-- The record says that the transaction was rolled back, and what was confirmed last is in force. -/
def RolledBack (w w' : World) : Prop :=
  (∃ tx, w'.inStatus .rolledBack = some tx) ∧ w'.overrides = w.lastConfirmed ∧ w'.environ = w.lastEnviron

/-- What a failed call may leave. -/
structure AllOrNothing (w w' : World) : Prop where
  restored : AsBefore w w' ∨ RolledBack w w'
  settled : w'.inStatus .applying = none
  kept : ∀ tx, w.inStatus .awaitingWorker = some tx → w'.inStatus .awaitingWorker = some tx

/-- The request passes its checks and its transaction is recorded. -/
def Begins (host : Host) (r : Request) (w : World) : Prop :=
  r.lockFree = true ∧ w.inStatus .awaitingWorker = none ∧ (∃ selection, choose host r w.environ = .ok (some selection)) ∧
    r.faults .applying = .lands

def NothingToRestore (w : World) (tx : Transaction) : Prop :=
  tx.previous = w.overrides ∧ restoreEnvironment tx.environment w.environ = w.environ

/-- When a call that fails is all or nothing: it does not supersede an activation, no write is lost from where its
transaction is recorded, and it does not leave behind a transaction that it found half applied. -/
structure Recoverable (host : Host) (r : Request) (w : World) : Prop where
  superseding : r.lockFree = true → ∀ tx, w.inStatus .awaitingWorker = some tx → tx.slot = r.slot →
    r.faults .supersedeOverrides ≠ .lands ∨ (r.faults .supersedeRecord ≠ .lands ∧ NothingToRestore w tx)
  applying : Begins host r w →
    r.faults .selection = .lands ∧ r.faults .rollbackOverrides = .lands ∧ r.faults .rollbackRecord = .lands
  left : ∀ tx, w.inStatus .applying = some tx → Begins host r w ∧ NothingToRestore w tx

variable {host : Host} {r : Request} {w w' : World} {tx : Transaction}

/-! ## The record -/

lemma World.inStatus_of_activation (recorded : w.activation = some tx) : w.inStatus tx.status = some tx :=
  World.inStatus_eq_some.2 ⟨recorded, rfl⟩

lemma World.inStatus_eq_none {status status' : Status} (recorded : w.activation = some tx) (here : tx.status = status)
    (ne : status ≠ status') : w.inStatus status' = none := by
  refine Option.eq_none_iff_forall_ne_some.2 fun t there => ne ?_
  obtain ⟨same, rfl⟩ := World.inStatus_eq_some.1 there
  rw [← here, Option.some.inj (recorded.symm.trans same)]

lemma rolledBack_ne : Status.rolledBack ≠ .awaitingWorker := by decide

lemma World.undone_inStatus {status : Status} (ne : .rolledBack ≠ status) : (w.undone tx).inStatus status = none :=
  World.inStatus_eq_none rfl rfl ne

lemma AllOrNothing.self : AllOrNothing w w ↔ w.inStatus .applying = none :=
  ⟨AllOrNothing.settled, fun settled => ⟨.inl ⟨rfl, rfl, rfl⟩, settled, fun _ => id⟩⟩

lemma not_allOrNothing_of_applying (recorded : w'.activation = some tx) (status : tx.status = .applying) :
    ¬ AllOrNothing w w' := by
  intro all
  have here := World.inStatus_of_activation recorded
  rw [status, all.settled] at here
  cases here

lemma not_allOrNothing_of_discarded (pending : w.inStatus .awaitingWorker = some tx)
    (discarded : w'.inStatus .awaitingWorker = none) : ¬ AllOrNothing w w' := by
  intro all
  have kept := all.kept tx pending
  rw [discarded] at kept
  cases kept

lemma recoverable_of_idle (idle : ¬ Begins host r w)
    (apart : r.lockFree = true → ∀ tx, w.inStatus .awaitingWorker = some tx → tx.slot ≠ r.slot) :
    Recoverable host r w ↔ w.inStatus .applying = none := by
  refine ⟨fun recoverable => ?_, fun settled => ⟨?_, ?_, ?_⟩⟩
  · refine Option.eq_none_iff_forall_ne_some.2 fun tx here => ?_
    exact idle (recoverable.left tx here).1
  · intro free tx pending same
    exact absurd same (apart free tx pending)
  · intro begins
    exact absurd begins idle
  · intro tx here
    rw [settled] at here
    cases here

lemma Activated.discarded {selection : Selection} {e : Failure} (left : Activated host r selection w tx (.error e) w')
    (applying : tx.status = .applying) (clear : w.inStatus .awaitingWorker = none) :
    w'.inStatus .awaitingWorker = none := by
  have begun : (w.begun tx).inStatus .awaitingWorker = none :=
    World.inStatus_eq_none rfl applying (by decide)
  cases left with
  | unrecorded e lost => exact clear
  | unselected e recorded lost => exact begun
  | reverted recorded written e w' left =>
    cases left with
    | stopped | unrestored e lost | unmarked e landed lost => exact begun
    | marked e landed recorded => exact World.undone_inStatus (by decide)

/-! ## Failed calls -/

lemma allOrNothing_undone (clear : w.inStatus .awaitingWorker = none) :
    AllOrNothing w (w.undone tx) ↔ ∀ t, w.inStatus .applying = some t → NothingToRestore w t := by
  have undone : (w.undone tx).inStatus .rolledBack = some tx.undone := World.inStatus_eq_some.2 ⟨rfl, rfl⟩
  constructor
  · intro all t here
    obtain ⟨recorded, status⟩ := World.inStatus_eq_some.1 here
    obtain ⟨_, _, same⟩ | ⟨_, overrides, environ⟩ := all.restored
    · have gone : w.activation = some tx.undone := same.symm
      rw [World.inStatus_eq_none gone rfl (by decide : Status.rolledBack ≠ .applying)] at here
      cases here
    · rw [World.lastConfirmed, recorded] at overrides
      rw [World.lastEnviron, recorded] at environ
      dsimp only at overrides environ
      rw [if_pos (.inl status)] at overrides environ
      exact ⟨overrides.symm, environ.symm⟩
  · intro nothing
    have last : w.overrides = w.lastConfirmed ∧ w.environ = w.lastEnviron := by
      unfold World.lastConfirmed World.lastEnviron
      cases recorded : w.activation with
      | none => exact ⟨rfl, rfl⟩
      | some t =>
        dsimp only
        split
        · rename_i open_
          obtain applying | waiting := open_
          · obtain ⟨overrides, environ⟩ := nothing t (World.inStatus_eq_some.2 ⟨recorded, applying⟩)
            exact ⟨overrides.symm, environ.symm⟩
          · rw [World.inStatus_eq_some.2 ⟨recorded, waiting⟩] at clear
            cases clear
        · exact ⟨rfl, rfl⟩
    refine ⟨.inr ⟨⟨_, undone⟩, last⟩, World.undone_inStatus (by decide), fun t pending => ?_⟩
    rw [clear] at pending
    cases pending

/-! ## A pending activation of the same slot -/

section
variable (free : r.lockFree = true) (pending : w.inStatus .awaitingWorker = some tx) (same : tx.slot = r.slot)
include pending

lemma settled_of_pending : w.inStatus .applying = none := by
  obtain ⟨recorded, status⟩ := World.inStatus_eq_some.1 pending
  exact World.inStatus_eq_none recorded status (by decide)

lemma allOrNothing_restored : AllOrNothing w (w.restored tx) ↔ NothingToRestore w tx := by
  constructor
  · intro all
    obtain ⟨overrides, environ, _⟩ | ⟨⟨t, rolled⟩, _⟩ := all.restored
    · exact ⟨overrides, environ⟩
    · obtain ⟨recorded, status⟩ := World.inStatus_eq_some.1 pending
      have kept : (w.restored tx).activation = some tx := recorded
      rw [World.inStatus_eq_none kept status (by decide : Status.awaitingWorker ≠ .rolledBack)] at rolled
      cases rolled
  · rintro ⟨overrides, environ⟩
    exact ⟨.inl ⟨overrides, environ, rfl⟩, settled_of_pending pending, fun _ => id⟩

include free same

lemma recoverable_of_pending : Recoverable host r w ↔
    r.faults .supersedeOverrides ≠ .lands ∨ (r.faults .supersedeRecord ≠ .lands ∧ NothingToRestore w tx) := by
  constructor
  · intro recoverable
    exact recoverable.superseding free tx pending same
  · intro condition
    refine ⟨fun _ t found _ => ?_, ?_, fun t here => ?_⟩
    · rw [pending] at found
      exact Option.some.inj found ▸ condition
    · rintro ⟨_, clear, _⟩
      rw [pending] at clear
      cases clear
    · rw [settled_of_pending pending] at here
      cases here

end

/-- A call of `switch_provider` that raises is all or nothing exactly when it is recoverable. -/
theorem failed_switch_is_all_or_nothing (host : Host) (r : Request) (w : World) (e : Failure)
    (failed : (switchProvider host r w).1 = .error e) (running : e ≠ .crashed) :
    AllOrNothing w (switchProvider host r w).2 ↔ Recoverable host r w := by
  have went := switchProvider_cases host r w
  generalize switchProvider host r w = result at went failed
  obtain ⟨x, w'⟩ := result
  obtain rfl : x = .error e := failed
  dsimp only at went ⊢
  cases went with
  | busy e locked =>
    rw [AllOrNothing.self, recoverable_of_idle]
    · rintro ⟨free, _⟩
      rw [locked] at free
      cases free
    · intro free
      rw [locked] at free
      cases free
  | blocked e w' free went =>
    cases went with
    | foreign e tx pending other =>
      rw [AllOrNothing.self, recoverable_of_idle]
      · rintro ⟨_, clear, _⟩
        rw [pending] at clear
        cases clear
      · intro _ t found
        rw [pending] at found
        exact Option.some.inj found ▸ other
    | own tx pending same x w' went =>
      rw [recoverable_of_pending free pending same]
      cases went with
      | unwritten e lost => exact iff_of_true (AllOrNothing.self.2 (settled_of_pending pending)) (.inl lost)
      | unmarked e landed lost =>
        rw [allOrNothing_restored pending]
        exact ⟨fun nothing => .inr ⟨lost, nothing⟩, fun condition => (condition.resolve_left (not_not.2 landed)).2⟩
  | refused e w' free went checks =>
    cases went with
    | clear clear =>
      rw [AllOrNothing.self, recoverable_of_idle]
      · rintro ⟨_, _, ⟨selection, passes⟩, _⟩
        rw [checks] at passes
        cases passes
      · intro _ t found
        rw [clear] at found
        cases found
    | own tx pending same x w' went =>
      cases went with
      | marked landed recorded =>
        refine iff_of_false (not_allOrNothing_of_discarded pending ?_) ?_
        · exact World.inStatus_eq_none rfl rfl rolledBack_ne
        · rw [recoverable_of_pending free pending same]
          exact fun condition => condition.elim (· landed) (·.1 recorded)
  | activated w₁ free went selection checks x w' left =>
    cases went with
    | clear clear =>
      have begins (recorded : r.faults .applying = .lands) : Begins host r w := ⟨free, clear, ⟨selection, checks⟩, recorded⟩
      cases left with
      | unrecorded e lost =>
        rw [AllOrNothing.self, recoverable_of_idle]
        · exact fun begins => lost begins.2.2.2
        · intro _ t found
          rw [clear] at found
          cases found
      | unselected e recorded lost =>
        refine iff_of_false (not_allOrNothing_of_applying rfl rfl) fun recoverable => lost ?_
        exact (recoverable.applying (begins recorded)).1
      | reverted recorded written e w' left =>
        cases left with
        | stopped => exact absurd rfl running
        | unrestored e lost =>
          refine iff_of_false (not_allOrNothing_of_applying rfl rfl) fun recoverable => lost ?_
          exact (recoverable.applying (begins recorded)).2.1
        | unmarked e landed lost =>
          refine iff_of_false (not_allOrNothing_of_applying rfl rfl) fun recoverable => lost ?_
          exact (recoverable.applying (begins recorded)).2.2
        | marked e landed marked =>
          rw [allOrNothing_undone clear]
          refine ⟨fun nothing => ⟨fun _ t found => ?_, fun _ => ⟨written, landed, marked⟩, ?_⟩, ?_⟩
          · rw [clear] at found
            cases found
          · exact fun t here => ⟨begins recorded, nothing t here⟩
          · exact fun recoverable t here => (recoverable.left t here).2
    | own tx pending same x w' went =>
      cases went with
      | marked landed recorded =>
        refine iff_of_false (not_allOrNothing_of_discarded pending ?_) ?_
        · exact left.discarded rfl (World.inStatus_eq_none rfl rfl rolledBack_ne)
        · rw [recoverable_of_pending free pending same]
          exact fun condition => condition.elim (· landed) (·.1 recorded)

/-! ## A request with a typo -/

/-- A host whose adapters are all configured. -/
def plainHost : Host where
  revision config := String.intercalate "," (config.map fun (key, value) => key ++ "=" ++ value)
  engineRevision environ := getenv environ "VERTEP_VIDEO_ENGINE" ""
  configured _ _ := true
  urlsplit _ := .error "no URL"

def untouched : World :=
  { overrides := fun _ => none, activation := none, environ := fun _ => none, started := 0, confirmed := fun _ => none }

/-- A request for a backend of the slot `tts`. -/
def requestTts (backend : String) : Request := { slot := "tts", backend, watch := { first := ∅ }, restoring := { first := ∅ } }

def mockPending : World := (switchProvider plainHost (requestTts "mock") untouched).2

/-- A request for an engine that does not take effect. -/
def requestEngine : Request :=
  { slot := "video_engine", backend := "money-printer", engine := .ok { effective := "native" }
    watch := { first := ∅ }, restoring := { first := ∅ } }

/-- A selection that is put in force, fails its verification and is rolled back. -/
theorem refused_engine_is_all_or_nothing :
    AllOrNothing untouched (switchProvider plainHost requestEngine untouched).2 ∧
      ((switchProvider plainHost requestEngine untouched).2.inStatus .rolledBack).isSome = true :=
  ⟨(failed_switch_is_all_or_nothing plainHost requestEngine untouched
    (.rejected 409 "Engine 'money-printer' is not effective; readiness: unknown") (by decide +kernel) (by decide)).2
    ⟨nofun, fun _ => ⟨rfl, rfl, rfl⟩, nofun⟩, by decide +kernel⟩

/-- A request for an unknown backend discards a selection of the same slot that waits. -/
theorem typo_discards_pending :
    ¬ ∀ (host : Host) (r : Request) (w : World) (e : Failure), (switchProvider host r w).1 = .error e → e ≠ .crashed →
      AllOrNothing w (switchProvider host r w).2 := by
  intro always
  have all := always plainHost (requestTts "mokc") mockPending (.rejected 422 "Unknown backend 'mokc' for slot 'tts'")
    (by decide +kernel) (by decide)
  have waits : (mockPending.inStatus .awaitingWorker).isSome = true := by decide +kernel
  have gone : ((switchProvider plainHost (requestTts "mokc") mockPending).2.inStatus .awaitingWorker).isNone = true := by
    decide +kernel
  obtain ⟨tx, pending⟩ := Option.isSome_iff_exists.1 waits
  exact not_allOrNothing_of_discarded pending (Option.isNone_iff_eq_none.1 gone) all

end Vertep.Providers
