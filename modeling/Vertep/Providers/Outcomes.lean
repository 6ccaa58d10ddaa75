import Vertep.Providers.Switch

/-!
# How a switch ends (`core/provider_switch.py`)

What each call writes and how it ends, said once: one constructor for each way in which an activation and the superseding
before it can go. Everything about whole calls follows from these.
-/

namespace Vertep.Providers
open Lib Command

variable {host : Host} {r : Request} {w w' : World} {faults : Point → Fate} {point : Point}

/-! ## Writes -/

lemma persist_lands (change : World → World) (landed : faults point = .lands) :
    persist faults point change w = (.ok (), change w) := by
  simp [persist, landed, write]

/-- What a write raises that does not land. -/
def Fate.failure : Fate → Failure
  | .lands => .unexpected
  | .fails error => .osError error
  | .crashes => .crashed

lemma persist_lost (change : World → World) (lost : faults point ≠ .lands) :
    persist faults point change w = (.error (faults point).failure, w) := by
  unfold persist
  cases fate : faults point with
  | lands => exact absurd fate lost
  | fails error => rfl
  | crashes => rfl

/-! ## Putting back -/

def World.restored (w : World) (tx : Transaction) : World :=
  { w with overrides := tx.previous, environ := restoreEnvironment tx.environment w.environ }

/-- The ways `putBack` can go. -/
inductive PutBack (faults : Point → Fate) (overrides record : Point) (tx : Transaction) (targets : List String) (w : World) :
    Except Failure Unit → World → Prop where
  | unwritten (e : Failure) (lost : faults overrides ≠ .lands) : PutBack faults overrides record tx targets w (.error e) w
  | unmarked (e : Failure) (landed : faults overrides = .lands) (lost : faults record ≠ .lands) :
    PutBack faults overrides record tx targets w (.error e) (w.restored tx)
  | marked (landed : faults overrides = .lands) (recorded : faults record = .lands) :
    PutBack faults overrides record tx targets w (.ok ())
      { w.restored tx with activation := some { tx with status := .rolledBack, targets } }

lemma putBack_cases (faults : Point → Fate) (overrides record : Point) (tx : Transaction) (targets : List String)
    (w : World) :
    PutBack faults overrides record tx targets w (putBack faults overrides record tx targets w).1
      (putBack faults overrides record tx targets w).2 := by
  unfold putBack writeOverrides setEnviron activationRecord
  by_cases landed : faults overrides = .lands
  · rw [bind_of_ok (persist_lands _ landed), write_bind]
    by_cases recorded : faults record = .lands
    · rw [persist_lands _ recorded]
      exact .marked landed recorded
    · rw [persist_lost _ recorded]
      exact .unmarked _ landed recorded
  · rw [bind_of_error (persist_lost _ landed)]
    exact .unwritten _ landed

/-! ## The selection -/

lemma Selection.restore_set (selection : Selection) (vars : Vars) :
    restoreEnvironment (selection.captured vars) (selection.set vars) = vars := by
  obtain ⟨requested, envName, _ | ⟨endpoint, value⟩⟩ := selection
  · simp [restoreEnvironment, captured, set]
  · funext name
    simp only [restoreEnvironment, captured, set, List.foldl_cons, List.foldl_nil, Function.update_apply]
    split <;> simp_all

lemma Selection.captured_map (selection : Selection) (environ overrides : Vars) :
    (selection.captured environ).map (fun e => (e.1, overrides e.1)) = selection.captured overrides := by
  obtain ⟨requested, envName, _ | ⟨endpoint, value⟩⟩ := selection <;> rfl

def World.begun (w : World) (tx : Transaction) : World := { w with activation := some tx, started := tx.number }

def World.selecting (w : World) (selection : Selection) (tx : Transaction) : World :=
  { w.begun tx with overrides := tx.selected, environ := selection.set w.environ }

def Transaction.undone (tx : Transaction) : Transaction := { tx with status := .rolledBack }

def World.undone (w : World) (tx : Transaction) : World := { w.begun tx with activation := some tx.undone }

def Transaction.verified (tx : Transaction) : Transaction :=
  { tx with status := if tx.targets = [] then .awaitingWorker else .committed }

/-- The ways `verifySelection` can go. -/
inductive Verification (host : Host) (r : Request) (selection : Selection) (tx : Transaction) (w : World) :
    Except Failure Unit → World → Prop where
  | failed (e : Failure) : Verification host r selection tx w (.error e) w
  | passed (backend : (providerMatrix host w.environ r.slot).backend = some selection.requested)
      (workers : verifyWorkers host r.watch w.environ r.slot (executorConfig w) tx.targets = .ok ())
      (landed : r.faults .outcome = .lands) :
    Verification host r selection tx w (.ok ())
      { w with
        activation := some tx.verified
        confirmed := if tx.verified.status = .committed then tx.selected else w.confirmed }

lemma verifySelection_cases (host : Host) (r : Request) (selection : Selection) (tx : Transaction) (w : World) :
    Verification host r selection tx w (verifySelection host r selection tx w).1
      (verifySelection host r selection tx w).2 := by
  unfold verifySelection activationRecord
  rw [read_bind, when_raise_bind]
  split
  · exact .failed _
  rw [when_raise_bind]
  split
  · exact .failed _
  · rename_i backend
    rw [answer_bind]
    cases verifyEffectiveEngine r.slot selection.requested r.engine with
    | error e => exact .failed e
    | ok _ =>
      rw [answer_bind]
      cases workers : verifyWorkers host r.watch w.environ r.slot (executorConfig w) tx.targets with
      | error e => exact .failed e
      | ok _ =>
        by_cases landed : r.faults .outcome = .lands
        · simp only [persist_lands _ landed]
          exact .passed (not_not.1 backend) workers landed
        · simp only [persist_lost _ landed]
          exact .failed _

/-- The ways `revert` can go; `before` is the world the transaction was begun in. -/
inductive Reverted (r : Request) (selection : Selection) (tx : Transaction) (before : World) :
    Except Failure Unit → World → Prop where
  | stopped : Reverted r selection tx before (.error .crashed) (before.selecting selection tx)
  | unrestored (e : Failure) (lost : r.faults .rollbackOverrides ≠ .lands) :
    Reverted r selection tx before (.error e) { before.begun tx with overrides := tx.selected }
  | unmarked (e : Failure) (landed : r.faults .rollbackOverrides = .lands) (lost : r.faults .rollbackRecord ≠ .lands) :
    Reverted r selection tx before (.error e) (before.begun tx)
  | marked (e : Failure) (landed : r.faults .rollbackOverrides = .lands) (recorded : r.faults .rollbackRecord = .lands) :
    Reverted r selection tx before (.error e) (before.undone tx)

lemma World.selecting_setEnviron (selection : Selection) (w : World) (tx : Transaction)
    (environment : tx.environment = selection.captured w.environ) :
    restoreEnvironment tx.environment (w.selecting selection tx).environ = w.environ := by
  rw [environment]
  exact selection.restore_set w.environ

section
variable {selection : Selection} {tx : Transaction} {before : World}

lemma rollback_of_lands (environment : tx.environment = selection.captured before.environ)
    (selected : tx.selected = selection.set before.overrides) (landed : r.faults .rollbackOverrides = .lands) :
    rollback r tx before (before.selecting selection tx) = (.ok (), before.begun tx) := by
  have overrides : restoreEnvironment (tx.environment.map fun e => (e.1, before.overrides e.1)) tx.selected =
      before.overrides := by
    rw [environment, selection.captured_map, selected, selection.restore_set]
  have environ := World.selecting_setEnviron selection before tx environment
  simp only [rollback, writeOverrides, overrides, Command.handle, bind_apply, persist_lands _ landed, setEnviron, write,
    pure_apply, environ]
  rfl

lemma rollback_of_fails (environment : tx.environment = selection.captured before.environ) {error : String}
    (lost : r.faults .rollbackOverrides = .fails error) :
    rollback r tx before (before.selecting selection tx) =
      (.error (.rejected 503 "Не вдалося зберегти попередню конфігурацію провайдера"),
        { before.begun tx with overrides := tx.selected }) := by
  have environ := World.selecting_setEnviron selection before tx environment
  simp only [rollback, writeOverrides, Command.handle, bind_apply, persist, lost, raise_apply, persistenceError,
    setEnviron, write, pure_apply, environ]
  rfl

lemma rollback_of_crashes (lost : r.faults .rollbackOverrides = .crashes) :
    rollback r tx before (before.selecting selection tx) = (.error .crashed, before.selecting selection tx) := by
  simp only [rollback, writeOverrides, Command.handle, bind_apply, persist, lost, raise_apply, persistenceError]

lemma revert_cases (host : Host) (r : Request) (environment : tx.environment = selection.captured before.environ)
    (selected : tx.selected = selection.set before.overrides) (error : Failure) :
    Reverted r selection tx before (revert host r tx before error (before.selecting selection tx)).1
      (revert host r tx before error (before.selecting selection tx)).2 := by
  unfold revert
  cases fate : r.faults .rollbackOverrides with
  | fails message =>
    rw [bind_of_error (rollback_of_fails environment fate)]
    exact .unrestored _ (by simp [fate])
  | crashes =>
    rw [bind_of_error (rollback_of_crashes fate)]
    exact .stopped
  | lands =>
    rw [bind_of_ok (rollback_of_lands environment selected fate)]
    by_cases recorded : r.faults .rollbackRecord = .lands
    · rw [activationRecord, bind_of_ok (persist_lands _ recorded), read_bind]
      cases verifyWorkers host r.restoring _ r.slot _ tx.targets with
      | ok _ => exact .marked _ fate recorded
      | error e => cases e <;> exact .marked _ fate recorded
    · rw [activationRecord, bind_of_error (persist_lost _ recorded)]
      exact .unmarked _ fate recorded

end

/-! ## What is chosen -/

lemma providerMatrix_env (environ environ' : Vars) (slot : String) :
    (providerMatrix host environ slot).env = (providerMatrix host environ' slot).env := by
  unfold providerMatrix
  split <;> rfl

lemma endpointEnvBySlot_ne {slot requested name : String} {environ : Vars}
    (endpoint : endpointEnvBySlot (slot, requested) = some name) : name ≠ (providerMatrix host environ slot).env := by
  unfold endpointEnvBySlot at endpoint
  split at endpoint
  · rename_i same
    obtain ⟨rfl, rfl⟩ := Prod.mk.inj same
    obtain rfl := Option.some.inj endpoint
    exact (by decide : "MONEY_PRINTER_URL" ≠ "VERTEP_VIDEO_ENGINE")
  · rename_i same
    obtain ⟨rfl, rfl⟩ := Prod.mk.inj same
    obtain rfl := Option.some.inj endpoint
    exact (by decide : "SHORTGPT_URL" ≠ "VERTEP_VIDEO_ENGINE")
  · cases endpoint

lemma chooseEndpoint_ne {slot requested : String} {environ : Vars} {endpoint : Option String}
    {chosen : Option (String × String)} (named : chooseEndpoint slot requested endpoint = .ok chosen) :
    ∀ e ∈ chosen, e.1 ≠ (providerMatrix host environ slot).env := by
  cases endpoint with
  | none =>
    obtain rfl := Except.ok.inj named
    intro e member
    cases member
  | some endpoint =>
    rw [chooseEndpoint] at named
    cases found : endpointEnvBySlot (slot, requested) with
    | none =>
      rw [found] at named
      cases named
    | some name =>
      rw [found] at named
      obtain rfl := Except.ok.inj named
      intro e member
      obtain rfl := Option.some.inj member
      exact endpointEnvBySlot_ne found

lemma choose_some {environ : Vars} {selection : Selection} (chosen : choose host r environ = .ok (some selection)) :
    selection.envName = (providerMatrix host environ r.slot).env ∧
      ∀ e ∈ selection.endpoint, e.1 ≠ selection.envName := by
  have named := @chooseEndpoint_ne host r.slot (lower (Core.strip r.backend)) environ r.endpoint
  simp only [choose] at chosen
  generalize providerMatrix host environ r.slot = before at chosen named
  split at chosen
  · cases chosen
  split at chosen
  · cases chosen
  split at chosen
  · cases chosen
  obtain ⟨_, _, chosen⟩ := except_bind_ok.1 chosen
  split at chosen
  · cases chosen
  split at chosen
  · cases chosen
  obtain ⟨endpoint, found, chosen⟩ := except_bind_ok.1 chosen
  obtain rfl := Option.some.inj (Except.ok.inj chosen)
  exact ⟨rfl, named found⟩

lemma effectiveProviderConfig_selected {selection : Selection} {vars : Vars}
    (env : selection.envName = (providerMatrix host w.environ r.slot).env)
    (apart : ∀ e ∈ selection.endpoint, e.1 ≠ selection.envName) (selected : w.overrides = selection.set vars)
    (backend : (providerMatrix host w.environ r.slot).backend = some selection.requested) :
    effectiveProviderConfig host r.slot w = (.ok (), w) := by
  have persisted : w.overrides (providerMatrix host w.environ r.slot).env = some selection.requested := by
    rw [selected, ← env]
    obtain ⟨requested, envName, _ | ⟨name, value⟩⟩ := selection
    · simp [Selection.set]
    · have ne : name ≠ envName := apart (name, value) rfl
      simp [Selection.set, ne.symm]
  unfold effectiveProviderConfig
  rw [read_bind, when, if_neg]
  · rfl
  · rintro ⟨value, found, _, differs⟩
    rw [persisted, Option.mem_some_iff] at found
    exact differs (found ▸ backend)

/-! ## Activations -/

/-- The ways `activate` can go. -/
inductive Activated (host : Host) (r : Request) (selection : Selection) (w : World) (tx : Transaction) :
    Except Failure Unit → World → Prop where
  | unrecorded (e : Failure) (lost : r.faults .applying ≠ .lands) : Activated host r selection w tx (.error e) w
  | unselected (e : Failure) (recorded : r.faults .applying = .lands) (lost : r.faults .selection ≠ .lands) :
    Activated host r selection w tx (.error e) (w.begun tx)
  | verified (recorded : r.faults .applying = .lands) (written : r.faults .selection = .lands)
      (landed : r.faults .outcome = .lands)
      (workers : verifyWorkers host r.watch (selection.set w.environ) r.slot (allowlisted tx.selected) tx.targets = .ok ()) :
    Activated host r selection w tx (.ok ())
      { w.selecting selection tx with
        activation := some tx.verified
        confirmed := if tx.verified.status = .committed then tx.selected else w.confirmed }
  | reverted (recorded : r.faults .applying = .lands) (written : r.faults .selection = .lands) (e : Failure) (w' : World)
      (left : Reverted r selection tx w (.error e) w') : Activated host r selection w tx (.error e) w'

/-- The ways `conclude` can go. -/
lemma conclude_cases {selection : Selection} (tx : Transaction) (chosen : choose host r w.environ = .ok (some selection))
    (applying : tx.status = .applying) (environment : tx.environment = selection.captured w.environ)
    (selected : tx.selected = selection.set w.overrides) :
    (r.faults .outcome = .lands ∧
      verifyWorkers host r.watch (selection.set w.environ) r.slot (allowlisted tx.selected) tx.targets = .ok () ∧
      conclude host r selection tx w (w.selecting selection tx) =
        (.ok (),
          { w.selecting selection tx with
            activation := some tx.verified
            confirmed := if tx.verified.status = .committed then tx.selected else w.confirmed })) ∨
    ∃ e w', conclude host r selection tx w (w.selecting selection tx) = (.error e, w') ∧
      Reverted r selection tx w (.error e) w' := by
  obtain ⟨env, apart⟩ := choose_some chosen
  have config : executorConfig (w.selecting selection tx) = allowlisted tx.selected := by
    refine executorConfig_eq (Option.eq_none_iff_forall_ne_some.2 fun t rolled => ?_)
    obtain ⟨same, status⟩ := World.inStatus_eq_some.1 rolled
    obtain rfl := Option.some.inj same
    exact Status.noConfusion (applying.symm.trans status)
  have checked := verifySelection_cases host r selection tx (w.selecting selection tx)
  cases checking : verifySelection host r selection tx (w.selecting selection tx) with
  | mk x w' =>
  rw [checking] at checked
  unfold conclude
  cases checked with
  | failed e =>
    refine .inr ?_
    by_cases crashed : e = .crashed
    · refine ⟨.crashed, w.selecting selection tx, bind_of_error (handle_of_error checking _ |>.trans ?_) _, .stopped⟩
      rw [if_pos crashed]
      rfl
    · have left := revert_cases host r environment selected (reported e)
      have handled : handle (verifySelection host r selection tx) (fun failure =>
          if failure = .crashed then raise .crashed else revert host r tx w (reported failure))
          (w.selecting selection tx) = revert host r tx w (reported e) (w.selecting selection tx) := by
        refine (handle_of_error checking _).trans ?_
        rw [if_neg crashed]
        rfl
      cases run : revert host r tx w (reported e) (w.selecting selection tx) with
      | mk x w' =>
      rw [run] at left handled
      cases x with
      | error e => exact ⟨e, w', bind_of_error handled _, left⟩
      | ok _ => cases left
  | passed backend workers landed =>
    rw [config] at workers
    refine .inl ⟨landed, workers, (bind_of_ok (handle_of_ok checking _) _).trans ?_⟩
    refine effectiveProviderConfig_selected ?_ apart selected backend
    exact env.trans (providerMatrix_env _ _ _)

/-- What is reported of a write that failed. -/
def Failure.notPersisted : Failure → Failure
  | .osError error => .rejected 500 ("Could not persist the provider switch: " ++ error)
  | e => e

lemma persistSelection_of_error {tx : Transaction} {e : Failure}
    (failed : (do
      persist r.faults .applying fun w => { w with activation := some tx, started := tx.number }
      writeOverrides r.faults .selection tx.selected : ProviderM Unit) w = (.error e, w')) :
    persistSelection r tx w = (.error e.notPersisted, w') := by
  refine (handle_of_error failed _).trans ?_
  cases e <;> rfl

lemma activate_cases {selection : Selection} (chosen : choose host r w.environ = .ok (some selection)) :
    Activated host r selection w (beginTransaction host r selection w) (activate host r selection w).1
      (activate host r selection w).2 := by
  unfold activate
  rw [read_bind]
  have ends := conclude_cases (beginTransaction host r selection w) chosen rfl rfl rfl
  generalize beginTransaction host r selection w = tx at *
  by_cases recorded : r.faults .applying = .lands
  · by_cases written : r.faults .selection = .lands
    · have persisted : persistSelection r tx w = (.ok (), { w.begun tx with overrides := tx.selected }) := by
        refine handle_of_ok ?_ _
        rw [bind_of_ok (persist_lands _ recorded), writeOverrides, persist_lands _ written]
        rfl
      have run : (persistSelection r tx >>= fun _ => setEnviron selection.set >>= fun _ =>
          conclude host r selection tx w) w = conclude host r selection tx w (w.selecting selection tx) := by
        rw [bind_of_ok persisted, setEnviron, write_bind]
        rfl
      obtain ⟨landed, workers, ended⟩ | ⟨e, w', ended, left⟩ := ends
      · rw [run.trans ended]
        exact .verified recorded written landed workers
      · rw [run.trans ended]
        exact .reverted recorded written e w' left
    · have failed : persistSelection r tx w = (.error (r.faults .selection).failure.notPersisted, w.begun tx) :=
        persistSelection_of_error ((bind_of_ok (persist_lands _ recorded) _).trans (persist_lost _ written))
      rw [bind_of_error failed]
      exact .unselected _ recorded written
  · have failed : persistSelection r tx w = (.error (r.faults .applying).failure.notPersisted, w) :=
      persistSelection_of_error (bind_of_error (persist_lost _ recorded) _)
    rw [bind_of_error failed]
    exact .unrecorded _ recorded

/-! ## Whole calls -/

/-- The ways `supersede` can go. -/
inductive Superseded (r : Request) (w : World) : Except Failure Unit → World → Prop where
  | clear (clear : w.inStatus .awaitingWorker = none) : Superseded r w (.ok ()) w
  | foreign (e : Failure) (tx : Transaction) (pending : w.inStatus .awaitingWorker = some tx) (other : tx.slot ≠ r.slot) :
    Superseded r w (.error e) w
  | own (tx : Transaction) (pending : w.inStatus .awaitingWorker = some tx) (same : tx.slot = r.slot)
      (x : Except Failure Unit) (w' : World)
      (went : PutBack r.faults .supersedeOverrides .supersedeRecord tx tx.targets w x w') : Superseded r w x w'

lemma supersede_cases (r : Request) (w : World) : Superseded r w (supersede r w).1 (supersede r w).2 := by
  unfold supersede
  rw [read_bind]
  cases pending : w.inStatus .awaitingWorker with
  | none => exact .clear pending
  | some tx =>
    dsimp only
    split
    · exact .foreign _ tx pending ‹_›
    · exact .own tx pending (not_not.1 ‹_›) _ _ (putBack_cases _ _ _ tx tx.targets w)

/-- The ways a call of `switch_provider` can go. -/
inductive Switched (host : Host) (r : Request) (w : World) : Except Failure Unit → World → Prop where
  | busy (e : Failure) (locked : r.lockFree = false) : Switched host r w (.error e) w
  | blocked (e : Failure) (w' : World) (free : r.lockFree = true) (went : Superseded r w (.error e) w') :
    Switched host r w (.error e) w'
  | refused (e : Failure) (w' : World) (free : r.lockFree = true) (went : Superseded r w (.ok ()) w')
      (checks : choose host r w'.environ = .error e) : Switched host r w (.error e) w'
  | unchanged (w' : World) (free : r.lockFree = true) (went : Superseded r w (.ok ()) w')
      (checks : choose host r w'.environ = .ok none) : Switched host r w (.ok ()) w'
  | activated (w₁ : World) (free : r.lockFree = true) (went : Superseded r w (.ok ()) w₁) (selection : Selection)
      (checks : choose host r w₁.environ = .ok (some selection)) (x : Except Failure Unit) (w' : World)
      (left : Activated host r selection w₁ (beginTransaction host r selection w₁) x w') : Switched host r w x w'

/-- Every call of `switch_provider` goes in one of these ways. -/
lemma switchProvider_cases (host : Host) (r : Request) (w : World) :
    Switched host r w (switchProvider host r w).1 (switchProvider host r w).2 := by
  unfold switchProvider
  rw [when_raise_bind]
  cases free : r.lockFree with
  | false => exact .busy _ free
  | true =>
    rw [if_neg (by simp)]
    have went := supersede_cases r w
    cases run : supersede r w with
    | mk x w₁ =>
    rw [run] at went
    cases x with
    | error e =>
      rw [bind_of_error run]
      exact .blocked e w₁ free went
    | ok _ =>
      rw [bind_of_ok run]
      unfold switchSlot
      rw [read_bind, answer_bind]
      cases checks : choose host r w₁.environ with
      | error e => exact .refused e w₁ free went checks
      | ok chosen =>
        cases chosen with
        | none => exact .unchanged w₁ free went checks
        | some selection => exact .activated w₁ free went selection checks _ _ (activate_cases checks)

/-- The worker runs tasks of the slot and reports the selection that it was delivered last. -/
def Acknowledges (host : Host) (worker : Worker) (tx : Transaction) (w : World) : Prop :=
  (∀ capability ∈ slotCapability tx.slot, capability ∈ worker.capabilities) ∧
    worker.providerConfigRevision = some (host.revision (executorConfig w))

/-- The ways `reconcile_provider_activation` can go while it holds the lock. -/
inductive Reconciled (host : Host) (faults : Point → Fate) (nodeName : String) (worker : Worker) (tx : Transaction)
    (w : World) : Except Failure Unit → World → Prop where
  | ignored (ignores : ¬ Acknowledges host worker tx w) : Reconciled host faults nodeName worker tx w (.ok ()) w
  | refused (reports : Acknowledges host worker tx w)
      (refuses : Refuses host w.environ tx.slot (executorConfig w) worker) (x : Except Failure Unit) (w' : World)
      (went : PutBack faults .refuseOverrides .refuseRecord tx [nodeName] w x w') :
    Reconciled host faults nodeName worker tx w x w'
  | lost (e : Failure) (accepts : ¬ Refuses host w.environ tx.slot (executorConfig w) worker)
      (lost : faults .acknowledge ≠ .lands) : Reconciled host faults nodeName worker tx w (.error e) w
  | acknowledged (reports : Acknowledges host worker tx w)
      (accepts : ¬ Refuses host w.environ tx.slot (executorConfig w) worker) (landed : faults .acknowledge = .lands) :
    Reconciled host faults nodeName worker tx w (.ok ())
      { w with
        activation := some { tx with status := .committed, targets := [nodeName] }
        confirmed := tx.selected }

lemma reconcileHolding_cases (host : Host) (faults : Point → Fate) (nodeName : String) (worker : Worker)
    (tx : Transaction) (w : World) :
    Reconciled host faults nodeName worker tx w (reconcileHolding host faults nodeName worker tx w).1
      (reconcileHolding host faults nodeName worker tx w).2 := by
  unfold reconcileHolding
  rw [read_bind]
  split
  · rename_i unable
    obtain ⟨capability, needed, missing⟩ := unable
    exact .ignored fun reports => missing (reports.1 capability needed)
  rename_i able
  split
  · exact .ignored fun reports => ‹_ ≠ _› reports.2
  rename_i revision
  have reports : Acknowledges host worker tx w := by
    refine ⟨fun capability needed => ?_, not_not.1 revision⟩
    by_contra missing
    exact able ⟨capability, needed, missing⟩
  split
  · exact .refused reports ‹_› _ _ (putBack_cases _ _ _ tx [nodeName] w)
  · unfold activationRecord
    by_cases landed : faults .acknowledge = .lands
    · rw [persist_lands _ landed]
      exact .acknowledged reports ‹_› landed
    · rw [persist_lost _ landed]
      exact .lost _ ‹_› landed

lemma applyProviderOverrides_cases (faults : Point → Fate) (w : World) :
    (w.inStatus .applying = none ∧ ∃ environ, (applyProviderOverrides faults w).2 = { w with environ }) ∨
    ∃ tx x w₁ environ, w.inStatus .applying = some tx ∧
      PutBack faults .recoverOverrides .recoverRecord tx tx.targets w x w₁ ∧
      (applyProviderOverrides faults w).2 = { w₁ with environ } := by
  unfold applyProviderOverrides
  rw [read_bind]
  cases half : w.inStatus .applying with
  | none => exact .inl ⟨rfl, _, rfl⟩
  | some tx =>
    refine .inr ⟨tx, ?_⟩
    have went := putBack_cases faults .recoverOverrides .recoverRecord tx tx.targets w
    cases run : putBack faults .recoverOverrides .recoverRecord tx tx.targets w with
    | mk x w₁ =>
    rw [run] at went
    cases x with
    | error e =>
      refine ⟨.error e, w₁, w₁.environ, rfl, went, ?_⟩
      exact congrArg Prod.snd (bind_of_error run _)
    | ok _ =>
      refine ⟨.ok (), w₁, overridden w₁.overrides w₁.environ, rfl, went, ?_⟩
      exact congrArg Prod.snd (bind_of_ok run _)

end Vertep.Providers
