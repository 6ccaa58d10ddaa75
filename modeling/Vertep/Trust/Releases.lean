import Mathlib.Algebra.Order.Group.Int
import Vertep.Lib.Command
import Vertep.Lib.Reach
import Vertep.Lib.Text

/-!
# Signed releases

Embedding of `validate_manifest` and `validate_replay_state` of `core/update_protocol.py`, and of the part of
`process_request` in `scripts/update-agent.py` that decides whether the release of a manifest is trusted. The signature
check and the reading of time stamps are parameters. A JSON value that should be an integer and is not is `none`
under a `some`.
-/

namespace Vertep.Trust
open Lib

inductive Strategy where
  | none | expand | contract
deriving DecidableEq

/-- `manifest["database"]`; a field of the wrong type is `none`. -/
structure Database where
  strategy : Option Strategy
  schema : Option ℤ
  rollbackSafe : Option Bool
deriving DecidableEq

/-- A manifest; a field that is not there, or is null, is `none`. -/
structure Manifest where
  version : Option String
  package : Option String
  sha256 : Option String
  signature : Option String
  keyId : Option String := none
  channel : Option String := none
  minVersion : Option String := none
  maxVersion : Option String := none
  issuedAt : Option String := none
  expiresAt : Option String := none
  releaseSequence : Option (Option ℤ) := none
  database : Option Database := none
deriving DecidableEq

/-- The record in `trusted-release.json`. -/
structure Trusted where
  releaseSequence : ℤ
  version : String
  sha256 : String
  keyId : Option String
deriving DecidableEq

inductive Failure where
  | missing | version | tooOld | tooNew | channel | timestamp | window | notYet | expired | windowRequired
  | sequence | sequenceRequired | strategy | schema | rollbackSafe | contract | databaseRequired | digest | signature
  | target | root | downgrade | replayed | equivocates
deriving DecidableEq

/-- The environment: its switches, the reading of a time stamp, and the check of the signature. -/
structure Env where
  requireUpdateKeyLifecycle : Bool := false
  requireRollingCompatibility : Bool := false
  parseUtc : String → Option ℤ
  verifies : Manifest → Bool

/-- `require`, or raise. -/
def ensure {ε : Type} (condition : Prop) [Decidable condition] (failure : ε) : Except ε Unit :=
  if condition then .ok () else .error failure

/-- What is there, or raise. -/
def present {ε α : Type} (value : Option α) (failure : ε) : Except ε α :=
  match value with
  | some a => .ok a
  | none => .error failure

/-- `int`, of ASCII digits. -/
def decimal (digits : List Char) : ℕ := digits.foldl (fun n c => 10 * n + (c.toNat - '0'.toNat)) 0

def versionTuple (value : String) : Except Failure (List ℕ) := do
  let parts := value.toList.splitOn '.'
  ensure ((parts.length = 3 ∨ parts.length = 4) ∧ ∀ part ∈ parts, part ≠ [] ∧ ∀ c ∈ part, c ∈ "0123456789".toList)
    .version
  pure (parts.map decimal)

/-- A bound that is not there, or is empty, does not bind. -/
def bound (value : Option String) (check : List ℕ → Except Failure Unit) : Except Failure Unit :=
  match value.filter (· ≠ "") with
  | none => .ok ()
  | some value => do check (← versionTuple value)

/-- The validity window. -/
def validateWindow (env : Env) (manifest : Manifest) (now : ℤ) : Except Failure Unit :=
  if manifest.issuedAt.any (· ≠ "") ∨ manifest.expiresAt.any (· ≠ "") then do
    let issuedAt ← present (manifest.issuedAt.bind env.parseUtc) .timestamp
    let expiresAt ← present (manifest.expiresAt.bind env.parseUtc) .timestamp
    ensure (issuedAt < expiresAt) .window
    ensure (issuedAt ≤ now) .notYet
    ensure (now < expiresAt) .expired
  else ensure (env.requireUpdateKeyLifecycle = false) .windowRequired

/-- The release sequence. -/
def validateSequence (env : Env) (manifest : Manifest) : Except Failure Unit :=
  match manifest.releaseSequence with
  | some (some sequence) => ensure (1 ≤ sequence) .sequence
  | some none => .error .sequence
  | none => ensure (env.requireUpdateKeyLifecycle = false) .sequenceRequired

/-- The database compatibility. -/
def validateDatabase (env : Env) (manifest : Manifest) : Except Failure Unit :=
  match manifest.database with
  | some database => do
    let strategy ← present database.strategy .strategy
    let schema ← present database.schema .schema
    ensure (0 ≤ schema) .schema
    let _ ← present database.rollbackSafe .rollbackSafe
    ensure (¬ (env.requireRollingCompatibility ∧ strategy = .contract)) .contract
  | none => ensure (env.requireRollingCompatibility = false) .databaseRequired

/-- `re.fullmatch(r"[0-9a-f]{64}", value)`. -/
def Digest (value : String) : Prop := value.length = 64 ∧ ∀ c ∈ value.toList, c ∈ "0123456789abcdef".toList

instance (value : String) : Decidable (Digest value) := by unfold Digest; infer_instance

/-- `validate_manifest`: the version and the digest of the package. -/
def validateManifest (env : Env) (manifest : Manifest) (current : String) (expectedChannel : Option String) (now : ℤ) :
    Except Failure (String × String) := do
  let version ← present manifest.version .missing
  let sha256 ← present manifest.sha256 .missing
  ensure (manifest.package.isSome ∧ manifest.signature.isSome) .missing
  let _ ← versionTuple version
  let currentVersion ← versionTuple current
  bound manifest.minVersion fun least => ensure (¬ currentVersion < least) .tooOld
  bound manifest.maxVersion fun most => ensure (¬ most < currentVersion) .tooNew
  ensure (expectedChannel = none ∨ manifest.channel = expectedChannel) .channel
  validateWindow env manifest now
  validateSequence env manifest
  validateDatabase env manifest
  ensure (Digest sha256) .digest
  ensure (env.verifies manifest) .signature
  pure (version, sha256)

/-- `validate_replay_state`; `{}` is `none`. -/
def validateReplayState (manifest : Manifest) (version sha256 : String) (trusted : Option Trusted) :
    Except Failure (Option Trusted) :=
  match manifest.releaseSequence with
  | none | some none => .ok none
  | some (some sequence) =>
    let candidate : Trusted := ⟨sequence, version, sha256, manifest.keyId⟩
    match trusted with
    | none => .ok (some candidate)
    | some trusted =>
      if sequence < trusted.releaseSequence then .error .replayed
      else if sequence = trusted.releaseSequence ∧
          ¬ (trusted.version = candidate.version ∧ trusted.sha256 = candidate.sha256 ∧ trusted.keyId = candidate.keyId) then
        .error .equivocates
      else .ok (some (if trusted.releaseSequence < sequence then candidate else trusted))

/-! ## Processing -/

/-- A request that is processed: the manifest that was fetched, and what else is asked of it. -/
structure Attempt where
  manifest : Manifest
  requested : Option String
  channel : String
  current : String
  now : ℤ
  /-- The root metadata authorize the key of the manifest, where they are configured. -/
  authorized : Bool

/-- From `fetch_manifest` to `validate_replay_state`: the record that is to be stored, if there is one. -/
def acceptRelease (env : Env) (attempt : Attempt) (trusted : Option Trusted) : Except Failure (Option Trusted) := do
  ensure (attempt.requested.filter (· ≠ "") = none ∨ attempt.manifest.version = attempt.requested) .target
  ensure attempt.authorized .root
  let (version, sha256) ← validateManifest env attempt.manifest attempt.current (some attempt.channel) attempt.now
  ensure (¬ (← versionTuple version) < (← versionTuple attempt.current)) .downgrade
  validateReplayState attempt.manifest version sha256 trusted

/-- `next_trusted_release and next_trusted_release != trusted_release`: what is written, if anything is. -/
def toWrite (next trusted : Option Trusted) : Option Trusted := next.filter (some · ≠ trusted)

/-- How far the process comes. -/
inductive Fate where
  | crashesBefore | crashesAfter | goesOn
deriving DecidableEq

/-- `trusted-release.json`, every record that was ever in it, and the manifests that were accepted, newest first. -/
structure Store where
  trusted : Option Trusted
  ever : List Trusted
  accepted : List Manifest

/-- The store after a write, if there is one. -/
def Store.write (s : Store) : Option Trusted → Store
  | none => s
  | some record => { s with trusted := some record, ever := record :: s.ever }

/-- A request is processed. -/
def Store.process (env : Env) (s : Store) (attempt : Attempt) (fate : Fate) : Store :=
  match acceptRelease env attempt s.trusted with
  | .error _ => s
  | .ok next =>
    match fate with
    | .crashesBefore => s
    | .crashesAfter => s.write (toWrite next s.trusted)
    | .goesOn =>
      let s := s.write (toWrite next s.trusted)
      { s with accepted := attempt.manifest :: s.accepted }

/-- `process_request` decides on one release. -/
inductive Step (env : Env) : Store → Store → Prop where
  | process (s : Store) (attempt : Attempt) (fate : Fate) : Step env s (s.process env attempt fate)

def Init (s : Store) : Prop := s.ever = s.trusted.toList ∧ s.accepted = []

/-! ## What is accepted -/

lemma ensure_ok {ε : Type} {condition : Prop} [Decidable condition] {failure : ε} {u : Unit} :
    ensure condition failure = .ok u ↔ condition := by
  unfold ensure
  split <;> simp [*]

lemma present_ok {ε α : Type} {value : Option α} {failure : ε} {a : α} :
    present value failure = .ok a ↔ value = some a := by
  cases value <;> simp [present]

variable {env : Env}

lemma validateManifest_ok {manifest : Manifest} {current : String} {channel : Option String} {now : ℤ}
    {version sha256 : String} (h : validateManifest env manifest current channel now = .ok (version, sha256)) :
    manifest.version = some version ∧ manifest.sha256 = some sha256 ∧ validateSequence env manifest = .ok () := by
  simp only [validateManifest, Command.except_bind_ok, ensure_ok, present_ok] at h
  obtain ⟨_, version', _, sha256', _, _, _, _, _, _, _, _, _, _, _, _, _, _, _, sequence, _, _, _, _, _, _, done⟩ := h
  cases done
  exact ⟨version', sha256', sequence⟩

/-- A manifest is accepted, and `next` is what `validate_replay_state` gives. -/
def Accepts (env : Env) (s : Store) (attempt : Attempt) (next : Option Trusted) : Prop :=
  acceptRelease env attempt s.trusted = .ok next

def Trusted.Names (t : Trusted) (manifest : Manifest) : Prop :=
  manifest.version = some t.version ∧ manifest.sha256 = some t.sha256 ∧ manifest.keyId = t.keyId

variable {s s' : Store}

lemma Accepts.inv {attempt : Attempt} {next : Option Trusted}
    (accepts : Accepts env s attempt next) :
    ∃ version sha256, attempt.manifest.version = some version ∧ attempt.manifest.sha256 = some sha256 ∧
      validateSequence env attempt.manifest = .ok () ∧
      validateReplayState attempt.manifest version sha256 s.trusted = .ok next := by
  simp only [Accepts, acceptRelease, Command.except_bind_ok, ensure_ok] at accepts
  obtain ⟨_, _, _, _, ⟨version, sha256⟩, valid, _, _, _, _, _, _, replay⟩ := accepts
  have ⟨sameVersion, sameSha, sequence⟩ := validateManifest_ok valid
  exact ⟨version, sha256, sameVersion, sameSha, sequence, replay⟩

lemma Accepts.cases {attempt : Attempt} {next : Option Trusted}
    (accepts : Accepts env s attempt next) :
    (attempt.manifest.releaseSequence = none ∧ env.requireUpdateKeyLifecycle = false ∧ next = none) ∨
      ∃ record, next = some record ∧ attempt.manifest.releaseSequence = some (some record.releaseSequence) ∧
        record.Names attempt.manifest ∧
        ∀ t, s.trusted = some t → record = t ∨ t.releaseSequence < record.releaseSequence := by
  obtain ⟨version, sha256, sameVersion, sameSha, sequence, replay⟩ := accepts.inv
  rcases released : attempt.manifest.releaseSequence with _ | _ | n
  · simp only [validateSequence, released, ensure_ok] at sequence
    simp only [validateReplayState, released, Except.ok.injEq] at replay
    exact .inl ⟨rfl, sequence, replay.symm⟩
  · simp [validateSequence, released] at sequence
  · simp only [validateReplayState, released] at replay
    cases trusted : s.trusted with
    | none =>
      simp only [trusted, Except.ok.injEq] at replay
      exact .inr ⟨_, replay.symm, rfl, ⟨sameVersion, sameSha, rfl⟩, nofun⟩
    | some t =>
      simp only [trusted] at replay
      split at replay
      · cases replay
      · next least =>
        split at replay
        · cases replay
        · next honest =>
          cases replay
          by_cases newer : t.releaseSequence < n
          · rw [if_pos newer]
            refine .inr ⟨_, rfl, rfl, ⟨sameVersion, sameSha, rfl⟩, ?_⟩
            rintro _ ⟨⟩
            exact .inr newer
          · have same : n = t.releaseSequence := le_antisymm (not_lt.1 newer) (not_lt.1 least)
            have ⟨v, h, k⟩ := not_not.1 fun differs => honest ⟨same, differs⟩
            rw [if_neg newer]
            refine .inr ⟨t, rfl, by rw [same], ⟨sameVersion.trans ?_, sameSha.trans ?_, k.symm⟩, ?_⟩
            · rw [v]
            · rw [h]
            · rintro _ ⟨⟩
              exact .inl rfl

/-! ## Runs -/

def Store.Sound (s : Store) : Prop :=
  ∀ t ∈ s.ever, ∃ last, s.trusted = some last ∧ (last = t ∨ t.releaseSequence < last.releaseSequence)

lemma Store.process_cases (env : Env) (s : Store) (attempt : Attempt) (fate : Fate) :
    ((s.process env attempt fate).trusted = s.trusted ∧ (s.process env attempt fate).ever = s.ever) ∨
      ∃ record, (s.process env attempt fate).trusted = some record ∧ (s.process env attempt fate).ever = record :: s.ever ∧
        ∀ t, s.trusted = some t → t.releaseSequence < record.releaseSequence := by
  cases accepts : acceptRelease env attempt s.trusted with
  | error failure => exact .inl (by simp [Store.process, accepts])
  | ok next =>
    have wrote : ((s.write (toWrite next s.trusted)).trusted = s.trusted ∧
        (s.write (toWrite next s.trusted)).ever = s.ever) ∨
        ∃ record, (s.write (toWrite next s.trusted)).trusted = some record ∧
          (s.write (toWrite next s.trusted)).ever = record :: s.ever ∧
          ∀ t, s.trusted = some t → t.releaseSequence < record.releaseSequence := by
      cases writes : toWrite next s.trusted with
      | none => exact .inl ⟨rfl, rfl⟩
      | some record =>
        refine .inr ⟨record, rfl, rfl, fun t trusted => ?_⟩
        obtain ⟨rfl, differs⟩ := Option.filter_eq_some_iff.1 writes
        have accepts : Accepts env s attempt (some record) := accepts
        obtain ⟨_, _, ⟨⟩⟩ | ⟨_, ⟨⟩, _, _, follows⟩ := accepts.cases
        refine (follows t trusted).resolve_left ?_
        rintro rfl
        simp [trusted] at differs
    cases fate with
    | crashesBefore => exact .inl ⟨by rw [Store.process, accepts], by rw [Store.process, accepts]⟩
    | crashesAfter | goesOn => simpa only [Store.process, accepts] using wrote

lemma Step.sound (step : Step env s s') (sound : s.Sound) : s'.Sound := by
  obtain ⟨attempt, fate⟩ := step
  obtain ⟨trusted, ever⟩ | ⟨record, trusted, ever, newer⟩ := s.process_cases env attempt fate
  · rw [Store.Sound, trusted, ever]
    exact sound
  · rw [Store.Sound, trusted, ever]
    refine fun t mem => ⟨record, rfl, ?_⟩
    obtain rfl | mem := List.mem_cons.1 mem
    · exact .inl rfl
    · obtain ⟨last, stored, rfl | older⟩ := sound t mem
      · exact .inr (newer _ stored)
      · exact .inr (older.trans (newer last stored))

lemma Step.stored (step : Step env s s') {t : Trusted} (trusted : s.trusted = some t) :
    ∃ t', s'.trusted = some t' ∧ t.releaseSequence ≤ t'.releaseSequence := by
  obtain ⟨attempt, fate⟩ := step
  obtain ⟨trusted', _⟩ | ⟨record, trusted', _, newer⟩ := s.process_cases env attempt fate
  · exact ⟨t, trusted'.trans trusted, le_refl _⟩
  · exact ⟨record, trusted', (newer t trusted).le⟩

lemma reach_sound (reach : Reach Init (Step env) s) : s.Sound := by
  refine reach.invariant ?_ fun _ _ sound step => step.sound sound
  rintro s ⟨ever, _⟩ t mem
  rw [ever, Option.mem_toList] at mem
  exact ⟨t, mem, .inl rfl⟩

/-- A manifest may be accepted after a record. -/
def Succeeds (env : Env) (manifest : Manifest) (t : Trusted) : Prop :=
  match manifest.releaseSequence with
  | some (some sequence) =>
    t.releaseSequence ≤ sequence ∧ (sequence = t.releaseSequence → t.Names manifest)
  | some none => False
  | none => env.requireUpdateKeyLifecycle = false

/-- **No release is replayed**, but for a manifest without a sequence where none is required. -/
theorem releases_are_not_replayed (env : Env) (s : Store) (reach : Reach Init (Step env) s) :
    (∀ t ∈ s.ever, ∀ attempt next, acceptRelease env attempt s.trusted = .ok next →
      Succeeds env attempt.manifest t) ∧
    ∀ s', Relation.ReflTransGen (Step env) s s' → ∀ t, s.trusted = some t →
      ∃ t', s'.trusted = some t' ∧ t.releaseSequence ≤ t'.releaseSequence := by
  refine ⟨fun t mem attempt next accepts => ?_, fun s' steps t trusted => ?_⟩
  · obtain ⟨last, stored, order⟩ := reach_sound reach t mem
    have accepts : Accepts env s attempt next := accepts
    obtain ⟨absent, off, _⟩ | ⟨record, _, sequence, names, follows⟩ := accepts.cases
    · rw [Succeeds, absent]
      exact off
    · rw [Succeeds, sequence]
      have newer := follows last stored
      refine ⟨?_, fun same => ?_⟩
      · obtain rfl | newer := newer <;> obtain rfl | older := order
        · exact le_refl _
        · exact older.le
        · exact newer.le
        · exact (older.trans newer).le
      · obtain rfl | newer := newer <;> obtain rfl | older := order
        · exact names
        · exact absurd same older.ne'
        · exact absurd same newer.ne'
        · exact absurd same (older.trans newer).ne'
  · induction steps with
    | refl => exact ⟨t, trusted, le_refl _⟩
    | tail _ step ih =>
      obtain ⟨t₁, trusted₁, grown₁⟩ := ih
      obtain ⟨t₂, trusted₂, grown₂⟩ := step.stored trusted₁
      exact ⟨t₂, trusted₂, grown₁.trans grown₂⟩

/-! The default switches, and a release that is offered again without its sequence. -/

def defaultEnv : Env where
  parseUtc := fun _ => none
  verifies := fun _ => true

def release (version : String) (sequence : Option (Option ℤ)) : Manifest where
  version := version
  package := "release.tar.gz"
  sha256 := "0123456789abcdef0123456789abcdef0123456789abcdef0123456789abcdef"
  signature := "c2ln"
  channel := "stable"
  releaseSequence := sequence

def attemptOf (manifest : Manifest) : Attempt where
  manifest := manifest
  requested := none
  channel := "stable"
  current := "0.0.1"
  now := 0
  authorized := true

def trustedStore : Store := (Store.mk none [] []).process defaultEnv (attemptOf (release "0.0.3" (some (some 5)))) .goesOn

lemma trustedStore_reached : Reach Init (Step defaultEnv) trustedStore :=
  .step (.init ⟨rfl, rfl⟩) (.process _ _ _)

theorem releases_are_not_replayed_after_one :
    (∀ t ∈ trustedStore.ever, ∀ attempt next, acceptRelease defaultEnv attempt trustedStore.trusted = .ok next →
      Succeeds defaultEnv attempt.manifest t) ∧
    ∀ s', Relation.ReflTransGen (Step defaultEnv) trustedStore s' → ∀ t, trustedStore.trusted = some t →
      ∃ t', s'.trusted = some t' ∧ t.releaseSequence ≤ t'.releaseSequence :=
  releases_are_not_replayed defaultEnv trustedStore trustedStore_reached

/-- Every manifest accepted after a record has a sequence, not a smaller one, and for the same one the same release. -/
def NoReplay (env : Env) : Prop :=
  ∀ s, Reach Init (Step env) s → ∀ t ∈ s.ever, ∀ attempt next, acceptRelease env attempt s.trusted = .ok next →
    ∃ sequence, attempt.manifest.releaseSequence = some (some sequence) ∧ t.releaseSequence ≤ sequence ∧
      (sequence = t.releaseSequence → t.Names attempt.manifest)

theorem missing_sequence_is_accepted : ¬ NoReplay defaultEnv := by
  intro noReplay
  obtain ⟨t, trusted⟩ : ∃ t, t ∈ trustedStore.ever := List.exists_mem_of_ne_nil _ (by decide +kernel)
  have accepted : acceptRelease defaultEnv (attemptOf (release "0.0.2" none)) trustedStore.trusted = .ok none := by
    decide +kernel
  obtain ⟨_, ⟨⟩, _⟩ := noReplay _ trustedStore_reached t trusted _ _ accepted

end Vertep.Trust
