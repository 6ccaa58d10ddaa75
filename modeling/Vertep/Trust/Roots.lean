import Mathlib.Data.List.Pairwise
import Mathlib.Data.List.Sort
import Mathlib.Data.String.Basic
import Vertep.Trust.Releases

/-!
# Root metadata

Embedding of `validate_root_metadata` of `core/update_trust.py`, and of the part of `process_request` in
`scripts/update-agent.py` that keeps what was trusted in `trusted-root.json`. The text that is signed, its digest, the
check of a signature with the file of a root key and the reading of time stamps are parameters.
-/

namespace Vertep.Trust
open Lib

/-- The entry of a release key. A field of the wrong type is `none`; `revoked` may not be there. -/
structure KeyEntry where
  sha256 : Option String
  channels : Option (List (Option String))
  revoked : Option (Option Bool) := none
deriving DecidableEq

/-- A document without its `signatures`; a field of the wrong type is `none`. -/
structure Content where
  version : Option ℤ
  threshold : Option ℤ
  releaseKeys : Option (List (String × Option KeyEntry))
  expiresAt : Option String
  others : List (String × String) := []
deriving DecidableEq

/-- An entry of `signatures`. -/
structure Signature where
  keyId : Option String
  signature : String := ""
deriving DecidableEq

/-- A document; an entry of `signatures` that is not an object is `none`. -/
structure Metadata where
  content : Content
  signatures : Option (List (Option Signature))
deriving DecidableEq

inductive RootFailure where
  | version | trustedVersion | rollback | trustedDigest | equivocates | threshold | noKeys | thresholdExceeds
  | noSignatures | timestamp | expired | notMet | releaseKey | digest | channels | revoked
deriving DecidableEq

/-- What a document is read with. -/
structure RootEnv where
  canonical : Content → String
  sha256 : String → String
  /-- `hexdigest` is a digest. -/
  hexdigest : ∀ message, Digest (sha256 message)
  /-- The file of the key is there, and the signature is one of the message by it. -/
  verifies : String → String → String → Bool
  timestamp : String → Option ℤ

/-- `KEY_ID_RE.fullmatch`. -/
def KeyId (value : String) : Prop :=
  match value.toList with
  | [] => False
  | c :: cs => c ∈ "abcdefghijklmnopqrstuvwxyz0123456789".toList ∧ cs.length ≤ 63 ∧
      ∀ c ∈ cs, c ∈ "abcdefghijklmnopqrstuvwxyz0123456789._-".toList

instance (value : String) : Decidable (KeyId value) := decidableUncons value.toList

/-- `re.fullmatch(r"[a-z0-9-]{1,32}", channel)`. -/
def Channel (value : String) : Prop :=
  1 ≤ value.length ∧ value.length ≤ 32 ∧ ∀ c ∈ value.toList, c ∈ "abcdefghijklmnopqrstuvwxyz0123456789-".toList

instance (value : String) : Decidable (Channel value) := by unfold Channel; infer_instance

/-- A release key as it is kept. -/
structure ReleaseKey where
  sha256 : String
  channels : List String
  revoked : Bool
deriving DecidableEq

/-- What `validate_root_metadata` returns, the record in `trusted-root.json`. -/
structure Validated where
  version : ℤ
  expiresAt : ℤ
  metadataSha256 : String
  releaseKeys : List (String × ReleaseKey)
  verifiedRootKeys : List String
deriving DecidableEq

/-- The keys whose signature is found to be valid, each once. -/
def verifiedKeys (env : RootEnv) (message : String) : List (Option Signature) → List String → List String
  | [], verified => verified
  | none :: signatures, verified => verifiedKeys env message signatures verified
  | some ⟨none, _⟩ :: signatures, verified => verifiedKeys env message signatures verified
  | some ⟨some keyId, signature⟩ :: signatures, verified =>
    if ¬ KeyId keyId ∨ keyId ∈ verified then verifiedKeys env message signatures verified
    else if env.verifies keyId message signature then verifiedKeys env message signatures (keyId :: verified)
    else verifiedKeys env message signatures verified

/-- The release keys, as they are kept. -/
def normalizedKeys : List (String × Option KeyEntry) → Except RootFailure (List (String × ReleaseKey))
  | [] => .ok []
  | (keyId, value) :: keys => do
    ensure (KeyId keyId) .releaseKey
    let entry ← present value .releaseKey
    let digest ← present entry.sha256 .digest
    ensure (Digest digest) .digest
    let channels ← present entry.channels .channels
    ensure (channels ≠ [] ∧ ∀ channel ∈ channels, ∃ c ∈ channel, Channel c) .channels
    let revoked ← present (entry.revoked.getD (some false)) .revoked
    let rest ← normalizedKeys keys
    pure ((keyId, ⟨digest, channels.reduceOption, revoked⟩) :: rest)

/-- At the trusted version only the trusted digest. -/
def checkTrusted (version trustedVersion : ℤ) (metadataSha256 : String) (trustedSha256 : Option String) :
    Except RootFailure Unit :=
  match trustedSha256.filter (· ≠ "") with
  | none => .ok ()
  | some trusted =>
    if version = trustedVersion then do
      ensure (Digest trusted) .trustedDigest
      ensure (metadataSha256 = trusted) .equivocates
    else .ok ()

def validateRootMetadata (env : RootEnv) (metadata : Metadata) (trustedVersion : ℤ) (trustedSha256 : Option String)
    (now : ℤ) : Except RootFailure Validated := do
  let version ← present metadata.content.version .version
  ensure (1 ≤ version) .version
  ensure (0 ≤ trustedVersion) .trustedVersion
  ensure (¬ version < trustedVersion) .rollback
  let metadataSha256 := env.sha256 (env.canonical metadata.content)
  checkTrusted version trustedVersion metadataSha256 trustedSha256
  let threshold ← present metadata.content.threshold .threshold
  ensure (1 ≤ threshold) .threshold
  let keys ← present metadata.content.releaseKeys .noKeys
  ensure (keys ≠ []) .noKeys
  ensure (threshold ≤ keys.length) .thresholdExceeds
  let signatures ← present metadata.signatures .noSignatures
  ensure (signatures ≠ []) .noSignatures
  let expiresAt ← present (metadata.content.expiresAt.bind env.timestamp) .timestamp
  ensure (now < expiresAt) .expired
  let verified := verifiedKeys env (env.canonical metadata.content) signatures []
  ensure (threshold ≤ verified.length) .notMet
  let normalized ← normalizedKeys keys
  pure ⟨version, expiresAt, metadataSha256, normalized, verified.insertionSort (· ≤ ·)⟩

/-! ## Processing -/

/-- `trusted-root.json`, and the documents it was written for, newest first. -/
structure Roots where
  trusted : Option Validated
  accepted : List Metadata

/-- A document is validated against what is trusted; `kept` is that the release key is authorized then, and that the
process comes to its write. -/
def Roots.process (env : RootEnv) (s : Roots) (metadata : Metadata) (now : ℤ) (kept : Bool) : Roots :=
  match validateRootMetadata env metadata ((s.trusted.map (·.version)).getD 0) (s.trusted.map (·.metadataSha256)) now with
  | .error _ => s
  | .ok validated => if kept then ⟨some validated, metadata :: s.accepted⟩ else s

/-- One root document is presented. -/
inductive Roots.Step (env : RootEnv) : Roots → Roots → Prop where
  | process (s : Roots) (metadata : Metadata) (now : ℤ) (kept : Bool) : Roots.Step env s (s.process env metadata now kept)

def Roots.Init (s : Roots) : Prop := s.trusted = none ∧ s.accepted = []

/-! ## What is accepted -/

/-- A root key signed a document. -/
def Metadata.SignedBy (env : RootEnv) (metadata : Metadata) (keyId : String) : Prop :=
  KeyId keyId ∧ ∃ signatures, metadata.signatures = some signatures ∧
    ∃ signature, some ⟨some keyId, signature⟩ ∈ signatures ∧
      env.verifies keyId (env.canonical metadata.content) signature = true

/-- Valid signatures of at least `n` distinct root keys. -/
def Metadata.SignedByAtLeast (env : RootEnv) (metadata : Metadata) (n : ℤ) : Prop :=
  ∃ keys : List String, keys.Nodup ∧ n ≤ keys.length ∧ ∀ keyId ∈ keys, metadata.SignedBy env keyId

lemma verifiedKeys_spec (env : RootEnv) (message : String) (signatures : List (Option Signature)) :
    ∀ verified : List String, verified.Nodup →
      (verifiedKeys env message signatures verified).Nodup ∧
      ∀ keyId ∈ verifiedKeys env message signatures verified, keyId ∈ verified ∨ KeyId keyId ∧
        ∃ signature, some ⟨some keyId, signature⟩ ∈ signatures ∧ env.verifies keyId message signature = true := by
  induction signatures with
  | nil => exact fun verified nodup => ⟨nodup, fun keyId mem => .inl mem⟩
  | cons head signatures ih =>
    have later : ∀ verified : List String, verified.Nodup →
        (verifiedKeys env message signatures verified).Nodup ∧
        ∀ keyId ∈ verifiedKeys env message signatures verified, keyId ∈ verified ∨ KeyId keyId ∧
          ∃ signature, some ⟨some keyId, signature⟩ ∈ head :: signatures ∧
            env.verifies keyId message signature = true := by
      intro verified nodup
      obtain ⟨nodup', signed⟩ := ih verified nodup
      refine ⟨nodup', fun keyId mem => ?_⟩
      obtain old | ⟨valid, signature, found, verifies⟩ := signed keyId mem
      · exact .inl old
      · exact .inr ⟨valid, signature, List.mem_cons_of_mem _ found, verifies⟩
    intro verified nodup
    match head with
    | none | some ⟨none, _⟩ => exact later verified nodup
    | some ⟨some keyId, signature⟩ =>
      rw [verifiedKeys]
      split
      · exact later verified nodup
      next fresh =>
      have ⟨valid, new⟩ := not_or.1 fresh
      split
      · next verifies =>
        obtain ⟨nodup', signed⟩ := later (keyId :: verified) (List.nodup_cons.2 ⟨new, nodup⟩)
        refine ⟨nodup', fun k mem => ?_⟩
        obtain old | signs := signed k mem
        · obtain rfl | old := List.mem_cons.1 old
          · exact .inr ⟨not_not.1 valid, signature, List.mem_cons_self, verifies⟩
          · exact .inl old
        · exact .inr signs
      · exact later verified nodup

variable {env : RootEnv}

/-- The spec of `validate_root_metadata`. -/
lemma validateRootMetadata_ok {metadata : Metadata} {trustedVersion : ℤ} {trustedSha256 : Option String}
    {now : ℤ} {validated : Validated}
    (h : validateRootMetadata env metadata trustedVersion trustedSha256 now = .ok validated) :
    metadata.content.version = some validated.version ∧
      validated.metadataSha256 = env.sha256 (env.canonical metadata.content) ∧
      1 ≤ validated.version ∧ trustedVersion ≤ validated.version ∧
      (validated.version = trustedVersion →
        ∀ trusted, trustedSha256 = some trusted → trusted ≠ "" → validated.metadataSha256 = trusted) ∧
      ∃ threshold, metadata.content.threshold = some threshold ∧ metadata.SignedByAtLeast env threshold := by
  simp only [validateRootMetadata, Command.except_bind_ok, ensure_ok, present_ok] at h
  obtain ⟨version, sameVersion, _, least, _, _, _, newer, _, same, threshold, sameThreshold, _, _, _, _, _, _, _, _,
    signatures, sameSignatures, _, _, _, _, _, _, _, met, _, _, done⟩ := h
  cases done
  refine ⟨sameVersion, rfl, least, not_lt.1 newer, fun equal trusted there nonempty => ?_, threshold, sameThreshold, ?_⟩
  · have filtered : trustedSha256.filter (· ≠ "") = some trusted := by simp [there, nonempty]
    simp only [checkTrusted, filtered, if_pos equal, Command.except_bind_ok, ensure_ok] at same
    obtain ⟨_, _, same⟩ := same
    exact same
  · obtain ⟨nodup, signed⟩ := verifiedKeys_spec env (env.canonical metadata.content) signatures [] List.nodup_nil
    refine ⟨_, nodup, met, fun keyId mem => ?_⟩
    obtain ⟨valid, signature, found, verifies⟩ := (signed keyId mem).resolve_left List.not_mem_nil
    exact ⟨valid, signatures, sameSignatures, signature, found, verifies⟩

/-! ## Runs -/

/-- One document may follow another. -/
def Follows (env : RootEnv) (newer older : Metadata) : Prop :=
  ∃ m n, older.content.version = some m ∧ newer.content.version = some n ∧ m ≤ n ∧
    (n = m → env.sha256 (env.canonical newer.content) = env.sha256 (env.canonical older.content))

lemma Follows.trans {c b a : Metadata} (cb : Follows env c b) (ba : Follows env b a) :
    Follows env c a := by
  obtain ⟨m, n, hm, hn, le, same⟩ := cb
  obtain ⟨l, m', hl, hm', le', same'⟩ := ba
  cases Option.some.inj (hm.symm.trans hm')
  exact ⟨l, n, hl, hn, le'.trans le, fun equal => (same (le.antisymm' (equal ▸ le'))).trans (same' (le'.antisymm' (equal ▸ le)))⟩

/-- For the same version, the same digest. -/
def Agree (env : RootEnv) (a b : Metadata) : Prop :=
  a.content.version = b.content.version →
    env.sha256 (env.canonical a.content) = env.sha256 (env.canonical b.content)

/-- The record is that of the newest document; the documents follow one another, each with its own threshold met. -/
structure Roots.Sound (env : RootEnv) (s : Roots) : Prop where
  newest : (s.trusted = none ∧ s.accepted = []) ∨
    ∃ validated metadata older, s.trusted = some validated ∧ s.accepted = metadata :: older ∧
      metadata.content.version = some validated.version ∧
      validated.metadataSha256 = env.sha256 (env.canonical metadata.content)
  follows : s.accepted.Pairwise (Follows env)
  signed : ∀ metadata ∈ s.accepted,
    ∃ threshold, metadata.content.threshold = some threshold ∧ metadata.SignedByAtLeast env threshold

lemma digest_ne_empty {value : String} (digest : Digest value) : value ≠ "" := by
  rintro rfl
  exact absurd digest.1 (by decide)

lemma Roots.Step.sound {s s' : Roots} (step : Roots.Step env s s') (sound : s.Sound env) :
    s'.Sound env := by
  obtain ⟨metadata, now, kept⟩ := step
  rw [Roots.process]
  split
  · exact sound
  next validated accepts =>
  split
  case isFalse => exact sound
  case isTrue =>
    have ⟨version, digest, _, newer, same, signed⟩ := validateRootMetadata_ok accepts
    refine ⟨.inr ⟨validated, metadata, _, rfl, rfl, version, digest⟩, ?_, ?_⟩
    · obtain ⟨_, none⟩ | ⟨previous, document, older, trusted, documents, version', digest'⟩ := sound.newest
      · simp [none]
      · have follows := sound.follows
        rw [documents] at follows ⊢
        simp only [trusted, Option.map_some, Option.getD_some] at newer same
        have next : Follows env metadata document := by
          refine ⟨_, _, version', version, newer, fun equal => ?_⟩
          have kept := same equal _ rfl (digest' ▸ digest_ne_empty (env.hexdigest _))
          rw [← digest, kept, digest']
        refine List.pairwise_cons.2 ⟨fun a mem => ?_, follows⟩
        obtain rfl | mem := List.mem_cons.1 mem
        · exact next
        · exact next.trans (List.rel_of_pairwise_cons follows mem)
    · intro a mem
      obtain rfl | mem := List.mem_cons.1 mem
      · exact signed
      · exact sound.signed a mem

lemma Roots.reach_sound {s : Roots} (reach : Reach Roots.Init (Roots.Step env) s) : s.Sound env := by
  refine reach.invariant ?_ fun _ _ sound step => step.sound sound
  rintro ⟨_, _⟩ ⟨rfl, rfl⟩
  exact ⟨.inl ⟨rfl, rfl⟩, .nil, List.forall_mem_nil _⟩

/-- **Root metadata are not rolled back**: versions do not decrease, a version has one content, and every document was
signed by as many root keys as it asks for. -/
theorem roots_are_not_rolled_back (env : RootEnv) (s : Roots) (reach : Reach Roots.Init (Roots.Step env) s)
    (collisionFree : ∀ a ∈ s.accepted, ∀ b ∈ s.accepted,
      env.sha256 (env.canonical a.content) = env.sha256 (env.canonical b.content) →
        env.canonical a.content = env.canonical b.content) :
    (s.accepted.Pairwise fun newer older =>
      ∃ m n, older.content.version = some m ∧ newer.content.version = some n ∧ m ≤ n) ∧
    (∀ a ∈ s.accepted, ∀ b ∈ s.accepted, a.content.version = b.content.version →
      env.canonical a.content = env.canonical b.content) ∧
    ∀ metadata ∈ s.accepted,
      ∃ threshold, metadata.content.threshold = some threshold ∧ metadata.SignedByAtLeast env threshold := by
  have sound := Roots.reach_sound reach
  refine ⟨?_, ?_, sound.signed⟩
  · refine sound.follows.imp ?_
    rintro _ _ ⟨m, n, older, newer, le, _⟩
    exact ⟨m, n, older, newer, le⟩
  · have symm : Std.Symm (Agree env) := ⟨fun a b same equal => (same equal.symm).symm⟩
    have one : s.accepted.Pairwise (Agree env) := by
      refine sound.follows.imp ?_
      rintro _ _ ⟨m, n, older, newer, _, same⟩ equal
      exact same (Option.some.inj (newer.symm.trans (equal.trans older)))
    have all := one.forall_of_forall fun _ _ _ => rfl
    exact fun a ha b hb equal => collisionFree a ha b hb (all ha hb equal)

/-! Two root keys sign a document that asks for two; then one of them signs a document that asks for one. -/

def sampleRoots : RootEnv where
  canonical content := if content.version = some 1 then "first" else "second"
  sha256 message :=
    if message = "first" then "0123456789abcdef0123456789abcdef0123456789abcdef0123456789abcdef"
    else "fedcba9876543210fedcba9876543210fedcba9876543210fedcba9876543210"
  hexdigest message := by split <;> decide +kernel
  verifies keyId _ signature := signature = keyId
  timestamp _ := some 100

def rootDocument (version threshold : ℤ) (signers : List String) : Metadata where
  content :=
    { version := version
      threshold := threshold
      releaseKeys := some (["release-1", "release-2"].map fun keyId =>
        (keyId, some
          { sha256 := some "0123456789abcdef0123456789abcdef0123456789abcdef0123456789abcdef"
            channels := some [some "stable"] }))
      expiresAt := some "2030-01-01T00:00:00Z" }
  signatures := some (signers.map fun keyId => some ⟨some keyId, keyId⟩)

def twoSigned : Roots := (Roots.mk none []).process sampleRoots (rootDocument 1 2 ["root-1", "root-2"]) 0 true

def oneSigned : Roots := twoSigned.process sampleRoots (rootDocument 2 1 ["root-1"]) 0 true

lemma oneSigned_reached : Reach Roots.Init (Roots.Step sampleRoots) oneSigned :=
  .step (.step (.init ⟨rfl, rfl⟩) (.process _ _ _ _)) (.process _ _ _ _)

lemma oneSigned_accepted :
    oneSigned.accepted = [rootDocument 2 1 ["root-1"], rootDocument 1 2 ["root-1", "root-2"]] := by
  decide +kernel

lemma oneSigned_collisionFree : ∀ a ∈ oneSigned.accepted, ∀ b ∈ oneSigned.accepted,
    sampleRoots.sha256 (sampleRoots.canonical a.content) = sampleRoots.sha256 (sampleRoots.canonical b.content) →
      sampleRoots.canonical a.content = sampleRoots.canonical b.content := by
  rw [oneSigned_accepted]
  decide +kernel

theorem roots_are_not_rolled_back_after_two :
    (oneSigned.accepted.Pairwise fun newer older =>
      ∃ m n, older.content.version = some m ∧ newer.content.version = some n ∧ m ≤ n) ∧
    (∀ a ∈ oneSigned.accepted, ∀ b ∈ oneSigned.accepted, a.content.version = b.content.version →
      sampleRoots.canonical a.content = sampleRoots.canonical b.content) ∧
    ∀ metadata ∈ oneSigned.accepted,
      ∃ threshold, metadata.content.threshold = some threshold ∧ metadata.SignedByAtLeast sampleRoots threshold :=
  roots_are_not_rolled_back sampleRoots oneSigned oneSigned_reached oneSigned_collisionFree

/-- Every document was signed by as many root keys as the one before it asked for. -/
def KeepsThreshold (env : RootEnv) : Prop :=
  ∀ s, Reach Roots.Init (Roots.Step env) s →
    (∀ a ∈ s.accepted, ∀ b ∈ s.accepted,
      env.sha256 (env.canonical a.content) = env.sha256 (env.canonical b.content) →
        env.canonical a.content = env.canonical b.content) →
    ∀ later newer older earlier, s.accepted = later ++ newer :: older :: earlier →
      ∀ threshold, older.content.threshold = some threshold → newer.SignedByAtLeast env threshold

theorem threshold_is_lowered : ¬ KeepsThreshold sampleRoots := by
  intro keeps
  obtain ⟨keys, nodup, two, signed⟩ :=
    keeps oneSigned oneSigned_reached oneSigned_collisionFree [] _ _ [] oneSigned_accepted 2 rfl
  have only : keys ⊆ ["root-1"] := by
    intro keyId mem
    obtain ⟨_, signatures, there, signature, found, _⟩ := signed keyId mem
    cases there
    simp only [List.map_cons, List.map_nil, List.mem_singleton, Option.some.injEq, Signature.mk.injEq] at found
    exact List.mem_singleton.2 found.1
  have one := (List.subperm_of_subset nodup only).length_le
  rw [List.length_singleton] at one
  omega

end Vertep.Trust
