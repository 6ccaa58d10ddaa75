import Vertep.Lib.Reach
import Vertep.SecretStore.Keys

/-!
# One data key (`core/first_run.py`)

Any number of processes call `_secret_key`, `_write_encrypted_secrets`, `_open_envelope` and `ensure_secret_store` on
a root without a key file, on the file backend. Their file operations interleave in any order, and a process may stop
for good before any of them.
-/

namespace Vertep.SecretStore
open Lib

variable {Cipher : Type} {env : Env Cipher}

/-! ## The processes -/

inductive Job (Cipher : Type) where
  | key
  | write (value : Secrets)
  | «open» (envelope : Envelope Cipher)
  | ensure

/-- The script of a call; `_secret_key` returns its key. -/
def Job.process (env : Env Cipher) (pid depth : ℕ) : Job Cipher → Process Cipher (Option Bytes)
  | .key => do
    let key ← secretKey env pid depth
    pure (some key)
  | .write value => do
    writeEncryptedSecrets env pid depth value
    pure none
  | .open envelope => do
    let _ ← openEnvelope env pid depth envelope
    pure none
  | .ensure => do
    let _ ← ensureSecretStore env pid depth
    pure none

abbrev Running (Cipher : Type) := Program (Call Cipher) Call.Reply (Except Failure (Option Bytes) × Unit)

structure System (Cipher : Type) where
  disk : Disk Cipher
  processes : Dict ℕ (Running Cipher) := ∅
  /-- The keys that `_secret_key` returned. -/
  returned : List Bytes := []

inductive System.Step (env : Env Cipher) (M : Machine (Call Cipher) Call.Reply (Disk Cipher)) :
    System Cipher → System Cipher → Prop where
  | start (w : System Cipher) (pid depth : ℕ) (job : Job Cipher) :
    w.processes.get? pid = none →
    Step env M w { w with processes := w.processes.set pid (job.process env pid depth ()) }
  | call (w : System Cipher) (pid : ℕ) (c : Call Cipher) (next : c.Reply → Running Cipher) (reply : c.Reply)
      (disk : Disk Cipher) :
    w.processes.get? pid = some (.call c next) → M.run c w.disk reply disk →
    Step env M w { w with disk := disk, processes := w.processes.set pid (next reply) }
  | returns (w : System Cipher) (pid : ℕ) (key : Bytes) :
    w.processes.get? pid = some (.done (.ok (some key), ())) →
    Step env M w { w with processes := w.processes.pop pid, returned := key :: w.returned }
  | ends (w : System Cipher) (pid : ℕ) (result : Except Failure (Option Bytes)) :
    w.processes.get? pid = some (.done (result, ())) → (∀ key, result ≠ .ok (some key)) →
    Step env M w { w with processes := w.processes.pop pid }

/-- A root without a key file; nothing is put in place yet, and no file of a process is there. -/
def System.Init (w : System Cipher) : Prop :=
  w.disk.files = ∅ ∧ w.disk.temporary = none ∧ w.disk.placed = [] ∧ w.disk.stored = [] ∧ w.processes = ∅ ∧ w.returned = []

def Runs (env : Env Cipher) : System Cipher → Prop := Reach System.Init (System.Step env (machine env))

/-! ## What is claimed, and when it holds -/

/-- All use one key, that of the key file, and it opens what they stored. -/
structure OneKey (env : Env Cipher) (w : System Cipher) : Prop where
  same : ∀ key ∈ w.returned, ∀ other ∈ w.returned, key = other
  used : ∀ key ∈ w.returned, w.disk.Holds env .key key
  /-- One file was put in place at most. -/
  once : w.disk.placed.length ≤ 1
  /-- It is there still, with its key. -/
  kept : ∀ content ∈ w.disk.placed, ∃ key, env.keyOf content = some key ∧ w.disk.Holds env .key key
  opens : ∀ content ∈ w.disk.stored, ∃ envelope key,
    content = some envelope ∧ w.disk.Holds env .key key ∧ env.Opens key envelope

/-- No key is linked while a key file is there, and no write of an envelope stops halfway. -/
def Call.Orderly (c : Call Cipher) (d d' : Disk Cipher) : Prop :=
  (∀ file, c = .link file → d.files.get? .key = none) ∧
    ∀ envelope, c = .writeEnvelope envelope → d'.temporary = d.temporary ∨ d'.temporary = some (some envelope)

def orderly (env : Env Cipher) : Machine (Call Cipher) Call.Reply (Disk Cipher) where
  run c d reply d' := Call.Run env c d reply d' ∧ c.Orderly d d'

def OrderlyRuns (env : Env Cipher) : System Cipher → Prop := Reach System.Init (System.Step env (orderly env))

/-! ## The invariant -/

/-- The key file has a key, the one that was put in place, and it opens what was stored or is about to be. -/
structure Disk.Sound (env : Env Cipher) (d : Disk Cipher) : Prop where
  key : ∀ content, d.files.get? .key = some content → ∃ key, env.keyOf content = some key ∧ key.length = 32
  once : d.placed.length ≤ 1
  kept : ∀ content ∈ d.placed, ∃ key, env.keyOf content = some key ∧ d.Holds env .key key
  stored : ∀ content ∈ d.stored, ∃ envelope key, content = some envelope ∧ d.Holds env .key key ∧ env.Opens key envelope
  temporary : ∀ content, d.temporary = some content → ∃ envelope key,
    content = some envelope ∧ d.Holds env .key key ∧ env.Opens key envelope

/-- What the others may do between two calls of the process `pid`. -/
structure Others (env : Env Cipher) (pid : ℕ) (d d' : Disk Cipher) : Prop where
  sound : d.Sound env → d'.Sound env
  holds : ∀ key, d.keyIn env .key = some key → d'.keyIn env .key = some key
  own : ∀ file : File, file.Of pid → d'.files.get? file = d.files.get? file

instance (pid : ℕ) : Std.Refl (Others env pid) := ⟨fun _ => ⟨id, fun _ => id, fun _ _ => rfl⟩⟩

instance (pid : ℕ) : IsTrans (Disk Cipher) (Others env pid) where
  trans _ _ _ first next :=
    ⟨fun sound => next.sound (first.sound sound), fun key there => next.holds key (first.holds key there),
      fun file own => (next.own file own).trans (first.own file own)⟩

/-- What the process `pid` may do. -/
def Within (env : Env Cipher) (pid : ℕ) (d d' : Disk Cipher) : Prop := ∀ other, other ≠ pid → Others env other d d'

lemma File.Of.ne {file file' : File} {pid other : ℕ} (own : file.Of pid) (own' : file'.Of other) (ne : other ≠ pid) :
    file ≠ file' := by
  rintro rfl
  cases file with
  | temporary => exact ne (own'.symm.trans own)
  | «seal» => exact ne (own'.symm.trans own)
  | key => exact own
  | prev => exact own

lemma Disk.Sound.of_key {d d' : Disk Cipher} (sound : d.Sound env)
    (key : ∀ content, d'.files.get? .key = some content → ∃ key, env.keyOf content = some key ∧ key.length = 32)
    (holds : ∀ key, d.keyIn env .key = some key → d'.keyIn env .key = some key) (placed : d'.placed = d.placed)
    (stored : d'.stored = d.stored) (temporary : d'.temporary = d.temporary) : d'.Sound env := by
  have kept : ∀ key, d.Holds env .key key → d'.Holds env .key key := fun key there => ⟨holds key there.1, there.2⟩
  refine ⟨key, placed ▸ sound.once, fun content mem => ?_, fun content mem => ?_, fun content there => ?_⟩
  · obtain ⟨key, encodes, there⟩ := sound.kept content (placed ▸ mem)
    exact ⟨key, encodes, kept key there⟩
  · obtain ⟨envelope, key, same, there, opens⟩ := sound.stored content (stored ▸ mem)
    exact ⟨envelope, key, same, kept key there, opens⟩
  · obtain ⟨envelope, key, same, there, opens⟩ := sound.temporary content (temporary ▸ there)
    exact ⟨envelope, key, same, kept key there, opens⟩

lemma Disk.Sound.private {d d' : Disk Cipher} (sound : d.Sound env) {pid : ℕ} {file : File} (own : file.Of pid)
    (others : ∀ other, file ≠ other → d'.files.get? other = d.files.get? other) (placed : d'.placed = d.placed)
    (stored : d'.stored = d.stored) (temporary : d'.temporary = d.temporary) :
    Within env pid d d' ∧ d'.Sound env := by
  have key : d'.files.get? .key = d.files.get? .key := others .key own.ne_key
  have holds : ∀ key, d.keyIn env .key = some key → d'.keyIn env .key = some key := by
    intro key' there
    unfold Disk.keyIn
    rw [key]
    exact there
  have sound' : d.Sound env → d'.Sound env := fun sound =>
    sound.of_key (fun content found => sound.key content (key ▸ found)) holds placed stored temporary
  exact ⟨fun other ne => ⟨sound', holds, fun file' own' => others file' (own.ne own' ne)⟩, sound' sound⟩

lemma regime (env : Env Cipher) (pid : ℕ) :
    Regime env (orderly env) (Others env pid) (Within env pid) pid (Disk.Sound env) fun _ => True where
  run _ _ _ _ ran := ran.1
  torn _ _ _ torn := torn.elim
  later _ _ others := others.sound
  own _ _ file others own := others.own file own
  same s _ other _ := refl_of (Others env other) s
  put s file content own sound :=
    sound.private own (fun other ne => (s.get?_put content).trans (if_neg ne)) rfl rfl rfl
  erase s file own sound := sound.private own (fun other ne => s.get?_erase.trans (if_neg ne)) rfl rfl rfl
  holds _ _ key others := others.holds key
  seals s file content key own sound encodes there := by
    have holds : ∀ key, s.keyIn env .key = some key → ((s.erase file).put .key content).keyIn env .key = some key := by
      intro other there'
      simpa [encodes] using there.symm.trans there'
    have sound' : s.Sound env → ((s.erase file).put .key content).Sound env := by
      intro sound
      refine sound.of_key (fun other found => ?_) holds rfl rfl rfl
      obtain ⟨old, found', encodes'⟩ := Option.bind_eq_some_iff.1 there
      obtain ⟨key', encodes'', length⟩ := sound.key old found'
      cases encodes'.symm.trans encodes''
      simp at found
      exact ⟨key, found ▸ encodes, length⟩
    refine ⟨fun other ne => ⟨sound', holds, fun file' own' => ?_⟩, sound' sound⟩
    simp [own'.ne_key.symm, own.ne own' ne]
  absent _ _ := trivial
  absentLater _ _ _ _ := trivial
  absentPut _ _ _ _ _ := trivial
  places s content key sound absent encodes length := by
    have none_ : ∀ key, ¬ s.Holds env .key key := by
      rintro key ⟨there, -⟩
      simp [absent] at there
    have sound' : s.Sound env → (s.place content).Sound env := by
      intro sound
      have placed : s.placed = [] := by
        refine List.eq_nil_iff_forall_not_mem.2 fun content mem => ?_
        obtain ⟨key, _, there⟩ := sound.kept content mem
        exact none_ key there
      refine ⟨fun other found => ?_, ?_, fun other mem => ?_, fun content mem => ?_, fun content there => ?_⟩
      · have same : some content = some other := (s.get?_put content).symm.trans found
        cases same
        exact ⟨key, encodes, length⟩
      · simp [Disk.place, placed]
      · have same : other = content := by simpa [Disk.place, placed] using mem
        exact ⟨key, same ▸ encodes, (s.keyIn_place content).trans encodes, length⟩
      · obtain ⟨_, key, _, there, _⟩ := sound.stored content mem
        exact absurd there (none_ key)
      · obtain ⟨_, key, _, there, _⟩ := sound.temporary content there
        exact absurd there (none_ key)
    refine ⟨fun other ne => ⟨sound', fun key there => ?_, fun file own => ?_⟩, sound' sound⟩
    · simp [Disk.keyIn, absent] at there
    · exact (s.get?_put content).trans (if_neg own.ne_key.symm)
  wins s file s' _ ran := by
    obtain ⟨ran, free, -⟩ := ran
    cases ran with
    | linkExists _ _ _ found => cases (free file rfl).symm.trans found

/-! ## The calls of a process -/

section
variable {pid : ℕ} {d : Disk Cipher}

lemma Disk.Sound.within {d d' : Disk Cipher} (sound : d'.Sound env) (files : d'.files = d.files) : Within env pid d d' := by
  refine fun other _ => ⟨fun _ => sound, fun key there => ?_, fun file _ => by rw [files]⟩
  unfold Disk.keyIn
  rw [files]
  exact there

lemma writeEncryptedSecrets_sure (file : env.postgres = false) (depth : ℕ) (value : Secrets) (sound : d.Sound env) :
    (writeEncryptedSecrets env pid depth value).Sure (orderly env) (Others env pid) (Within env pid)
      (fun _ _ => Disk.Sound env) (fun _ _ => Disk.Sound env) () d := by
  have base := (regime env pid).toBase
  refine base.silent_bind (silent trivial) sound fun nonce _ d₁ _ _ _ sound₁ => ?_
  refine (Script.sure_bind _ _).2 ((secretKey_sure (regime env pid) depth sound₁).mono (fun _ _ => id) ?_
    fun _ _ s' holds' t later => base.later s' t later holds')
  rintro key _ d₂ ⟨sound₂, there⟩
  simp only [file, Bool.false_eq_true, if_false]
  refine (Script.sure_bind _ _).2 ((Script.sure_ask _).2 fun d₃ later₃ => ⟨fun _ torn => torn.elim, fun reply d₄ ran => ?_⟩)
  have sound₃ := later₃.sound sound₂
  have there₃ : d₃.Holds env .key key := ⟨later₃.holds key there.1, there.2⟩
  have sound₄ : d₄.Sound env ∧ d₄.files = d₃.files := by
    obtain ⟨ran, -, whole⟩ := ran
    have old := sound₃.temporary
    cases ran with
    | notOpenedEnvelope => exact ⟨sound₃, rfl⟩
    | writeEnvelope =>
      refine ⟨⟨sound₃.key, sound₃.once, sound₃.kept, sound₃.stored, fun content same => ?_⟩, rfl⟩
      cases same
      exact ⟨_, key, rfl, there₃, rfl, rfl, value, env.decrypt_encrypt _ _ _⟩
    | notWrittenEnvelope _ envelope rest =>
      refine ⟨⟨sound₃.key, sound₃.once, sound₃.kept, sound₃.stored, fun content same => ?_⟩, rfl⟩
      obtain same' | same' := whole _ rfl
      · exact old content (same'.symm.trans same)
      · cases same'.symm.trans same
        exact ⟨_, key, rfl, there₃, rfl, rfl, value, env.decrypt_encrypt _ _ _⟩
  refine ⟨sound₄.1.within sound₄.2, fun d₅ later₅ => ?_⟩
  refine base.require_bind (later₅.sound sound₄.1) (fun _ _ => id) fun _ d₆ _ _ sound₆ => ?_
  refine base.silent_bind (silent trivial) sound₆ fun reply _ d₇ _ _ _ sound₇ => ?_
  refine base.require_bind sound₇ (fun _ _ => id) fun _ d₈ _ _ sound₈ => ?_
  refine (Script.sure_bind _ _).2 ((Script.sure_ask _).2 fun d₉ later₉ => ⟨fun _ torn => torn.elim, fun reply t ran => ?_⟩)
  have sound₉ := later₉.sound sound₈
  have replaced : ∀ content, d₉.temporary = some content → (d₉.replaceEnvelope content).Sound env := by
    intro content found
    refine ⟨sound₉.key, sound₉.once, sound₉.kept, fun other mem => ?_, by rintro _ ⟨⟩⟩
    obtain rfl | mem := List.mem_cons.1 mem
    · exact sound₉.temporary other found
    · exact sound₉.stored other mem
  have left : t.Sound env ∧ t.files = d₉.files := by
    cases ran.1 with
    | replaceEnvelope _ content found | replacedEnvelope _ content found => exact ⟨replaced content found, rfl⟩
    | notReplacedEnvelope => exact ⟨sound₉, rfl⟩
  refine ⟨left.1.within left.2, fun u later => ?_⟩
  refine (Script.sure_require _).2 ⟨fun _ _ v later' => ?_, fun _ _ v later' => ?_⟩
  · exact later'.sound (later.sound left.1)
  · exact later'.sound (later.sound left.1)

lemma storedEnvelope_sure (file : env.postgres = false) (sound : d.Sound env) :
    (storedEnvelope env).Sure (orderly env) (Others env pid) (Within env pid)
      (fun _ _ => Disk.Sound env) (fun _ _ => Disk.Sound env) () d := by
  have base := (regime env pid).toBase
  simp only [storedEnvelope, file, Bool.false_eq_true, if_false]
  refine base.silent_bind (silent trivial) sound fun reply _ d₁ _ _ _ sound₁ => ?_
  exact (Script.sure_require _).2 ⟨fun _ _ d₂ later => later.sound sound₁, fun _ _ d₂ later => later.sound sound₁⟩

lemma readEncryptedSecrets_sure (file : env.postgres = false) (depth : ℕ) (sound : d.Sound env) :
    (readEncryptedSecrets env pid depth).Sure (orderly env) (Others env pid) (Within env pid)
      (fun _ _ => Disk.Sound env) (fun _ _ => Disk.Sound env) () d := by
  have base := (regime env pid).toBase
  refine (Script.sure_bind _ _).2 ((storedEnvelope_sure file sound).mono (fun _ _ => id) ?_
    fun _ _ s' holds' t later => base.later s' t later holds')
  rintro envelope _ d₁ sound₁
  cases envelope with
  | none => exact base.pure sound₁ fun _ _ => id
  | some envelope =>
    exact (openEnvelope_sure (regime env pid) depth envelope sound₁).mono (fun _ _ => id) (fun _ _ _ h => h.1)
      fun _ _ _ => id

lemma ensureSecretStore_sure (file : env.postgres = false) (depth : ℕ) (sound : d.Sound env) :
    (ensureSecretStore env pid depth).Sure (orderly env) (Others env pid) (Within env pid)
      (fun _ _ => Disk.Sound env) (fun _ _ => Disk.Sound env) () d := by
  have base := (regime env pid).toBase
  simp only [ensureSecretStore, migrateSecretFileToDatabase, file, Bool.false_eq_true, if_false]
  refine (Script.sure_bind _ _).2 (base.pure sound fun d₁ _ sound₁ => ?_)
  refine (Script.sure_bind _ _).2 ((storedEnvelope_sure file sound₁).mono (fun _ _ => id) ?_
    fun _ _ s' holds' t later => base.later s' t later holds')
  rintro envelope _ d₂ sound₂
  cases envelope with
  | some envelope =>
    refine (Script.sure_bind _ _).2 ((readEncryptedSecrets_sure file depth sound₂).mono (fun _ _ => id) ?_
      fun _ _ s' holds' t later => base.later s' t later holds')
    rintro stored _ d₃ sound₃
    split
    · exact base.raise sound₃ fun _ => id
    · exact base.pure sound₃ fun _ _ => id
  | none =>
    refine base.silent_bind (silent trivial) sound₂ fun legacy _ d₃ _ _ _ sound₃ => ?_
    refine base.silent_bind (silent trivial) sound₃ fun generated _ d₄ _ _ _ sound₄ => ?_
    refine (Script.sure_bind _ _).2 ((writeEncryptedSecrets_sure file depth _ sound₄).mono (fun _ _ => id) ?_
      fun _ _ s' holds' t later => base.later s' t later holds')
    rintro ⟨⟩ _ d₅ sound₅
    refine base.silent_bind (silent trivial) sound₅ fun reply _ d₆ _ _ _ sound₆ => ?_
    refine base.require_bind sound₆ (fun _ _ => id) fun _ d₇ _ _ sound₇ => ?_
    exact base.pure sound₇ fun _ _ => id

def Returned (env : Env Cipher) (result : Except Failure (Option Bytes) × Unit) (d : Disk Cipher) : Prop :=
  ∀ key, result.1 = .ok (some key) → d.Holds env .key key

lemma Job.process_sure (file : env.postgres = false) (depth : ℕ) (job : Job Cipher) (sound : d.Sound env) :
    (job.process env pid depth ()).Sure (orderly env) (Others env pid) (Within env pid) (Returned env) d := by
  have base := (regime env pid).toBase
  have scripted : (job.process env pid depth).Sure (orderly env) (Others env pid) (Within env pid)
      (fun key _ d' => ∀ used, key = some used → d'.Holds env .key used) (fun _ _ _ => True) () d := by
    cases job with
    | key =>
      refine (Script.sure_bind _ _).2 ((secretKey_sure (regime env pid) depth sound).mono (fun _ _ => id) ?_ (by simp))
      rintro key _ d₁ ⟨_, there⟩
      refine (Script.sure_pure _).2 fun d₂ later used same => ?_
      cases same
      exact ⟨later.holds key there.1, there.2⟩
    | write value =>
      refine (Script.sure_bind _ _).2 ((writeEncryptedSecrets_sure file depth value sound).mono (fun _ _ => id) ?_ (by simp))
      intros
      simp
    | «open» envelope =>
      refine (Script.sure_bind _ _).2 ((openEnvelope_sure (regime env pid) depth envelope sound).mono (fun _ _ => id) ?_
        (by simp))
      intros
      simp
    | ensure =>
      refine (Script.sure_bind _ _).2 ((ensureSecretStore_sure file depth sound).mono (fun _ _ => id) ?_ (by simp))
      intros
      simp
  refine (Script.sure_iff.1 scripted).mono (fun _ _ => id) ?_
  rintro ⟨result, _⟩ d' ends key same
  cases result with
  | error failure => cases same
  | ok returned => exact ends key (Except.ok.inj same)

end

/-! ## Runs -/

/-- The disk is sound, the processes keep to what they may do, and the keys they returned are the one in place. -/
structure System.Sound (env : Env Cipher) (w : System Cipher) : Prop where
  disk : w.disk.Sound env
  processes : Program.Pool (orderly env) (Others env) (Within env) (Returned env) w.processes w.disk
  returned : ∀ key ∈ w.returned, w.disk.Holds env .key key

variable {w : System Cipher}

lemma System.Step.sound (file : env.postgres = false) {w' : System Cipher} (step : System.Step env (orderly env) w w')
    (sound : w.Sound env) : w'.Sound env := by
  cases step with
  | start pid depth job absent =>
    exact ⟨sound.disk, sound.processes.set (job.process_sure file depth sound.disk), sound.returned⟩
  | call pid c next reply disk found ran =>
    obtain ⟨within, processes⟩ := sound.processes.call (fun _ _ _ _ ne within => within _ ne.symm) found ran
    have others := within (pid + 1) (Nat.succ_ne_self pid)
    exact ⟨others.sound sound.disk, processes, fun key mem =>
      ⟨others.holds key (sound.returned key mem).1, (sound.returned key mem).2⟩⟩
  | returns pid key found =>
    refine ⟨sound.disk, sound.processes.pop pid, fun other mem => ?_⟩
    obtain rfl | mem := List.mem_cons.1 mem
    · exact sound.processes pid _ found w.disk (refl_of (Others env pid) w.disk) other rfl
    · exact sound.returned other mem
  | ends pid result found _ => exact ⟨sound.disk, sound.processes.pop pid, sound.returned⟩

lemma System.Init.sound (init : w.Init) : w.Sound env := by
  obtain ⟨files, temporary, placed, stored, processes, returned⟩ := init
  refine ⟨⟨fun content found => ?_, by simp [placed], by simp [placed], by simp [stored], by simp [temporary]⟩, ?_, ?_⟩
  · rw [files] at found
    cases found
  · intro pid m found
    rw [processes] at found
    cases found
  · simp [returned]

/-- **One data key** in every run whose calls are orderly. -/
theorem one_data_key (env : Env Cipher) (file : env.postgres = false) (w : System Cipher) (run : OrderlyRuns env w) :
    OneKey env w := by
  have sound : w.Sound env := by
    refine Reach.invariant (I := System.Sound env) (fun _ => System.Init.sound) ?_ run
    exact fun _ _ sound step => step.sound file sound
  refine ⟨fun key mem other mem' => ?_, sound.returned, sound.disk.once, sound.disk.kept, sound.disk.stored⟩
  exact Option.some.inj ((sound.returned key mem).1.symm.trans (sound.returned other mem').1)

/-! ## Played runs -/

/-- A process makes a call that succeeds, or returns its key. -/
def System.advance (env : Env Cipher) (byte : UInt8) (pid : ℕ) (w : System Cipher) : System Cipher :=
  match w.processes.get? pid with
  | some (.call c next) =>
    { w with
      disk := (c.succeeds env byte w.disk).2
      processes := w.processes.set pid (next (c.succeeds env byte w.disk).1) }
  | some (.done (.ok (some key), ())) => { w with processes := w.processes.pop pid, returned := key :: w.returned }
  | _ => w

variable {byte : UInt8}

lemma System.advance_run {M : Machine (Call Cipher) Call.Reply (Disk Cipher)} {pid : ℕ}
    (may : ∀ c next, w.processes.get? pid = some (.call c next) →
      M.run c w.disk (c.succeeds env byte w.disk).1 (c.succeeds env byte w.disk).2)
    (run : Reach System.Init (System.Step env M) w) : Reach System.Init (System.Step env M) (w.advance env byte pid) := by
  unfold System.advance
  split
  · next c next found => exact run.step (.call w pid c next _ _ found (may c next found))
  · next key found => exact run.step (.returns w pid key found)
  · exact run

/-- The process does not link its key while a key file is there. -/
def System.free (w : System Cipher) (pid : ℕ) : Bool :=
  match w.processes.get? pid with
  | some (.call (.link _) _) => (w.disk.files.get? .key).isNone
  | _ => true

lemma System.free_orderly {pid : ℕ} (free : w.free pid = true) {c : Call Cipher}
    {next : c.Reply → Running Cipher} (found : w.processes.get? pid = some (.call c next)) :
    (orderly env).run c w.disk (c.succeeds env byte w.disk).1 (c.succeeds env byte w.disk).2 := by
  refine ⟨c.succeeds_run env byte w.disk, ?_, ?_⟩
  · rintro file rfl
    simpa [System.free, found] using free
  · rintro envelope rfl
    exact .inr rfl

def System.advances (env : Env Cipher) (byte : UInt8) (pid n : ℕ) (w : System Cipher) : System Cipher :=
  (System.advance env byte pid)^[n] w

lemma System.advances_run {pid n : ℕ} (run : Runs env w) :
    Runs env (w.advances env byte pid n) := by
  induction n with
  | zero => exact run
  | succ n ih =>
    rw [System.advances, Function.iterate_succ_apply']
    exact System.advance_run (fun c _ _ => c.succeeds_run env byte _) ih

lemma System.advances_orderly {pid n : ℕ} (run : OrderlyRuns env w)
    (free : ∀ k < n, (w.advances env byte pid k).free pid = true) : OrderlyRuns env (w.advances env byte pid n) := by
  induction n with
  | zero => exact run
  | succ n ih =>
    rw [System.advances, Function.iterate_succ_apply']
    have before := ih fun k lt => free k (Nat.lt_succ_of_lt lt)
    exact System.advance_run (fun c next found => System.free_orderly (free n (Nat.lt_succ_self n)) found) before

/-- Ciphers that are what is encrypted, and no passphrase. -/
def plain : Env (Bytes × Bytes × Plaintext) where
  scrypt _ salt := salt
  encrypt key nonce plaintext := (key, nonce, plaintext)
  decrypt key nonce cipher := if cipher.1 = key ∧ cipher.2.1 = nonce then some cipher.2.2 else none
  decrypt_encrypt _ _ _ := if_pos ⟨rfl, rfl⟩
  sealing := false
  passphrase := none
  requireSealing := false
  postgres := false

/-- A process calls `_secret_key` or `ensure_secret_store`. -/
def System.starts (w : System (Bytes × Bytes × Plaintext)) (pid : ℕ) (job : Job (Bytes × Bytes × Plaintext)) :
    System (Bytes × Bytes × Plaintext) :=
  { w with processes := w.processes.set pid (job.process plain pid 9 ()) }

/-- One process creates the store, and another one asks for the key. -/
def created : System (Bytes × Bytes × Plaintext) :=
  ((({ disk := {} : System _ }.starts 0 .ensure).advances plain 0 0 21).starts 1 .key).advances plain 0 1 3

/-- Two processes have a key of their own to link; the second one finds the link of the first, and removes it. -/
def removed : System (Bytes × Bytes × Plaintext) :=
  (((({ disk := {} : System _ }.starts 0 .key).starts 1 .key).advances plain 0 0 8).advances plain 1 1 8
    |>.advances plain 0 0 3).advances plain 1 1 15

lemma empty_init : System.Init ({ disk := {} } : System (Bytes × Bytes × Plaintext)) := ⟨rfl, rfl, rfl, rfl, rfl, rfl⟩

theorem one_data_key_of_created : created.disk.stored.length = 1 ∧ OneKey plain created := by
  refine ⟨by decide +kernel, one_data_key plain rfl created ?_⟩
  have started : OrderlyRuns plain ({ disk := {} : System _ }.starts 0 .ensure) :=
    .step (.init empty_init) (.start _ 0 9 .ensure (by decide +kernel))
  have stored : OrderlyRuns plain (({ disk := {} : System _ }.starts 0 .ensure).advances plain 0 0 21) :=
    System.advances_orderly started (by decide +kernel)
  exact System.advances_orderly (.step stored (.start _ 1 9 .key (by decide +kernel))) (by decide +kernel)

/-- **A key file is removed by the process that lost the link.** -/
theorem loser_removes_the_key : ∃ w, Runs plain w ∧ w.disk.placed.length = 2 ∧
    w.returned = [List.replicate 32 1, List.replicate 32 0] ∧ ¬ OneKey plain w := by
  refine ⟨removed, ?_, by decide +kernel, by decide +kernel, fun one => ?_⟩
  · have started : Runs plain (({ disk := {} : System _ }.starts 0 .key).starts 1 .key) :=
      .step (.step (.init empty_init) (.start _ 0 9 .key (by decide +kernel))) (.start _ 1 9 .key (by decide +kernel))
    exact System.advances_run (System.advances_run (System.advances_run (System.advances_run started)))
  · exact absurd one.once (by decide +kernel)

end Vertep.SecretStore
