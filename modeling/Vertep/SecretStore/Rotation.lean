import Vertep.SecretStore.OneKey

/-!
# Rotation of the data key (`core/first_run.py`)

`ensure_secret_store` and `rotate_data_key` run one after the other, on either backend; any of their calls may fail,
and a call of them may be cut off anywhere.
-/

namespace Vertep.SecretStore
open Lib Relation

variable {Cipher : Type} {env : Env Cipher} {pid : ℕ} {d d' : Disk Cipher}

/-! ## What is claimed, and when it holds -/

/-- The store of the backend; the file is the store of the database until it is moved there. -/
def Disk.store (env : Env Cipher) (d : Disk Cipher) : Option (Content Cipher) :=
  if env.postgres then (d.row.map some).or d.envelope else d.envelope

/-- What is stored can be opened with a key that is in one of the files. -/
def Disk.OpensWith (env : Env Cipher) (files : List File) (d : Disk Cipher) : Prop :=
  ∀ content, d.store env = some content → ∃ envelope file key,
    content = some envelope ∧ file ∈ files ∧ d.Holds env file key ∧ env.Opens key envelope

/-- What a process calls. -/
inductive Operation where
  | ensure
  | rotate

/-- A call is made, to its end or not, with the calls of a rotation as `M` makes them. -/
inductive Operates (env : Env Cipher) (M : Machine (Call Cipher) Call.Reply (Disk Cipher)) :
    Operation → Disk Cipher → Disk Cipher → Prop where
  | ensure (pid depth : ℕ) (d d' : Disk Cipher) (out : Option (Except Failure Secrets × Unit)) :
    Program.Exec (machine env) (ensureSecretStore env pid depth ()) d out d' → Operates env M .ensure d d'
  | rotate (pid depth : ℕ) (d d' : Disk Cipher) (out : Option (Except Failure Bool × Unit)) :
    Program.Exec M (rotateDataKey env pid depth ()) d out d' → Operates env M .rotate d d'

/-- The disks after any calls, from one whose store opens with the key file. -/
def Lives (env : Env Cipher) (M : Machine (Call Cipher) Call.Reply (Disk Cipher)) : Disk Cipher → Prop :=
  Reach (Disk.OpensWith env [.key]) fun d d' => ∃ operation, Operates env M operation d d'

/-- The secrets are not lost, and a rotation that raises leaves the store open with its key. -/
structure NeverLost (env : Env Cipher) (M : Machine (Call Cipher) Call.Reply (Disk Cipher)) (d : Disk Cipher) : Prop where
  opens : d.OpensWith env [.key, .prev]
  restored : ∀ pid depth failure d', d.OpensWith env [.key] →
    Program.Exec M (rotateDataKey env pid depth ()) d (some (.error failure, ())) d' → d'.OpensWith env [.key]

/-- A store is written and reports that it is not, or the previous key is not put back. -/
inductive Call.Slips : (c : Call Cipher) → Disk Cipher → c.Reply → Disk Cipher → Prop where
  | replacedEnvelope (d : Disk Cipher) (content : Content Cipher) :
    Slips .replaceEnvelope d (.error .os) (d.replaceEnvelope content)
  | writtenRow (d : Disk Cipher) (envelope : Envelope Cipher) :
    Slips (.writeRow envelope) d (.error .database) (d.writeRow envelope)
  | notRestored (d d' : Disk Cipher) : d.files.get? .prev ≠ none → Slips (.copy .prev .key) d (.error .os) d'

/-- The calls of a rotation that does not slip. -/
def careful (env : Env Cipher) : Machine (Call Cipher) Call.Reply (Disk Cipher) where
  run c d reply d' := Call.Run env c d reply d' ∧ ¬ Call.Slips c d reply d'
  torn := Call.Torn

/-! ## What is kept -/

lemma Disk.OpensWith.mono {files files' : List File} (opens : d.OpensWith env files) (more : files ⊆ files') :
    d.OpensWith env files' := by
  intro content there
  obtain ⟨envelope, file, key, same, mem, holds, opens⟩ := opens content there
  exact ⟨envelope, file, key, same, more mem, holds, opens⟩

def Guards (env : Env Cipher) (d d' : Disk Cipher) : Prop :=
  d.OpensWith env [.key, .prev] → d'.OpensWith env [.key, .prev]

/-- The store is as it was, the keys that were there are, and a key may have been created. -/
structure Keeps (env : Env Cipher) (d d' : Disk Cipher) : Prop where
  row : d'.row = d.row
  envelope : d'.envelope = d.envelope
  prev : d'.keyIn env .prev = d.keyIn env .prev
  key : ∀ key, d.keyIn env .key = some key → d'.keyIn env .key = some key

lemma Keeps.refl (d : Disk Cipher) : Keeps env d d := ⟨rfl, rfl, rfl, fun _ => id⟩

lemma Keeps.trans {d'' : Disk Cipher} (first : Keeps env d d') (next : Keeps env d' d'') : Keeps env d d'' :=
  ⟨next.row.trans first.row, next.envelope.trans first.envelope, next.prev.trans first.prev,
    fun key there => next.key key (first.key key there)⟩

lemma Keeps.store (keeps : Keeps env d d') : d'.store env = d.store env := by
  unfold Disk.store
  rw [keeps.row, keeps.envelope]

variable {file : File} {key : Bytes}

lemma Keeps.holds (keeps : Keeps env d d') (mem : file ∈ [File.key, .prev])
    (there : d.Holds env file key) : d'.Holds env file key := by
  refine ⟨?_, there.2⟩
  obtain rfl | mem := List.mem_cons.1 mem
  · exact keeps.key key there.1
  · obtain rfl := List.mem_singleton.1 mem
    exact keeps.prev.trans there.1

lemma Keeps.opensWith (keeps : Keeps env d d') {files : List File} (few : files ⊆ [.key, .prev])
    (opens : d.OpensWith env files) : d'.OpensWith env files := by
  intro content there
  obtain ⟨envelope, file, key, same, mem, holds, opens⟩ := opens content (keeps.store ▸ there)
  exact ⟨envelope, file, key, same, mem, keeps.holds (few mem) holds, opens⟩

lemma Keeps.guards (keeps : Keeps env d d') : Guards env d d' := keeps.opensWith fun _ => id

lemma Keeps.private (own : file.Of pid) (row : d'.row = d.row) (envelope : d'.envelope = d.envelope)
    (others : ∀ other, file ≠ other → d'.keyIn env other = d.keyIn env other) : Keeps env d d' := by
  refine ⟨row, envelope, others .prev own.ne_prev, fun key there => ?_⟩
  exact (others .key own.ne_key).trans there

/-- A process that runs alone, with calls that `M` makes. -/
structure Alone (env : Env Cipher) (M : Machine (Call Cipher) Call.Reply (Disk Cipher)) : Prop where
  run : ∀ c s r s', M.run c s r s' → Call.Run env c s r s'
  torn : ∀ c s s', M.torn c s s' → Call.Torn c s s'

lemma alone_machine (env : Env Cipher) : Alone env (machine env) := ⟨fun _ _ _ _ => id, fun _ _ _ => id⟩

lemma alone_careful (env : Env Cipher) : Alone env (careful env) := ⟨fun _ _ _ _ ran => ran.1, fun _ _ _ => id⟩

variable {M : Machine (Call Cipher) Call.Reply (Disk Cipher)}

lemma Alone.regime (alone : Alone env M) (pid : ℕ) (d : Disk Cipher) :
    Regime env M Eq (Guards env) pid (Keeps env d) fun s => s.files.get? .key = none where
  run := alone.run
  torn := alone.torn
  later _ _ same keeps := same ▸ keeps
  own _ _ _ same _ := same ▸ rfl
  same _ _ := id
  put s file content own keeps := by
    have put : Keeps env s (s.put file content) :=
      .private own rfl rfl fun other ne => (s.keyIn_put content).trans (if_neg ne)
    exact ⟨put.guards, keeps.trans put⟩
  erase s file own keeps := by
    have erased : Keeps env s (s.erase file) := .private own rfl rfl fun other ne => s.keyIn_erase.trans (if_neg ne)
    exact ⟨erased.guards, keeps.trans erased⟩
  holds _ _ _ same there := same ▸ there
  seals s file content key own keeps encodes there := by
    have put : Keeps env s ((s.erase file).put .key content) := by
      refine ⟨rfl, rfl, by simp [own.ne_prev], fun other there' => ?_⟩
      simpa [encodes] using there.symm.trans there'
    exact ⟨put.guards, keeps.trans put⟩
  absent _ := id
  absentLater _ _ same absent := same ▸ absent
  absentPut s file content own absent := (s.get?_put content).trans ((if_neg own.ne_key).trans absent)
  places s content key keeps absent encodes length := by
    have placed : Keeps env s (s.place content) := by
      refine ⟨rfl, rfl, s.keyIn_place content, fun other there => ?_⟩
      simp [Disk.keyIn, absent] at there
    exact ⟨placed.guards, keeps.trans placed⟩
  wins s file s' absent ran := by
    have ran := alone.run _ _ _ _ ran
    cases ran with
    | linkExists _ _ _ found => cases absent.symm.trans found

/-! ## The parts of a rotation -/

variable {c : Call Cipher}

section
variable {α : Type} {Q : α → Unit → Disk Cipher → Prop} {X : Failure → Unit → Disk Cipher → Prop}

lemma Alone.bind (alone : Alone env M) {f : c.Reply → Process Cipher α}
    (torn : ∀ s', Call.Torn c d s' → Guards env d s')
    (next : ∀ r s', M.run c d r s' → Guards env d s' ∧ (f r).Sure M Eq (Guards env) Q X () s') :
    (ask c >>= f).Sure M Eq (Guards env) Q X () d := by
  refine (Script.sure_bind _ _).2 ((Script.sure_ask c).2 ?_)
  rintro _ rfl
  refine ⟨fun s' cut => torn s' (alone.torn c _ s' cut), fun r s' ran => ⟨(next r s' ran).1, ?_⟩⟩
  rintro _ rfl
  exact (next r s' ran).2

lemma Alone.silent (alone : Alone env M) {f : c.Reply → Process Cipher α} (silent : c.Silent env)
    (next : ∀ r, M.run c d r d → (f r).Sure M Eq (Guards env) Q X () d) :
    (ask c >>= f).Sure M Eq (Guards env) Q X () d := by
  refine alone.bind (fun s' torn => absurd torn (silent.2 d s')) fun r s' ran => ?_
  obtain rfl := silent.1 d r s' (alone.run _ _ _ _ ran)
  exact ⟨id, next r ran⟩

lemma require_bind_alone {β : Type} {reply : Except Failure β} {f : β → Process Cipher α}
    (raises : ∀ failure, reply = .error failure → X failure () d)
    (next : ∀ b, reply = .ok b → (f b).Sure M Eq (Guards env) Q X () d) :
    (Script.require reply >>= f).Sure M Eq (Guards env) Q X () d := by
  refine (Script.sure_bind _ _).2 ((Script.sure_require _).2 ⟨?_, ?_⟩)
  · rintro b same _ rfl
    exact next b same
  · rintro failure same _ rfl _ rfl
    exact raises failure same

end

lemma storedEnvelope_alone (alone : Alone env M) :
    (storedEnvelope env).Sure M Eq (Guards env)
      (fun stored _ d' => d' = d ∧ ∀ envelope, stored = some envelope → d.store env = some (some envelope))
      (fun _ _ d' => d' = d) () d := by
  unfold storedEnvelope
  cases backend : env.postgres with
  | true =>
    simp only [if_true]
    refine alone.silent (silent trivial) fun reply ran => ?_
    refine (Script.sure_require _).2 ⟨?_, ?_⟩
    · rintro stored same _ rfl
      refine ⟨rfl, fun envelope there => ?_⟩
      cases alone.run _ _ _ _ ran <;> cases same
      simp [Disk.store, backend, there]
    · rintro _ _ _ rfl
      rfl
  | false =>
    simp only [Bool.false_eq_true, if_false]
    refine alone.silent (silent trivial) fun reply ran => ?_
    refine (Script.sure_require _).2 ⟨?_, ?_⟩
    · rintro stored same _ rfl
      refine ⟨rfl, fun envelope there => ?_⟩
      cases alone.run _ _ _ _ ran with
      | notReadEnvelope => cases same
      | readEnvelope _ content found =>
        cases same
        simp [Disk.store, backend, found, there]
    · rintro _ _ _ rfl
      rfl

lemma readEncryptedSecrets_alone (alone : Alone env M) (depth : ℕ) :
    (readEncryptedSecrets env pid depth).Sure M Eq (Guards env)
      (fun stored _ d' => Keeps env d d' ∧ (stored ≠ ∅ → d'.OpensWith env [.key])) (fun _ _ => Keeps env d) () d := by
  refine (Script.sure_bind _ _).2 ((storedEnvelope_alone alone).mono (fun _ _ => id) ?_ ?_)
  · rintro stored _ _ ⟨rfl, there⟩
    cases stored with
    | none =>
      refine (Script.sure_pure _).2 ?_
      rintro _ rfl
      exact ⟨.refl _, fun some_ => absurd rfl some_⟩
    | some envelope =>
      refine (openEnvelope_sure (alone.regime pid _) depth envelope (.refl _)).mono (fun _ _ => id) ?_ fun _ _ _ => id
      rintro value _ d' ⟨keeps, key, holds, opens⟩
      refine ⟨keeps, fun _ content found => ?_⟩
      cases (keeps.store.trans (there envelope rfl)).symm.trans found
      exact ⟨envelope, .key, key, rfl, List.mem_cons_self, holds, opens⟩
  · rintro _ _ _ rfl _ rfl
    exact .refl _

lemma opensWith_of_store {envelope : Envelope Cipher} (there : d.store env = some (some envelope))
    (holds : d.Holds env .key key) (opens : env.Opens key envelope) : d.OpensWith env [.key] := by
  intro content found
  cases there.symm.trans found
  exact ⟨envelope, .key, key, rfl, List.mem_cons_self, holds, opens⟩

lemma Guards.of_opens (mem : file ∈ [File.key, .prev]) (opens : d'.OpensWith env [file]) :
    Guards env d d' := fun _ => opens.mono (List.cons_subset.2 ⟨mem, List.nil_subset _⟩)

lemma writeEncryptedSecrets_alone (alone : Alone env M) (depth : ℕ) (value : Secrets) :
    (writeEncryptedSecrets env pid depth value).Sure M Eq (Guards env)
      (fun _ _ d' => d'.OpensWith env [.key])
      (fun _ _ d' => (∀ c s r s', M.run c s r s' → ¬ Call.Slips c s r s') → Keeps env d d') () d := by
  have base := (alone.regime pid d).toBase
  refine alone.silent (silent trivial) fun nonce _ => ?_
  refine (Script.sure_bind _ _).2 ((secretKey_sure (alone.regime pid d) depth (.refl d)).mono (fun _ _ => id) ?_ ?_)
  swap
  · rintro _ _ d' keeps _ rfl _
    exact keeps
  rintro key _ d₁ ⟨keeps, holds⟩
  set envelope : Envelope Cipher := { nonce := nonce, ciphertext := env.encrypt key nonce (.secrets value) }
  have opens : env.Opens key envelope := ⟨rfl, rfl, value, env.decrypt_encrypt key nonce (.secrets value)⟩
  cases backend : env.postgres with
  | true =>
    simp only [if_true]
    have written : (d₁.writeRow envelope).OpensWith env [.key] :=
      opensWith_of_store (by simp [Disk.store, backend, Disk.writeRow]) holds opens
    refine alone.bind (fun s' torn => by cases torn) fun reply s' ran => ?_
    cases alone.run _ _ _ _ ran with
    | writeRow =>
      refine ⟨.of_opens (by simp) written, (Script.sure_require _).2 ⟨?_, by simp⟩⟩
      rintro _ _ _ rfl
      exact written
    | writtenRow =>
      refine ⟨.of_opens (by simp) written, (Script.sure_require _).2 ⟨by simp, ?_⟩⟩
      intro _ _ _ _ careful
      exact absurd (.writtenRow d₁ envelope) (careful _ _ _ _ ran)
    | notWrittenRow =>
      refine ⟨id, (Script.sure_require _).2 ⟨by simp, ?_⟩⟩
      rintro _ _ _ rfl _
      exact keeps
  | false =>
    simp only [Bool.false_eq_true, if_false]
    have aside : ∀ content, Keeps env d₁ { d₁ with temporary := content } := fun _ => ⟨rfl, rfl, rfl, fun _ => id⟩
    refine alone.bind (fun s' torn => ?_) fun reply s' ran => ?_
    · cases torn with
      | writeEnvelope _ _ rest => exact (aside (some rest)).guards
    have left : Keeps env d₁ s' ∧ (reply = .ok () → s'.temporary = some (some envelope)) := by
      cases alone.run _ _ _ _ ran with
      | writeEnvelope => exact ⟨aside _, fun _ => rfl⟩
      | notOpenedEnvelope => exact ⟨.refl d₁, by rintro ⟨⟩⟩
      | notWrittenEnvelope _ _ rest => exact ⟨aside (some rest), by rintro ⟨⟩⟩
    refine ⟨left.1.guards, require_bind_alone (fun _ _ _ => keeps.trans left.1) fun _ same => ?_⟩
    have there := left.2 same
    refine alone.silent (silent trivial) fun reply _ => require_bind_alone (fun _ _ _ => keeps.trans left.1) fun _ _ => ?_
    have replaced : ∀ content, s'.temporary = some content → (s'.replaceEnvelope content).OpensWith env [.key] := by
      intro content found
      cases there.symm.trans found
      exact opensWith_of_store (by simp [Disk.store, backend, Disk.replaceEnvelope])
        (left.1.holds List.mem_cons_self holds) opens
    refine alone.bind (fun s' torn => by cases torn) fun reply t ran => ?_
    cases alone.run _ _ _ _ ran with
    | replaceEnvelope _ content found =>
      refine ⟨.of_opens (by simp) (replaced content found), (Script.sure_require _).2 ⟨?_, by simp⟩⟩
      rintro _ _ _ rfl
      exact replaced content found
    | replacedEnvelope _ content found =>
      refine ⟨.of_opens (by simp) (replaced content found), (Script.sure_require _).2 ⟨by simp, ?_⟩⟩
      intro _ _ _ _ careful
      exact absurd (.replacedEnvelope s' content) (careful _ _ _ _ ran)
    | notReplacedEnvelope =>
      refine ⟨id, (Script.sure_require _).2 ⟨by simp, ?_⟩⟩
      rintro _ _ _ rfl _
      exact keeps.trans left.1

/-! ## `ensure_secret_store` -/

lemma unlinkEnvelope_alone (alone : Alone env M) (backend : env.postgres = true) (row : d.row ≠ none) :
    (do Script.require (← ask .unlinkEnvelope)).Sure M Eq (Guards env) (fun _ _ _ => True) (fun _ _ _ => True) () d := by
  have same : ({ d with envelope := none } : Disk Cipher).store env = d.store env := by
    obtain ⟨stored, there⟩ := Option.ne_none_iff_exists'.1 row
    simp [Disk.store, backend, there]
  refine alone.bind (fun s' torn => by cases torn) fun reply s' ran => ⟨?_, by simp⟩
  cases alone.run _ _ _ _ ran with
  | notUnlinkedEnvelope => exact id
  | unlinkEnvelope =>
    intro safe content there
    obtain ⟨envelope, file, key, eq, mem, holds, opens⟩ := safe content (same.symm.trans there)
    exact ⟨envelope, file, key, eq, mem, holds, opens⟩

lemma openEnvelope_alone (alone : Alone env M) (depth : ℕ) (envelope : Envelope Cipher) :
    (openEnvelope env pid depth envelope).Sure M Eq (Guards env) (fun _ _ => Keeps env d) (fun _ _ _ => True) () d :=
  (openEnvelope_sure (alone.regime pid d) depth envelope (.refl d)).mono (fun _ _ => id) (fun _ _ _ h => h.1) (by simp)

/-- What is left of the migration once the row is read. -/
def migrateFile (env : Env Cipher) (pid depth : ℕ) (stored : Option (Envelope Cipher)) : Process Cipher Unit := do
  match ← Script.require (← ask .readEnvelope) with
  | none => pure ()
  | some envelope => do
    let expected ← openEnvelope env pid depth envelope
    match stored with
    | none => do
      Script.require (← ask (.writeRow envelope))
      match ← Script.require (← ask .readRow) with
      | none => Script.raise .value
      | some written => do
        if (← openEnvelope env pid depth written) ≠ expected then Script.raise .value
    | some stored => do
      let _ ← openEnvelope env pid depth stored
    Script.require (← ask .unlinkEnvelope)

lemma migrateFile_alone (alone : Alone env M) (backend : env.postgres = true) (depth : ℕ)
    {stored : Option (Envelope Cipher)} (row : d.row = stored) :
    (migrateFile env pid depth stored).Sure M Eq (Guards env) (fun _ _ _ => True) (fun _ _ _ => True) () d := by
  refine alone.silent (silent trivial) fun reply ran => require_bind_alone (by simp) fun file same => ?_
  cases file with
  | none => simp
  | some envelope =>
    have there : d.envelope = some (some envelope) := by
      cases alone.run _ _ _ _ ran with
      | notReadEnvelope => cases same
      | readEnvelope _ _ found =>
        cases same
        exact found
    refine (Script.sure_bind _ _).2 ((openEnvelope_alone alone depth envelope).mono (fun _ _ => id) ?_ (by simp))
    rintro expected _ d₁ keeps
    cases stored with
    | none =>
      refine alone.bind (fun s' torn => by cases torn) fun reply s' ran => ?_
      have before : d₁.store env = some (some envelope) := by
        simp [Disk.store, backend, keeps.row, row, keeps.envelope, there]
      have moved : Guards env d₁ (d₁.writeRow envelope) := by
        intro safe content found
        have after : (d₁.writeRow envelope).store env = some (some envelope) := by
          simp [Disk.store, backend, Disk.writeRow]
        exact safe content (before.trans (after.symm.trans found))
      have left : Guards env d₁ s' ∧ (reply = .ok () → s'.row = some envelope) := by
        cases alone.run _ _ _ _ ran with
        | writeRow => exact ⟨moved, fun _ => rfl⟩
        | writtenRow => exact ⟨moved, by rintro ⟨⟩⟩
        | notWrittenRow => exact ⟨id, by rintro ⟨⟩⟩
      refine ⟨left.1, require_bind_alone (by simp) fun _ same => ?_⟩
      refine alone.silent (silent trivial) fun reply _ => require_bind_alone (by simp) fun written _ => ?_
      cases written with
      | none => simp
      | some written =>
        refine (Script.sure_bind _ _).2 ((openEnvelope_alone alone depth written).mono (fun _ _ => id) ?_ (by simp))
        rintro value _ d₂ keeps₂
        split
        · simp
        · exact unlinkEnvelope_alone alone backend (by simp [keeps₂.row, left.2 same])
    | some stored =>
      refine (Script.sure_bind _ _).2 ((openEnvelope_alone alone depth stored).mono (fun _ _ => id) ?_ (by simp))
      rintro value _ d₂ keeps₂
      exact unlinkEnvelope_alone alone backend (by simp [keeps₂.row, keeps.row, row])

lemma migrateSecretFileToDatabase_alone (alone : Alone env M) (depth : ℕ) :
    (migrateSecretFileToDatabase env pid depth).Sure M Eq (Guards env) (fun _ _ _ => True) (fun _ _ _ => True) () d := by
  unfold migrateSecretFileToDatabase
  cases backend : env.postgres with
  | false => simp
  | true =>
    simp only [if_true]
    refine alone.silent (silent trivial) fun reply ran => require_bind_alone (by simp) fun stored same => ?_
    have row : d.row = stored := by
      cases alone.run _ _ _ _ ran <;> cases same
      rfl
    cases stored with
    | none => exact migrateFile_alone alone backend depth row
    | some stored =>
      exact alone.silent (silent trivial) fun reply _ => require_bind_alone (by simp) fun _ _ =>
        migrateFile_alone alone backend depth row

lemma ensureSecretStore_alone (alone : Alone env M) (depth : ℕ) :
    (ensureSecretStore env pid depth).Sure M Eq (Guards env) (fun _ _ _ => True) (fun _ _ _ => True) () d := by
  refine (Script.sure_bind _ _).2 ((migrateSecretFileToDatabase_alone alone depth).mono (fun _ _ => id) ?_ (by simp))
  rintro ⟨⟩ _ d₁ _
  refine (Script.sure_bind _ _).2 ((storedEnvelope_alone alone).mono (fun _ _ => id) ?_ (by simp))
  rintro stored _ d₂ _
  cases stored with
  | some envelope =>
    refine (Script.sure_bind _ _).2 ((readEncryptedSecrets_alone alone depth).mono (fun _ _ => id) ?_ (by simp))
    rintro stored _ d₃ _
    split <;> simp
  | none =>
    refine alone.silent (silent trivial) fun legacy _ => alone.silent (silent trivial) fun generated _ => ?_
    refine (Script.sure_bind _ _).2 ((writeEncryptedSecrets_alone alone depth _).mono (fun _ _ => id) ?_ (by simp))
    rintro ⟨⟩ _ d₃ _
    refine alone.silent (silent trivial) fun reply _ => require_bind_alone (by simp) (by simp)

/-! ## `rotate_data_key` -/

def Disk.StoredUnder (env : Env Cipher) (d : Disk Cipher) (key : Bytes) : Prop :=
  ∀ content, d.store env = some content → ∃ envelope, content = some envelope ∧ env.Opens key envelope

lemma Disk.StoredUnder.opensWith (under : d.StoredUnder env key)
    (holds : d.Holds env file key) : d.OpensWith env [file] := by
  intro content there
  obtain ⟨envelope, same, opens⟩ := under content there
  exact ⟨envelope, file, key, same, List.mem_cons_self, holds, opens⟩

lemma Disk.OpensWith.storedUnder (opens : d.OpensWith env [.key]) (holds : d.Holds env .key key) :
    d.StoredUnder env key := by
  intro content there
  obtain ⟨envelope, file, key', same, mem, holds', opens⟩ := opens content there
  obtain rfl := List.mem_singleton.1 mem
  obtain rfl : key' = key := Option.some.inj (holds'.1.symm.trans holds.1)
  exact ⟨envelope, same, opens⟩

lemma replace_alone (alone : Alone env M) (slips : ∀ c s r s', M.run c s r s' → ¬ Call.Slips c s r s') (depth : ℕ)
    (stored : Secrets) {previous : Bytes} (under : d.StoredUnder env previous) (kept : d.Holds env .prev previous) :
    (Script.rescue (do
      let rotated ← secretKey env pid depth
      writeEncryptedSecrets env pid depth stored
      pure rotated) fun failure => do
        if ← ask (.exists .prev) then Script.require (← ask (.copy .prev .key))
        Script.raise failure).Sure M Eq (Guards env) (fun _ _ d' => d'.OpensWith env [.key])
          (fun _ _ d' => d'.OpensWith env [.key]) () d := by
  have restores : ∀ failure d', Keeps env d d' →
      (do
        if ← ask (.exists .prev) then Script.require (← ask (.copy .prev .key))
        Script.raise failure : Process Cipher Bytes).Sure M Eq (Guards env) (fun _ _ d' => d'.OpensWith env [.key])
          (fun _ _ d' => d'.OpensWith env [.key]) () d' := by
    intro failure d' keeps
    have kept' : d'.Holds env .prev previous := keeps.holds (by simp) kept
    have under' : d'.StoredUnder env previous := fun content there => under content (keeps.store.symm.trans there)
    obtain ⟨content, found, encodes⟩ := Option.bind_eq_some_iff.1 kept'.1
    refine alone.silent (silent trivial) fun present ran => ?_
    cases alone.run _ _ _ _ ran
    simp only [found, Option.isSome_some, if_true]
    refine alone.bind (fun s' torn => ?_) fun reply s' ran => ?_
    · cases torn with
      | copy _ _ _ rest =>
        have still : (d'.put .key rest).Holds env .prev previous := ⟨(d'.keyIn_put rest).trans kept'.1, kept'.2⟩
        exact .of_opens (by simp) (Disk.StoredUnder.opensWith (d := d'.put .key rest) under' still)
    · have bad := slips _ _ _ _ ran
      cases alone.run _ _ _ _ ran with
      | notOpenedCopy | notCopied => exact absurd (.notRestored d' _ (by simp [found])) bad
      | copy _ _ _ content' found' =>
        cases found.symm.trans found'
        have back : (d'.put .key content).OpensWith env [.key] :=
          Disk.StoredUnder.opensWith (d := d'.put .key content) under' ⟨(d'.keyIn_put content).trans encodes, kept'.2⟩
        refine ⟨.of_opens (by simp) back, require_bind_alone (by simp) fun _ _ => (Script.sure_raise _).2 ?_⟩
        rintro _ rfl
        exact back
  refine (Script.sure_rescue _ _).2 ?_
  refine (Script.sure_bind _ _).2 ((secretKey_sure (alone.regime pid d) depth (.refl d)).mono (fun _ _ => id) ?_ ?_)
  swap
  · rintro failure _ d₁ keeps _ rfl
    exact restores failure d₁ keeps
  rintro rotated _ d₁ ⟨keeps, _⟩
  refine (Script.sure_bind _ _).2 ((writeEncryptedSecrets_alone alone depth stored).mono (fun _ _ => id) ?_ ?_)
  · rintro ⟨⟩ _ d₂ opens
    refine (Script.sure_pure _).2 ?_
    rintro _ rfl _ rfl
    exact opens
  · rintro failure _ d₂ left _ rfl
    exact restores failure d₂ (keeps.trans (left slips))

lemma Alone.asks (alone : Alone env M) (silent : c.Silent env) {X : Failure → Unit → Disk Cipher → Prop} :
    (ask c).Sure M Eq (Guards env) (fun _ _ _ => True) X () d := by
  refine (Script.sure_ask c).2 ?_
  rintro _ rfl
  refine ⟨fun s' torn => absurd (alone.torn _ _ _ torn) (silent.2 d s'), fun r s' ran => ⟨?_, fun _ _ => trivial⟩⟩
  obtain rfl := silent.1 d r s' (alone.run _ _ _ _ ran)
  exact id

lemma rotateDataKey_alone (alone : Alone env M) (slips : ∀ c s r s', M.run c s r s' → ¬ Call.Slips c s r s')
    (depth : ℕ) :
    (rotateDataKey env pid depth).Sure M Eq (Guards env) (fun _ _ _ => True)
      (fun _ _ d' => d.OpensWith env [.key] → d'.OpensWith env [.key]) () d := by
  have few : [File.key] ⊆ [.key, .prev] := by simp
  refine (Script.sure_bind _ _).2 ((readEncryptedSecrets_alone alone depth).mono (fun _ _ => id) ?_ ?_)
  swap
  · rintro _ _ d₁ keeps _ rfl opens
    exact keeps.opensWith few opens
  rintro stored _ d₁ ⟨keeps₁, opens₁⟩
  split
  · refine (Script.sure_raise _).2 ?_
    rintro _ rfl opens
    exact keeps₁.opensWith few opens
  next some_ =>
  have opens₁ := opens₁ some_
  refine (Script.sure_bind _ _).2 ((secretKey_sure (alone.regime pid d₁) depth (.refl d₁)).mono (fun _ _ => id) ?_ ?_)
  swap
  · rintro _ _ d₂ keeps _ rfl _
    exact keeps.opensWith few opens₁
  rintro previous _ d₂ ⟨keeps₂, holds⟩
  have opens₂ := keeps₂.opensWith few opens₁
  have under := opens₂.storedUnder holds
  obtain ⟨content, found, encodes⟩ := Option.bind_eq_some_iff.1 holds.1
  refine alone.silent (silent trivial) fun present ran => ?_
  cases alone.run _ _ _ _ ran
  simp only [found, Option.isSome_some, if_true]
  -- the copy: whatever becomes of the previous key, the key file is there
  have copied : ∀ rest, (d₂.put .prev rest).OpensWith env [.key] := fun rest =>
    Disk.StoredUnder.opensWith (d := d₂.put .prev rest) under ⟨(d₂.keyIn_put rest).trans holds.1, holds.2⟩
  refine alone.bind (fun s' torn => ?_) fun reply s' ran => ?_
  · cases torn with
    | copy _ _ _ rest => exact .of_opens (by simp) (copied rest)
  have left : s'.OpensWith env [.key] ∧
      (reply = .ok () → s'.Holds env .prev previous ∧ s'.StoredUnder env previous) := by
    cases alone.run _ _ _ _ ran with
    | notOpenedCopy => exact ⟨opens₂, by rintro ⟨⟩⟩
    | notCopied _ _ _ rest => exact ⟨copied rest, by rintro ⟨⟩⟩
    | copy _ _ _ content' found' =>
      cases found.symm.trans found'
      exact ⟨copied content, fun _ => ⟨⟨(d₂.keyIn_put content).trans encodes, holds.2⟩, under⟩⟩
  refine ⟨.of_opens (by simp) left.1, require_bind_alone (fun _ _ _ => left.1) fun _ same => ?_⟩
  obtain ⟨kept, under⟩ := left.2 same
  refine alone.silent (silent trivial) fun reply _ => require_bind_alone (fun _ _ _ => left.1) fun _ _ => ?_
  -- the key file goes; from here on the previous key opens the store
  have erased : (s'.erase .key).Holds env .prev previous := ⟨s'.keyIn_erase.trans kept.1, kept.2⟩
  refine alone.bind (fun s' torn => by cases torn) fun reply t ran => ?_
  have gone : Guards env s' t ∧ (reply = .ok () → t = s'.erase .key) ∧ (reply ≠ .ok () → t.OpensWith env [.key]) := by
    cases alone.run _ _ _ _ ran with
    | unlink =>
      exact ⟨.of_opens (by simp) (Disk.StoredUnder.opensWith (d := s'.erase .key) under erased), fun _ => rfl, by simp⟩
    | notUnlinked => exact ⟨id, by rintro ⟨⟩, fun _ => left.1⟩
  refine ⟨gone.1, require_bind_alone (fun _ same _ => gone.2.2 (by simp [same])) fun _ same => ?_⟩
  obtain rfl := gone.2.1 same
  refine (Script.sure_bind _ _).2 ((replace_alone (d := s'.erase .key) alone slips depth stored under erased).mono
    (fun _ _ => id) ?_ ?_)
  swap
  · rintro _ _ d₃ opens _ rfl _
    exact opens
  rintro rotated _ d₃ opens₃
  split
  · refine alone.bind (fun s' torn => by cases torn) fun reply u ran => ?_
    have still : u.OpensWith env [.key] := by
      cases alone.run _ _ _ _ ran with
      | notUnlinked => exact opens₃
      | unlink =>
        intro content there
        obtain ⟨envelope, file, key, eq, mem, holds, opens⟩ := opens₃ content there
        obtain rfl := List.mem_singleton.1 mem
        exact ⟨envelope, .key, key, eq, mem, ⟨d₃.keyIn_erase.trans holds.1, holds.2⟩, opens⟩
    refine ⟨.of_opens (by simp) still, require_bind_alone (fun _ _ _ => still) fun _ _ => ?_⟩
    exact alone.asks (silent (c := .exists .prev) trivial)
  · exact alone.asks (silent (c := .exists .prev) trivial)

/-! ## Secrets are never lost -/

lemma steps_guard {d d' : Disk Cipher} (steps : ReflTransGen (Guards env) d d') : Guards env d d' := by
  induction steps with
  | refl => exact id
  | tail _ last ih => exact last ∘ ih

lemma Operates.guards {operation : Operation} (operates : Operates env (careful env) operation d d') :
    Guards env d d' := by
  cases operates with
  | ensure pid depth _ _ out exec => exact steps_guard ((ensureSecretStore_alone (alone_machine env) depth).exec exec).1
  | rotate pid depth _ _ out exec =>
    exact steps_guard ((rotateDataKey_alone (alone_careful env) (fun _ _ _ _ ran => ran.2) depth).exec exec).1

/-- **Key rotation never loses the secrets** where no rotation slips. -/
theorem rotation_never_loses_the_secrets (env : Env Cipher) (d : Disk Cipher) (lives : Lives env (careful env) d) :
    NeverLost env (careful env) d := by
  refine ⟨?_, fun pid depth failure d' opens exec => ?_⟩
  · refine Reach.invariant (I := Disk.OpensWith env [.key, .prev]) (fun d opens => opens.mono (by simp)) ?_ lives
    rintro d d' safe ⟨operation, operates⟩
    exact operates.guards safe
  · exact ((rotateDataKey_alone (alone_careful env) (fun _ _ _ _ ran => ran.2) depth).exec exec).2.2 failure () rfl opens

/-! ## Played rotations -/

lemma Call.Slips.stored {reply : Except Failure Unit} (slips : Call.Slips .replaceEnvelope d reply d') :
    d'.stored.length = d.stored.length + 1 := by
  cases slips
  rfl

lemma Call.succeeds_careful (env : Env Cipher) (byte : UInt8) (c : Call Cipher) (d : Disk Cipher) :
    (careful env).run c d (c.succeeds env byte d).1 (c.succeeds env byte d).2 := by
  refine ⟨c.succeeds_run env byte d, fun slips => ?_⟩
  cases c with
  | replaceEnvelope =>
    cases there : d.temporary <;> simp only [succeeds, there] at slips
    · exact absurd slips.stored (Nat.lt_succ_self _).ne
    · cases slips
  | writeRow envelope => cases slips
  | copy file target =>
    cases there : d.files.get? file <;> simp only [succeeds, there] at slips
    · cases slips with
      | notRestored _ _ present => exact present there
    · cases slips
  | _ => cases slips

/-- A store whose key is 32 zeros. -/
def storedUnderZeros (env : Env (Bytes × Bytes × Plaintext)) : Disk (Bytes × Bytes × Plaintext) :=
  let envelope : Envelope (Bytes × Bytes × Plaintext) :=
    { nonce := [], ciphertext := (List.replicate 32 0, [], .secrets ((∅ : Secrets).set "jwt_secret" "s1")) }
  { files := (∅ : Dict File (KeyFile _)).set .key (.raw (List.replicate 32 0))
    envelope := if env.postgres then none else some (some envelope)
    row := if env.postgres then some envelope else none }

lemma storedUnderZeros_opens (env : Env (Bytes × Bytes × Plaintext)) (ciphers : env.decrypt = plain.decrypt) :
    (storedUnderZeros env).OpensWith env [.key] := by
  have holds : (storedUnderZeros env).Holds env .key (List.replicate 32 0) := ⟨rfl, rfl⟩
  refine Disk.StoredUnder.opensWith (fun content there => ?_) holds
  have same : (storedUnderZeros env).store env =
      some (some ⟨1, "AES-256-GCM", [], (List.replicate 32 0, [], .secrets ((∅ : Secrets).set "jwt_secret" "s1"))⟩) := by
    unfold storedUnderZeros Disk.store
    cases env.postgres <;> rfl
  cases same.symm.trans there
  refine ⟨_, rfl, rfl, rfl, (∅ : Secrets).set "jwt_secret" "s1", ?_⟩
  simp [ciphers, plain]

def rotated : Disk (Bytes × Bytes × Plaintext) :=
  ((rotateDataKey plain 0 9 ()).play (Call.succeeds plain 1) (storedUnderZeros plain)).2

theorem rotation_keeps_the_secrets : rotated.keyIn plain .key = some (List.replicate 32 1) ∧
    rotated.keyIn plain .prev = some (List.replicate 32 0) ∧ NeverLost plain (careful plain) rotated := by
  refine ⟨by decide +kernel, by decide +kernel, rotation_never_loses_the_secrets plain rotated ?_⟩
  refine .step (.init (storedUnderZeros_opens plain rfl)) ⟨.rotate, .rotate 0 9 _ _ _ (Program.Exec.play ?_ _ _)⟩
  exact Call.succeeds_careful plain 1

def plainRow : Env (Bytes × Bytes × Plaintext) := { plain with postgres := true }

/-- The row is written, and the connection fails. -/
def failsAfterCommit (c : Call (Bytes × Bytes × Plaintext)) (d : Disk (Bytes × Bytes × Plaintext)) :
    c.Reply × Disk (Bytes × Bytes × Plaintext) :=
  match c with
  | .writeRow envelope => (.error .database, d.writeRow envelope)
  | c => c.succeeds plainRow 1 d

/-- What is left of a rotation whose commit is reported as failed. -/
def lost : Disk (Bytes × Bytes × Plaintext) :=
  ((rotateDataKey plainRow 0 9 ()).play failsAfterCommit (storedUnderZeros plainRow)).2

/-- **A commit that is reported as failed loses the secrets**: the previous key is put back. -/
theorem failed_commit_loses_the_secrets : ∃ d, Lives plainRow (machine plainRow) d ∧
    d.keyIn plainRow .key = some (List.replicate 32 0) ∧ d.keyIn plainRow .prev = some (List.replicate 32 0) ∧
    (∃ envelope, d.row = some envelope ∧ plainRow.decrypt (List.replicate 32 0) envelope.nonce envelope.ciphertext = none) ∧
    ¬ NeverLost plainRow (machine plainRow) d := by
  have row : lost.row = some ⟨1, "AES-256-GCM", [],
      (List.replicate 32 1, [], .secrets ((∅ : Secrets).set "jwt_secret" "s1"))⟩ := by decide +kernel
  have key : lost.keyIn plainRow .key = some (List.replicate 32 0) := by decide +kernel
  have prev : lost.keyIn plainRow .prev = some (List.replicate 32 0) := by decide +kernel
  have closed : plainRow.decrypt (List.replicate 32 0) []
      (List.replicate 32 1, [], .secrets ((∅ : Secrets).set "jwt_secret" "s1")) = none := by decide +kernel
  refine ⟨lost, ?_, key, prev, ⟨_, row, closed⟩, fun never => ?_⟩
  · refine .step (.init (storedUnderZeros_opens plainRow rfl)) ⟨.rotate, .rotate 0 9 _ _ _ (Program.Exec.play ?_ _ _)⟩
    intro c d
    cases c with
    | writeRow envelope => exact .writtenRow d envelope
    | _ => exact Call.succeeds_run plainRow 1 _ d
  · obtain ⟨envelope, file, used, same, mem, holds, _, _, value, opened⟩ :=
      never.opens (lost.row.map some |>.getD none) (by simp [Disk.store, plainRow, row])
    rw [row] at same
    cases same
    have used_ : used = List.replicate 32 0 := by
      obtain rfl | mem := List.mem_cons.1 mem
      · exact Option.some.inj (holds.1.symm.trans key)
      · obtain rfl := List.mem_singleton.1 mem
        exact Option.some.inj (holds.1.symm.trans prev)
    rw [used_] at opened
    cases closed.symm.trans opened

end Vertep.SecretStore
