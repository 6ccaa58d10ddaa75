import Vertep.SecretStore.Runtime

/-!
# The data key (`core/first_run.py`)

What `_secret_key` and `_open_envelope` do, whatever else happens to the disk meanwhile: `Base` and `Regime` say what
the others leave alone and what a process may do, and the spec lemmas are the same for processes that run together
and for one that runs alone.
-/

namespace Vertep.SecretStore
open Lib

variable {Cipher : Type} {env : Env Cipher} {M : Machine (Call Cipher) Call.Reply (Disk Cipher)}
  {rely guar : Disk Cipher → Disk Cipher → Prop} {pid : ℕ} {P A : Disk Cipher → Prop} {s : Disk Cipher}

/-- A file that only the process `pid` uses. -/
def File.Of (pid : ℕ) : File → Prop
  | .temporary owner _ => owner = pid
  | .seal owner => owner = pid
  | _ => False

variable {file other : File}

lemma File.Of.ne_key (own : file.Of pid) : file ≠ .key := by
  rintro rfl
  exact own

lemma File.Of.ne_prev (own : file.Of pid) : file ≠ .prev := by
  rintro rfl
  exact own

def Disk.keyIn (env : Env Cipher) (d : Disk Cipher) (file : File) : Option Bytes := (d.files.get? file).bind env.keyOf

@[simp] lemma Disk.keyIn_put (d : Disk Cipher) (content : KeyFile Cipher) :
    (d.put file content).keyIn env other = if file = other then env.keyOf content else d.keyIn env other := by
  unfold keyIn put
  rw [Dict.get?_set]
  split <;> rfl

@[simp] lemma Disk.keyIn_erase (d : Disk Cipher) :
    (d.erase file).keyIn env other = if file = other then none else d.keyIn env other := by
  unfold keyIn erase
  rw [Dict.get?_pop]
  split <;> rfl

@[simp] lemma Disk.keyIn_place (d : Disk Cipher) (content : KeyFile Cipher) :
    (d.place content).keyIn env file = if .key = file then env.keyOf content else d.keyIn env file :=
  d.keyIn_put content

@[simp] lemma Disk.get?_put (d : Disk Cipher) (content : KeyFile Cipher) :
    (d.put file content).files.get? other = if file = other then some content else d.files.get? other :=
  Dict.get?_set _ _ _ _

@[simp] lemma Disk.get?_erase (d : Disk Cipher) :
    (d.erase file).files.get? other = if file = other then none else d.files.get? other := Dict.get?_pop _ _ _

/-- The others leave `P` and the files of the process alone, and it may write those. -/
structure Base (env : Env Cipher) (M : Machine (Call Cipher) Call.Reply (Disk Cipher))
    (rely guar : Disk Cipher → Disk Cipher → Prop) (pid : ℕ) (P : Disk Cipher → Prop) : Prop where
  run : ∀ c s r s', M.run c s r s' → Call.Run env c s r s'
  torn : ∀ c s s', M.torn c s s' → Call.Torn c s s'
  later : ∀ s s', rely s s' → P s → P s'
  own : ∀ s s' file, rely s s' → file.Of pid → s'.files.get? file = s.files.get? file
  same : ∀ s, P s → guar s s
  put : ∀ s file content, file.Of pid → P s → guar s (s.put file content) ∧ P (s.put file content)

lemma Base.and (base : Base env M rely guar pid P) (later : ∀ s s', rely s s' → A s → A s')
    (put : ∀ s file content, file.Of pid → A s → A (s.put file content)) :
    Base env M rely guar pid fun s => P s ∧ A s :=
  ⟨base.run, base.torn, fun s s' after holds => ⟨base.later s s' after holds.1, later s s' after holds.2⟩, base.own,
    fun s holds => base.same s holds.1, fun s file content own holds =>
      ⟨(base.put s file content own holds.1).1, (base.put s file content own holds.1).2, put s file content own holds.2⟩⟩

/-- A process may create the key, remove its own files, and seal a key that is there as it is; `A` is what it knows of
a root without a key file, where it does not lose a link. -/
structure Regime (env : Env Cipher) (M : Machine (Call Cipher) Call.Reply (Disk Cipher))
    (rely guar : Disk Cipher → Disk Cipher → Prop) (pid : ℕ) (P A : Disk Cipher → Prop) : Prop
    extends Base env M rely guar pid P where
  erase : ∀ s file, file.Of pid → P s → guar s (s.erase file) ∧ P (s.erase file)
  holds : ∀ s s' key, rely s s' → s.keyIn env .key = some key → s'.keyIn env .key = some key
  seals : ∀ s file content key, file.Of pid → P s → env.keyOf content = some key → s.keyIn env .key = some key →
    guar s ((s.erase file).put .key content) ∧ P ((s.erase file).put .key content)
  absent : ∀ s, s.files.get? .key = none → A s
  absentLater : ∀ s s', rely s s' → A s → A s'
  absentPut : ∀ s file content, file.Of pid → A s → A (s.put file content)
  places : ∀ s content key, P s → s.files.get? .key = none → env.keyOf content = some key → key.length = 32 →
    guar s (s.place content) ∧ P (s.place content)
  wins : ∀ s file s', A s → ¬ M.run (.link file) s (.error .fileExists) s'

def Call.Silent (env : Env Cipher) (c : Call Cipher) : Prop :=
  (∀ s r s', Call.Run env c s r s' → s' = s) ∧ ∀ s s', ¬ Call.Torn c s s'

/-- The calls that leave the disk as it is. -/
def Call.Quiet : Call Cipher → Prop
  | .write .. | .replaceKey _ | .link _ | .unlink .. | .copy .. | .writeEnvelope _ | .replaceEnvelope | .unlinkEnvelope
  | .writeRow _ => False
  | _ => True

lemma silent {c : Call Cipher} (quiet : c.Quiet) : c.Silent env :=
  ⟨fun _ _ _ ran => by cases ran <;> first | rfl | exact quiet.elim, fun _ _ torn => by cases torn <;> exact quiet.elim⟩

/-! ## Spec lemmas -/

section
variable [Std.Refl rely] [IsTrans (Disk Cipher) rely] {α β : Type} {Q : β → Unit → Disk Cipher → Prop}
  {X : Failure → Unit → Disk Cipher → Prop}

lemma Base.silent_bind (base : Base env M rely guar pid P) {c : Call Cipher} {f : c.Reply → Process Cipher β}
    (silent : c.Silent env) (holds : P s)
    (next : ∀ r s₁ s', M.run c s₁ r s₁ → rely s s₁ → rely s₁ s' → P s' → (f r).Sure M rely guar Q X () s') :
    (ask c >>= f).Sure M rely guar Q X () s := by
  refine (Script.sure_bind _ _).2 ((Script.sure_ask c).2 fun s₁ later => ⟨fun s₂ torn => ?_, fun r s₂ ran => ?_⟩)
  · exact absurd (base.torn c s₁ s₂ torn) (silent.2 s₁ s₂)
  · have holds₁ := base.later s s₁ later holds
    obtain rfl := silent.1 s₁ r s₂ (base.run c s₁ r s₂ ran)
    exact ⟨base.same s₂ holds₁, fun t after => next r s₂ t ran later after (base.later s₂ t after holds₁)⟩

lemma Base.require_bind (base : Base env M rely guar pid P) {reply : Except Failure α} {f : α → Process Cipher β}
    (holds : P s) (raises : ∀ x s', P s' → X x () s')
    (next : ∀ a s', reply = .ok a → rely s s' → P s' → (f a).Sure M rely guar Q X () s') :
    (Script.require reply >>= f).Sure M rely guar Q X () s := by
  refine (Script.sure_bind _ _).2 ((Script.sure_require _).2 ⟨fun a same t later => ?_, fun x _ t later u later' => ?_⟩)
  · exact next a t same later (base.later s t later holds)
  · exact raises x u (base.later t u later' (base.later s t later holds))

omit [Std.Refl rely] [IsTrans (Disk Cipher) rely] in
lemma Base.raise (base : Base env M rely guar pid P) {x : Failure} (holds : P s) (raises : ∀ s', P s' → X x () s') :
    (Script.raise x : Process Cipher β).Sure M rely guar Q X () s :=
  (Script.sure_raise x).2 fun s' later => raises s' (base.later s s' later holds)

omit [Std.Refl rely] [IsTrans (Disk Cipher) rely] in
lemma Base.pure (base : Base env M rely guar pid P) {a : β} (holds : P s)
    (returns : ∀ s', rely s s' → P s' → Q a () s') : (pure a : Process Cipher β).Sure M rely guar Q X () s :=
  (Script.sure_pure a).2 fun s' later => returns s' later (base.later s s' later holds)

end

/-! ## Spec lemmas -/

variable [Std.Refl rely] [IsTrans (Disk Cipher) rely]

lemma keyEncryptionKey_sure (base : Base env M rely guar pid P) (salt : Bytes) (holds : P s) :
    (keyEncryptionKey env salt).Sure M rely guar (fun kek _ s' => P s' ∧ ∀ key, kek = some key → env.kek salt = some key)
      (fun _ _ => P) () s := by
  refine base.silent_bind (silent trivial) holds fun reply s₁ s₂ ran _ _ holds₂ => ?_
  refine base.require_bind holds₂ (fun _ _ => id) fun passphrase s₃ same _ holds₃ => ?_
  have told : passphrase = env.passphrase := by
    cases base.run _ _ _ _ ran <;> cases same
    rfl
  cases passphrase with
  | none =>
    by_cases required : env.requireSealing
    · simp only [required, if_true]
      exact base.raise holds₃ fun _ => id
    · simp only [required, Bool.false_eq_true, if_false]
      exact base.pure holds₃ fun _ _ holds' => ⟨holds', by simp⟩
  | some passphrase =>
    by_cases short : passphrase.length < 16
    · simp only [short, if_true]
      exact base.raise holds₃ fun _ => id
    · simp only [short, if_false]
      refine base.pure holds₃ fun _ _ holds' => ⟨holds', fun key same => ?_⟩
      cases same
      simp [Env.kek, ← told, Nat.le_of_not_lt short]

lemma writeSealedKey_sure (base : Base env M rely guar pid P) (own : file.Of pid) (key : Bytes)
    (holds : P s) :
    (writeSealedKey env file key).Sure M rely guar
      (fun _ _ s' => P s' ∧ ∃ content, s'.files.get? file = some content ∧ env.keyOf content = some key)
      (fun _ _ => P) () s := by
  refine base.silent_bind (silent trivial) holds fun salt _ s₁ _ _ _ holds₁ => ?_
  refine base.silent_bind (silent trivial) holds₁ fun nonce _ s₂ _ _ _ holds₂ => ?_
  refine (Script.sure_bind _ _).2 ((keyEncryptionKey_sure base salt holds₂).mono (fun _ _ => id) ?_
    fun _ _ s' holds' t later => base.later s' t later holds')
  rintro kek _ s₃ ⟨holds₃, derived⟩
  have written : ∀ content, env.keyOf content = some key →
      (do Script.require (← ask (.write file content)); Script.require (← ask .chmod)).Sure M rely guar
        (fun _ _ s' => P s' ∧ ∃ content, s'.files.get? file = some content ∧ env.keyOf content = some key)
        (fun _ _ => P) () s₃ := by
    intro content encodes
    refine (Script.sure_bind _ _).2 ((Script.sure_ask _).2 fun s₄ later => ?_)
    have holds₄ := base.later s₃ s₄ later holds₃
    refine ⟨fun s₅ torn => ?_, fun reply s₅ ran => ?_⟩
    · cases base.torn _ _ _ torn with
      | write _ _ _ rest => exact (base.put s₄ file rest own holds₄).1
    have guarded : guar s₄ s₅ ∧ P s₅ ∧ (reply = .ok () → s₅.files.get? file = some content) := by
      cases base.run _ _ _ _ ran with
      | write => exact ⟨(base.put s₄ file content own holds₄).1, (base.put s₄ file content own holds₄).2, by simp⟩
      | notOpened => exact ⟨base.same s₄ holds₄, holds₄, by rintro ⟨⟩⟩
      | notWritten _ _ _ rest =>
        exact ⟨(base.put s₄ file rest own holds₄).1, (base.put s₄ file rest own holds₄).2, by rintro ⟨⟩⟩
    obtain ⟨guarded, holds₅, there⟩ := guarded
    refine ⟨guarded, fun s₆ later₆ => ?_⟩
    refine base.require_bind (base.later s₅ s₆ later₆ holds₅) (fun _ _ => id) fun _ s₇ same later₇ holds₇ => ?_
    refine base.silent_bind (silent trivial) holds₇ fun reply s₈ s₉ _ later₈ later₉ holds₉ => ?_
    refine (Script.sure_require _).2 ⟨fun _ _ t later_ => ⟨base.later s₉ t later_ holds₉, content, ?_, encodes⟩,
      fun _ _ t later_ => base.later s₉ t later_ holds₉⟩
    have after : rely s₅ t := trans_of rely later₆ (trans_of rely later₇ (trans_of rely later₈ (trans_of rely later₉ later_)))
    exact (base.own s₅ t file after own).trans (there same)
  cases kek with
  | none => exact written _ rfl
  | some kek => exact written _ (by simp [Env.keyOf, derived kek rfl, env.decrypt_encrypt])

lemma decodeKey_sure (regime : Regime env M rely guar pid P A) {content : KeyFile Cipher}
    (there : ∀ key, env.keyOf content = some key → s.keyIn env .key = some key) (holds : P s) :
    (decodeKey env pid content).Sure M rely guar (fun key _ s' => P s' ∧ s'.keyIn env .key = some key)
      (fun _ _ => P) () s := by
  have base := regime.toBase
  have keyed : Base env M rely guar pid fun s =>
      P s ∧ ∀ key, env.keyOf content = some key → s.keyIn env .key = some key :=
    base.and (fun s s' later there key same => regime.holds s s' key later (there key same))
      fun s file rest own there key same => (s.keyIn_put rest).trans ((if_neg own.ne_key).trans (there key same))
  have holds := And.intro holds there
  clear there
  cases content with
  | junk => exact base.raise holds.1 fun _ => id
  | «sealed» salt nonce ciphertext =>
    refine (Script.sure_bind _ _).2 ((keyEncryptionKey_sure keyed salt holds).mono (fun _ _ => id) ?_
      fun _ _ s' holds' t later => base.later s' t later holds'.1)
    rintro kek _ s₁ ⟨holds₁, derived⟩
    cases kek with
    | none => exact base.raise holds₁.1 fun _ => id
    | some kek =>
      simp only
      split
      · next key opened =>
        refine keyed.pure holds₁ fun _ _ holds' => ⟨holds'.1, holds'.2 key ?_⟩
        simp [Env.keyOf, derived kek rfl, opened]
      · exact base.raise holds₁.1 fun _ => id
  | raw key =>
    unfold decodeKey
    cases env.sealing with
    | false => exact keyed.pure holds fun _ _ holds' => ⟨holds'.1, holds'.2 key rfl⟩
    | true =>
      have own : (File.seal pid).Of pid := rfl
      refine (Script.sure_bind _ _).2 ((writeSealedKey_sure keyed own key holds).mono (fun _ _ => id) ?_
        fun _ _ s' holds' t later => base.later s' t later holds'.1)
      rintro ⟨⟩ _ s₁ ⟨holds₁, content, written, encodes⟩
      refine (Script.sure_bind _ _).2 ((Script.sure_ask _).2 fun s₂ later₂ => ⟨fun s₃ torn => ?_, fun reply s₃ ran => ?_⟩)
      · cases base.torn _ _ _ torn
      have holds₂ := keyed.later s₁ s₂ later₂ holds₁
      have guarded : guar s₂ s₃ ∧ P s₃ ∧ ∀ other, env.keyOf (.raw key) = some other → s₃.keyIn env .key = some other := by
        cases base.run _ _ _ _ ran with
        | notReplaced => exact ⟨base.same s₂ holds₂.1, holds₂⟩
        | replaceKey _ _ content' found =>
          have same : content' = content :=
            Option.some.inj (found.symm.trans ((base.own s₁ s₂ _ later₂ own).trans written))
          obtain ⟨guarded, holds₃⟩ := regime.seals s₂ (.seal pid) content' key own holds₂.1 (same ▸ encodes)
            (holds₂.2 key rfl)
          refine ⟨guarded, holds₃, fun other eq => ?_⟩
          cases eq
          simp [same, encodes]
      refine ⟨guarded.1, fun s₄ later₄ => ?_⟩
      refine keyed.require_bind (keyed.later s₃ s₄ later₄ guarded.2) (fun _ _ holds' => holds'.1)
        fun _ s₅ _ _ holds₅ => ?_
      exact keyed.pure holds₅ fun _ _ holds' => ⟨holds'.1, holds'.2 key rfl⟩

lemma secretKey_sure (regime : Regime env M rely guar pid P A) (depth : ℕ) (holds : P s) :
    (secretKey env pid depth).Sure M rely guar (fun key _ s' => P s' ∧ s'.Holds env .key key) (fun _ _ => P) () s := by
  have base := regime.toBase
  have held : ∀ key, Base env M rely guar pid fun s => P s ∧ s.keyIn env .key = some key := fun key =>
    base.and (fun s s' => regime.holds s s' key) fun s file content own there =>
      (s.keyIn_put content).trans ((if_neg own.ne_key).trans there)
  cases depth with
  | zero => exact base.raise holds fun _ => id
  | succ depth =>
    unfold secretKey
    refine base.silent_bind (silent trivial) holds fun present s₁ s₂ ran _ later₂ holds₂ => ?_
    cases base.run _ _ _ _ ran
    cases found : s₁.files.get? .key with
    | some _ =>
      simp only [Option.isSome_some, if_true]
      refine (Script.sure_rescue _ _).2 ?_
      refine base.silent_bind (silent trivial) holds₂ fun reply s₃ s₄ ran _ later₄ holds₄ => ?_
      refine base.require_bind holds₄ (fun _ s' holds' => base.raise holds' fun _ => id) fun content s₅ same later₅ holds₅ => ?_
      have there : ∀ key, env.keyOf content = some key → s₅.keyIn env .key = some key := by
        intro key encodes
        refine regime.holds s₄ s₅ key later₅ (regime.holds s₃ s₄ key later₄ ?_)
        cases base.run _ _ _ _ ran with
        | notRead => cases same
        | read _ _ content' found =>
          cases same
          simp [Disk.keyIn, found, encodes]
      refine (Script.sure_bind _ _).2 ((decodeKey_sure regime there holds₅).mono (fun _ _ => id) ?_
        fun _ _ s' holds' t later => base.raise (base.later s' t later holds') fun _ => id)
      rintro key _ s₆ holds₆
      by_cases length : key.length = 32
      · simp only [length, ne_eq, not_true_eq_false, if_false]
        exact (held key).pure holds₆ fun s' _ holds' t later =>
          ⟨base.later s' t later holds'.1, regime.holds s' t key later holds'.2, length⟩
      · simp only [length, ne_eq, not_false_eq_true, if_true]
        exact base.raise holds₆.1 fun s' holds' => base.raise holds' fun _ => id
    | none =>
      simp only [Option.isSome_none, Bool.false_eq_true, if_false]
      have aware : Base env M rely guar pid fun s => P s ∧ A s := base.and regime.absentLater regime.absentPut
      have holds₂ := And.intro holds₂ (regime.absentLater s₁ s₂ later₂ (regime.absent s₁ found))
      refine aware.silent_bind (silent trivial) holds₂ fun key s₃ s₄ ran _ _ holds₄ => ?_
      have length : key.length = 32 := by
        cases base.run _ _ _ _ ran
        assumption
      refine aware.silent_bind (silent trivial) holds₄ fun token _ s₅ _ _ _ holds₅ => ?_
      have own : (File.temporary pid token).Of pid := rfl
      refine (Script.sure_bind _ _).2 ((writeSealedKey_sure aware own key holds₅).mono (fun _ _ => id) ?_
        fun _ _ s' holds' t later => base.later s' t later holds'.1)
      rintro ⟨⟩ _ s₆ ⟨holds₆, content, written, encodes⟩
      refine (Script.sure_bind _ _).2 ((Script.sure_ask _).2 fun s₇ later₇ => ⟨fun s₈ torn => ?_, fun reply s₈ ran => ?_⟩)
      · cases base.torn _ _ _ torn
      have holds₇ := aware.later s₆ s₇ later₇ holds₆
      cases base.run _ _ _ _ ran with
      | linkExists => exact absurd ran (regime.wins s₇ _ s₇ holds₇.2)
      | notLinked => exact ⟨base.same s₇ holds₇.1, fun s₈ later₈ => base.raise (base.later s₇ s₈ later₈ holds₇.1) fun _ => id⟩
      | link _ _ content' found' absent =>
        have same : content' = content :=
          Option.some.inj (found'.symm.trans ((base.own s₆ s₇ _ later₇ own).trans written))
        obtain ⟨guarded, placed⟩ := regime.places s₇ content' key holds₇.1 absent (same ▸ encodes) length
        have there : (s₇.place content').keyIn env .key = some key := by simp [same, encodes]
        refine ⟨guarded, fun s₈ later₈ => ?_⟩
        have holds₈ := (held key).later _ s₈ later₈ ⟨placed, there⟩
        refine (Script.sure_bind _ _).2 ((Script.sure_ask _).2 fun s₉ later₉ => ⟨fun t torn => ?_, fun reply t ran => ?_⟩)
        · cases base.torn _ _ _ torn
        have holds₉ := (held key).later s₈ s₉ later₉ holds₈
        have guarded : guar s₉ t ∧ P t ∧ t.keyIn env .key = some key := by
          cases base.run _ _ _ _ ran with
          | notUnlinked => exact ⟨base.same s₉ holds₉.1, holds₉⟩
          | unlink =>
            refine ⟨(regime.erase s₉ _ own holds₉.1).1, (regime.erase s₉ _ own holds₉.1).2, ?_⟩
            exact s₉.keyIn_erase.trans ((if_neg own.ne_key).trans holds₉.2)
        refine ⟨guarded.1, fun u later_ => ?_⟩
        refine (held key).require_bind ((held key).later t u later_ guarded.2) (fun _ _ holds' => holds'.1)
          fun _ v _ _ holds' => ?_
        exact (held key).pure holds' fun _ _ holds' => ⟨holds'.1, holds'.2, length⟩

lemma openEnvelope_sure (regime : Regime env M rely guar pid P A) (depth : ℕ) (envelope : Envelope Cipher) (holds : P s) :
    (openEnvelope env pid depth envelope).Sure M rely guar
      (fun _ _ s' => P s' ∧ ∃ key, s'.Holds env .key key ∧ env.Opens key envelope) (fun _ _ => P) () s := by
  have base := regime.toBase
  unfold openEnvelope
  split
  · exact base.raise holds fun _ => id
  · next supported =>
    obtain ⟨version, algorithm⟩ := not_or.1 supported
    refine (Script.sure_bind _ _).2 ((secretKey_sure regime depth holds).mono (fun _ _ => id) ?_
      fun _ _ s' holds' t later => base.later s' t later holds')
    rintro key _ s₁ ⟨holds₁, there⟩
    split
    · next value opened =>
      refine (Script.sure_pure _).2 fun s₂ later => ⟨base.later s₁ s₂ later holds₁, key, ?_, ?_⟩
      · exact ⟨regime.holds s₁ s₂ key later there.1, there.2⟩
      · exact ⟨not_not.1 version, not_not.1 algorithm, value, opened⟩
    · exact base.raise holds₁ fun _ => id

end Vertep.SecretStore
