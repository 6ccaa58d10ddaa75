import Mathlib.Algebra.Order.BigOperators.Group.List
import Mathlib.Algebra.Order.Group.Nat
import Mathlib.Algebra.Order.Ring.Int
import Vertep.SecretStore.Store

/-!
# The configuration root (`core/first_run.py`)

What the calls of a process do to the files of the configuration root and to the row of the database. A call may fail;
a file that is written or copied may then hold anything, and the database may have taken what it reports as failed.
`placed` and `stored` are kept for the statements only.
-/

namespace Vertep.SecretStore
open Lib

variable {Cipher : Type}

/-- What `secrets.enc.json` or its temporary file holds: an envelope, or what is not one. -/
abbrev Content (Cipher : Type) := Option (Envelope Cipher)

structure Disk (Cipher : Type) where
  files : Dict File (KeyFile Cipher) := ∅
  envelope : Option (Content Cipher) := none
  temporary : Option (Content Cipher) := none
  row : Option (Envelope Cipher) := none
  /-- What was linked as the key file. -/
  placed : List (KeyFile Cipher) := []
  /-- What was put in place as the store. -/
  stored : List (Content Cipher) := []

namespace Disk

def put (d : Disk Cipher) (file : File) (content : KeyFile Cipher) : Disk Cipher :=
  { d with files := d.files.set file content }

def erase (d : Disk Cipher) (file : File) : Disk Cipher := { d with files := d.files.pop file }

def place (d : Disk Cipher) (content : KeyFile Cipher) : Disk Cipher :=
  { d.put .key content with placed := content :: d.placed }

def replaceEnvelope (d : Disk Cipher) (content : Content Cipher) : Disk Cipher :=
  { d with envelope := some content, temporary := none, stored := content :: d.stored }

def writeRow (d : Disk Cipher) (envelope : Envelope Cipher) : Disk Cipher :=
  { d with row := some envelope, stored := some envelope :: d.stored }

end Disk

/-- What a call answers, and what it leaves. -/
inductive Call.Run (env : Env Cipher) : (c : Call Cipher) → Disk Cipher → c.Reply → Disk Cipher → Prop where
  | passphrase (d) : Run env .passphrase d (.ok env.passphrase) d
  | noPassphrase (d) : Run env .passphrase d (.error .runtime) d
  | random (d) (value : Bytes) : Run env .random d value d
  | generateKey (d) (key : Bytes) : key.length = 32 → Run env .generateKey d key d
  /-- No file of the name is there. -/
  | token (d) (token : ℕ) : (∀ pid, d.files.get? (.temporary pid token) = none) → Run env .token d token d
  | «exists» (d) (file : File) : Run env (.exists file) d (d.files.get? file).isSome d
  | read (d) (file : File) (content : KeyFile Cipher) :
    d.files.get? file = some content → Run env (.read file) d (.ok content) d
  | notRead (d) (file : File) : Run env (.read file) d (.error .os) d
  | write (d) (file : File) (content : KeyFile Cipher) : Run env (.write file content) d (.ok ()) (d.put file content)
  | notOpened (d) (file : File) (content : KeyFile Cipher) : Run env (.write file content) d (.error .os) d
  | notWritten (d) (file : File) (content rest : KeyFile Cipher) :
    Run env (.write file content) d (.error .os) (d.put file rest)
  | chmod (d) (reply : Except Failure Unit) : (reply = .ok () ∨ reply = .error .os) → Run env .chmod d reply d
  | replaceKey (d) (file : File) (content : KeyFile Cipher) :
    d.files.get? file = some content → Run env (.replaceKey file) d (.ok ()) ((d.erase file).put .key content)
  | notReplaced (d) (file : File) : Run env (.replaceKey file) d (.error .os) d
  | link (d) (file : File) (content : KeyFile Cipher) :
    d.files.get? file = some content → d.files.get? .key = none → Run env (.link file) d (.ok ()) (d.place content)
  | linkExists (d) (file : File) (content : KeyFile Cipher) :
    d.files.get? .key = some content → Run env (.link file) d (.error .fileExists) d
  | notLinked (d) (file : File) : Run env (.link file) d (.error .os) d
  | unlink (d) (file : File) (missingOk : Bool) :
    (missingOk ∨ d.files.get? file ≠ none) → Run env (.unlink file missingOk) d (.ok ()) (d.erase file)
  | notUnlinked (d) (file : File) (missingOk : Bool) : Run env (.unlink file missingOk) d (.error .os) d
  | copy (d) (file target : File) (content : KeyFile Cipher) :
    d.files.get? file = some content → Run env (.copy file target) d (.ok ()) (d.put target content)
  | notOpenedCopy (d) (file target : File) : Run env (.copy file target) d (.error .os) d
  | notCopied (d) (file target : File) (rest : KeyFile Cipher) :
    Run env (.copy file target) d (.error .os) (d.put target rest)
  | readEnvelope (d) (content : Option (Envelope Cipher)) :
    d.envelope = content.map some → Run env .readEnvelope d (.ok content) d
  | notReadEnvelope (d) : Run env .readEnvelope d (.error .value) d
  | writeEnvelope (d) (envelope : Envelope Cipher) :
    Run env (.writeEnvelope envelope) d (.ok ()) { d with temporary := some (some envelope) }
  | notOpenedEnvelope (d) (envelope : Envelope Cipher) : Run env (.writeEnvelope envelope) d (.error .os) d
  | notWrittenEnvelope (d) (envelope : Envelope Cipher) (rest : Content Cipher) :
    Run env (.writeEnvelope envelope) d (.error .os) { d with temporary := some rest }
  | replaceEnvelope (d) (content : Content Cipher) :
    d.temporary = some content → Run env .replaceEnvelope d (.ok ()) (d.replaceEnvelope content)
  | replacedEnvelope (d) (content : Content Cipher) :
    d.temporary = some content → Run env .replaceEnvelope d (.error .os) (d.replaceEnvelope content)
  | notReplacedEnvelope (d) : Run env .replaceEnvelope d (.error .os) d
  | unlinkEnvelope (d) : Run env .unlinkEnvelope d (.ok ()) { d with envelope := none }
  | notUnlinkedEnvelope (d) : Run env .unlinkEnvelope d (.error .os) d
  | readRow (d) : Run env .readRow d (.ok d.row) d
  | notReadRow (d) : Run env .readRow d (.error .database) d
  | writeRow (d) (envelope : Envelope Cipher) : Run env (.writeRow envelope) d (.ok ()) (d.writeRow envelope)
  /-- The row is written, and the connection fails. -/
  | writtenRow (d) (envelope : Envelope Cipher) : Run env (.writeRow envelope) d (.error .database) (d.writeRow envelope)
  | notWrittenRow (d) (envelope : Envelope Cipher) : Run env (.writeRow envelope) d (.error .database) d
  | readLegacy (d) (legacy : Secrets) : Run env .readLegacy d legacy d
  | unlinkLegacy (d) (reply : Except Failure Unit) :
    (reply = .ok () ∨ reply = .error .os) → Run env .unlinkLegacy d reply d
  | generate (d) (generated : Secrets) : generated ≠ ∅ → Run env .generate d generated d

/-- What a call leaves that is cut off. -/
inductive Call.Torn : Call Cipher → Disk Cipher → Disk Cipher → Prop where
  | write (d) (file : File) (content rest : KeyFile Cipher) : Torn (.write file content) d (d.put file rest)
  | copy (d) (file target : File) (rest : KeyFile Cipher) : Torn (.copy file target) d (d.put target rest)
  | writeEnvelope (d) (envelope : Envelope Cipher) (rest : Content Cipher) :
    Torn (.writeEnvelope envelope) d { d with temporary := some rest }

def machine (env : Env Cipher) : Machine (Call Cipher) Call.Reply (Disk Cipher) where
  run := Call.Run env
  torn := Call.Torn

/-! ## What opens what -/

def Env.kek (env : Env Cipher) (salt : Bytes) : Option Bytes :=
  (env.passphrase.filter fun passphrase => 16 ≤ passphrase.length).map (env.scrypt · salt)

/-- The key in a key file. -/
def Env.keyOf (env : Env Cipher) : KeyFile Cipher → Option Bytes
  | .raw key => some key
  | .sealed salt nonce ciphertext =>
    (env.kek salt).bind fun kek =>
      match env.decrypt kek nonce ciphertext with
      | some (.dataKey key) => some key
      | _ => none
  | .junk => none

def Disk.Holds (env : Env Cipher) (d : Disk Cipher) (file : File) (key : Bytes) : Prop :=
  (d.files.get? file).bind env.keyOf = some key ∧ key.length = 32

/-- The key opens the envelope. -/
def Env.Opens (env : Env Cipher) (key : Bytes) (envelope : Envelope Cipher) : Prop :=
  envelope.version = 1 ∧ envelope.algorithm = "AES-256-GCM" ∧
    ∃ value, env.decrypt key envelope.nonce envelope.ciphertext = some (.secrets value)

/-! ## Calls that succeed -/

/-- The token in the name of a file. -/
def File.token : File → ℕ
  | .temporary _ token => token
  | _ => 0

def Disk.freshToken (d : Disk Cipher) : ℕ := (d.files.keys.map File.token).sum + 1

lemma Disk.freshToken_fresh (d : Disk Cipher) (pid : ℕ) : d.files.get? (.temporary pid d.freshToken) = none := by
  refine Dict.get?_eq_none.2 fun mem => ?_
  have le : d.freshToken ≤ (d.files.keys.map File.token).sum :=
    List.single_le_sum (fun _ _ => Nat.zero_le _) _ (List.mem_map.2 ⟨_, mem, rfl⟩)
  exact absurd le (Nat.not_succ_le_self _)

/-- What was read, or that it is not there. -/
def found {α : Type} : Option α → Except Failure α
  | some a => .ok a
  | none => .error .os

/-- What a call answers and leaves where nothing fails; the keys that are generated consist of one byte. -/
def Call.succeeds (env : Env Cipher) (byte : UInt8) : (c : Call Cipher) → Disk Cipher → c.Reply × Disk Cipher
  | .passphrase, d => (.ok env.passphrase, d)
  | .random, d => (([] : Bytes), d)
  | .generateKey, d => (List.replicate 32 byte, d)
  | .token, d => (d.freshToken, d)
  | .exists file, d => ((d.files.get? file).isSome, d)
  | .read file, d => (found (d.files.get? file), d)
  | .write file content, d => (.ok (), d.put file content)
  | .chmod, d => (.ok (), d)
  | .replaceKey file, d =>
    match d.files.get? file with
    | some content => (.ok (), (d.erase file).put .key content)
    | none => (.error .os, d)
  | .link file, d =>
    match d.files.get? .key, d.files.get? file with
    | some _, _ => (.error .fileExists, d)
    | none, some content => (.ok (), d.place content)
    | none, none => (.error .os, d)
  | .unlink file missingOk, d =>
    if missingOk ∨ d.files.get? file ≠ none then (.ok (), d.erase file) else (.error .os, d)
  | .copy file target, d =>
    match d.files.get? file with
    | some content => (.ok (), d.put target content)
    | none => (.error .os, d)
  | .readEnvelope, d =>
    match d.envelope with
    | none => (.ok none, d)
    | some (some envelope) => (.ok (some envelope), d)
    | some none => (.error .value, d)
  | .writeEnvelope envelope, d => (.ok (), { d with temporary := some (some envelope) })
  | .replaceEnvelope, d =>
    match d.temporary with
    | some content => (.ok (), d.replaceEnvelope content)
    | none => (.error .os, d)
  | .unlinkEnvelope, d => (.ok (), { d with envelope := none })
  | .readRow, d => (.ok d.row, d)
  | .writeRow envelope, d => (.ok (), d.writeRow envelope)
  | .readLegacy, d => ((∅ : Secrets), d)
  | .unlinkLegacy, d => (.ok (), d)
  | .generate, d => ((∅ : Secrets).set "jwt_secret" "s1", d)

lemma Call.succeeds_run (env : Env Cipher) (byte : UInt8) (c : Call Cipher) (d : Disk Cipher) :
    Call.Run env c d (c.succeeds env byte d).1 (c.succeeds env byte d).2 := by
  cases c with
  | passphrase => exact .passphrase d
  | random => exact .random d []
  | generateKey => exact .generateKey d _ (List.length_replicate ..)
  | token => exact .token d _ d.freshToken_fresh
  | «exists» file => exact .exists d file
  | read file =>
    cases there : d.files.get? file with
    | none => simpa [succeeds, there, found] using Call.Run.notRead d file
    | some content => simpa [succeeds, there, found] using Call.Run.read d file content there
  | write file content => exact .write d file content
  | chmod => exact .chmod d _ (.inl rfl)
  | replaceKey file =>
    cases there : d.files.get? file with
    | none => simpa [succeeds, there] using Call.Run.notReplaced d file
    | some content => simpa [succeeds, there] using Call.Run.replaceKey d file content there
  | link file =>
    cases key : d.files.get? .key with
    | some old => simpa [succeeds, key] using Call.Run.linkExists d file old key
    | none =>
      cases there : d.files.get? file with
      | none => simpa [succeeds, key, there] using Call.Run.notLinked d file
      | some content => simpa [succeeds, key, there] using Call.Run.link d file content there key
  | unlink file missingOk =>
    by_cases may : missingOk ∨ d.files.get? file ≠ none
    · simpa only [succeeds, may, if_true] using Call.Run.unlink d file missingOk may
    · simpa only [succeeds, may, if_false] using Call.Run.notUnlinked d file missingOk
  | copy file target =>
    cases there : d.files.get? file with
    | none => simpa [succeeds, there] using Call.Run.notOpenedCopy d file target
    | some content => simpa [succeeds, there] using Call.Run.copy d file target content there
  | readEnvelope =>
    cases there : d.envelope with
    | none => simpa [succeeds, there] using Call.Run.readEnvelope d none there
    | some content =>
      cases content with
      | none => simpa [succeeds, there] using Call.Run.notReadEnvelope d
      | some envelope => simpa [succeeds, there] using Call.Run.readEnvelope d (some envelope) there
  | writeEnvelope envelope => exact .writeEnvelope d envelope
  | replaceEnvelope =>
    cases there : d.temporary with
    | none => simpa [succeeds, there] using Call.Run.notReplacedEnvelope d
    | some content => simpa [succeeds, there] using Call.Run.replaceEnvelope d content there
  | unlinkEnvelope => exact .unlinkEnvelope d
  | readRow => exact .readRow d
  | writeRow envelope => exact .writeRow d envelope
  | readLegacy => exact .readLegacy d ∅
  | unlinkLegacy => exact .unlinkLegacy d _ (.inl rfl)
  | generate => exact .generate d _ (show (∅ : Secrets).set "jwt_secret" "s1" ≠ ∅ by decide)

end Vertep.SecretStore
