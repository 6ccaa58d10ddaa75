import Mathlib.Data.Int.Notation
import Vertep.Lib.Execution

/-!
# The secret store

Embedding of the data key and the encrypted secrets in `core/first_run.py`: `_secret_key`, `_open_envelope`,
`_write_encrypted_secrets`, `ensure_secret_store` and `rotate_data_key`. A process is a script over file operations.
The ciphers of the `cryptography` package are parameters.
-/

namespace Vertep.SecretStore
open Lib

abbrev Bytes := List UInt8

abbrev Secrets := Dict String String

/-- What is encrypted: a data key under `_KEY_AAD`, or the secrets under `_SECRET_AAD`. -/
inductive Plaintext where
  | dataKey (key : Bytes)
  | secrets (value : Secrets)
deriving DecidableEq

/-- What is the same for all processes: the ciphers, and the configuration. -/
structure Env (Cipher : Type) where
  /-- `Scrypt(salt=salt, …).derive`. -/
  scrypt : String → Bytes → Bytes
  /-- `AESGCM(key).encrypt(nonce, …)`. -/
  encrypt : Bytes → Bytes → Plaintext → Cipher
  /-- `AESGCM(key).decrypt(nonce, …)`; none is `InvalidTag`. -/
  decrypt : Bytes → Bytes → Cipher → Option Plaintext
  decrypt_encrypt : ∀ key nonce plaintext, decrypt key nonce (encrypt key nonce plaintext) = some plaintext
  /-- `SECRET_STORE_PASSPHRASE` or `SECRET_STORE_PASSPHRASE_FILE` is set. -/
  sealing : Bool
  /-- The passphrase, if it is not empty. -/
  passphrase : Option String
  /-- `REQUIRE_SECRET_KEY_SEALING`. -/
  requireSealing : Bool
  /-- `_secret_database_url` is set. -/
  postgres : Bool

variable {Cipher : Type}

/-- The content of a key file. -/
inductive KeyFile (Cipher : Type) where
  | raw (key : Bytes)
  | sealed (salt nonce : Bytes) (ciphertext : Cipher)
  /-- Neither decodes. -/
  | junk
deriving DecidableEq

structure Envelope (Cipher : Type) where
  version : ℤ := 1
  algorithm : String := "AES-256-GCM"
  nonce : Bytes
  ciphertext : Cipher
deriving DecidableEq

/-- The files that hold a key. -/
inductive File where
  /-- `secret-store.key`. -/
  | key
  /-- `secret-store.key.prev`. -/
  | prev
  /-- `.secret-store.key.{pid}.{token}.tmp`. -/
  | temporary (pid token : ℕ)
  /-- `.secret-store.key.seal.{pid}.tmp`. -/
  | seal (pid : ℕ)
deriving DecidableEq

/-- What raises, by what the code catches. -/
inductive Failure where
  | value
  | runtime
  | os
  | fileExists
  | database
deriving DecidableEq

/-- A file operation, a statement of the database, or a value that is drawn. -/
inductive Call (Cipher : Type) where
  | passphrase
  /-- A salt or nonce. -/
  | random
  | generateKey
  | token
  | «exists» (file : File)
  | read (file : File)
  | write (file : File) (content : KeyFile Cipher)
  | chmod
  | replaceKey (file : File)
  | link (file : File)
  | unlink (file : File) (missingOk : Bool)
  | copy (file target : File)
  | readEnvelope
  | writeEnvelope (envelope : Envelope Cipher)
  | replaceEnvelope
  | unlinkEnvelope
  | readRow
  | writeRow (envelope : Envelope Cipher)
  | readLegacy
  | unlinkLegacy
  /-- The secrets of a new store, with the time. -/
  | generate

/-- What a call gives back. -/
abbrev Call.Reply : Call Cipher → Type
  | .passphrase => Except Failure (Option String)
  | .random => Bytes
  | .generateKey => Bytes
  | .token => ℕ
  | .exists _ => Bool
  | .read _ => Except Failure (KeyFile Cipher)
  | .readEnvelope => Except Failure (Option (Envelope Cipher))
  | .readRow => Except Failure (Option (Envelope Cipher))
  | .readLegacy => Secrets
  | .generate => Secrets
  | .write .. | .chmod | .replaceKey _ | .link _ | .unlink .. | .copy .. => Except Failure Unit
  | .writeEnvelope _ | .replaceEnvelope | .unlinkEnvelope | .writeRow _ | .unlinkLegacy => Except Failure Unit

abbrev Process (Cipher α : Type) := Script (Call Cipher) Call.Reply Unit Failure α

def ask (c : Call Cipher) : Process Cipher c.Reply := Script.ask c

/-! ## The data key -/

def keyEncryptionKey (env : Env Cipher) (salt : Bytes) : Process Cipher (Option Bytes) := do
  match ← Script.require (← ask .passphrase) with
  | none => if env.requireSealing then Script.raise .runtime else pure none
  | some passphrase =>
    if passphrase.length < 16 then Script.raise .value
    else pure (some (env.scrypt passphrase salt))

def writeSealedKey (env : Env Cipher) (file : File) (key : Bytes) : Process Cipher Unit := do
  let salt ← ask .random
  let nonce ← ask .random
  let content := match ← keyEncryptionKey env salt with
    | none => KeyFile.raw key
    | some kek => .sealed salt nonce (env.encrypt kek nonce (.dataKey key))
  Script.require (← ask (.write file content))
  Script.require (← ask .chmod)

/-- `_decode_key`, in the process `pid`. -/
def decodeKey (env : Env Cipher) (pid : ℕ) : KeyFile Cipher → Process Cipher Bytes
  | .junk => Script.raise .value
  | .sealed salt nonce ciphertext => do
    match ← keyEncryptionKey env salt with
    | none => Script.raise .runtime
    | some kek =>
      match env.decrypt kek nonce ciphertext with
      | some (.dataKey key) => pure key
      | _ => Script.raise .value
  | .raw key => do
    if env.sealing then do
      writeSealedKey env (.seal pid) key
      Script.require (← ask (.replaceKey (.seal pid)))
    pure key

/-- `except (RuntimeError, ValueError, OSError, UnicodeDecodeError)`. -/
def unreadable : Failure → Failure
  | .database => .database
  | _ => .value

/-- `_secret_key`, up to the depth of its recursion. -/
def secretKey (env : Env Cipher) (pid : ℕ) : ℕ → Process Cipher Bytes
  | 0 => Script.raise .runtime
  | depth + 1 => do
    if ← ask (.exists .key) then
      Script.rescue (do
        let encoded ← Script.require (← ask (.read .key))
        let key ← decodeKey env pid encoded
        if key.length ≠ 32 then Script.raise .value
        else pure key) fun failure => Script.raise (unreadable failure)
    else do
      let key ← ask .generateKey
      let token ← ask .token
      writeSealedKey env (.temporary pid token) key
      match ← ask (.link (.temporary pid token)) with
      | .ok () => do
        Script.require (← ask (.unlink (.temporary pid token) false))
        pure key
      | .error .fileExists => do
        Script.require (← ask (.unlink (.temporary pid token) true))
        if ← ask (.exists .key) then do
          -- what this raises is passed over
          let _ ← ask (.unlink .key false)
          secretKey env pid depth
        else secretKey env pid depth
      | .error failure => Script.raise failure

/-! ## The envelope -/

/-- `_open_envelope`; that what it raises is a `ValueError` already is left out. -/
def openEnvelope (env : Env Cipher) (pid depth : ℕ) (envelope : Envelope Cipher) : Process Cipher Secrets := do
  if envelope.version ≠ 1 ∨ envelope.algorithm ≠ "AES-256-GCM" then Script.raise .value
  else do
    let key ← secretKey env pid depth
    match env.decrypt key envelope.nonce envelope.ciphertext with
    | some (.secrets value) => pure value
    | _ => Script.raise .value

def storedEnvelope (env : Env Cipher) : Process Cipher (Option (Envelope Cipher)) := do
  if env.postgres then Script.require (← ask .readRow) else Script.require (← ask .readEnvelope)

def readEncryptedSecrets (env : Env Cipher) (pid depth : ℕ) : Process Cipher Secrets := do
  match ← storedEnvelope env with
  | none => pure ∅
  | some envelope => openEnvelope env pid depth envelope

def writeEncryptedSecrets (env : Env Cipher) (pid depth : ℕ) (value : Secrets) : Process Cipher Unit := do
  let nonce ← ask .random
  let key ← secretKey env pid depth
  let envelope : Envelope Cipher := { nonce := nonce, ciphertext := env.encrypt key nonce (.secrets value) }
  if env.postgres then Script.require (← ask (.writeRow envelope))
  else do
    Script.require (← ask (.writeEnvelope envelope))
    Script.require (← ask .chmod)
    Script.require (← ask .replaceEnvelope)

def migrateSecretFileToDatabase (env : Env Cipher) (pid depth : ℕ) : Process Cipher Unit := do
  if env.postgres then do
    let stored ← Script.require (← ask .readRow)
    if stored.isSome then Script.require (← ask .unlinkLegacy)
    match ← Script.require (← ask .readEnvelope) with
    | none => pure ()
    | some envelope => do
      let expected ← openEnvelope env pid depth envelope
      match stored with
      | none => do
        Script.require (← ask (.writeRow envelope))
        match ← Script.require (← ask .readRow) with
        | none => Script.raise .value
        | some written => do
          if (← openEnvelope env pid depth written) ≠ expected then Script.raise .value
      | some stored => do
        let _ ← openEnvelope env pid depth stored
      Script.require (← ask .unlinkEnvelope)

/-- `{**secrets, **others}`. -/
def Secrets.update (secrets others : Secrets) : Secrets :=
  others.entries.foldl (fun merged entry => merged.set entry.1 entry.2) secrets

def ensureSecretStore (env : Env Cipher) (pid depth : ℕ) : Process Cipher Secrets := do
  migrateSecretFileToDatabase env pid depth
  match ← storedEnvelope env with
  | some _ => do
    let stored ← readEncryptedSecrets env pid depth
    if stored = ∅ then Script.raise .value else pure stored
  | none => do
    let legacy ← ask .readLegacy
    let generated ← ask .generate
    let stored := (Secrets.update generated legacy).pop "encryption_key"
    writeEncryptedSecrets env pid depth stored
    Script.require (← ask .unlinkLegacy)
    pure stored

/-! ## Rotation -/

def rotateDataKey (env : Env Cipher) (pid depth : ℕ) : Process Cipher Bool := do
  let stored ← readEncryptedSecrets env pid depth
  if stored = ∅ then Script.raise .value
  else do
    let previous ← secretKey env pid depth
    if ← ask (.exists .key) then do
      Script.require (← ask (.copy .key .prev))
      Script.require (← ask .chmod)
    Script.require (← ask (.unlink .key true))
    let rotated ← Script.rescue (do
      let rotated ← secretKey env pid depth
      writeEncryptedSecrets env pid depth stored
      pure rotated) fun failure => do
        if ← ask (.exists .prev) then Script.require (← ask (.copy .prev .key))
        Script.raise failure
    if rotated = previous then Script.require (← ask (.unlink .prev true))
    ask (.exists .prev)

end Vertep.SecretStore
