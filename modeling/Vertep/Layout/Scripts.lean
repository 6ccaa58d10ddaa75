import Mathlib.Data.Char
import Mathlib.Data.List.Lex
import Mathlib.Data.List.Sort
import Vertep.Core.Plan
import Vertep.Lib.Dict
import Vertep.Lib.Program

/-!
# The release layout

Embedding of `scripts/release-layout.py`: the commands that prepare a release below `releases/`, make it the one that
`current` links to, go back to the one before, and remove releases. A command is a script over the calls that it makes
to the file system. A link to `releases/1.0` is written `"1.0"` here, and a version is one component of a path.
-/

namespace Vertep.Layout
open Lib Script

/-! ## Trees -/

/-- What stands at a path; `metadata` is the object that `prepare` writes. -/
inductive Entry where
  | file (text : String)
  | symlink (target : String)
  | metadata (version sha256 : String)
deriving DecidableEq

/-- A directory tree: what stands at its relative paths. A directory in it is there with what it holds. -/
abbrev Tree := Dict String Entry

def MUTABLE : List String := [".env", "config", "logs", "storage", "backups", "models", "tls", "runtime/update"]

def Mutable (relative : String) : Prop := ∃ name ∈ MUTABLE, relative = name ∨ name.toList ++ ['/'] <+: relative.toList

instance : DecidablePred Mutable := fun relative => by
  unfold Mutable
  infer_instance

/-- `VERSION_RE.fullmatch`. -/
def Version (version : String) : Prop :=
  let numbers := (version.toList.takeWhile fun c => c ≠ '-' ∧ c ≠ '+').splitOn '.'
  let suffix := version.toList.dropWhile fun c => c ≠ '-' ∧ c ≠ '+'
  2 ≤ numbers.length ∧ numbers.length ≤ 4 ∧ (∀ number ∈ numbers, number ≠ [] ∧ number.all Char.isDigit) ∧
    (suffix = [] ∨ suffix.tail ≠ [] ∧ suffix.tail.all fun c => c.isAlphanum ∨ c = '.' ∨ c = '-')

instance : DecidablePred Version := fun version => by
  unfold Version
  infer_instance

inductive Failure where
  | os
  | value (message : String)
  | fileExists (message : String)
  | runtime (message : String)
  | attribute
deriving DecidableEq

/-- What the script is given from outside. -/
structure Env where
  sha256 : String → String
  /-- `json.loads(text).get("version")`, of a text that `prepare` has not written. -/
  loads : String → Except Failure (Option String)

def parts (path : String) : List (List Char) := path.toList.splitOn '/'

/-- `json.dump`, with sorted keys and without blanks. -/
def dumps (version sha256 : String) : String :=
  "\x7b\"sha256\":\"" ++ sha256 ++ "\",\"version\":\"" ++ version ++ "\"\x7d"

/-- What `tree_digest` hashes of an entry. -/
def hashed (entry : String × Entry) : Except Failure String :=
  match entry with
  | (relative, .file text) => .ok ("F\x00" ++ relative ++ "\x00" ++ text)
  | (relative, .metadata version sha256) => .ok ("F\x00" ++ relative ++ "\x00" ++ dumps version sha256)
  | (relative, .symlink _) => .error (.value s!"release payload contains a symlink: {relative}")

def treeDigest (env : Env) (root : Tree) : Except Failure String :=
  let sorted := root.entries.insertionSort fun e e' => parts e.1 ≤ parts e'.1
  ((sorted.filter fun e => ¬ Mutable e.1).mapM hashed).map fun texts => env.sha256 (String.join texts)

def code (payload : Tree) : Tree :=
  ⟨payload.entries.filter fun e => ¬ Mutable e.1, payload.nodup.sublist (List.filter_sublist.map Prod.fst)⟩

/-- The link to a shared copy: `os.path.relpath` from the directory that it is in. -/
def shared (name : String) : Entry :=
  .symlink ((if '/' ∈ name.toList then "../../../" else "../../") ++ name)

/-- The release that is made of a payload. -/
def release (payload : Tree) (version sha256 : String) : Tree :=
  (MUTABLE.foldl (fun tree name => tree.set name (shared name)) (code payload)).set ".release.json"
    (.metadata version sha256)

/-- `json.loads((target / ".release.json").read_text()).get("version")`. -/
def Tree.version (env : Env) (tree : Tree) : Except Failure (Option String) :=
  match tree.get? ".release.json" with
  | some (.metadata version _) => .ok (some version)
  | some (.file text) => env.loads text
  | some (.symlink _) | none => .error .os

/-! ## Calls -/

/-- `.activation.json`. -/
structure Activation where
  current : String
  previous : Option String
deriving DecidableEq

/-- A file operation of `release-layout.py`. -/
inductive Call where
  | mkdir
  | exists (name : String)
  | copytree (payload : Tree) (name : String)
  | link (name path : String)
  | writeMetadata (name version sha256 : String)
  | publish (name version : String)
  | rmtree (name : String)
  | fsync
  | metadata (name : String)
  | readlink
  | symlink (pid : ℕ) (name : String)
  /-- `os.replace(link, current)`; whether it is a rollback is kept for the statements only. -/
  | replace (pid : ℕ) (back : Bool)
  | hasActivation
  | readActivation
  | isDir (name : String)
  | writeActivation (activation : Activation)
  /-- The directories below `releases/` without a leading dot, the newest first. -/
  | iterdir

abbrev Call.Reply : Call → Type
  | .exists _ | .isDir _ | .hasActivation => Bool
  | .metadata _ => Except Failure (Option String)
  | .readlink => Option String
  | .readActivation => Except Failure Activation
  | .iterdir => Except Failure (List String)
  | _ => Except Failure Unit

abbrev Process := Script Call Call.Reply Unit Failure

def staging (version : String) (pid : ℕ) : String := "." ++ version ++ "." ++ toString pid ++ ".staging"

/-! ## Commands -/

def linkAll (temporary : String) : List String → Process Unit
  | [] => pure ()
  | name :: names => do
    require (← ask (.link temporary name))
    linkAll temporary names

/-- The release is materialized and put in place. -/
def materialize (payload : Tree) (version digest temporary : String) : Process Unit := do
  require (← ask (.copytree payload temporary))
  linkAll temporary MUTABLE
  require (← ask (.writeMetadata temporary version digest))
  require (← ask (.publish temporary version))

def prepare (env : Env) (pid : ℕ) (payload : Tree) (version : String) : Process String := do
  if ¬ Version version then raise (.value "invalid release version")
  match payload.get? "VERSION" with
  | some (.file text) => if Core.strip text ≠ version then raise (.value "release payload version mismatch")
  | _ => raise (.value "release payload is incomplete")
  require (← ask .mkdir)
  if ← ask (.exists version) then raise (.fileExists s!"release already exists: {version}")
  let digest ← require (treeDigest env payload)
  let temporary := staging version pid
  rescue (materialize payload version digest temporary) fun failure => do
    let _ ← ask (.rmtree temporary)
    raise failure
  require (← ask .fsync)
  return version

def activate (pid : ℕ) (version : String) : Process Unit := do
  let found ← require (← ask (.metadata version))
  if found ≠ some version then raise (.value "release metadata mismatch")
  let previous ← ask .readlink
  require (← ask (.symlink pid version))
  require (← ask (.replace pid false))
  require (← ask .fsync)
  require (← ask (.writeActivation ⟨version, previous⟩))

def rollback (pid : ℕ) : Process Unit := do
  let activated ← ask .hasActivation
  let current ← ask Call.readlink
  if activated = false ∧ current = none then pure ()
  else do
    let state ← require (← ask .readActivation)
    match state.previous with
    | none => raise (.runtime "no immutable previous release is available")
    | some previous => do
      if (← ask (.isDir previous)) = false then raise (.runtime "no immutable previous release is available")
      require (← ask (.symlink pid previous))
      require (← ask (.replace pid true))
      require (← ask .fsync)
      require (← ask (.writeActivation ⟨previous, none⟩))

/-- What `discard` takes from `.activation.json`. -/
def referenced : Except Failure Activation → List String
  | .ok state => [state.current, state.previous.getD ""]
  | .error _ => []

def discard (version : String) : Process Bool := do
  if ¬ Version version then raise (.value "invalid release version")
  if ← ask (.exists version) then
    let current ← ask Call.readlink
    let state ← ask .readActivation
    if version ∈ Option.toList current ++ referenced state then
      raise (.runtime s!"release {version} is active or the rollback target")
    require (← ask (.rmtree version))
    require (← ask .fsync)
    return true
  else
    return false

/-- What `prune` takes from `.activation.json`. -/
def shielded : Except Failure Activation → List String
  | .ok state => [state.current, state.previous.getD "None"]
  | .error _ => [""]

def removeAll (kept : List String) : List String → Process (List String)
  | [] => pure []
  | name :: names =>
    if name ∈ kept then removeAll kept names
    else do
      require (← ask (.rmtree name))
      let removed ← removeAll kept names
      return name :: removed

def prune (keep : ℤ) : Process (List String) := do
  if keep < 2 then raise (.value "at least two releases must be retained")
  let state ← ask .readActivation
  let current ← ask Call.readlink
  let candidates ← require (← ask .iterdir)
  let removed ← removeAll (shielded state ++ Option.toList current ++ candidates.take keep.toNat) candidates
  if removed ≠ [] then require (← ask .fsync)
  return removed

end Vertep.Layout
