import Mathlib.Data.String.Basic
import Vertep.Lib.Execution
import Vertep.Lib.Trees

/-!
# Snapshots and their restore

Embedding of `_archive`, `_safe_extract` and `_execute_restore` of `services/backup_service.py`: what a snapshot holds
of the source roots, and the script that puts it back. The roots are apart from each other, and hold regular files and
directories. A file that is there can be read; a call that changes something may fail, and it may be cut off within.
-/

namespace Vertep.Backup
open Lib Script

abbrev Bytes := List UInt8

abbrev Path := List String

abbrev Tree := Files String Bytes

abbrev Item := Path × Node Bytes

def name (path : Path) : String := path.getLastD ""

def SNAPSHOT_EXCLUDED : List String := ["backup.key"]

/-! ## Snapshots -/

/-- A source: its label, which is one component of a path, and what is below its root, if that is there. -/
structure Source where
  label : String
  tree : Option Tree
  closed : ∀ t, tree = some t → t.Closed

/-- The members of a source. -/
def members (label : String) (tree : Tree) : List Item :=
  let kept := tree.listing.filter fun item => name item.1 ∉ SNAPSHOT_EXCLUDED
  let added := kept.map fun item => (label :: item.1, item.2)
  if added.any fun item => item.2 = .dir then added else added ++ [([label], .dir)]

def Source.members (source : Source) : List Item :=
  match source.tree with
  | none => []
  | some tree => Backup.members source.label tree

/-- `_archive`, with the dumps of the databases by their names. -/
def archive (sources : List Source) (dumps : List (String × Bytes)) : List Item :=
  sources.flatMap Source.members ++ dumps.map fun dump => (["db", dump.1], .file dump.2)

inductive Failure where
  | http (status : ℕ) (detail : String)
  /-- Any other exception, with its text. -/
  | other (text : String)
deriving DecidableEq

def safeExtract (archive : List Item) : Except Failure Tree :=
  match archive.find? fun member => ".." ∈ member.1 with
  | some member => .error (.other ("Unsafe backup member: " ++ "/".intercalate member.1))
  | none =>
    match Files.extractAll archive with
    | some extracted => .ok extracted
    | none => .error (.other "extractall")

/-- `extracted / label`. -/
def labelled (label : String) (path : Path) : Option Path := if path.head? = some label then some path.tail else none

lemma labelled_injective (label : String) (p p' q : Path) (h : labelled label p = some q) (h' : labelled label p' = some q) :
    p = p' := by
  unfold labelled at h h'
  split_ifs at h h' with head head'
  rcases p with _ | ⟨a, p⟩
  · cases head
  · rcases p' with _ | ⟨a', p'⟩
    · cases head'
    · simp_all

def sourceRoot (extracted : Tree) (label : String) : Tree := extracted.reKey (labelled label) (labelled_injective label)

/-! ## The restore -/

/-- A file operation of `_archive` or `_execute_restore`. -/
inductive Call where
  /-- What comes before the `try`: the checks, the guard, the token, and the copy of the current data. -/
  | begin
  /-- What comes before the extraction: the fence, and the decryption. -/
  | decrypt
  | mkdir (label : String)
  | rglob (label : String)
  | readText (label : String) (path : Path)
  | mkdirs (label : String) (path : Path)
  | copy2 (label : String) (content : Bytes) (target : Path) (name : String)
  | replace (label : String) (source target : Path)
  | isFile (label : String) (path : Path)
  | unlink (label : String) (path : Path)
  | database
  /-- The checks after the restore, and the end of the fence. -/
  | verify
  | finalizeFailure
  | releaseGuard

abbrev Call.Reply : Call → Type
  | .decrypt => Except Failure (List Item)
  | .rglob _ => List Path
  | .readText .. => Option Bytes
  | .isFile .. => Bool
  | _ => Except Failure Unit

abbrev Process := Script Call Call.Reply Unit Failure

/-- What the service is given from outside, and its process. -/
structure Env where
  /-- `json.loads(text).get("operation_id")`, and `None` of what is no JSON. -/
  operationId : Bytes → Except Failure (Option String)
  pid : ℕ

variable (env : Env) (snapshotId : String)

/-- The file that a file is copied to before it replaces its target. -/
def temporary (target : Path) : Path :=
  target.dropLast ++ ["." ++ name target ++ ".restore-" ++ toString env.pid]

/-- Which of the files carry the fence of this restore. -/
def fences (label : String) : List Path → Process (List Path)
  | [] => pure []
  | path :: paths => do
    let text ← ask (.readText label path)
    let operation ← require (match Option.toList text with
      | [] => .ok none
      | bytes :: _ => env.operationId bytes)
    let others ← fences label paths
    pure (if operation = some ("restore:" ++ snapshotId) then path :: others else others)

def copyItem (label : String) (item : Item) : Process Unit :=
  match item.2 with
  | .dir => do require (← ask (.mkdirs label item.1))
  | .file content => do
    require (← ask (.mkdirs label item.1.dropLast))
    require (← ask (.copy2 label content (temporary env item.1) (name item.1)))
    require (← ask (.replace label (temporary env item.1) item.1))

/-- The items are copied; it returns the paths that are kept. -/
def copyItems (label : String) (protected_ : List Path) : List Item → List Path → Process (List Path)
  | [], kept => pure kept
  | item :: items, kept =>
    if item.1 ∈ protected_ then copyItems label protected_ items kept
    else do
      copyItem env label item
      copyItems label protected_ items (item.1 :: kept)

/-- The files that are not kept are removed. -/
def clear (label : String) (kept : List Path) : List Path → Process Unit
  | [] => pure ()
  | existing :: paths =>
    if existing ∈ kept then clear label kept paths
    else do
      let file ← ask (.isFile label existing)
      if file then do
        require (← ask (.unlink label existing))
        clear label kept paths
      else clear label kept paths

def restoreSource (extracted : Tree) (label : String) : Process Unit :=
  if extracted.isDir [label] then do
    require (← ask (.mkdir label))
    let existing ← ask (.rglob label)
    let live ← fences env snapshotId label (List.filter (fun path => name path = "system-state.json") existing)
    let protected_ := live ++ SNAPSHOT_EXCLUDED.map ([·])
    let kept ← copyItems env label protected_ (sourceRoot extracted label).listing protected_
    let existing ← ask (.rglob label)
    clear label kept existing
  else pure ()

def restoreSources (extracted : Tree) : List String → Process Unit
  | [] => pure ()
  | label :: labels => do
    restoreSource env snapshotId extracted label
    restoreSources extracted labels

/-- The body of the `try`. -/
def restoreSnapshot (labels : List String) : Process Unit := do
  let members ← require (← ask .decrypt)
  let extracted ← require (safeExtract members)
  restoreSources env snapshotId extracted labels
  require (← ask .database)
  require (← ask .verify)

/-- The handlers. -/
def restoreFailed (failure : Failure) : Process Unit := do
  require (← ask .finalizeFailure)
  match failure with
  | .http status detail => raise (.http status detail)
  | .other text => raise (.http 500 ("Restore failed: " ++ text))

/-- `_execute_restore`; it returns when it reports `done`. -/
def executeRestore (labels : List String) : Process Unit := do
  require (← ask .begin)
  andFinally (rescue (restoreSnapshot env snapshotId labels) restoreFailed) (do require (← ask .releaseGuard))

/-! ## Runs -/

abbrev Trees := String → Tree

namespace Trees

def put (s : Trees) (label : String) (tree : Tree) : Trees := Function.update s label tree

end Trees

/-- What is left of a call that is cut off. -/
inductive Call.Cut : Call → Trees → Trees → Prop where
  | mkdirs (s) (label : String) (path path' : Path) (tree : Tree) :
    path' <+: path → (s label).mkdirs path' = some tree → Cut (.mkdirs label path) s (s.put label tree)
  | copy2 (s) (label : String) (content content' : Bytes) (target : Path) (name : String) (tree : Tree) :
    (s label).copy content' target name = some tree → Cut (.copy2 label content target name) s (s.put label tree)

/-- What a call answers, and what it leaves. -/
inductive Call.Run (archive : List Item) : (c : Call) → Trees → c.Reply → Trees → Prop where
  | begin (s) (reply) : Run archive .begin s reply s
  | decrypt (s) : Run archive .decrypt s (.ok archive) s
  | notDecrypted (s) (failure : Failure) : Run archive .decrypt s (.error failure) s
  | mkdir (s) (label : String) (reply) : Run archive (.mkdir label) s reply s
  | rglob (s) (label : String) : Run archive (.rglob label) s ((s label).listing.map Prod.fst) s
  | readText (s) (label : String) (path : Path) : Run archive (.readText label path) s ((s label).file path) s
  | mkdirs (s) (label : String) (path : Path) (tree : Tree) :
    (s label).mkdirs path = some tree → Run archive (.mkdirs label path) s (.ok ()) (s.put label tree)
  | notMade (s) (label : String) (path : Path) (failure : Failure) : Run archive (.mkdirs label path) s (.error failure) s
  | madePart (s s') (label : String) (path : Path) (failure : Failure) :
    Call.Cut (.mkdirs label path) s s' → Run archive (.mkdirs label path) s (.error failure) s'
  | copy2 (s) (label : String) (content : Bytes) (target : Path) (name : String) (tree : Tree) :
    (s label).copy content target name = some tree →
    Run archive (.copy2 label content target name) s (.ok ()) (s.put label tree)
  | notCopied (s) (label : String) (content : Bytes) (target : Path) (name : String) (failure : Failure) :
    Run archive (.copy2 label content target name) s (.error failure) s
  | copiedPart (s s') (label : String) (content : Bytes) (target : Path) (name : String) (failure : Failure) :
    Call.Cut (.copy2 label content target name) s s' →
    Run archive (.copy2 label content target name) s (.error failure) s'
  | replace (s) (label : String) (source target : Path) (tree : Tree) :
    (s label).rename source target = some tree →
    Run archive (.replace label source target) s (.ok ()) (s.put label tree)
  | notReplaced (s) (label : String) (source target : Path) (failure : Failure) :
    Run archive (.replace label source target) s (.error failure) s
  | isFile (s) (label : String) (path : Path) : Run archive (.isFile label path) s ((s label).file path).isSome s
  | unlink (s) (label : String) (path : Path) :
    Run archive (.unlink label path) s (.ok ()) (s.put label ((s label).unlink path))
  | notUnlinked (s) (label : String) (path : Path) (failure : Failure) :
    Run archive (.unlink label path) s (.error failure) s
  | database (s) (reply) : Run archive .database s reply s
  | verify (s) (reply) : Run archive .verify s reply s
  | finalizeFailure (s) (reply) : Run archive .finalizeFailure s reply s
  | releaseGuard (s) (reply) : Run archive .releaseGuard s reply s

def machine (archive : List Item) : Machine Call Call.Reply Trees where
  run := Call.Run archive
  torn := Call.Cut

/-! ## What is claimed, and when it holds -/

/-- The file carries the fence of this restore. -/
def Fence (tree : Tree) (path : Path) : Prop :=
  name path = "system-state.json" ∧ ∃ bytes, tree.file path = some bytes ∧
    env.operationId bytes = .ok (some ("restore:" ++ snapshotId))

/-- What the snapshot excludes: the keys, and the fence of this restore. -/
def Excluded (tree : Tree) (path : Path) : Prop := name path ∈ SNAPSHOT_EXCLUDED ∨ Fence env snapshotId tree path

/-- The files of the snapshot are there, and of the others only those that it excludes. -/
def Reproduced (snapshot live restored : Tree) : Prop :=
  ∀ path, path ≠ [] → (Excluded env snapshotId live path → restored.file path = live.file path) ∧
    (¬ Excluded env snapshotId live path → restored.file path = snapshot.file path)

/-- The only key is at the root; and the file that a file is copied to is no directory, and not one that the snapshot
brings before. -/
structure Clear (snapshot live : Tree) : Prop where
  keys : ∀ path, name path ∈ SNAPSHOT_EXCLUDED → live.file path ≠ none → path.length ≤ 1
  temporary : ∀ path content, snapshot.file path = some content → path ≠ [] → ¬ Excluded env snapshotId live path →
    live.isDir (temporary env path) = false ∧ (snapshot.get? (temporary env path) ≠ none → path < temporary env path)

end Vertep.Backup
