import Vertep.Lib.Execution
import Vertep.Lib.Reach
import Vertep.Layout.Scripts

/-!
# Runs of the release layout

The commands of `release-layout.py` run one after the other on one base directory. A command may be cut off between two
calls, and within one that goes through a tree; a call that changes something may fail. A file that is there can be
read. What is kept beside the files, for the statements only: the directories that a copy or a removal has begun on and
not brought to its end, the release that was active before the active one, and whether that is recorded yet.
-/

namespace Vertep.Layout
open Lib Script Relation

/-! ## The base directory -/

structure Base where
  releases : Dict String Tree := ∅
  current : Option String := none
  /-- `.current.{pid}.tmp`. -/
  links : Dict ℕ String := ∅
  activation : Option Activation := none
  unfinished : List String := []
  target : Option String := none
  recorded : Bool := true
deriving DecidableEq

namespace Base

def begin (s : Base) (name : String) (part : Tree) : Base :=
  { s with releases := s.releases.set name part, unfinished := name :: s.unfinished }

def put (s : Base) (name : String) (tree : Tree) : Base := { s with releases := s.releases.set name tree }

def erase (s : Base) (name : String) : Base :=
  { s with releases := s.releases.pop name, unfinished := s.unfinished.filter (· ≠ name) }

/-- A directory is renamed to a release. -/
def publish (s : Base) (name version : String) (tree : Tree) : Base :=
  { s with
    releases := (s.releases.pop name).set version tree
    unfinished := s.unfinished.filter fun other => other ≠ name ∧ other ≠ version }

/-- The link is put in the place of `current`. A release that is activated again is not the one before. -/
def switch (s : Base) (pid : ℕ) (name : String) (back : Bool) : Base :=
  { s with
    current := some name
    links := s.links.pop pid
    target := if back then none else if s.current = some name then s.target else s.current
    recorded := false }

/-- `.activation.json` is written. -/
def record (s : Base) (activation : Activation) : Base := { s with activation := some activation, recorded := true }

end Base

/-- What is left of a call that goes through a tree and is cut off. -/
inductive Call.Cut : Call → Base → Base → Prop where
  | copytree (s) (payload : Tree) (name : String) (part : Tree) :
    s.releases.get? name = none → part.entries ⊆ (code payload).entries →
    Cut (.copytree payload name) s (s.begin name part)
  | rmtree (s) (name : String) (tree part : Tree) :
    s.releases.get? name = some tree → part.entries ⊆ tree.entries → Cut (.rmtree name) s (s.begin name part)
  | removed (s) (name : String) : Cut (.rmtree name) s (s.erase name)

/-- What a call answers, and what it leaves. -/
inductive Call.Run (env : Env) : (c : Call) → Base → c.Reply → Base → Prop where
  | mkdir (s) : Run env .mkdir s (.ok ()) s
  | notMade (s) : Run env .mkdir s (.error .os) s
  | «exists» (s) (name : String) : Run env (.exists name) s (s.releases.get? name).isSome s
  | copytree (s) (payload : Tree) (name : String) :
    s.releases.get? name = none → Run env (.copytree payload name) s (.ok ()) (s.begin name (code payload))
  | notCopied (s) (payload : Tree) (name : String) : Run env (.copytree payload name) s (.error .os) s
  | copiedPart (s s') (payload : Tree) (name : String) :
    Call.Cut (.copytree payload name) s s' → Run env (.copytree payload name) s (.error .os) s'
  | link (s) (name path : String) (tree : Tree) :
    s.releases.get? name = some tree → Run env (.link name path) s (.ok ()) (s.put name (tree.set path (shared path)))
  | notLinked (s) (name path : String) : Run env (.link name path) s (.error .os) s
  | writeMetadata (s) (name version sha256 : String) (tree : Tree) (reply : Except Failure Unit) :
    s.releases.get? name = some tree → (reply = .ok () ∨ reply = .error .os) →
    Run env (.writeMetadata name version sha256) s reply
      (s.put name (tree.set ".release.json" (.metadata version sha256)))
  | notWritten (s) (name version sha256 : String) : Run env (.writeMetadata name version sha256) s (.error .os) s
  | publish (s) (name version : String) (tree : Tree) :
    s.releases.get? name = some tree → s.releases.get? version = none →
    Run env (.publish name version) s (.ok ()) (s.publish name version tree)
  | notPublished (s) (name version : String) : Run env (.publish name version) s (.error .os) s
  | rmtree (s) (name : String) (tree : Tree) :
    s.releases.get? name = some tree → Run env (.rmtree name) s (.ok ()) (s.erase name)
  | notRemoved (s) (name : String) : Run env (.rmtree name) s (.error .os) s
  | removedPart (s s') (name : String) : Call.Cut (.rmtree name) s s' → Run env (.rmtree name) s (.error .os) s'
  | fsync (s) (reply : Except Failure Unit) : (reply = .ok () ∨ reply = .error .os) → Run env .fsync s reply s
  | metadata (s) (name : String) (tree : Tree) :
    s.releases.get? name = some tree → Run env (.metadata name) s (tree.version env) s
  | noMetadata (s) (name : String) : s.releases.get? name = none → Run env (.metadata name) s (.error .os) s
  | readlink (s) : Run env .readlink s s.current s
  | symlink (s) (pid : ℕ) (name : String) :
    s.links.get? pid = none → Run env (.symlink pid name) s (.ok ()) { s with links := s.links.set pid name }
  | notSymlinked (s) (pid : ℕ) (name : String) : Run env (.symlink pid name) s (.error .os) s
  | replace (s) (pid : ℕ) (back : Bool) (name : String) :
    s.links.get? pid = some name → Run env (.replace pid back) s (.ok ()) (s.switch pid name back)
  | notReplaced (s) (pid : ℕ) (back : Bool) : Run env (.replace pid back) s (.error .os) s
  | hasActivation (s) : Run env .hasActivation s s.activation.isSome s
  | readActivation (s) (activation : Activation) :
    s.activation = some activation → Run env .readActivation s (.ok activation) s
  | noActivation (s) : s.activation = none → Run env .readActivation s (.error .os) s
  | isDir (s) (name : String) : Run env (.isDir name) s (s.releases.get? name).isSome s
  | writeActivation (s) (activation : Activation) (reply : Except Failure Unit) :
    (reply = .ok () ∨ reply = .error .os) → Run env (.writeActivation activation) s reply (s.record activation)
  | notRecorded (s) (activation : Activation) : Run env (.writeActivation activation) s (.error .os) s
  | iterdir (s) (names : List String) :
    names.Perm (s.releases.keys.filter fun name => name.toList.head? ≠ some '.') → Run env .iterdir s (.ok names) s
  | notListed (s) : Run env .iterdir s (.error .os) s

def machine (env : Env) : Machine Call Call.Reply Base where
  run := Call.Run env
  torn := Call.Cut

/-! ## Commands -/

inductive Command where
  | prepare (payload : Tree) (version : String)
  | activate (version : String)
  | rollback
  | discard (version : String)
  | prune (keep : ℤ)

/-- A command runs, to its end or not. -/
inductive Step (env : Env) : Command → Base → Base → Prop where
  | prepare (pid : ℕ) (payload : Tree) (version : String) (s s' : Base) (out : Option (Except Failure String × Unit)) :
    Program.Exec (machine env) (prepare env pid payload version ()) s out s' → Step env (.prepare payload version) s s'
  | activate (pid : ℕ) (version : String) (s s' : Base) (out : Option (Except Failure Unit × Unit)) :
    Program.Exec (machine env) (activate pid version ()) s out s' → Step env (.activate version) s s'
  | rollback (pid : ℕ) (s s' : Base) (out : Option (Except Failure Unit × Unit)) :
    Program.Exec (machine env) (rollback pid ()) s out s' → Step env .rollback s s'
  | discard (version : String) (s s' : Base) (out : Option (Except Failure Bool × Unit)) :
    Program.Exec (machine env) (discard version ()) s out s' → Step env (.discard version) s s'
  | prune (keep : ℤ) (s s' : Base) (out : Option (Except Failure (List String) × Unit)) :
    Program.Exec (machine env) (prune keep ()) s out s' → Step env (.prune keep) s s'

/-- The base directories after any commands that meet `C`, from an empty one. -/
def Runs (env : Env) (C : Command → Base → Base → Prop) : Base → Prop :=
  Reach (· = {}) fun s s' => ∃ command, C command s s' ∧ Step env command s s'

/-! ## What is claimed, and when it holds -/

/-- What `prepare` makes of a payload that it accepts. -/
def Prepared (env : Env) (version : String) (tree : Tree) : Prop :=
  Version version ∧ ∃ payload text digest, payload.get? "VERSION" = some (.file text) ∧ Core.strip text = version ∧
    treeDigest env payload = .ok digest ∧ tree = release payload version digest

def Base.Complete (env : Env) (s : Base) (version : String) : Prop :=
  ∃ tree, s.releases.get? version = some tree ∧ Prepared env version tree

/-- A rollback that returns has gone back to the release before the active one, and it can return, unless its link is
left from another process of its number. -/
def Base.RollsBack (env : Env) (s : Base) : Prop :=
  ∀ version, s.target = some version →
    (∀ pid s', Program.Exec (machine env) (rollback pid ()) s (some (.ok (), ())) s' → s'.current = some version) ∧
      ∀ pid, s.links.get? pid = none → ∃ s', Program.Exec (machine env) (rollback pid ()) s (some (.ok (), ())) s'

/-- The directory that is activated is not one that a copy or a removal has begun on, as far as its metadata allow it
to be activated. -/
def Whole (env : Env) (command : Command) (s : Base) : Prop :=
  ∀ version tree, command = .activate version → s.releases.get? version = some tree →
    tree.version env = .ok (some version) → version ∉ s.unfinished

/-- Moreover the active release is not activated again while there is one before it, and no activation is cut off or
fails between its link and its record: one that returns is recorded (`Runs.activate_records`). -/
structure Orderly (env : Env) (command : Command) (s s' : Base) : Prop where
  whole : Whole env command s
  another : ∀ version, command = .activate version → s.current = some version → s.target = none
  recorded : s'.recorded = true ∨ s'.target = none

end Vertep.Layout
