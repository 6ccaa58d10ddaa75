import Vertep.Governance.Scripts
import Vertep.Lib.Execution
import Vertep.Lib.Maximum
import Vertep.Lib.Reach

/-!
# Runs of the governance (`lab/governance.py`)

The entry points run one after the other, as the lock of the state directory has it; each may be cut off between two
calls. A file that is there can be read, and is written in one step; a write may fail. Others create issues on the
remote side and edit them at any time. What is kept beside the files, for the statements only: the issues that were
created and the decision keys they were created under, and what the source issues were closed for.
-/

namespace Vertep.Governance
open Lib Script Relation

/-- An issue on the remote side. -/
structure Issue where
  title : String
  body : String
  earlier : List String := []
  closed : Bool := false
deriving DecidableEq

def Issue.bodies (issue : Issue) : List String := issue.body :: issue.earlier

/-- The files of `governance.py`, and the issues of the repository. -/
structure World where
  intents : Dict String Intent := ∅
  created : List Record := []
  plans : Dict String Plan := ∅
  transfers : Dict String Transfer := ∅
  remote : Dict ℕ Issue := ∅
  posted : List (String × ℕ) := []
  closings : List (ℕ × Closing) := []
deriving DecidableEq

namespace World

/-- An issue is created for a key. -/
def post (w : World) (key title body : String) (number : ℕ) : World :=
  { w with
    remote := w.remote.set number ⟨title, body, [], false⟩
    posted := (key, number) :: w.posted }

def close (w : World) (number : ℕ) (issue : Issue) : World :=
  { w with remote := w.remote.set number { issue with closed := true } }

def closing (w : World) (number : ℕ) (closing : Closing) : World :=
  { w with closings := (number, closing) :: w.closings }

end World

/-- The issues that are there stay, and keep the bodies that they have had. -/
def Grows (remote remote' : Dict ℕ Issue) : Prop :=
  ∀ number issue, remote.get? number = some issue →
    ∃ issue', remote'.get? number = some issue' ∧ issue.bodies ⊆ issue'.bodies

def Drift (w w' : World) : Prop := ∃ remote, Grows w.remote remote ∧ w' = { w with remote := remote }

/-- What a call answers, and what it leaves. -/
inductive Call.Act : (c : Call) → World → c.Reply → World → Prop where
  | readIntents (w) : Act .readIntents w w.intents w
  | writeIntents (w) (intents : Dict String Intent) (reply) : Act (.writeIntents intents) w reply { w with intents := intents }
  | keepIntents (w) (intents : Dict String Intent) (failure : Failure) : Act (.writeIntents intents) w (.error failure) w
  | readCreated (w) : Act .readCreated w w.created w
  | writeCreated (w) (created : List Record) (reply) : Act (.writeCreated created) w reply { w with created := created }
  | keepCreated (w) (created : List Record) (failure : Failure) : Act (.writeCreated created) w (.error failure) w
  | readPlans (w) : Act .readPlans w w.plans w
  | writePlans (w) (plans : Dict String Plan) (reply) : Act (.writePlans plans) w reply { w with plans := plans }
  | keepPlans (w) (plans : Dict String Plan) (failure : Failure) : Act (.writePlans plans) w (.error failure) w
  | readTransfers (w) : Act .readTransfers w w.transfers w
  | writeTransfers (w) (transfers : Dict String Transfer) (reply) :
    Act (.writeTransfers transfers) w reply { w with transfers := transfers }
  | keepTransfers (w) (transfers : Dict String Transfer) (failure : Failure) :
    Act (.writeTransfers transfers) w (.error failure) w
  | identifiers (w) (reply) : Act .identifiers w reply w
  | findDuplicates (w) (title : String) (found : List Found) :
    (∀ issue ∈ found, ∃ issue', w.remote.get? issue.number = some issue' ∧ issue'.title = issue.title ∧
      issue'.body = issue.body) →
    Act (.findDuplicates title) w (.ok found) w
  | notFound (w) (title : String) (failure : Failure) : Act (.findDuplicates title) w (.error failure) w
  | createRemote (w) (key title body : String) (labels : List String) (number : ℕ) :
    w.remote.get? number = none →
    Act (.createRemote key title body labels) w (.ok number) (w.post key title body number)
  /-- It ends uncertain, with the effect. -/
  | createdUnseen (w) (key title body : String) (labels : List String) (number : ℕ) (failure : Failure) :
    w.remote.get? number = none → (∀ message, failure ≠ .rejected message) →
    Act (.createRemote key title body labels) w (.error failure) (w.post key title body number)
  /-- It is rejected, or ends uncertain without the effect. -/
  | notCreated (w) (key title body : String) (labels : List String) (failure : Failure) :
    Act (.createRemote key title body labels) w (.error failure) w
  | getIssue (w) (number : ℕ) (issue : Issue) :
    w.remote.get? number = some issue → Act (.getIssue number) w (.ok issue.body) w
  | notGot (w) (number : ℕ) (failure : Failure) : Act (.getIssue number) w (.error failure) w
  | closeRemote (w) (number : ℕ) (comment : String) (closing : Closing) (issue : Issue) (reply) :
    w.remote.get? number = some issue → Act (.closeRemote number comment closing) w reply ((w.close number issue).closing number closing)
  | notClosed (w) (number : ℕ) (comment : String) (closing : Closing) (reply) : reply ≠ .ok true →
    Act (.closeRemote number comment closing) w reply (w.closing number closing)
  | require (w) (action subject : String) (reply) : Act (.require action subject) w reply w
  | decide (w) (action subject : String) (reply) : Act (.decide action subject) w reply w
  | audit (w) (reply) : Act .audit w reply w

def machine : Machine Call Call.Reply World where
  run c w r w' := ∃ w₁, Drift w w₁ ∧ c.Act w₁ r w'

/-! ## Requests -/

inductive Request where
  | propose (finding : Finding) (key : String)
  | create (kind : Kind) (title identifier key : String) (metadata : Metadata)
  | consolidate (source : Source) (successors : List Successor) (reason : String)

/-- A request is served, to its end or not; or others change something. -/
inductive Step (env : Env) : Request → World → World → Prop where
  | propose (finding : Finding) (key : String) (w w' : World) (out : Option (Except Failure Outcome × Unit)) :
    Program.Exec machine (proposeLabIssue env finding key ()) w out w' → Step env (.propose finding key) w w'
  | create (kind : Kind) (title identifier key : String) (metadata : Metadata) (w w' : World)
    (out : Option (Except Failure Outcome × Unit)) :
    Program.Exec machine (createIssue env kind title identifier key metadata ()) w out w' →
    Step env (.create kind title identifier key metadata) w w'
  | consolidate (source : Source) (successors : List Successor) (reason : String) (w w' : World)
    (out : Option (Except Failure TransferOutcome × Unit)) :
    Program.Exec machine (consolidateIr env source successors reason ()) w out w' →
    Step env (.consolidate source successors reason) w w'

def Fresh (w : World) : Prop := ∃ remote, w = { remote := remote }

/-- The worlds after any requests that meet `C`, served one after the other. -/
def Runs (env : Env) (C : Request → World → Prop) : World → Prop :=
  Reach Fresh fun w w' => Drift w w' ∨ ∃ request, C request w ∧ Step env request w w'

/-! ## Played runs -/

/-- The calls succeed, and nothing is found on the remote side. -/
def Call.succeeds : (c : Call) → World → c.Reply × World
  | .readIntents, w => (w.intents, w)
  | .writeIntents intents, w => (.ok (), { w with intents := intents })
  | .readCreated, w => (w.created, w)
  | .writeCreated created, w => (.ok (), { w with created := created })
  | .readPlans, w => (w.plans, w)
  | .writePlans plans, w => (.ok (), { w with plans := plans })
  | .readTransfers, w => (w.transfers, w)
  | .writeTransfers transfers, w => (.ok (), { w with transfers := transfers })
  | .identifiers, w => (.ok [], w)
  | .findDuplicates _, w => (.ok [], w)
  | .createRemote key title body _, w =>
    let number := w.remote.keys.foldl max 0 + 1
    (.ok number, w.post key title body number)
  | .getIssue number, w =>
    match w.remote.get? number with
    | some issue => (.ok issue.body, w)
    | none => (.error (.governance ""), w)
  | .closeRemote number _ closing, w =>
    match w.remote.get? number with
    | some issue => (.ok true, (w.close number issue).closing number closing)
    | none => (.error (.governance ""), w.closing number closing)
  | .require .., w => (.ok (), w)
  | .decide .., w => (.ok none, w)
  | .audit, w => (.ok (), w)

lemma Drift.refl (w : World) : Drift w w := ⟨w.remote, fun _ issue there => ⟨issue, there, List.Subset.refl _⟩, rfl⟩

lemma next_number (remote : Dict ℕ Issue) : remote.get? (remote.keys.foldl max 0 + 1) = none := by
  rw [Dict.get?_eq_none]
  intro within
  have : remote.keys.foldl max 0 + 1 ≤ remote.keys.foldl max 0 := le_foldl_max (.inl within)
  omega

lemma Call.succeeds_run (c : Call) (w : World) : machine.run c w (c.succeeds w).1 (c.succeeds w).2 := by
  refine ⟨w, .refl w, ?_⟩
  cases c <;> simp only [Call.succeeds]
  case findDuplicates title => exact .findDuplicates w title [] (List.forall_mem_nil _)
  case createRemote key title body labels => exact .createRemote w key title body labels _ (next_number _)
  case getIssue number =>
    split
    · exact .getIssue w number _ ‹_›
    · exact .notGot w number _
  case closeRemote number comment closing =>
    split
    · exact .closeRemote w number comment closing _ _ ‹_›
    · exact .notClosed w number comment closing _ (by simp)
  all_goals constructor

/-- An environment that hashes nothing. -/
def plain : Env where
  sha256 := id
  dumps title body labels := title ++ body ++ "".intercalate labels
  dumpsPlan source _ reason := source.identifier ++ reason
  lower := id
  repr := id
  reprs := "".intercalate
  digit _ := none

def after {α : Type} (script : Process α) (w : World) : World := ((script ()).play Call.succeeds w).2

lemma exec_after {α : Type} (script : Process α) (w : World) :
    Program.Exec machine (script ()) w (some ((script ()).play Call.succeeds w).1) (after script w) :=
  Program.Exec.play Call.succeeds_run _ w

end Vertep.Governance
