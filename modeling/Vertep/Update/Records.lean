import Mathlib.Data.Int.Notation
import Vertep.Lib.Program
import Vertep.Lib.Text

/-!
# What the update agent reads, writes and runs

The records of `scripts/update-agent.py`, and its calls to the outside: the files of the state directory, the
update lease, the network and the commands of the host. Times are left out, and so are the versions and the
readiness that the agent only copies into `status.json`. A call names the place it is made from where the
same thing is asked more than once.
-/

namespace Vertep.Update
open Lib

abbrev Failure := String

inductive Action where
  | check | update | restart | rollback
deriving DecidableEq

inductive Phase where
  | checking | downloading | maintenance | updating | restarting | verifying | recovering | normal | emergency
deriving DecidableEq

inductive SystemState where
  | normal | maintenance | updating | recovering | readOnly | emergency
deriving DecidableEq

/-- `SystemState[phase]`, where `phase in SystemState.__members__`. -/
def Phase.system : Phase → Option SystemState
  | .maintenance => some .maintenance
  | .updating => some .updating
  | .recovering => some .recovering
  | .normal => some .normal
  | .emergency => some .emergency
  | .checking | .downloading | .restarting | .verifying => none

/-- `state["state"]`. -/
inductive RunState where
  | running | succeeded | failed | rolledBack
deriving DecidableEq

/-- `status.json`, and the `state` of an operation. -/
structure Status where
  state : RunState := .running
  phase : Phase
  action : Option Action
  requestId : Option String
  message : String
  progress : Option ℤ := none
  fenceEpoch : Option ℕ := none
  log : List String := []
deriving DecidableEq

/-- A record of the audit journal. -/
inductive Event where
  | phase (operation : Option String) (phase : Phase) (action : Option Action) (message : String)
  | outcome (operation : String) (state : RunState) (action : Action) (message : String)
deriving DecidableEq

/-- A request file; an action of another name is `none`. -/
structure Request where
  requestId : String
  action : Option Action
  targetVersion : Option String
deriving DecidableEq

/-- `re.fullmatch(r"[0-9a-f]{32}", request_id)`. -/
def Request.WellNamed (request : Request) : Prop :=
  request.requestId.length = 32 ∧ ∀ c ∈ request.requestId.toList, c ∈ "0123456789abcdef".toList

instance (request : Request) : Decidable request.WellNamed := by unfold Request.WellNamed; infer_instance

/-- `host_command(...)`, with the arguments of `apply-update`. -/
inductive HostCommand where
  | restartRuntime
  | rollback
  | applyUpdate (version : String) (rollbackSafe : Bool)
deriving DecidableEq

/-- What `update_progress` of `scripts/vertep` writes as a phase. -/
inductive ShellPhase where
  | updating | restarting | verifying
deriving DecidableEq

/-- While a command runs it reports a phase, or the watchdog looks at the fence. -/
inductive Tick where
  | report (phase : ShellPhase)
  | check
deriving DecidableEq

/-- A command that runs, and how it ends. -/
structure Work where
  ticks : List Tick
  result : Except Failure (List String)

/-- A durable write: done, or it raised before or after the file was replaced. -/
inductive Written where
  | done
  | lost (error : Failure)
  | landed (error : Failure)
deriving DecidableEq

/-- `cancel-fence.json`. -/
inductive Fence where
  | absent
  | unreadable
  | of (operation : String)
deriving DecidableEq

/-- A manifest, and the root metadata that authorized it if there are any. -/
structure Offer where
  version : String
  rootMetadata : Option String
deriving DecidableEq

/-- A release whose manifest is valid: whether it is newer, and what is trusted from now on if that changes. -/
structure Release where
  available : Bool
  trusted : Option String
  rollbackSafe : Bool
deriving DecidableEq

/-- Where `assert_mutation_allowed` is called. -/
inductive Guard where
  | drain (poll : ℕ)
  | before (command : HostCommand)
  | start (command : HostCommand)
  | watch (command : HostCommand) (tick : ℕ)
deriving DecidableEq

/-- Where `status.json` is written. -/
inductive Place where
  | received | leased | phase (phase : Phase) (progress : Option ℤ) | outcome
deriving DecidableEq

/-- What the update agent does outside. -/
inductive Call where
  | request (name : String)
  | status (place : Place) (status : Status)
  | readStatus (command : HostCommand)
  | audit (event : Event)
  | system (state : SystemState) (reason : String)
  | acquire (operation : String)
  | release
  | current (guard : Guard)
  | fence (guard : Guard)
  | spawn (command : HostCommand)
  | report (phase : ShellPhase)
  | kill (command : HostCommand)
  | manifest
  | validate
  | trustRoot (metadata : String)
  | trustRelease (release : String)
  | forced
  | download (version : String)
  | drainPolls
  | drain (poll : ℕ)
  | readiness (poll : ℕ)
  | prune
  | coordinated
  | healthPolls
  | health (poll : ℕ)
  | unlink (name : String)
  | dropMarker (values : List String)
deriving DecidableEq

/-- What a call replies. -/
abbrev Call.Reply : Call → Type
  | .request _ => Except Failure Request
  | .status _ _ | .audit _ | .system _ _ | .trustRoot _ | .trustRelease _ => Written
  | .readStatus _ => Except Failure Status
  | .forced | .coordinated => Bool
  | .acquire _ => Except Failure (Option ℕ)
  | .release | .report _ | .kill _ | .drain _ | .dropMarker _ => Unit
  | .current _ | .download _ | .health _ | .unlink _ => Except Failure Unit
  | .fence _ => Fence
  | .spawn _ => Except Failure Work
  | .manifest => Except Failure Offer
  | .validate => Except Failure Release
  | .drainPolls | .healthPolls => ℕ
  | .readiness _ => Except Failure Bool
  | .prune => Except Failure String

/-- A part of the agent, with the `state` of the operation. -/
abbrev AgentM (α : Type) := Script Call Call.Reply Status Failure α

abbrev ask (call : Call) : AgentM call.Reply := Script.ask call

end Vertep.Update
