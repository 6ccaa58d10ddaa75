import Vertep.Core.Models
import Vertep.Lib.Command

/-!
# Stages, scenes and their attempts

Embedding of `core/orchestration.py`, with the attempts that the Jobs of the API leave out. A Job has here
what these functions read and write of stages and scenes; a script is given by the number of its scenes,
and the time of a call by the text `utc_now` makes. The task pointers that `recover_after_restart` clears
belong to the Jobs of the API.
-/

namespace Vertep.Orchestration
open Lib Command
open Core (StageName StageStatus)

abbrev Instant := String

/-- `AttemptRecord`; its status is the name of a stage status. -/
structure AttemptRecord where
  attempt : ℕ
  status : StageStatus
  startedAt : Instant
  completedAt : Option Instant := none
  nodeName : Option String := none
  error : Option String := none
deriving DecidableEq

structure StageRecord where
  name : StageName
  status : StageStatus := .pending
  attempts : List AttemptRecord := []
  startedAt : Option Instant := none
  completedAt : Option Instant := none
deriving DecidableEq

structure SceneRecord where
  sceneId : String
  index : ℕ
  status : StageStatus := .pending
  taskId : Option String := none
  assignedWorker : Option String := none
  artifactIds : List String := []
  attempts : List AttemptRecord := []
deriving DecidableEq

structure Job where
  script : Option ℕ := none
  stages : Dict StageName StageRecord := ∅
  scenes : List SceneRecord := []
  version : ℕ := 1
deriving DecidableEq

inductive Failure where
  | valueError (message : String)
  | keyError (key : String)
deriving DecidableEq

abbrev JobM (α : Type) := Command Job Failure α

/-- `name.value`. -/
def nameValue : StageName → String
  | .script => "SCRIPT"
  | .assets => "ASSETS"
  | .tts => "TTS"
  | .assembly => "ASSEMBLY"
  | .publish => "PUBLISH"

/-- `status.value`. -/
def statusValue : StageStatus → String
  | .pending => "PENDING"
  | .running => "RUNNING"
  | .ready => "READY"
  | .failed => "FAILED"
  | .paused => "PAUSED"
  | .cancelled => "CANCELLED"

def stageOrder : List StageName := [.script, .assets, .tts, .assembly, .publish]

/-- `f"scene-{index:03d}"`. -/
def sceneName (index : ℕ) : String :=
  let digits := toString index
  "scene-" ++ String.ofList (List.replicate (3 - digits.length) '0') ++ digits

/-- The stages of a new plan. -/
def newStages (script : Option ℕ) : Dict StageName StageRecord :=
  let stages := stageOrder.foldl (fun stages name => stages.set name { name := name }) ∅
  if script.isSome then stages.set .script { name := .script, status := .ready } else stages

/-- `initialize_plan`; a script without scenes has the one of its topic. -/
def Job.initializePlan (job : Job) : Job :=
  { job with
    stages := if job.stages.entries = [] then newStages job.script else job.stages
    scenes := match job.script with
      | some scenes =>
        if job.scenes = [] then
          (List.range' 1 (max scenes 1)).map fun index => { sceneId := sceneName index, index := index }
        else job.scenes
      | none => job.scenes }

/-- A change of `attempts[-1]`, if there is one. -/
def updateLast {α : Type} (f : α → α) : List α → List α
  | [] => []
  | [a] => [f a]
  | a :: b :: l => a :: updateLast f (b :: l)

/-- A new attempt: `attempts.append(AttemptRecord(...))`. -/
def openAttempt (attempts : List AttemptRecord) (now : Instant) (node : Option String) : List AttemptRecord :=
  attempts ++ [{ attempt := attempts.length + 1, status := .running, startedAt := now, nodeName := node }]

/-- The end of an attempt. -/
def AttemptRecord.close (a : AttemptRecord) (status : StageStatus) (error : Option String) (now : Instant) :
    AttemptRecord :=
  { a with status := status, completedAt := some now, error := error }

/-! ## Stages -/

/-- What `transition_stage` writes into a stage that may take the status. -/
def StageRecord.enter (stage : StageRecord) (status : StageStatus) (error : Option String) (now : Instant) :
    StageRecord :=
  match status with
  | .running =>
    { stage with
      status := .running
      startedAt := some now
      completedAt := none
      attempts := openAttempt stage.attempts now none }
  | .ready | .failed | .cancelled =>
    { stage with
      status := status
      completedAt := some now
      attempts := updateLast (·.close status error now) stage.attempts }
  | .pending | .paused => { stage with status := status }

def transitionStage (name : StageName) (status : StageStatus) (error : Option String) (now : Instant) :
    JobM StageRecord := do
  write Job.initializePlan
  let job ← read
  match job.stages.get? name with
  | none => raise (.keyError (nameValue name))
  | some stage =>
    if status = stage.status then pure stage
    else if status ∉ stage.status.next then
      raise (.valueError
        s!"Invalid {nameValue name} transition: {statusValue stage.status} -> {statusValue status}")
    else do
      write fun job =>
        { job with stages := job.stages.set name (stage.enter status error now), version := job.version + 1 }
      pure (stage.enter status error now)

/-! ## Scenes -/

/-- `start_scene`. -/
def SceneRecord.start (scene : SceneRecord) (taskId : String) (node : Option String) (now : Instant) :
    SceneRecord :=
  { scene with
    status := .running
    taskId := some taskId
    assignedWorker := node
    attempts := openAttempt scene.attempts now node }

/-- `finish_scene`; the error of the attempt stays. -/
def SceneRecord.finish (scene : SceneRecord) (artifactIds : List String) (now : Instant) : SceneRecord :=
  { scene with
    status := .ready
    artifactIds := artifactIds.foldl (fun ids id => if id ∈ ids then ids else ids ++ [id]) scene.artifactIds
    attempts := updateLast (fun a => a.close .ready a.error now) scene.attempts }

/-- `fail_scene`. -/
def SceneRecord.fail (scene : SceneRecord) (error : String) (now : Instant) : SceneRecord :=
  { scene with
    status := .failed
    attempts := updateLast (·.close .failed (some error) now) scene.attempts }

/-- `interrupt_scene`. -/
def SceneRecord.interrupt (scene : SceneRecord) (error : String) (now : Instant) : SceneRecord :=
  { scene.fail error now with status := .pending, assignedWorker := none }

/-- `if attempts and attempts[-1].status == "RUNNING"`: the attempt ends. -/
def closeRunning (attempts : List AttemptRecord) (status : StageStatus) (error : String) (now : Instant) :
    List AttemptRecord :=
  updateLast (fun a => if a.status = .running then a.close status (some error) now else a) attempts

/-- `cancel_scene`. -/
def SceneRecord.cancel (scene : SceneRecord) (reason : String) (now : Instant) : SceneRecord :=
  { scene with
    status := .cancelled
    assignedWorker := none
    attempts := closeRunning scene.attempts .cancelled reason now }

/-! ## A new process -/

/-- What `recover_after_restart` does to a scene. -/
def SceneRecord.recover (scene : SceneRecord) (now : Instant) : SceneRecord :=
  let scene := { scene with taskId := none, assignedWorker := none }
  if scene.status = .running then
    { scene with
      status := .pending
      attempts := closeRunning scene.attempts .failed "CORE restarted while task was running" now }
  else scene

/-- What it does to a stage. -/
def StageRecord.recover (stage : StageRecord) (now : Instant) : StageRecord :=
  if stage.status = .running then
    { stage with
      status := .failed
      completedAt := some now
      attempts := closeRunning stage.attempts .failed "CORE restarted while stage was running" now }
  else stage

def Job.recoverAfterRestart (job : Job) (now : Instant) : Job :=
  { job with
    scenes := job.scenes.map (·.recover now)
    stages := job.stages.map fun _ stage => stage.recover now
    version := job.version + 1 }

end Vertep.Orchestration
